import TrapLayer.Proofs.Hardware
import TrapLayer.Proofs.Signal.Codec
import TrapLayer.Proofs.Signal.Layout
import TrapLayer.Proofs.Word

/-!
# Record chains in memory

`ChainAt` says which records a walk along the headers meets. Writing a block below a chain puts its
record in front; reading follows the same definition upward. Between the two, only the bytes of the
chain matter.

* `chainAt_write`: one more block, one more record in front.
* `chainAt_plan`: a written layout is a chain of its records, the last one lowest.
* `agreeOn_writeBlocks`: writing a layout changes no byte outside of it.
* `readRecords_of_stands`: one round of the reader takes one record that stands in its way.
* `readChain_of_chainAt`: a chain that can be read is read back, and reading only looks.
-/
namespace TrapLayer

namespace RecordKind

/-- One chain may not hold both kinds: they are the same, or both are banks. -/
def Clashes (j k : RecordKind) : Prop := j = k ∨ j.isBank = true ∧ k.isBank = true

theorem Clashes.symm {j k : RecordKind} (h : Clashes j k) : Clashes k j := by
  rcases h with rfl | ⟨hj, hk⟩
  · exact .inl rfl
  · exact .inr ⟨hk, hj⟩

/-- No two of the kinds clash. -/
def Compatible (kinds : List RecordKind) : Prop := kinds.Pairwise fun j k => ¬ j.Clashes k

theorem Compatible.reverse {kinds : List RecordKind} (h : Compatible kinds) :
    Compatible kinds.reverse :=
  List.pairwise_reverse.2 (h.imp fun hn hc => hn hc.symm)

/-- Kinds go together when they are one bank at most, and binary translation at most once. -/
theorem compatible_iff (kinds : List RecordKind) :
    Compatible kinds ↔ kinds.countP isBank ≤ 1 ∧ kinds.count .lbt ≤ 1 := by
  induction kinds with
  | nil => simp [Compatible]
  | cons k ks ih =>
    have hcons : Compatible (k :: ks) ↔ (∀ j ∈ ks, ¬ k.Clashes j) ∧ Compatible ks :=
      List.pairwise_cons
    rw [hcons, ih]
    cases k with
    | bank b =>
      -- a bank clashes with every bank, and with nothing else
      have hclash : (∀ j ∈ ks, ¬ (bank b).Clashes j) ↔ ks.countP isBank = 0 := by
        rw [List.countP_eq_zero]
        refine forall₂_congr fun j _ => not_congr ⟨?_, fun h => .inr ⟨rfl, h⟩⟩
        rintro (rfl | ⟨-, h⟩)
        · rfl
        · exact h
      have hp : isBank (bank b) = true := rfl
      rw [hclash, List.countP_cons_of_pos hp, List.count_cons_of_ne (by simp)]
      omega
    | lbt =>
      have hclash : (∀ j ∈ ks, ¬ lbt.Clashes j) ↔ ks.count lbt = 0 := by
        rw [List.count_eq_zero]
        constructor
        · exact fun h hm => h lbt hm (.inl rfl)
        · rintro h j hj (rfl | ⟨hb, -⟩)
          · exact h hj
          · cases hb
      have hp : ¬ isBank lbt = true := by decide
      rw [hclash, List.countP_cons_of_neg hp, List.count_cons_self]
      omega

theorem Compatible.length_le {kinds : List RecordKind} (h : Compatible kinds) :
    kinds.length ≤ 2 := by
  obtain ⟨hbank, hlbt⟩ := (compatible_iff kinds).1 h
  have hcount : kinds.length = kinds.countP isBank + kinds.count lbt := by
    rw [List.length_eq_countP_add_countP isBank]
    refine congrArg _ (List.countP_congr fun k _ => ?_)
    cases k <;> simp [isBank, bank?]
  omega

theorem ofMagic?_magic (k : RecordKind) : ofMagic? k.magic = some k := by
  cases k with
  | bank b => cases b <;> rfl
  | lbt => rfl

/-- What a delivery saves is a bank at most, and binary translation. -/
theorem compatible_recordKinds (features : Features) (euen : UInt64) (fpu : FpState) :
    Compatible (recordKinds features euen fpu) := by
  have hpair : ∀ (o : Option FpBank) (l : Bool),
      Compatible ((o.map bank).toList ++ if l = true then [lbt] else []) := by
    intro o l
    cases o with
    | none => cases l <;> simp [Compatible]
    | some b => cases l <;> simp [Compatible, Clashes, isBank, bank?]
  unfold recordKinds
  split
  · exact hpair _ _
  · exact hpair none _

end RecordKind

theorem length_recordKinds_le (features : Features) (euen : UInt64) (fpu : FpState) :
    (recordKinds features euen fpu).length ≤ 2 :=
  (RecordKind.compatible_recordKinds features euen fpu).length_le

theorem Record.find?_kind {rs : List Record} (h : RecordKind.Compatible (rs.map Record.kind))
    {r : Record} (hr : r ∈ rs) : rs.find? (·.kind == r.kind) = some r := by
  induction rs with
  | nil => cases hr
  | cons s rs ih =>
    rw [List.map_cons] at h
    obtain ⟨hs, hrest⟩ := List.pairwise_cons.1 h
    rcases List.mem_cons.1 hr with rfl | hr
    · simp
    · have hne : s.kind ≠ r.kind := fun he => hs r.kind (List.mem_map_of_mem hr) (.inl he)
      rw [List.find?_cons_of_neg (by simpa using hne)]
      exact ih hrest hr

/-! ## Chains -/

/-- A walk along the headers from `a` meets these records, and behind them a terminator that ends
at `top`. -/
def ChainAt (m : Memory) (top : Nat) : UInt64 → List Record → Prop
  | a, [] => a.toNat + Record.headerSize = top ∧
      RecordHeader.ofBytes (m.read a Record.headerSize) = ⟨0, 0⟩
  | a, r :: rs => ∃ size : UInt32,
      Record.headerSize + r.kind.payloadSize ≤ size.toNat ∧ a.toNat + size.toNat ≤ top ∧
      RecordHeader.ofBytes (m.read a Record.headerSize) = ⟨r.kind.magic, size⟩ ∧
      Record.decode r.kind (m.read (a + UInt64.ofNat Record.headerSize) r.kind.payloadSize) = r ∧
      ChainAt m top (a + size.toUInt64) rs

theorem ChainAt.le {m : Memory} {top : Nat} {a : UInt64} {rs : List Record}
    (h : ChainAt m top a rs) : a.toNat + Record.headerSize ≤ top := by
  cases rs with
  | nil => exact Nat.le_of_eq h.1
  | cons r rs =>
    obtain ⟨size, h1, h2, -⟩ := h
    omega

theorem ChainAt.congr {m m' : Memory} {top : Nat} (ht : top < 2 ^ 64) :
    ∀ {rs : List Record} {a : UInt64}, Memory.AgreeOn m m' a.toNat top → ChainAt m top a rs →
      ChainAt m' top a rs
  | [], a, hm, h => by
    obtain ⟨h1, h2⟩ := h
    refine ⟨h1, ?_⟩
    rw [← hm.read (Nat.le_refl _) (by omega) (by omega)]
    exact h2
  | r :: rs, a, hm, h => by
    obtain ⟨size, h1, h2, h3, h4, h5⟩ := h
    have hp := toNat_add_ofNat (a := a) (i := Record.headerSize) (by omega)
    have hn := toNat_add_toUInt64 (a := a) (s := size) (by omega)
    refine ⟨size, h1, h2, ?_, ?_, ?_⟩
    · rw [← hm.read (Nat.le_refl _) (by omega) (by omega)]
      exact h3
    · rw [← hm.read (by omega) (by omega) (by omega)]
      exact h4
    · exact ChainAt.congr ht (hm.mono (by omega) (Nat.le_refl _)) h5

/-! ## Writing -/

/-- Memory after the blocks are written in order. -/
def Memory.writeBlocks (contexts : List Record) (m : Memory) (blocks : List Placement) : Memory :=
  blocks.foldl (fun m b => m.write b.addr (ChainLayout.blockBytes contexts b)) m

/-- The bytes of a header. -/
def RecordHeader.toBytes (h : RecordHeader) : Bytes :=
  le32 h.magic ++ le32 h.size ++ List.replicate 8 0

theorem RecordHeader.length_toBytes (h : RecordHeader) : h.toBytes.length = Record.headerSize := by
  simp [toBytes, Record.headerSize]

theorem RecordHeader.ofBytes_toBytes (h : RecordHeader) : ofBytes h.toBytes = h := by
  unfold ofBytes toBytes
  rw [List.append_assoc, word32_head, word32_skip (length_le32 _) _ (Nat.le_refl 4), word32_head]

namespace ChainLayout

theorem blockBytes_of_find {contexts : List Record} {b : Placement} {r : Record}
    (hk : b.kind = some r.kind) (h : contexts.find? (·.kind == r.kind) = some r) :
    blockBytes contexts b = (RecordHeader.mk r.kind.magic b.size.toUInt32).toBytes ++ r.encode := by
  simp [blockBytes, hk, h, RecordHeader.toBytes]

theorem length_blockBytes_le (contexts : List Record) {b : Placement} {k : RecordKind}
    (hk : b.kind = some k) :
    (blockBytes contexts b).length ≤ Record.headerSize + k.payloadSize := by
  have h : (((contexts.find? (·.kind == k)).map Record.encode).getD []).length ≤
      k.payloadSize := by
    cases hf : contexts.find? (·.kind == k) with
    | none => exact Nat.zero_le _
    | some r =>
      have hr : r.kind = k := by simpa using List.find?_some hf
      rw [← hr]
      exact r.length_encode_le
  simp only [blockBytes, hk, List.length_append, length_le32, List.length_replicate,
    Record.headerSize]
  omega

theorem agreeOn_placeAll (contexts : List Record) (lo hi : Nat) :
    ∀ (kinds : List RecordKind) (base : UInt64) (m : Memory), FitsBelow base kinds →
      hi ≤ (lowest base kinds).toNat ∨ base.toNat ≤ lo →
      Memory.AgreeOn (m.writeBlocks contexts (placeAll base kinds)) m lo hi
  | [], _, m, _, _ => Memory.AgreeOn.refl m lo hi
  | k :: ks, base, m, hf, h => by
    have hs := (place_spec hf.1).1
    have hl := lowest_le hf.2
    have hlen := length_blockBytes_le contexts (b := place base k) rfl
    have hb := base.toNat_lt
    rw [lowest_cons] at h
    have hrest := agreeOn_placeAll contexts lo hi ks (place base k).addr
      (m.write (place base k).addr (blockBytes contexts (place base k))) hf.2
      (by omega)
    exact hrest.trans (Memory.agreeOn_write m _ _ _ _ (by omega) (by omega))

/-- A block written right below a chain puts its record in front. -/
theorem chainAt_write {contexts : List Record} {m : Memory} {top : Nat} {base : UInt64}
    {done : List Record} {r : Record} (hf : Fits base r.kind) (hr : r.Padded)
    (hc : contexts.find? (·.kind == r.kind) = some r) (ht : top < 2 ^ 64)
    (h : ChainAt m top base done) :
    ChainAt (m.write (place base r.kind).addr (blockBytes contexts (place base r.kind))) top
      (place base r.kind).addr (r :: done) := by
  obtain ⟨h1, h2, -, h4⟩ := place_spec hf
  have hb := base.toNat_lt
  have htop := h.le
  have hpay := r.kind.payloadSize_le
  have hal : r.kind.blockAlign ≤ 32 := r.kind.blockAlign_le
  have hsz : (place base r.kind).size.toUInt32.toNat = (place base r.kind).size.toNat := by
    rw [UInt64.toNat_toUInt32, Nat.mod_eq_of_lt]
    simp only [Record.headerSize] at *; omega
  have hnext : (place base r.kind).addr + (place base r.kind).size.toUInt32.toUInt64 = base := by
    apply UInt64.toNat_inj.mp
    rw [toNat_add_toUInt64 (by omega), hsz, h4]
  have hlen := length_blockBytes_le contexts (b := place base r.kind) rfl
  have henc := r.length_encode_le
  have hbytes := blockBytes_of_find (b := place base r.kind) rfl hc
  have hhead := RecordHeader.length_toBytes ⟨r.kind.magic, (place base r.kind).size.toUInt32⟩
  have hread := Memory.read_write_append m (place base r.kind).addr
    (x := (RecordHeader.mk r.kind.magic (place base r.kind).size.toUInt32).toBytes)
    (y := r.encode) (by rw [hhead]; simp only [Record.headerSize] at *; omega)
  rw [hhead, ← hbytes] at hread
  refine ⟨(place base r.kind).size.toUInt32, by omega, by omega, ?_, ?_, ?_⟩
  · rw [hread.1]
    exact RecordHeader.ofBytes_toBytes _
  · have hsplit : r.kind.payloadSize =
        r.encode.length + (r.kind.payloadSize - r.encode.length) := by omega
    rw [hsplit, Memory.read_add, hread.2]
    exact Record.decode_encode hr _
  · rw [hnext]
    exact h.congr ht (Memory.agreeOn_write m _ _ _ _ (by omega) (by omega)).symm

/-- The blocks of records written downward from a chain. -/
theorem chainAt_placeAll {contexts : List Record} {top : Nat} (ht : top < 2 ^ 64) :
    ∀ (rs : List Record) (m : Memory) (base : UInt64) (done : List Record),
      FitsBelow base (rs.map Record.kind) →
      (∀ r ∈ rs, r.Padded ∧ contexts.find? (·.kind == r.kind) = some r) →
      ChainAt m top base done →
      ChainAt (m.writeBlocks contexts (placeAll base (rs.map Record.kind))) top
        (lowest base (rs.map Record.kind)) (rs.reverse ++ done)
  | [], _, _, _, _, _, h => h
  | r :: rs, m, base, done, hf, hc, h => by
    obtain ⟨hpad, hfind⟩ := hc r List.mem_cons_self
    have hnext := chainAt_write hf.1 hpad hfind ht h
    have := chainAt_placeAll ht rs _ (place base r.kind).addr (r :: done) hf.2
      (fun s hs => hc s (List.mem_cons_of_mem r hs)) hnext
    rw [List.reverse_cons, List.append_assoc]
    exact this

/-- Nothing that places these blocks below `top` borrows. -/
structure Sound (top : UInt64) (kinds : List RecordKind) : Prop where
  terminator : Record.headerSize ≤ top.toNat
  records : FitsBelow (top - UInt64.ofNat Record.headerSize) kinds

/-- Each block holds its bytes and lies between the lowest block and the block above. -/
theorem placeAll_inside (contexts : List Record) : ∀ {kinds : List RecordKind} {base : UInt64},
    FitsBelow base kinds → ∀ b ∈ placeAll base kinds,
      (lowest base kinds).toNat ≤ b.addr.toNat ∧
        b.addr.toNat + (blockBytes contexts b).length ≤ base.toNat
  | [], _, _, _, hb => by cases hb
  | k :: ks, base, hf, b, hb => by
    have hs := (place_spec hf.1).1
    have hl := lowest_le hf.2
    rw [lowest_cons]
    rcases List.mem_cons.1 hb with rfl | hb
    · have := length_blockBytes_le contexts (b := place base k) rfl
      omega
    · have := placeAll_inside contexts hf.2 b hb
      omega

theorem blocks_inside (contexts : List Record) {top : UInt64} {kinds : List RecordKind}
    (hs : Sound top kinds) : ∀ b ∈ (plan top kinds).blocks,
      (plan top kinds).low.toNat ≤ b.addr.toNat ∧
        b.addr.toNat + (blockBytes contexts b).length ≤ top.toNat := by
  intro b hb
  have hbase := toNat_sub_ofNat hs.terminator
  have hterm := hs.terminator
  have hlow := lowest_le hs.records
  rw [low_eq_lowest]
  rcases List.mem_cons.1 hb with rfl | hb
  · have hlen : (blockBytes contexts (plan top kinds).terminator).length = Record.headerSize := rfl
    have haddr : (plan top kinds).terminator.addr = top - UInt64.ofNat Record.headerSize := rfl
    rw [hlen, haddr]
    omega
  · have := placeAll_inside contexts hs.records b hb
    omega

theorem agreeOn_writeBlocks (contexts : List Record) (m : Memory) {top : UInt64}
    {kinds : List RecordKind} (hs : Sound top kinds) (lo hi : Nat)
    (h : hi ≤ (plan top kinds).low.toNat ∨ top.toNat ≤ lo) :
    Memory.AgreeOn (m.writeBlocks contexts (plan top kinds).blocks) m lo hi := by
  have hbase := toNat_sub_ofNat hs.terminator
  have hlow := lowest_le hs.records
  have htop := top.toNat_lt
  have hterm := hs.terminator
  rw [low_eq_lowest] at h
  have hlen : (blockBytes contexts (plan top kinds).terminator).length = Record.headerSize := rfl
  have hrest := agreeOn_placeAll contexts lo hi kinds (top - UInt64.ofNat Record.headerSize)
    (m.write (top - UInt64.ofNat Record.headerSize)
      (blockBytes contexts (plan top kinds).terminator)) hs.records (by omega)
  exact hrest.trans (Memory.agreeOn_write m _ _ _ _ (by omega) (by omega))

/-- What is written for a layout is a chain of the captured records, the last one lowest. -/
theorem chainAt_plan (m : Memory) {top : UInt64} {rs : List Record}
    (hs : Sound top (rs.map Record.kind)) (hk : RecordKind.Compatible (rs.map Record.kind))
    (hp : ∀ r ∈ rs, r.Padded) :
    ChainAt (m.writeBlocks rs (plan top (rs.map Record.kind)).blocks) top.toNat
      (plan top (rs.map Record.kind)).low rs.reverse := by
  have hbase := toNat_sub_ofNat hs.terminator
  have hterm := hs.terminator
  have htop := top.toNat_lt
  have hend : ChainAt (m.write (top - UInt64.ofNat Record.headerSize)
      (RecordHeader.mk 0 0).toBytes) top.toNat (top - UInt64.ofNat Record.headerSize) [] := by
    refine ⟨by omega, ?_⟩
    have hlen := RecordHeader.length_toBytes ⟨0, 0⟩
    have hr := Memory.read_write_self m (top - UInt64.ofNat Record.headerSize)
      (RecordHeader.mk 0 0).toBytes (by rw [hlen]; decide)
    rw [hlen] at hr
    rw [hr]
    exact RecordHeader.ofBytes_toBytes _
  have hfind : ∀ r ∈ rs, r.Padded ∧ rs.find? (·.kind == r.kind) = some r :=
    fun r hr => ⟨hp r hr, Record.find?_kind hk hr⟩
  have h := chainAt_placeAll htop rs _ _ [] hs.records hfind hend
  rw [List.append_nil] at h
  rw [low_eq_lowest]
  exact h

end ChainLayout

/-! ## Reading -/

namespace RecordHeader

/-- Behind records of some kinds, the header announces one of kind `k`: a size that covers the
payload, and a kind that goes along with those seen. -/
structure Announces (h : RecordHeader) (kinds : List RecordKind) (k : RecordKind) : Prop where
  magic : h.magic = k.magic
  covers : Record.headerSize + k.payloadSize ≤ h.size.toNat
  fresh : ∀ j ∈ kinds, ¬ j.Clashes k

theorem any_clashes_iff (seen : List Record) (k : RecordKind) :
    (seen.any fun r => r.kind == k || (r.kind.isBank && k.isBank)) = true ↔
      ∃ j ∈ seen.map Record.kind, j.Clashes k := by
  rw [List.any_eq_true]
  constructor
  · rintro ⟨r, hr, h⟩
    exact ⟨r.kind, List.mem_map_of_mem hr, by simpa [RecordKind.Clashes] using h⟩
  · rintro ⟨j, hj, h⟩
    obtain ⟨r, hr, rfl⟩ := List.mem_map.1 hj
    exact ⟨r, hr, by simpa [RecordKind.Clashes] using h⟩

theorem announce_of_announces {h : RecordHeader} {seen : List Record} {k : RecordKind}
    (ha : h.Announces (seen.map Record.kind) k) (position : Nat) :
    h.announce seen position = .ok (some k) := by
  have hdup : ¬ (seen.any fun r => r.kind == k || (r.kind.isBank && k.isBank)) = true := by
    rw [any_clashes_iff]
    rintro ⟨j, hj, hc⟩
    exact ha.fresh j hj hc
  unfold announce
  simp only [ha.magic, k.magic_ne_zero, if_false, RecordKind.ofMagic?_magic,
    Nat.not_lt.2 ha.covers, Bool.eq_false_iff.2 hdup, Bool.false_eq_true]

theorem announce_terminator (seen : List Record) (position : Nat) :
    (RecordHeader.mk 0 0).announce seen position = .ok none := rfl

end RecordHeader

/-- The header that a memory holds at an address. -/
def Memory.headerAt (m : Memory) (a : UInt64) : RecordHeader :=
  .ofBytes (m.read a Record.headerSize)

/-- A record where its header stands. -/
structure RecordAt where
  addr : UInt64
  kind : RecordKind
  size : UInt32

namespace RecordAt

/-- Address of the payload. -/
def payload (r : RecordAt) : UInt64 := r.addr + UInt64.ofNat Record.headerSize

/-- Where the size leads. -/
def next (r : RecordAt) : UInt64 := r.addr + r.size.toUInt64

/-- The record that a memory holds there. -/
def record (m : Memory) (r : RecordAt) : Record :=
  .decode r.kind (m.read r.payload r.kind.payloadSize)

/-- The ranges that are read for it. -/
def ranges (r : RecordAt) : List (UInt64 × Nat) :=
  [(r.addr, Record.headerSize), (r.payload, r.kind.payloadSize)]

@[simp] theorem kind_record (m : Memory) (r : RecordAt) : (r.record m).kind = r.kind :=
  Record.kind_decode _ _

end RecordAt

namespace Hardware

/-- A range is granted for reading. -/
def Granted (hw : Hardware) (a : UInt64) (n : Nat) : Prop := (hw.checkUser a n .read).1 = true

instance (hw : Hardware) (a : UInt64) (n : Nat) : Decidable (hw.Granted a n) :=
  inferInstanceAs (Decidable (_ = true))

theorem granted_congr {hw hw' : Hardware} (h : SameMap hw hw') (a : UInt64) (n : Nat) :
    hw'.Granted a n ↔ hw.Granted a n := by
  unfold Granted
  rw [checkUser_congr h]

theorem Granted.le {hw : Hardware} {a : UInt64} {n : Nat} (h : hw.Granted a n) :
    a.toNat + n ≤ 2 ^ 48 :=
  Nat.le_trans ((Geometry.granted_checkUser_iff ..).1 h).2.2.2.1 hw.geometry.userEnd_le

/-- `r` follows records of some kinds: both of its parts can be read, and the header announces
it. -/
structure Stands (hw : Hardware) (kinds : List RecordKind) (r : RecordAt) : Prop where
  header : hw.Granted r.addr Record.headerSize
  announces : (hw.memory.headerAt r.addr).Announces kinds r.kind
  size : (hw.memory.headerAt r.addr).size = r.size
  payload : hw.Granted r.payload r.kind.payloadSize

namespace Stands

variable {hw hw' : Hardware} {kinds : List RecordKind} {r : RecordAt}

theorem congr (h : hw.Stands kinds r) (hm : SameMap hw hw') (he : hw'.memory = hw.memory) :
    hw'.Stands kinds r :=
  ⟨(granted_congr hm _ _).2 h.header, he ▸ h.announces, he ▸ h.size,
    (granted_congr hm _ _).2 h.payload⟩

/-- No size leads out of the address space: what can be read lies in the lower half. -/
theorem toNat_next (h : hw.Stands kinds r) : r.next.toNat = r.addr.toNat + r.size.toNat := by
  have hle := h.header.le
  have hsize := r.size.toNat_lt
  exact toNat_add_toUInt64 (by omega)

theorem lt_next (h : hw.Stands kinds r) : r.addr.toNat < r.next.toNat := by
  have hcovers := h.announces.covers
  rw [h.size] at hcovers
  rw [h.toNat_next]
  unfold Record.headerSize at hcovers
  omega

end Stands

/-- The hardware after ranges were fetched one after the other. -/
def looked (hw : Hardware) (ranges : List (UInt64 × Nat)) : Hardware :=
  ranges.foldl (fun hw r => (hw.fetch r.1 r.2).2) hw

theorem onlyReads_looked : ∀ (ranges : List (UInt64 × Nat)) (hw : Hardware),
    OnlyReads hw (hw.looked ranges)
  | [], hw => .refl hw
  | r :: rs, hw => (onlyReads_fetch hw r.1 r.2).trans (onlyReads_looked rs _)

theorem looked_append (hw : Hardware) (rs ss : List (UInt64 × Nat)) :
    hw.looked (rs ++ ss) = (hw.looked rs).looked ss := List.foldl_append

theorem readRecords_of_stands {hw : Hardware} {seen : List Record} {r : RecordAt}
    (h : hw.Stands (seen.map Record.kind) r) (position n : Nat) :
    hw.readRecords seen r.addr position (n + 1) =
      (hw.looked r.ranges).readRecords (seen ++ [r.record hw.memory]) r.next (position + 1) n := by
  have hread := onlyReads_fetch hw r.addr Record.headerSize
  have hhead := fetch_of_granted h.header
  have hload := fetch_of_granted ((granted_congr hread.sameMap _ _).2 h.payload)
  rw [hread.memory] at hload
  have hann := RecordHeader.announce_of_announces h.announces position
  have hsize := h.size
  have hfit : ¬ 2 ^ 64 ≤ r.addr.toNat + r.size.toNat := by
    rw [← h.toNat_next, Nat.not_le]
    exact r.next.toNat_lt
  unfold Memory.headerAt at hann hsize
  unfold RecordAt.payload at hload
  rw [readRecords]
  simp only [hhead, hann, hload, hsize, if_neg hfit]
  rfl

/-- The records of a chain that can be read, behind those already seen. -/
theorem readRecords_of_chainAt {top : Nat} (ht : top < 2 ^ 64) :
    ∀ (rs : List Record) (hw : Hardware) (seen : List Record) (a : UInt64) (position n : Nat),
      ChainAt hw.memory top a rs → hw.Readable a.toNat top → rs.length < n →
      RecordKind.Compatible ((seen ++ rs).map Record.kind) →
      (hw.readRecords seen a position n).1 = .ok (seen ++ rs) := by
  intro rs
  induction rs with
  | nil =>
    intro hw seen a position n h hr hn _
    obtain ⟨m, rfl⟩ : ∃ m, n = m + 1 := ⟨n - 1, by simp only [List.length_nil] at hn; omega⟩
    obtain ⟨h1, h2⟩ := h
    have hf := fetch_of_granted (hr a Record.headerSize (Nat.le_refl _) (by decide) (by omega))
    rw [readRecords]
    simp only [hf, h2, RecordHeader.announce_terminator, List.append_nil]
  | cons r rs ih =>
    intro hw seen a position n h hr hn hc
    obtain ⟨m, rfl⟩ : ∃ m, n = m + 1 := ⟨n - 1, by omega⟩
    obtain ⟨size, h1, h2, h3, h4, h5⟩ := h
    have hpay := toNat_add_ofNat (a := a) (i := Record.headerSize) (by omega)
    have hnext := toNat_add_toUInt64 (a := a) (s := size) (by omega)
    have hhead : hw.memory.headerAt a = ⟨r.kind.magic, size⟩ := h3
    have hfresh : ∀ j ∈ seen.map Record.kind, ¬ j.Clashes r.kind := by
      intro j hj
      rw [List.map_append] at hc
      exact (List.pairwise_append.1 hc).2.2 _ hj _ (List.mem_map_of_mem List.mem_cons_self)
    have hstands : hw.Stands (seen.map Record.kind) ⟨a, r.kind, size⟩ := by
      refine ⟨hr a Record.headerSize (Nat.le_refl _) (by decide) (by omega), ?_, ?_, ?_⟩
      · rw [hhead]; exact ⟨rfl, h1, hfresh⟩
      · rw [hhead]
      · refine hr (a + UInt64.ofNat Record.headerSize) r.kind.payloadSize ?_
          r.kind.payloadSize_pos ?_
        · omega
        · omega
    have hrecord : RecordAt.record hw.memory ⟨a, r.kind, size⟩ = r := h4
    have hlook := onlyReads_looked (RecordAt.ranges ⟨a, r.kind, size⟩) hw
    have hrest := ih _ (seen ++ [r]) (a + size.toUInt64) (position + 1) m
      (by rw [hlook.memory]; exact h5)
      ((hr.congr hlook.sameMap).mono (by omega) (Nat.le_refl _))
      (by simp only [List.length_cons] at hn; omega)
      (by rw [List.append_assoc]; exact hc)
    have hstep := readRecords_of_stands hstands position m
    rw [hrecord] at hstep
    rw [hstep, RecordAt.next, hrest, List.append_assoc]
    rfl

theorem onlyReads_readRecords (n : Nat) : ∀ (hw : Hardware) (seen : List Record) (a : UInt64)
    (position : Nat), OnlyReads hw (hw.readRecords seen a position n).2 := by
  induction n with
  | zero => intro hw seen a position; exact .refl hw
  | succ n ih =>
    intro hw seen a position
    have h1 := onlyReads_fetch hw a Record.headerSize
    rw [readRecords]
    dsimp only
    split
    · exact h1
    · split
      · exact h1
      · exact h1
      · rename_i k _
        have h2 := h1.trans (onlyReads_fetch (hw.fetch a Record.headerSize).2
          (a + UInt64.ofNat Record.headerSize) k.payloadSize)
        split
        · exact h2
        · split
          · exact h2
          · exact h2.trans (ih _ _ _ _)

theorem onlyReads_readChain (hw : Hardware) (start : UInt64) :
    OnlyReads hw (hw.readChain start).2 := onlyReads_readRecords _ hw [] start 0

theorem readChain_of_chainAt {hw : Hardware} {top : Nat} {a : UInt64} {rs : List Record}
    (ht : top < 2 ^ 64) (h : ChainAt hw.memory top a rs) (hr : hw.Readable a.toNat top)
    (hn : rs.length < chainLimit) (hc : RecordKind.Compatible (rs.map Record.kind)) :
    (hw.readChain a).1 = .ok rs :=
  readRecords_of_chainAt ht rs hw [] a 0 chainLimit h hr hn hc

end Hardware

end TrapLayer
