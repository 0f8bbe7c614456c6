import Mathlib.Data.List.Forall2
import TrapLayer.Proofs.Signal.RoundTrip

/-!
# What the chain reader accepts

A chain is attacker-written bytes that describe their own length. Its grammar is stated without the
reader: `Meets` follows the size fields from the start over records that can be read, whose headers
announce them and whose kinds go together; such a walk comes to a terminator, or to the first
violation. The reader answers exactly this, looks at no byte that it has not checked, and the limit
on the number of records is never what stops it: no more than two kinds go together, and what can be
read lies far below the end of the address space.

* `RecordAt.says_iff`: what a payload says, word by word, is what the decoder makes of it.
* `Meets.compatible`, `Meets.ascending`: the records of a walk, by kind and by address.
* `readRecords_of_meets`: along a walk the reader collects its records.
* `exists_end`: every walk comes to an end.
* `readChain_exact`: the reader accepts the grammar, reports the first violation, and reads no more
  than it has to.
-/
namespace TrapLayer

/-! ## The grammar -/

/-- Behind records of some kinds, a header that neither ends the chain nor announces a record, with
the first check that it fails. -/
inductive RecordHeader.Refused (h : RecordHeader) (kinds : List RecordKind) (position : Nat) :
    ChainError → Prop
  | terminator (magic : h.magic = 0) (size : h.size ≠ 0) :
      Refused h kinds position (.badSize position h.size)
  | magic (known : ∀ k : RecordKind, h.magic ≠ k.magic) (zero : h.magic ≠ 0) :
      Refused h kinds position (.badMagic position h.magic)
  | size {k : RecordKind} (magic : h.magic = k.magic)
      (short : h.size.toNat < Record.headerSize + k.payloadSize) :
      Refused h kinds position (.badSize position h.size)
  | duplicate {k : RecordKind} (magic : h.magic = k.magic)
      (covers : Record.headerSize + k.payloadSize ≤ h.size.toNat)
      (clash : ∃ j ∈ kinds, j.Clashes k) :
      Refused h kinds position (.duplicate position)

/-- What memory says where a record stands, word by word from its payload on. A bank has its lanes
register after register, zero where the bank does not reach, and behind them the condition flags and
the control register; binary translation has four scratch registers, the flags and the stack top. -/
inductive RecordAt.Says (m : Memory) (r : RecordAt) : Record → Prop
  | bank {b : FpBank} {regs : Vector Lanes 32} {fcc : UInt64} {fcsr : UInt32}
      (kind : r.kind = .bank b)
      (lanes : ∀ i (_ : i < 32) l (_ : l < 4), regs[i][l] =
        if l < b.lanes then
          word64 (m.read (r.addr + 16) r.kind.payloadSize) (8 * (i * b.lanes + l))
        else 0)
      (flags : fcc = word64 (m.read (r.addr + 16) r.kind.payloadSize) (8 * (32 * b.lanes)))
      (control : fcsr =
        word32 (m.read (r.addr + 16) r.kind.payloadSize) (8 * (32 * b.lanes) + 8)) :
      Says m r (.bank b regs fcc fcsr)
  | lbt {scr : Lanes} {eflags ftop : UInt32}
      (kind : r.kind = .lbt)
      (scratch : ∀ j (_ : j < 4), scr[j] =
        word64 (m.read (r.addr + 16) r.kind.payloadSize) (8 * j))
      (flags : eflags = word32 (m.read (r.addr + 16) r.kind.payloadSize) 32)
      (top : ftop = word32 (m.read (r.addr + 16) r.kind.payloadSize) 36) :
      Says m r (.lbt scr eflags ftop)

namespace Hardware

/-- From `start`, the sizes of the records `l` lead to `a`; each of them stands behind those before
it. -/
inductive Meets (hw : Hardware) (start : UInt64) : List RecordAt → UInt64 → Prop
  | start : Meets hw start [] start
  | next {l : List RecordAt} {r : RecordAt} (before : Meets hw start l r.addr)
      (stands : hw.Stands (l.map RecordAt.kind) r) : Meets hw start (l ++ [r]) r.next

/-- A terminator stands at `a`. -/
structure Closes (hw : Hardware) (a : UInt64) : Prop where
  granted : hw.Granted a Record.headerSize
  header : hw.memory.headerAt a = ⟨0, 0⟩

/-- At `a`, behind the records `l`, stands neither a record nor a terminator; the error has their
number and the first check that fails. -/
inductive Violates (hw : Hardware) (l : List RecordAt) (a : UInt64) : ChainError → Prop
  | header (denied : ¬ hw.Granted a Record.headerSize) : Violates hw l a (.fault l.length a)
  | refused {e : ChainError} (granted : hw.Granted a Record.headerSize)
      (refused : (hw.memory.headerAt a).Refused (l.map RecordAt.kind) l.length e) :
      Violates hw l a e
  | payload {k : RecordKind} (granted : hw.Granted a Record.headerSize)
      (announces : (hw.memory.headerAt a).Announces (l.map RecordAt.kind) k)
      (denied : ¬ hw.Granted (a + UInt64.ofNat Record.headerSize) k.payloadSize) :
      Violates hw l a (.fault l.length (a + UInt64.ofNat Record.headerSize))

/-- How a walk over the records `l` ends at `a`. -/
def Ends (hw : Hardware) (l : List RecordAt) (a : UInt64) :
    Except ChainError (List Record) → Prop
  | .ok rs => hw.Closes a ∧ List.Forall₂ (RecordAt.Says hw.memory) l rs
  | .error e => hw.Violates l a e

end Hardware

namespace RecordAt

/-- The words of a payload are what the decoder makes of it. -/
theorem says_iff {m : Memory} {r : RecordAt} {x : Record} : r.Says m x ↔ r.record m = x := by
  obtain ⟨addr, kind, size⟩ := r
  constructor
  · intro h
    cases h with
    | bank hkind lanes flags control =>
      subst hkind flags control
      simp only [record, Record.decode, Record.bank.injEq, true_and]
      refine ⟨?_, ?_, ?_⟩
      · apply Vector.ext; intro i hi
        apply Vector.ext; intro l hl
        simp only [Vector.getElem_ofFn, lanes i hi l hl, Nat.mul_comm 8]
        rfl
      · rw [Nat.mul_comm 8]; rfl
      · rw [Nat.mul_comm 8]; rfl
    | lbt hkind scratch flags top =>
      subst hkind flags top
      simp only [record, Record.decode, Record.lbt.injEq]
      refine ⟨?_, rfl, rfl⟩
      apply Vector.ext; intro j hj
      simp only [Vector.getElem_ofFn, scratch j hj, Nat.mul_comm 8]
      rfl
  · rintro rfl
    cases kind with
    | bank b =>
      refine .bank rfl (fun i hi l hl => ?_) ?_ ?_
      · simp only [Vector.getElem_ofFn, Nat.mul_comm 8]; rfl
      · rw [Nat.mul_comm 8]; rfl
      · rw [Nat.mul_comm 8]; rfl
    | lbt =>
      refine .lbt rfl (fun j hj => ?_) rfl rfl
      simp only [Vector.getElem_ofFn, Nat.mul_comm 8]; rfl

theorem forall₂_says_iff {m : Memory} {l : List RecordAt} {rs : List Record} :
    List.Forall₂ (Says m) l rs ↔ rs = l.map (record m) := by
  have hheld : Says m = fun r x => record m r = x := by
    funext r x
    exact propext says_iff
  rw [hheld, ← List.forall₂_map_left_iff, List.forall₂_eq_eq_eq, eq_comm]

end RecordAt

/-! ## Headers -/

theorem RecordKind.ofMagic?_eq_none {m : UInt32} (h : ∀ k : RecordKind, m ≠ k.magic) :
    ofMagic? m = none := by
  refine List.find?_eq_none.2 fun k _ => ?_
  rw [beq_iff_eq]
  exact fun he => h k he.symm

namespace RecordHeader

/-- A header ends the chain, announces a record, or is refused. -/
theorem header_cases (h : RecordHeader) (kinds : List RecordKind) (position : Nat) :
    h = ⟨0, 0⟩ ∨ (∃ k, h.Announces kinds k) ∨ ∃ e, h.Refused kinds position e := by
  obtain ⟨magic, size⟩ := h
  by_cases hz : magic = 0
  · by_cases hs : size = 0
    · exact .inl (by rw [hz, hs])
    · exact .inr (.inr ⟨_, .terminator hz hs⟩)
  · by_cases hk : ∃ k : RecordKind, magic = k.magic
    · obtain ⟨k, hk⟩ := hk
      by_cases hc : Record.headerSize + k.payloadSize ≤ size.toNat
      · by_cases hd : ∃ j ∈ kinds, j.Clashes k
        · exact .inr (.inr ⟨_, .duplicate hk hc hd⟩)
        · exact .inr (.inl ⟨k, hk, hc, fun j hj hcl => hd ⟨j, hj, hcl⟩⟩)
      · exact .inr (.inr ⟨_, .size hk (Nat.lt_of_not_le hc)⟩)
    · exact .inr (.inr ⟨_, .magic (fun k he => hk ⟨k, he⟩) hz⟩)

theorem announce_of_refused {h : RecordHeader} {seen : List Record} {position : Nat}
    {e : ChainError} (hr : h.Refused (seen.map Record.kind) position e) :
    h.announce seen position = .error e := by
  unfold announce
  cases hr with
  | terminator magic size => rw [if_pos magic, if_neg size]
  | magic known zero => rw [if_neg zero, RecordKind.ofMagic?_eq_none known]
  | size magic short =>
    simp only [magic, RecordKind.magic_ne_zero, if_false, RecordKind.ofMagic?_magic, if_pos short]
  | duplicate magic covers clash =>
    simp only [magic, RecordKind.magic_ne_zero, if_false, RecordKind.ofMagic?_magic,
      Nat.not_lt.2 covers, (any_clashes_iff _ _).2 clash, if_true]

end RecordHeader

namespace Hardware

variable {hw hw' : Hardware} {start a : UInt64} {l : List RecordAt}

/-! ## Walks -/

theorem map_kind_record (m : Memory) (l : List RecordAt) :
    (l.map (RecordAt.record m)).map Record.kind = l.map RecordAt.kind := by
  rw [List.map_map]
  exact List.map_congr_left fun r _ => r.kind_record m

theorem Meets.compatible (h : hw.Meets start l a) :
    RecordKind.Compatible (l.map RecordAt.kind) := by
  induction h with
  | start => exact List.Pairwise.nil
  | next before stands ih =>
    rw [List.map_append]
    refine List.pairwise_append.2 ⟨ih, List.pairwise_singleton _ _, fun j hj k hk => ?_⟩
    rw [List.map_singleton, List.mem_singleton] at hk
    rw [hk]
    exact stands.announces.fresh j hj

theorem Meets.length_le (h : hw.Meets start l a) : l.length ≤ 2 := by
  have := h.compatible.length_le
  rwa [List.length_map] at this

theorem Meets.ascending (h : hw.Meets start l a) :
    l.Pairwise (fun r s => r.addr < s.addr) ∧ ∀ r ∈ l, r.addr < a := by
  induction h with
  | start => exact ⟨List.Pairwise.nil, by simp⟩
  | next before stands ih =>
    obtain ⟨hpair, hbelow⟩ := ih
    have hlt := UInt64.lt_iff_toNat_lt.2 stands.lt_next
    refine ⟨List.pairwise_append.2 ⟨hpair, List.pairwise_singleton _ _, ?_⟩, ?_⟩
    · intro r hr s hs
      rw [List.mem_singleton.1 hs]
      exact hbelow r hr
    · intro r hr
      rcases List.mem_append.1 hr with hr | hr
      · exact UInt64.lt_trans (hbelow r hr) hlt
      · rwa [List.mem_singleton.1 hr]

theorem Meets.granted (h : hw.Meets start l a) :
    ∀ x ∈ l.flatMap RecordAt.ranges, hw.Granted x.1 x.2 := by
  induction h with
  | start => simp
  | next before stands ih =>
    intro x hx
    rw [List.flatMap_append, List.flatMap_singleton, List.mem_append] at hx
    rcases hx with hx | hx
    · exact ih x hx
    · simp only [RecordAt.ranges, List.mem_cons, List.not_mem_nil, or_false] at hx
      rcases hx with rfl | rfl
      · exact stands.header
      · exact stands.payload

theorem readRecords_of_meets (h : hw.Meets start l a) : ∀ n,
    hw.readRecords [] start 0 (l.length + n) =
      (hw.looked (l.flatMap RecordAt.ranges)).readRecords (l.map (RecordAt.record hw.memory)) a
        l.length n := by
  induction h with
  | start => intro n; rw [List.length_nil, Nat.zero_add]; rfl
  | @next l r before stands ih =>
    intro n
    have hlook := onlyReads_looked (l.flatMap RecordAt.ranges) hw
    have hkinds := map_kind_record hw.memory l
    have hstep := readRecords_of_stands (hkinds ▸ stands.congr hlook.sameMap hlook.memory)
      l.length n
    rw [hlook.memory] at hstep
    rw [List.length_append, List.length_singleton, Nat.add_assoc, Nat.add_comm 1, ih, hstep,
      List.flatMap_append, List.flatMap_singleton, looked_append, List.map_append,
      List.map_singleton]

/-! ## Ends -/

/-- Where a walk ends, no record stands to continue it; where none stands, it ends. -/
theorem Meets.ends_or_next (h : hw.Meets start l a) :
    (∃ result, hw.Ends l a result) ∨ ∃ r : RecordAt, hw.Meets start (l ++ [r]) r.next := by
  by_cases hg : hw.Granted a Record.headerSize
  · rcases (hw.memory.headerAt a).header_cases (l.map RecordAt.kind) l.length with
      hz | ⟨k, hk⟩ | ⟨e, he⟩
    · exact .inl ⟨.ok _, ⟨hg, hz⟩, RecordAt.forall₂_says_iff.2 rfl⟩
    · by_cases hp : hw.Granted (a + UInt64.ofNat Record.headerSize) k.payloadSize
      · exact .inr ⟨⟨a, k, (hw.memory.headerAt a).size⟩, .next h ⟨hg, hk, rfl, hp⟩⟩
      · exact .inl ⟨.error _, .payload hg hk hp⟩
    · exact .inl ⟨.error e, .refused hg he⟩
  · exact .inl ⟨.error _, .header hg⟩

/-- Every walk comes to an end: each record that is added is one kind less. -/
theorem Meets.exists_end (h : hw.Meets start l a) :
    ∃ l' a' result, hw.Meets start l' a' ∧ hw.Ends l' a' result := by
  obtain ⟨k, hk⟩ : ∃ k, l.length + k = 3 := ⟨3 - l.length, by have := h.length_le; omega⟩
  induction k generalizing l a with
  | zero =>
    have := h.length_le
    omega
  | succ k ih =>
    rcases h.ends_or_next with ⟨result, hend⟩ | ⟨r, hnext⟩
    · exact ⟨l, a, result, h, hend⟩
    · exact ih hnext (by rw [List.length_append, List.length_singleton]; omega)

theorem Ends.congr {result : Except ChainError (List Record)} (hm : SameMap hw hw')
    (he : hw'.memory = hw.memory) (h : hw.Ends l a result) : hw'.Ends l a result := by
  have hg : ∀ {b n}, hw.Granted b n → hw'.Granted b n := (granted_congr hm _ _).2
  have hd : ∀ {b n}, ¬ hw.Granted b n → ¬ hw'.Granted b n := mt (granted_congr hm _ _).1
  cases result with
  | ok rs =>
    obtain ⟨⟨granted, header⟩, hrs⟩ := h
    exact ⟨⟨hg granted, he ▸ header⟩, he ▸ hrs⟩
  | error e =>
    show hw'.Violates l a e
    cases h with
    | header denied => exact .header (hd denied)
    | refused granted refused => exact .refused (hg granted) (he ▸ refused)
    | payload granted announces denied => exact .payload (hg granted) (he ▸ announces) (hd denied)

theorem Meets.congr (hm : SameMap hw hw') (he : hw'.memory = hw.memory)
    (h : hw.Meets start l a) : hw'.Meets start l a := by
  induction h with
  | start => exact .start
  | next before stands ih => exact .next ih (stands.congr hm he)

theorem fetch_of_denied {n : Nat} (h : ¬ hw.Granted a n) : (hw.fetch a n).1 = none := by
  unfold Granted at h
  rw [fetch_eq, if_neg h]

/-- Where a walk ends the reader answers, having looked at the header and, behind it, at no range
that is granted. -/
theorem readRecords_of_ends {result : Except ChainError (List Record)} (h : hw.Ends l a result)
    (n : Nat) :
    ∃ denied : List (UInt64 × Nat), (∀ x ∈ denied, ¬ hw.Granted x.1 x.2) ∧
      hw.readRecords (l.map (RecordAt.record hw.memory)) a l.length (n + 1) =
        (result, hw.looked ((a, Record.headerSize) :: denied)) := by
  have hkinds := map_kind_record hw.memory l
  rw [readRecords]
  cases result with
  | ok rs =>
    obtain ⟨⟨granted, header⟩, hheld⟩ := h
    obtain rfl := RecordAt.forall₂_says_iff.1 hheld
    unfold Memory.headerAt at header
    refine ⟨[], by simp, ?_⟩
    simp only [fetch_of_granted granted, header, RecordHeader.announce_terminator]
    rfl
  | error e =>
    cases h with
    | header denied =>
      refine ⟨[], by simp, ?_⟩
      simp only [fetch_of_denied denied]
      rfl
    | refused granted refused =>
      rw [← hkinds] at refused
      have hann := RecordHeader.announce_of_refused refused
      unfold Memory.headerAt at hann
      refine ⟨[], by simp, ?_⟩
      simp only [fetch_of_granted granted, hann]
      rfl
    | @payload k granted announces denied =>
      rw [← hkinds] at announces
      have hann := RecordHeader.announce_of_announces announces l.length
      unfold Memory.headerAt at hann
      have hread := onlyReads_fetch hw a Record.headerSize
      have hnone := fetch_of_denied (mt (granted_congr hread.sameMap _ _).1 denied)
      refine ⟨[(a + UInt64.ofNat Record.headerSize, k.payloadSize)], by simpa using denied, ?_⟩
      simp only [fetch_of_granted granted, hann, hnone]
      rfl

theorem readChain_of_ends {result : Except ChainError (List Record)} (hm : hw.Meets start l a)
    (he : hw.Ends l a result) :
    ∃ denied : List (UInt64 × Nat), (∀ x ∈ denied, ¬ hw.Granted x.1 x.2) ∧
      hw.readChain start =
        (result, hw.looked (l.flatMap RecordAt.ranges ++ (a, Record.headerSize) :: denied)) := by
  have hlook := onlyReads_looked (l.flatMap RecordAt.ranges) hw
  obtain ⟨n, hn⟩ : ∃ n, chainLimit = l.length + (n + 1) := by
    have := hm.length_le
    exact ⟨chainLimit - l.length - 1, by unfold chainLimit; omega⟩
  obtain ⟨denied, hdenied, hread⟩ := readRecords_of_ends (he.congr hlook.sameMap hlook.memory) n
  refine ⟨denied, fun x hx => mt (granted_congr hlook.sameMap _ _).2 (hdenied x hx), ?_⟩
  rw [hlook.memory] at hread
  rw [readChain, hn, readRecords_of_meets hm, hread, looked_append]

theorem readChain_eq_iff (hw : Hardware) (start : UInt64)
    (result : Except ChainError (List Record)) :
    (hw.readChain start).1 = result ↔ ∃ l a, hw.Meets start l a ∧ hw.Ends l a result := by
  constructor
  · rintro rfl
    have hstart : hw.Meets start [] start := .start
    obtain ⟨l, a, result, hm, he⟩ := hstart.exists_end
    obtain ⟨denied, -, hread⟩ := readChain_of_ends hm he
    exact ⟨l, a, hm, by rw [hread]; exact he⟩
  · rintro ⟨l, a, hm, he⟩
    obtain ⟨denied, -, hread⟩ := readChain_of_ends hm he
    rw [hread]

theorem Meets.records_eq {l' : List RecordAt} {a' : UInt64} (hm : hw.Meets start l a)
    (hc : hw.Closes a) (hm' : hw.Meets start l' a') (hc' : hw.Closes a') :
    l.map (RecordAt.record hw.memory) = l'.map (RecordAt.record hw.memory) := by
  have h := (readChain_eq_iff hw start (.ok _)).2 ⟨l, a, hm, hc, RecordAt.forall₂_says_iff.2 rfl⟩
  have h' :=
    (readChain_eq_iff hw start (.ok _)).2 ⟨l', a', hm', hc', RecordAt.forall₂_says_iff.2 rfl⟩
  exact Except.ok.inj (h.symm.trans h')

/-- What a return accepts is the frame at the stack pointer and the records of the walk behind it,
as memory holds them. -/
theorem readReturnImage_ok {read : Hardware} {sp : UInt64} {image : ReturnImage}
    (h : readReturnImage hw sp = (.ok image, read)) :
    image.frame = .ofBytes (hw.memory.read sp SigFrame.size) ∧
      ∃ l a, hw.Meets (sp + UInt64.ofNat SigFrame.scExtOff) l a ∧ hw.Closes a ∧
        image.records = l.map (RecordAt.record hw.memory) := by
  have hlook := onlyReads_fetch hw sp SigFrame.size
  unfold readReturnImage at h
  by_cases hg : hw.Granted sp SigFrame.size
  · have hbytes : (hw.fetch sp SigFrame.size).1 = some (hw.memory.read sp SigFrame.size) :=
      fetch_of_granted hg
    simp only [hbytes] at h
    cases hchain : ((hw.fetch sp SigFrame.size).2.readChain
        (sp + UInt64.ofNat SigFrame.scExtOff)).1 with
    | error e =>
      simp only [hchain] at h
      cases h
    | ok records =>
      simp only [hchain] at h
      cases h
      obtain ⟨l, a, hm, he⟩ := (readChain_eq_iff _ _ _).1 hchain
      have hends := he.congr hlook.sameMap.symm hlook.memory.symm
      exact ⟨rfl, l, a, hm.congr hlook.sameMap.symm hlook.memory.symm, hends.1,
        RecordAt.forall₂_says_iff.1 hends.2⟩
  · simp only [fetch_of_denied hg] at h
    cases h

/-! ## What is read -/

/-- What fetching a range leaves in the trace: the table entries that its check reads and, once they
have granted the range, the read. -/
def lookEffects (hw : Hardware) (x : UInt64 × Nat) : List Effect :=
  ((hw.geometry.checkUser hw.tables (hw.readCsr .pgdl) x.1 x.2 .read).reads.reverse.map
      .tableRead) ++
    if hw.Granted x.1 x.2 then [.userRead x.1 x.2] else []

theorem history_fetch (hw : Hardware) (x : UInt64 × Nat) :
    (hw.fetch x.1 x.2).2.history = (hw.lookEffects x).reverse ++ hw.history := by
  rw [fetch_eq, lookEffects]
  by_cases hg : hw.Granted x.1 x.2
  · have hc : (hw.checkUser x.1 x.2 .read).1 = true := hg
    rw [if_pos hg, if_pos hc]
    simp [checkUser, noteReads, readUser, emit]
  · have hc : ¬ (hw.checkUser x.1 x.2 .read).1 = true := hg
    rw [if_neg hg, if_neg hc]
    simp [checkUser, noteReads]

theorem lookEffects_congr (h : SameMap hw hw') : hw'.lookEffects = hw.lookEffects := by
  funext x
  unfold lookEffects
  simp only [granted_congr h, h.geometry, h.tables, h.root]

theorem history_looked : ∀ (ranges : List (UInt64 × Nat)) (hw : Hardware),
    (hw.looked ranges).history = (ranges.flatMap hw.lookEffects).reverse ++ hw.history
  | [], _ => rfl
  | x :: xs, hw => by
    have hrest := history_looked xs (hw.fetch x.1 x.2).2
    rw [history_fetch, lookEffects_congr (onlyReads_fetch hw x.1 x.2).sameMap] at hrest
    rw [List.flatMap_cons, List.reverse_append, List.append_assoc]
    exact hrest

end Hardware

/-- User memory was read. -/
def Effect.isUserRead : Effect → Bool
  | .userRead .. => true
  | _ => false

namespace Hardware

variable {hw : Hardware} {start a : UInt64} {l : List RecordAt}

theorem userReads_lookEffects (hw : Hardware) (x : UInt64 × Nat) :
    (hw.lookEffects x).filter Effect.isUserRead =
      if hw.Granted x.1 x.2 then [.userRead x.1 x.2] else [] := by
  have htables : ∀ reads : List TableRead,
      (reads.map Effect.tableRead).filter Effect.isUserRead = [] := by
    intro reads
    rw [List.filter_eq_nil_iff]
    intro e he
    obtain ⟨r, -, rfl⟩ := List.mem_map.1 he
    exact Bool.false_ne_true
  rw [lookEffects, List.filter_append, htables, List.nil_append]
  split <;> rfl

/-- Of some ranges that are fetched, those that are granted are read. -/
theorem userReads_flatMap (hw : Hardware) (ranges : List (UInt64 × Nat)) :
    (ranges.flatMap hw.lookEffects).filter Effect.isUserRead =
      (ranges.filter fun x => decide (hw.Granted x.1 x.2)).map fun x => .userRead x.1 x.2 := by
  induction ranges with
  | nil => rfl
  | cons x xs ih =>
    rw [List.flatMap_cons, List.filter_append, userReads_lookEffects, ih, List.filter_cons]
    by_cases hg : hw.Granted x.1 x.2
    · rw [if_pos hg, if_pos (decide_eq_true hg)]
      rfl
    · rw [if_neg hg, if_neg (by simpa using hg)]
      rfl

/-- The user reads of a walk and its end: both parts of every record, and the header at the end if
it may be read. -/
theorem userReads_walk (hm : hw.Meets start l a) {denied : List (UInt64 × Nat)}
    (hd : ∀ x ∈ denied, ¬ hw.Granted x.1 x.2) :
    ((l.flatMap RecordAt.ranges ++ (a, Record.headerSize) :: denied).flatMap
        hw.lookEffects).filter Effect.isUserRead =
      (l.flatMap RecordAt.ranges).map (fun x => .userRead x.1 x.2) ++
        if hw.Granted a Record.headerSize then [.userRead a Record.headerSize]
        else [] := by
  have hwalk : (l.flatMap RecordAt.ranges).filter (fun x => decide (hw.Granted x.1 x.2)) =
      l.flatMap RecordAt.ranges :=
    List.filter_eq_self.2 fun x hx => decide_eq_true (hm.granted x hx)
  have hnone : denied.filter (fun x => decide (hw.Granted x.1 x.2)) = [] :=
    List.filter_eq_nil_iff.2 fun x hx => by simpa using hd x hx
  rw [userReads_flatMap, List.filter_append, hwalk, List.map_append, List.filter_cons, hnone]
  by_cases hg : hw.Granted a Record.headerSize
  · rw [if_pos hg, if_pos (decide_eq_true hg)]
    rfl
  · rw [if_neg hg, if_neg (by simpa using hg)]
    rfl

/-- The chain reader accepts its grammar and reads no more than it has to, whatever is in memory
and however it is mapped. It returns a list exactly when the sizes lead from the start over records
that stand, one above the other and of kinds that go together, to a terminator; the list is what
they say, word by word. Otherwise it returns the first violation, and never that there was no end. It checks one
range after the other and reads a range exactly when its check has granted it: both parts of each
record, and of what stands behind them no more than the header. -/
theorem readChain_exact (hw : Hardware) (start : UInt64) :
    (∀ rs, (hw.readChain start).1 = .ok rs ↔
      ∃ l a, hw.Meets start l a ∧ hw.Closes a ∧ List.Forall₂ (RecordAt.Says hw.memory) l rs) ∧
    (∀ e, (hw.readChain start).1 = .error e ↔
      ∃ l a, hw.Meets start l a ∧ hw.Violates l a e) ∧
    (hw.readChain start).1 ≠ .error .unterminated ∧
    (∀ l a, hw.Meets start l a → l.Pairwise (fun r s => r.addr < s.addr) ∧
      (l.map RecordAt.kind).countP (·.isBank) ≤ 1 ∧ (l.map RecordAt.kind).count .lbt ≤ 1) ∧
    ∀ l a, hw.Meets start l a → hw.Ends l a (hw.readChain start).1 →
      ∃ denied : List (UInt64 × Nat), (∀ x ∈ denied, ¬ hw.Granted x.1 x.2) ∧
        (hw.readChain start).2.since hw.mark =
          (l.flatMap RecordAt.ranges ++ (a, Record.headerSize) :: denied).flatMap
            hw.lookEffects ∧
        ((hw.readChain start).2.since hw.mark).filter Effect.isUserRead =
          (l.flatMap RecordAt.ranges).map (fun x => .userRead x.1 x.2) ++
            if hw.Granted a Record.headerSize then [.userRead a Record.headerSize]
            else [] := by
  refine ⟨fun rs => readChain_eq_iff hw start (.ok rs),
    fun e => readChain_eq_iff hw start (.error e), ?_,
    fun l a hm => ⟨hm.ascending.1, (RecordKind.compatible_iff _).1 hm.compatible⟩, ?_⟩
  · -- no violation of the grammar is a missing end
    intro hu
    obtain ⟨l, a, -, hv⟩ := (readChain_eq_iff hw start _).1 hu
    cases hv with
    | refused granted refused => cases refused
  · intro l a hm he
    obtain ⟨denied, hd, hread⟩ := readChain_of_ends hm he
    have hsince : (hw.readChain start).2.since hw.mark =
        (l.flatMap RecordAt.ranges ++ (a, Record.headerSize) :: denied).flatMap
          hw.lookEffects := by
      have hhist :=
        history_looked (l.flatMap RecordAt.ranges ++ (a, Record.headerSize) :: denied) hw
      rw [hread, since_of_history hhist, List.reverse_reverse]
    refine ⟨denied, hd, hsince, ?_⟩
    rw [hsince]
    exact userReads_walk hm hd

/-- Hardware whose memory holds binary translation at `0x4000`. -/
def translated (m : Memory) : Hardware :=
  { mapped ⟨true, true, true, true⟩ with
    memory := m.write 0x4000 ((RecordHeader.mk RecordKind.lbt.magic 56).toBytes ++
      wordsLe [1, 2, 3, 4] ++ le32 5 ++ le32 6) }

/-- Behind binary translation, a header with an unknown magic is refused and nothing past it is
read; a scalar bank is accepted, and the list has both records with their words. -/
theorem readChain_exact_translated :
    let unknown := translated (Memory.zero.write 0x4038 (RecordHeader.mk 1 32).toBytes)
    let bank := translated ((Memory.zero.write 0x4038
      (RecordHeader.mk (RecordKind.bank .fpu).magic 288).toBytes).write 0x4140
        (le64 7 ++ le64 8 ++ le32 9))
    (unknown.readChain 0x4000).1 = .error (.badMagic 1 1) ∧
      ((unknown.readChain 0x4000).2.since unknown.mark).filter Effect.isUserRead =
        [.userRead 0x4000 16, .userRead 0x4010 40, .userRead 0x4038 16] ∧
      (bank.readChain 0x4000).1 = .ok [.lbt #v[1, 2, 3, 4] 5 6,
        .bank .fpu (Vector.ofFn fun i => if i.val = 31 then #v[7, 0, 0, 0] else #v[0, 0, 0, 0])
          8 9] := by
  intro unknown bank
  obtain ⟨-, herr, -, -, hreads⟩ := readChain_exact unknown 0x4000
  obtain ⟨hok, -⟩ := readChain_exact bank 0x4000
  have hlbt : unknown.Stands [] ⟨0x4000, .lbt, 56⟩ := by
    refine ⟨?_, ⟨?_, ?_, by simp⟩, ?_, ?_⟩
    all_goals decide +kernel
  have hmeets : unknown.Meets 0x4000 ([] ++ [⟨0x4000, .lbt, 56⟩]) 0x4038 := .next .start hlbt
  have hheader : unknown.memory.headerAt 0x4038 = ⟨1, 32⟩ := by decide +kernel
  have hrefused : (unknown.memory.headerAt 0x4038).Refused [.lbt] 1 (.badMagic 1 1) :=
    hheader ▸ .magic (RecordKind.forall_of_all (by decide)) (by decide)
  have hgranted : unknown.Granted 0x4038 Record.headerSize := by decide +kernel
  have hresult := (herr _).2 ⟨_, _, hmeets, .refused hgranted hrefused⟩
  obtain ⟨-, -, -, hread⟩ := hreads _ _ hmeets (by rw [hresult]; exact .refused hgranted hrefused)
  rw [if_pos hgranted] at hread
  have hlbt' : bank.Stands [] ⟨0x4000, .lbt, 56⟩ := by
    refine ⟨?_, ⟨?_, ?_, by simp⟩, ?_, ?_⟩
    all_goals decide +kernel
  have hbank : bank.Stands [.lbt] ⟨0x4038, .bank .fpu, 288⟩ := by
    refine ⟨?_, ⟨?_, ?_, ?_⟩, ?_, ?_⟩
    case refine_4 => simp [RecordKind.Clashes, RecordKind.isBank, RecordKind.bank?]
    all_goals decide +kernel
  have hmeets' : bank.Meets 0x4000
      ([] ++ [⟨0x4000, .lbt, 56⟩] ++ [⟨0x4038, .bank .fpu, 288⟩]) 0x4158 :=
    .next (.next .start hlbt') hbank
  have hcloses : bank.Closes 0x4158 := ⟨by decide +kernel, by decide +kernel⟩
  refine ⟨hresult, hread, (hok _).2 ⟨_, _, hmeets', hcloses, ?_⟩⟩
  refine .cons (.lbt rfl ?_ ?_ ?_) (.cons (.bank rfl ?_ ?_ ?_) .nil)
  all_goals decide +kernel

end Hardware

end TrapLayer
