import TrapLayer.Proofs.Word
import TrapLayer.Signal.Deliver

/-!
# Where the records of a chain lie

Records are placed downward by subtracting and rounding down. Nothing in the layout checks that a
subtraction does not borrow; `Fits` says it of one record and `FitsBelow` of a list, and under it
the layout is arithmetic on numbers.

* `place_spec`: a record lies between its lower neighbour's top and the block above, its payload
  aligned, with less than an alignment of slack.
* `fitsBelow_of_reach`: room for the longest form of every record is room enough.
* `reachAll_recordKinds_lt`: the room a delivery keeps is enough for every set of records.
-/
namespace TrapLayer

namespace RecordKind

/-- Alignment of a block, as a number. -/
def blockAlign (k : RecordKind) : Nat := (max k.align 16).toNat

/-- The most bytes a block can take below the one above it. -/
def reach (k : RecordKind) : Nat := Record.headerSize + k.payloadSize + (k.blockAlign - 1)

/-- The most bytes that the blocks of some kinds can take. -/
def reachAll : List RecordKind → Nat
  | [] => 0
  | k :: ks => k.reach + reachAll ks

theorem reachAll_append : ∀ js ks : List RecordKind,
    reachAll (js ++ ks) = reachAll js + reachAll ks
  | [], _ => (Nat.zero_add _).symm
  | j :: js, ks => by
    rw [List.cons_append, reachAll, reachAll, reachAll_append js ks, Nat.add_assoc]

theorem forall_of_all {p : RecordKind → Prop} (h : ∀ k ∈ all, p k) (k : RecordKind) : p k := by
  apply h
  cases k with
  | bank b => cases b <;> simp [all]
  | lbt => simp [all]

theorem blockAlign_pos (k : RecordKind) : 16 ≤ k.blockAlign := by
  revert k; exact forall_of_all (by decide)

theorem blockAlign_le (k : RecordKind) : k.blockAlign ≤ 32 := by
  revert k; exact forall_of_all (by decide)

theorem sixteen_dvd_blockAlign (k : RecordKind) : 16 ∣ k.blockAlign := by
  revert k; exact forall_of_all (by decide)

theorem align_dvd_blockAlign (k : RecordKind) : k.align.toNat ∣ k.blockAlign := by
  revert k; exact forall_of_all (by decide)

theorem payloadSize_pos (k : RecordKind) : 0 < k.payloadSize := by
  revert k; exact forall_of_all (by decide)

theorem payloadSize_le (k : RecordKind) : k.payloadSize ≤ 1056 := by
  revert k; exact forall_of_all (by decide)

end RecordKind

namespace ChainLayout

/-- Neither subtraction that places a record below `base` borrows. -/
def Fits (base : UInt64) (k : RecordKind) : Prop :=
  k.payloadSize ≤ base.toNat ∧
    Record.headerSize ≤ (alignDown (base - UInt64.ofNat k.payloadSize) (max k.align 16)).toNat

/-- No subtraction that places the records below `base` borrows. -/
def FitsBelow : UInt64 → List RecordKind → Prop
  | _, [] => True
  | base, k :: ks => Fits base k ∧ FitsBelow (place base k).addr ks

/-- Address of the lowest of the records placed below `base`. -/
def lowest (base : UInt64) (kinds : List RecordKind) : UInt64 :=
  kinds.foldl (fun b k => (place b k).addr) base

/-- One record below `base`: header and payload end at or below it, less than an alignment is
lost, the payload is aligned, and the size leads back to `base`. -/
theorem place_spec {base : UInt64} {k : RecordKind} (h : Fits base k) :
    (place base k).addr.toNat + Record.headerSize + k.payloadSize ≤ base.toNat ∧
      base.toNat < (place base k).addr.toNat + Record.headerSize + k.payloadSize + k.blockAlign ∧
      ((place base k).addr.toNat + Record.headerSize) % k.blockAlign = 0 ∧
      (place base k).addr.toNat + (place base k).size.toNat = base.toNat := by
  obtain ⟨hp, hh⟩ := h
  have hs := toNat_sub_ofNat hp
  have hpos : 0 < (max k.align 16).toNat := Nat.lt_of_lt_of_le (by decide) k.blockAlign_pos
  obtain ⟨ha, hle, hlt⟩ := alignDown_spec (base - UInt64.ofNat k.payloadSize) _ hpos
  have haddr : (place base k).addr.toNat =
      (alignDown (base - UInt64.ofNat k.payloadSize) (max k.align 16)).toNat - Record.headerSize :=
    toNat_sub_ofNat hh
  have hbelow : (place base k).addr ≤ base := by rw [UInt64.le_iff_toNat_le, haddr]; omega
  have hsize : (place base k).size.toNat = base.toNat - (place base k).addr.toNat :=
    UInt64.toNat_sub_of_le _ _ hbelow
  have hback : (place base k).addr.toNat + Record.headerSize =
      (alignDown (base - UInt64.ofNat k.payloadSize) (max k.align 16)).toNat := by omega
  refine ⟨by omega, ?_, by rw [hback]; exact ha, by omega⟩
  rw [hback, RecordKind.blockAlign]; omega

theorem fits_of_reach {base : UInt64} {k : RecordKind} (h : k.reach ≤ base.toNat) :
    Fits base k := by
  have hpos := k.blockAlign_pos
  unfold RecordKind.reach at h
  have hp : k.payloadSize ≤ base.toNat := by omega
  have hlt := (alignDown_spec (base - UInt64.ofNat k.payloadSize)
    (max k.align 16) (Nat.lt_of_lt_of_le (by decide) hpos)).2.2
  rw [toNat_sub_ofNat hp] at hlt
  refine ⟨hp, ?_⟩
  have hb : k.blockAlign = (max k.align 16).toNat := rfl
  omega

theorem place_addr_ge {base : UInt64} {k : RecordKind} (h : Fits base k) :
    base.toNat ≤ (place base k).addr.toNat + k.reach := by
  have := (place_spec h).2.1
  have := k.blockAlign_pos
  unfold RecordKind.reach; omega

/-- Room for the longest form of each record is room for the records. -/
theorem fitsBelow_of_reach : ∀ (kinds : List RecordKind) (base : UInt64),
    RecordKind.reachAll kinds ≤ base.toNat → FitsBelow base kinds
  | [], _, _ => trivial
  | k :: ks, base, h => by
    rw [RecordKind.reachAll] at h
    have hk : Fits base k := fits_of_reach (by omega)
    have := place_addr_ge hk
    exact ⟨hk, fitsBelow_of_reach ks _ (by omega)⟩

theorem lowest_cons (base : UInt64) (k : RecordKind) (ks : List RecordKind) :
    lowest base (k :: ks) = lowest (place base k).addr ks := rfl

theorem lowest_le : ∀ {kinds : List RecordKind} {base : UInt64}, FitsBelow base kinds →
    (lowest base kinds).toNat ≤ base.toNat
  | [], _, _ => Nat.le_refl _
  | k :: ks, base, h => by
    have h1 := (place_spec h.1).1
    have h2 := lowest_le h.2
    rw [lowest_cons]; omega

theorem lowest_ge : ∀ {kinds : List RecordKind} {base : UInt64}, FitsBelow base kinds →
    base.toNat ≤ (lowest base kinds).toNat + RecordKind.reachAll kinds
  | [], _, _ => Nat.le_refl _
  | k :: ks, base, h => by
    have h1 := place_addr_ge h.1
    have h2 := lowest_ge h.2
    rw [lowest_cons, RecordKind.reachAll]; omega

theorem place_addr_mod {base : UInt64} {k : RecordKind} (h : Fits base k) :
    (place base k).addr.toNat % 16 = 0 := by
  have hd := Nat.dvd_trans k.sixteen_dvd_blockAlign (Nat.dvd_of_mod_eq_zero (place_spec h).2.2.1)
  simp only [Record.headerSize] at hd; omega

theorem lowest_mod : ∀ {kinds : List RecordKind} {base : UInt64}, FitsBelow base kinds →
    base.toNat % 16 = 0 → (lowest base kinds).toNat % 16 = 0
  | [], _, _, hb => hb
  | k :: ks, base, h, _ => by
    rw [lowest_cons]
    exact lowest_mod h.2 (place_addr_mod h.1)

theorem low_eq_lowest (sp : UInt64) (kinds : List RecordKind) :
    (plan sp kinds).low = lowest (sp - UInt64.ofNat Record.headerSize) kinds := by
  have h : ∀ (ks : List RecordKind) (t : Placement),
      ((placeAll t.addr ks).getLast?.getD t).addr = lowest t.addr ks := by
    intro ks
    induction ks with
    | nil => intro t; rfl
    | cons k ks ih =>
      intro t
      rw [placeAll, List.getLast?_cons, Option.getD_some, lowest_cons]
      exact ih (place t.addr k)
  exact h kinds ⟨none, sp - UInt64.ofNat Record.headerSize, UInt64.ofNat Record.headerSize⟩

theorem payload_aligned : ∀ {kinds : List RecordKind} {base : UInt64}, FitsBelow base kinds →
    ∀ b ∈ placeAll base kinds, ∀ k, b.kind = some k →
      (b.addr.toNat + Record.headerSize) % k.align.toNat = 0
  | [], _, _, _, hb, _, _ => by cases hb
  | k :: ks, base, h, b, hb, j, hj => by
    rcases List.mem_cons.1 hb with rfl | hb
    · cases hj
      have hd := Nat.dvd_of_mod_eq_zero (place_spec h.1).2.2.1
      exact Nat.mod_eq_zero_of_dvd (Nat.dvd_trans k.align_dvd_blockAlign hd)
    · exact payload_aligned h.2 b hb j hj

end ChainLayout

/-! ## The room of a delivery -/

theorem reachAll_recordKinds_lt (features : Features) (euen : UInt64) (fpu : FpState) :
    RecordKind.reachAll (recordKinds features euen fpu) + Record.headerSize < chainRoom := by
  have hbank : ∀ o : Option FpBank,
      RecordKind.reachAll (o.map RecordKind.bank).toList ≤ 1103 := by
    intro o
    rcases o with _ | b
    · decide
    · cases b <;> decide
  unfold recordKinds
  rw [RecordKind.reachAll_append]
  have h1 : RecordKind.reachAll (if fpu.isUsed || hasBits euen euenFpe then
      ((savedBank? features euen).map RecordKind.bank).toList else []) ≤ 1103 := by
    split
    · exact hbank _
    · decide
  have h2 : RecordKind.reachAll
      (if features.lbt && hasBits euen euenBte then [RecordKind.lbt] else []) ≤ 71 := by
    split <;> decide
  simp only [Record.headerSize, chainRoom]; omega

end TrapLayer
