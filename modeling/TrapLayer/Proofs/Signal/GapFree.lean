import Mathlib.Data.List.Chain
import Mathlib.Data.List.Forall2
import TrapLayer.Proofs.Signal.CheckedDelivery

/-!
# Chains without gaps

A layout is computed by subtracting and rounding down, one record after the other. As long as no
subtraction fails, the blocks it gives stand one below the other with nothing in between: adding the
size of a block to its address leads to the block that was placed before it, and in the end to the
stack pointer. What rounding loses is counted in the size of the record.

* `planChecked_eq_ok_iff`: no subtraction fails exactly when every record finds room, and the layout
  is then the plan.
* `holds_placeAll`, `isChain_placeAll`: each record by itself, and each next to the one above.
* `plan_gap_free`: all of it, for any list of kinds.
-/
namespace TrapLayer

namespace Checked

variable {α β : Type} {a b : UInt64} {n : Nat}

theorem bind_eq_ok_iff {x : Checked α} {f : α → Checked β} {y : β} :
    x >>= f = .ok y ↔ ∃ v, x = .ok v ∧ f v = .ok y := by
  cases x with
  | error e => simp [error_bind]
  | ok v => simp [ok_bind]

theorem le_of_sub_ofNat (hn : n < 2 ^ 64) (h : sub a (UInt64.ofNat n) = .ok b) : n ≤ a.toNat := by
  unfold sub at h
  split at h
  · rename_i hle
    rwa [UInt64.le_iff_toNat_le, toNat_ofNat hn] at hle
  · cases h

end Checked

namespace ChainLayout

/-! ## Layouts that go through -/

theorem fits_of_placeChecked {base : UInt64} {k : RecordKind} {b : Placement}
    (h : placeChecked base k = .ok b) : Fits base k := by
  have hpayload : k.payloadSize < 2 ^ 64 := Nat.lt_of_le_of_lt k.payloadSize_le (by decide)
  unfold placeChecked at h
  obtain ⟨payload, hsub, h⟩ := Checked.bind_eq_ok_iff.1 h
  obtain ⟨addr, hhead, -⟩ := Checked.bind_eq_ok_iff.1 h
  have hroom := Checked.le_of_sub_ofNat hpayload hsub
  rw [Checked.sub_ofNat hroom] at hsub
  rw [← Except.ok.inj hsub] at hhead
  exact ⟨hroom, Checked.le_of_sub_ofNat (by decide) hhead⟩

theorem fitsBelow_of_placeAllChecked : ∀ {kinds : List RecordKind} {base : UInt64}
    {bs : List Placement}, placeAllChecked base kinds = .ok bs → FitsBelow base kinds
  | [], _, _, _ => trivial
  | k :: ks, base, bs, h => by
    rw [placeAllChecked] at h
    obtain ⟨block, hblock, h⟩ := Checked.bind_eq_ok_iff.1 h
    obtain ⟨rest, hrest, -⟩ := Checked.bind_eq_ok_iff.1 h
    have hfits := fits_of_placeChecked hblock
    rw [placeChecked_eq hfits] at hblock
    rw [← Except.ok.inj hblock] at hrest
    exact ⟨hfits, fitsBelow_of_placeAllChecked hrest⟩

/-- No subtraction fails exactly when every record finds room. -/
theorem planChecked_eq_ok_iff {sp : UInt64} {kinds : List RecordKind} {l : ChainLayout} :
    planChecked sp kinds = .ok l ↔ Sound sp kinds ∧ l = plan sp kinds := by
  constructor
  · intro h
    have hsound : Sound sp kinds := by
      unfold planChecked at h
      obtain ⟨addr, hsub, h⟩ := Checked.bind_eq_ok_iff.1 h
      obtain ⟨records, hrecords, -⟩ := Checked.bind_eq_ok_iff.1 h
      have hroom := Checked.le_of_sub_ofNat (by decide) hsub
      rw [Checked.sub_ofNat hroom] at hsub
      rw [← Except.ok.inj hsub] at hrecords
      exact ⟨hroom, fitsBelow_of_placeAllChecked hrecords⟩
    rw [planChecked_eq hsound] at h
    exact ⟨hsound, (Except.ok.inj h).symm⟩
  · rintro ⟨hsound, rfl⟩
    exact planChecked_eq hsound

theorem sound_of_room {sp : UInt64} {kinds : List RecordKind}
    (h : Record.headerSize + RecordKind.reachAll kinds ≤ sp.toNat) : Sound sp kinds := by
  have hroom : Record.headerSize ≤ sp.toNat := by omega
  refine ⟨hroom, fitsBelow_of_reach kinds _ ?_⟩
  rw [toNat_sub_ofNat hroom]
  omega

end ChainLayout

/-! ## The blocks of a layout -/

namespace Placement

/-- The block of a record: its payload is aligned, and its size covers header and payload with less
than an alignment to spare. -/
structure Holds (b : Placement) (k : RecordKind) : Prop where
  kind : b.kind = some k
  aligned : (b.addr.toNat + Record.headerSize) % k.blockAlign = 0
  covers : Record.headerSize + k.payloadSize ≤ b.size.toNat
  tight : b.size.toNat < Record.headerSize + k.payloadSize + k.blockAlign

/-- `b` ends where the block above it starts. -/
def MeetsAbove (above b : Placement) : Prop := b.addr.toNat + b.size.toNat = above.addr.toNat

end Placement

namespace ChainLayout

theorem holds_place {base : UInt64} {k : RecordKind} (h : Fits base k) :
    (place base k).Holds k := by
  obtain ⟨hle, hlt, haligned, hback⟩ := place_spec h
  exact ⟨rfl, haligned, by omega, by omega⟩

theorem holds_placeAll : ∀ {kinds : List RecordKind} {base : UInt64}, FitsBelow base kinds →
    List.Forall₂ Placement.Holds (placeAll base kinds) kinds
  | [], _, _ => .nil
  | _ :: _, _, h => .cons (holds_place h.1) (holds_placeAll h.2)

/-- Each block ends where the one before it starts, the first one below `above`. -/
theorem isChain_placeAll : ∀ {kinds : List RecordKind} {above : Placement},
    FitsBelow above.addr kinds →
      (above :: placeAll above.addr kinds).IsChain Placement.MeetsAbove
  | [], above, _ => .singleton above
  | _ :: _, _, h => .cons_cons (place_spec h.1).2.2.2 (isChain_placeAll h.2)

/-- A layout downward from a stack pointer is a chain without gaps, for any list of kinds, however
long and with repetitions. With room for every record no subtraction fails; and whenever none does,
there is a terminator of the size of a header right below the stack pointer and one block for each
kind in order, its payload aligned and its size that of header and payload with less than an
alignment to spare. Each block ends where the block placed before it starts, the last one is the
lowest, and from there the sizes lead back to the stack pointer. -/
theorem plan_gap_free (sp : UInt64) (kinds : List RecordKind) :
    (Record.headerSize + RecordKind.reachAll kinds ≤ sp.toNat →
      ∃ l, planChecked sp kinds = .ok l) ∧
    ∀ l, planChecked sp kinds = .ok l →
      l = plan sp kinds ∧
      l.terminator.kind = none ∧
      l.terminator.addr.toNat + Record.headerSize = sp.toNat ∧
      l.terminator.size.toNat = Record.headerSize ∧
      List.Forall₂ Placement.Holds l.records kinds ∧
      l.blocks.IsChain Placement.MeetsAbove ∧
      l.blocks.getLast?.map (·.addr) = some l.low ∧
      l.low.toNat + l.size.toNat = sp.toNat := by
  refine ⟨fun hroom => ⟨_, planChecked_eq (sound_of_room hroom)⟩, fun l hl => ?_⟩
  obtain ⟨hsound, rfl⟩ := planChecked_eq_ok_iff.1 hl
  have htop : (plan sp kinds).terminator.addr.toNat + Record.headerSize = sp.toNat := by
    have haddr := toNat_sub_ofNat hsound.terminator
    have hroom := hsound.terminator
    show (sp - UInt64.ofNat Record.headerSize).toNat + Record.headerSize = sp.toNat
    omega
  refine ⟨rfl, rfl, htop, rfl, holds_placeAll hsound.records, isChain_placeAll hsound.records, ?_,
    low_add_size hsound⟩
  show ((plan sp kinds).terminator :: (plan sp kinds).records).getLast?.map (·.addr) = _
  rw [List.getLast?_cons]
  rfl

/-- Repeated kinds below a stack pointer that is not aligned: each record is rounded down by itself,
and no byte is lost between them. -/
theorem plan_gap_free_unaligned :
    let kinds : List RecordKind := [.lbt, .bank .lasx, .bank .fpu, .bank .lasx]
    ∃ l, planChecked 0x12345 kinds = .ok l ∧
      l.blocks.map (·.addr) = [0x12335, 0x122f0, 0x11eb0, 0x11d90, 0x11950] ∧
      List.Forall₂ Placement.Holds l.records kinds ∧
      l.blocks.IsChain Placement.MeetsAbove ∧
      l.low.toNat + l.size.toNat = 0x12345 := by
  intro kinds
  obtain ⟨l, hl⟩ := (plan_gap_free 0x12345 kinds).1 (by decide)
  obtain ⟨heq, -, -, -, hholds, hchain, -, hsize⟩ := (plan_gap_free 0x12345 kinds).2 l hl
  refine ⟨l, hl, ?_, hholds, hchain, hsize⟩
  rw [heq]
  decide +kernel

end ChainLayout

end TrapLayer
