import TrapLayer.Proofs.Signal.RoundTrip

/-!
# A written chain is read back

A chain is written downward and read upward, the writer by offsets from the top and the reader by
the sizes in the headers. For every list of kinds that go together, and wherever the stack pointer
stands, the records come back as they were captured, the lowest first. What they do to a register
state does not depend on the order in which they are applied.

* `overwritten_applyAll`: captured records, applied in any order, overwrite what their kinds
  describe and nothing else.
* `chainAt_write_capture`: what is in memory once a captured state was written.
* `readChain_write`: the chain of a layout is read back, and puts back what was captured.
-/
namespace TrapLayer

/-! ## What records overwrite -/

/-- A kind describes word `l` of every vector register. -/
def RecordKind.covers (k : RecordKind) (l : Nat) : Bool :=
  match k with
  | bank b => decide (l < b.lanes)
  | lbt => false

/-- Records written back one after the other. -/
def Record.applyAll (rs : List Record) (state : FpState) : FpState :=
  rs.foldl (fun s r => r.apply s) state

namespace FpState

/-- `out` is `dst` with what some kinds describe taken from `src`: the words of the vector registers
that a bank among them covers, with the condition flags and the low half of the control register,
and the binary-translation registers with the low halves of the flags and of the stack top. -/
structure Overwritten (kinds : List RecordKind) (src dst out : FpState) : Prop where
  fpr : ∀ i (_ : i < 32) l (_ : l < 4),
    out.fpr[i][l] = if kinds.any (·.covers l) then src.fpr[i][l] else dst.fpr[i][l]
  fcc : out.fcc = if kinds.any (·.isBank) then src.fcc else dst.fcc
  fcsr : out.fcsr = if kinds.any (·.isBank) then src.fcsr.toUInt32.toUInt64 else dst.fcsr
  scr : out.scr = if kinds.any (· == .lbt) then src.scr else dst.scr
  eflags : out.eflags = if kinds.any (· == .lbt) then src.eflags.toUInt32.toUInt64 else dst.eflags
  ftop : out.ftop = if kinds.any (· == .lbt) then src.ftop.toUInt32.toUInt64 else dst.ftop
  used : out.used = dst.used
  reserved : out.reserved = dst.reserved

variable {src dst out : FpState}

/-- Only the kinds count, not their order. -/
theorem Overwritten.perm {kinds kinds' : List RecordKind} (h : Overwritten kinds src dst out)
    (hp : kinds.Perm kinds') : Overwritten kinds' src dst out := by
  constructor
  · intro i hi l hl
    rw [← hp.any_eq]
    exact h.fpr i hi l hl
  · rw [← hp.any_eq]; exact h.fcc
  · rw [← hp.any_eq]; exact h.fcsr
  · rw [← hp.any_eq]; exact h.scr
  · rw [← hp.any_eq]; exact h.eflags
  · rw [← hp.any_eq]; exact h.ftop
  · exact h.used
  · exact h.reserved

theorem ite_any_append {α : Type} (p : RecordKind → Bool) (ks js : List RecordKind) (x y : α) :
    (if js.any p then x else if ks.any p then x else y) = if (ks ++ js).any p then x else y := by
  rw [List.any_append]
  cases ks.any p <;> cases js.any p <;> rfl

theorem Overwritten.append {ks js : List RecordKind} {mid : FpState}
    (h : Overwritten ks src dst mid) (h' : Overwritten js src mid out) :
    Overwritten (ks ++ js) src dst out := by
  constructor
  · intro i hi l hl
    rw [h'.fpr i hi l hl, h.fpr i hi l hl]
    exact ite_any_append _ ks js _ _
  · rw [h'.fcc, h.fcc]; exact ite_any_append _ ks js _ _
  · rw [h'.fcsr, h.fcsr]; exact ite_any_append _ ks js _ _
  · rw [h'.scr, h.scr]; exact ite_any_append _ ks js _ _
  · rw [h'.eflags, h.eflags]; exact ite_any_append _ ks js _ _
  · rw [h'.ftop, h.ftop]; exact ite_any_append _ ks js _ _
  · exact h'.used.trans h.used
  · exact h'.reserved.trans h.reserved

end FpState

theorem mergeRegs_of_le {n : Nat} (a b : Vector Lanes 32) {i l : Nat} (hi : i < 32) (hl : l < 4)
    (h : n ≤ l) : (FpState.mergeRegs n a b)[i][l] = b[i][l] := by
  simp only [FpState.mergeRegs, FpState.mergeLanes, Vector.getElem_zipWith, Vector.getElem_ofFn,
    if_neg (Nat.not_lt.2 h)]

theorem overwritten_apply (k : RecordKind) (src dst : FpState) :
    FpState.Overwritten [k] src dst ((Record.capture k src).apply dst) := by
  cases k with
  | bank b =>
    constructor
    · intro i hi l hl
      simp only [Record.capture, Record.apply, mergeRegs_mergeRegs, List.any_cons, List.any_nil,
        Bool.or_false, RecordKind.covers, decide_eq_true_eq]
      split
      · exact mergeRegs_of_lt _ _ hi hl ‹_›
      · exact mergeRegs_of_le _ _ hi hl (Nat.not_lt.1 ‹_›)
    all_goals rfl
  | lbt => constructor <;> intros <;> rfl

/-- Captured records, applied in any order, overwrite what their kinds describe. -/
theorem overwritten_applyAll (src : FpState) {kinds : List RecordKind} {order : List Record}
    (hp : order.Perm (kinds.map (Record.capture · src))) (dst : FpState) :
    FpState.Overwritten kinds src dst (Record.applyAll order dst) := by
  have hmap : ∀ (ks : List RecordKind) (dst : FpState),
      FpState.Overwritten ks src dst (Record.applyAll (ks.map (Record.capture · src)) dst) := by
    intro ks
    induction ks with
    | nil => intro dst; constructor <;> intros <;> rfl
    | cons k ks ih => intro dst; exact (overwritten_apply k src dst).append (ih _)
  -- an order of the records is an order of their kinds
  have hkinds : (order.map Record.kind).Perm kinds := by
    rw [← kinds_capture kinds fun _ => src]
    exact hp.map _
  have horder : (order.map Record.kind).map (Record.capture · src) = order := by
    rw [List.map_map]
    refine (List.map_congr_left fun r hr => ?_).trans (List.map_id order)
    obtain ⟨k, -, rfl⟩ := List.mem_map.1 (hp.mem_iff.1 hr)
    exact congrArg (Record.capture · src) (Record.kind_capture k src)
  rw [← horder]
  exact (hmap _ dst).perm hkinds

/-! ## The way through memory -/

/-- What is in memory once a captured state was written for compatible kinds. -/
theorem chainAt_write_capture (hw : Hardware) {sp : UInt64} {kinds : List RecordKind}
    (src : FpState) (hs : ChainLayout.Sound sp kinds) (hc : RecordKind.Compatible kinds) :
    ChainAt ((ChainLayout.plan sp kinds).write (kinds.map (Record.capture · src)) hw).memory
      sp.toNat (ChainLayout.plan sp kinds).low (kinds.map (Record.capture · src)).reverse := by
  have hkinds := kinds_capture kinds fun _ => src
  have hpad : ∀ r ∈ kinds.map (Record.capture · src), r.Padded := by
    intro r hr
    obtain ⟨k, -, rfl⟩ := List.mem_map.1 hr
    exact Record.padded_capture k src
  rw [← hkinds] at hs hc
  have h := ChainLayout.chainAt_plan hw.memory hs hc hpad
  rw [hkinds] at h
  rw [ChainLayout.write_eq]
  exact h

/-- The chain of a layout is read back, whatever was in memory before. For one bank at most and
binary translation at most once, in any order and below any stack pointer with room for them, the
reader finds the captured records in the reverse order; and written back in any order, over any
state, they overwrite exactly what their kinds describe with what was captured. -/
theorem readChain_write (hw : Hardware) (sp : UInt64) (kinds : List RecordKind) (src : FpState)
    (hbank : kinds.countP (·.isBank) ≤ 1) (hlbt : kinds.count .lbt ≤ 1)
    (hroom : ChainLayout.Sound sp kinds)
    (hread : (hw.checkUser (ChainLayout.plan sp kinds).low
      (sp.toNat - (ChainLayout.plan sp kinds).low.toNat) .read).1 = true) :
    let layout := ChainLayout.plan sp kinds
    let records := kinds.map (Record.capture · src)
    ((layout.write records hw).readChain layout.low).1 = .ok records.reverse ∧
      ∀ order : List Record, order.Perm records → ∀ dst : FpState,
        FpState.Overwritten kinds src dst (Record.applyAll order dst) := by
  intro layout records
  have hc : RecordKind.Compatible kinds := (RecordKind.compatible_iff kinds).2 ⟨hbank, hlbt⟩
  have hkinds : records.map Record.kind = kinds := kinds_capture kinds fun _ => src
  refine ⟨?_, fun order hp dst => overwritten_applyAll src hp dst⟩
  have hreadable : hw.Readable layout.low.toNat sp.toNat := by
    have hpos := ((Geometry.granted_checkUser_iff ..).1 hread).2.1
    have h := Hardware.readable_of_granted hread (.inl rfl)
    rwa [Nat.add_sub_cancel' (Nat.le_of_lt (Nat.lt_of_sub_pos hpos))] at h
  have hmap : Hardware.SameMap hw (layout.write records hw) := by
    rw [ChainLayout.write_eq]
    exact ⟨rfl, rfl, rfl⟩
  refine Hardware.readChain_of_chainAt sp.toNat_lt (chainAt_write_capture hw src hroom hc)
    (hreadable.congr hmap) ?_ ?_
  · rw [List.length_reverse, ← List.length_map (f := Record.kind), hkinds]
    exact Nat.lt_of_le_of_lt hc.length_le (by decide)
  · rw [List.map_reverse, hkinds]
    exact hc.reverse

/-- Both units, binary translation on top, below a stack pointer that is not aligned. -/
theorem readChain_write_unaligned :
    let hw := Hardware.mapped ⟨true, true, true, true⟩
    let src := { FpState.cleared with fcsr := 0x100000003, ftop := 5 }
    let records := [RecordKind.lbt, .bank .lasx].map (Record.capture · src)
    (((ChainLayout.plan 0x100007 [.lbt, .bank .lasx]).write records hw).readChain
        (ChainLayout.plan 0x100007 [.lbt, .bank .lasx]).low).1 = .ok records.reverse ∧
      ∀ dst : FpState, (Record.applyAll records dst).fcsr = 3 := by
  intro hw src records
  obtain ⟨hread, hput⟩ := readChain_write hw 0x100007 [.lbt, .bank .lasx] src (by decide)
    (by decide) ⟨by decide, ChainLayout.fitsBelow_of_reach _ _ (by decide)⟩ (by decide +kernel)
  refine ⟨hread, fun dst => ?_⟩
  have hfcsr := (hput records (.refl records) dst).fcsr
  rw [if_pos (by decide)] at hfcsr
  exact hfcsr.trans (by decide)

end TrapLayer
