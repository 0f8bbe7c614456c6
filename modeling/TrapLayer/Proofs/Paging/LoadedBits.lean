import TrapLayer.Proofs.Paging.Misses

/-!
# What the loaded entries allow

The hardware knows two bits of the entries it was given: an entry that is not `valid` translates
nothing, and without `dirty` a store through it faults. The table has bits of its own for both,
`present` and `write`, and a miss asks the leaf for those. Only the page that missed is asked: the
other page of a pair is loaded as it stands in the table, which is also what the refill handler does
for any pair, and a bit that the table already has is never taken away.

* `bitOf_half_refill_of_onPage`: the page that missed gets its own entry, marked.
* `half_refill_of_ne`: the page beside it is loaded as it stands.
* `Refill.Marks.within_iff`: when no half of a refill allows more than its leaf.
* `refill_rights`: what the loaded pair allows, for every miss that is resolved.
-/
namespace TrapLayer

namespace Entry

theorem hasBits_valid (entry : UInt64) : hasBits entry valid = bitOf entry 0 :=
  hasBits_oneBit entry (i := 0) (by decide)

theorem hasBits_dirty (entry : UInt64) : hasBits entry dirty = bitOf entry 1 :=
  hasBits_oneBit entry (i := 1) (by decide)

/-- A leaf that allows a miss is present, and writable if the miss was a store to a clean page. -/
theorem present_of_allowsMiss {entry : UInt64} {fromUser : Bool} {kind : MissKind}
    (h : allowsMiss entry fromUser kind = true) :
    hasBits entry present = true ∧ (kind = .modify → hasBits entry write = true) := by
  unfold allowsMiss at h
  rw [Bool.and_eq_true, Bool.and_eq_true] at h
  refine ⟨h.1.1, ?_⟩
  rintro rfl
  exact h.2

/-- The entry says of itself no more than it is allowed to: it is valid only if present, and dirty
only if writable. -/
structure Consistent (entry : UInt64) : Prop where
  valid : hasBits entry Entry.valid = true → hasBits entry present = true
  dirty : hasBits entry Entry.dirty = true → hasBits entry write = true

end Entry

theorem bitOf_refillEntry_one (entry : UInt64) (kind : MissKind) :
    bitOf (refillEntry entry kind) 1 = true ↔ bitOf entry 1 = true ∨ kind = .modify := by
  have hv : bitOf Entry.valid 1 = false := by decide
  have hd : bitOf Entry.dirty 1 = true := by decide
  have hz : bitOf 0 1 = false := by decide
  unfold refillEntry
  rw [bitOf_or, bitOf_or, hv, Bool.or_false, Bool.or_eq_true]
  by_cases hk : kind = .modify
  · rw [if_pos hk, hd]
    simp only [hk]
  · rw [if_neg hk, hz]
    simp only [hk, Bool.false_eq_true]

namespace Geometry

variable {g : Geometry} {t : PageTables} {root badv va : UInt64} {leaf : Leaf}

/-- The address lies on the page of the leaf that missed, a huge page or a base page. -/
def OnPage (g : Geometry) (leaf : Leaf) (badv va : UInt64) : Prop :=
  va.toNat / g.span leaf.level = badv.toNat / g.span leaf.level

theorem onPage_of_covers_huge (kind : MissKind) (hh : leaf.isHuge g = true)
    (hc : (g.refill t root badv leaf kind).Covers va) : g.OnPage leaf badv va := by
  have hlt := (leaf.isHuge_iff g).1 hh
  have hshift := g.pageShift_lt_levelShift hlt
  have hhalf : (g.refill t root badv leaf kind).pageShift + 1 = g.levelShift leaf.level := by
    unfold refill
    rw [if_pos hh]
    exact Nat.sub_add_cancel (by omega)
  rw [refill_covers_iff, hhalf] at hc
  exact hc

/-- The page that missed gets its own entry in either half it fills, marked. -/
theorem bitOf_half_refill_of_onPage (hl : leaf.level ≤ g.lastLevel) (kind : MissKind)
    (hp : g.OnPage leaf badv va) {i : Nat} (hi : i < 6) :
    bitOf ((g.refill t root badv leaf kind).half va) i = bitOf (refillEntry leaf.entry kind) i := by
  unfold refill
  dsimp only
  split
  · rename_i hh
    exact Refill.bitOf_half_ofHuge ((leaf.isHuge_iff g).1 hh) _ _ _ hi
  · rename_i hh
    have hlast : leaf.level = g.lastLevel :=
      Nat.le_antisymm hl (Nat.le_of_not_lt fun h => hh ((leaf.isHuge_iff g).2 h))
    unfold OnPage span at hp
    rw [hlast, g.levelShift_lastLevel] at hp
    rw [Refill.half_ofPair, if_pos (by rw [bitOf_eq, bitOf_eq, hp])]

theorem half_refill_of_ne (hl : leaf.level ≤ g.lastLevel) (kind : MissKind)
    (hc : (g.refill t root badv leaf kind).Covers va) (hp : ¬ g.OnPage leaf badv va) :
    (g.refill t root badv leaf kind).half va = (g.walk t root va).entry := by
  have hh : ¬ leaf.isHuge g = true := fun h => hp (onPage_of_covers_huge kind h hc)
  have hlast : leaf.level = g.lastLevel :=
    Nat.le_antisymm hl (Nat.le_of_not_lt fun h => hh ((leaf.isHuge_iff g).2 h))
  rw [refill_covers_iff] at hc
  unfold refill at hc ⊢
  rw [if_neg hh] at hc ⊢
  rw [Refill.pageShift_ofPair] at hc
  have hpage := Refill.page_of_pair hc
  unfold OnPage span at hp
  rw [hlast, g.levelShift_lastLevel] at hp
  by_cases hb : bitOf va g.pageShift = bitOf badv g.pageShift
  · rw [if_pos hb] at hpage
    exact absurd hpage hp
  · rw [if_neg hb] at hpage
    rw [Refill.half_ofPair, if_neg hb, g.walk_eq_of_page t root hpage]

end Geometry

namespace Refill

/-- The half that translates an address carries no right that the entry of the table does not give:
it is valid only if that entry is present, and dirty only if it is writable. -/
structure Within (r : Refill) (va entry : UInt64) : Prop where
  valid : hasBits (r.half va) Entry.valid = true → hasBits entry Entry.present = true
  dirty : hasBits (r.half va) Entry.dirty = true → hasBits entry Entry.write = true

/-- How the halves of a refill come from the entries of the table: `leaf` is the one that missed,
at `badv`, and `entry` is what the table has for an address. -/
structure Marks (r : Refill) (g : Geometry) (badv : UInt64) (kind : MissKind) (leaf : Leaf)
    (entry : UInt64 → UInt64) : Prop where
  present : hasBits leaf.entry Entry.present = true
  writable : kind = .modify → hasBits leaf.entry Entry.write = true
  own : ∀ va, g.OnPage leaf badv va → entry va = leaf.entry
  valid : ∀ va, g.OnPage leaf badv va → hasBits (r.half va) Entry.valid = true
  dirty : ∀ va, g.OnPage leaf badv va → (hasBits (r.half va) Entry.dirty = true ↔
    hasBits leaf.entry Entry.dirty = true ∨ kind = .modify)
  /-- The page beside the one that missed is loaded as it stands. -/
  beside : ∀ va, r.Covers va → ¬ g.OnPage leaf badv va → r.half va = entry va

namespace Marks

variable {r : Refill} {g : Geometry} {badv va : UInt64} {kind : MissKind} {leaf : Leaf}
  {entry : UInt64 → UInt64}

/-- A half is valid for a page that is present, or beside the page that missed as the table says. -/
theorem present_or (h : r.Marks g badv kind leaf entry) (hc : r.Covers va)
    (hv : hasBits (r.half va) Entry.valid = true) :
    hasBits (entry va) Entry.present = true ∨
      ¬ g.OnPage leaf badv va ∧ hasBits (entry va) Entry.valid = true := by
  by_cases hp : g.OnPage leaf badv va
  · left
    rw [h.own va hp]
    exact h.present
  · right
    rw [h.beside va hc hp] at hv
    exact ⟨hp, hv⟩

/-- A half is dirty for a page that is writable, or as the table says. -/
theorem write_or (h : r.Marks g badv kind leaf entry) (hc : r.Covers va)
    (hd : hasBits (r.half va) Entry.dirty = true) :
    hasBits (entry va) Entry.write = true ∨ hasBits (entry va) Entry.dirty = true := by
  by_cases hp : g.OnPage leaf badv va
  · rw [h.own va hp]
    exact ((h.dirty va hp).1 hd).elim .inr fun hk => .inl (h.writable hk)
  · rw [h.beside va hc hp] at hd
    exact .inr hd

/-- No half goes beyond its entry exactly when the table itself does not. -/
theorem within_iff (h : r.Marks g badv kind leaf entry) (hbadv : r.Covers badv) :
    (∀ va, r.Covers va → r.Within va (entry va)) ↔
      (hasBits leaf.entry Entry.dirty = true → hasBits leaf.entry Entry.write = true) ∧
        ∀ va, r.Covers va → ¬ g.OnPage leaf badv va → Entry.Consistent (entry va) := by
  constructor
  · intro hall
    refine ⟨fun hd => ?_, fun va hc hp => ?_⟩
    · have hwrite := (hall badv hbadv).dirty ((h.dirty badv rfl).2 (.inl hd))
      rwa [h.own badv rfl] at hwrite
    · obtain ⟨hvalid, hdirty⟩ := hall va hc
      rw [h.beside va hc hp] at hvalid hdirty
      exact ⟨hvalid, hdirty⟩
  · rintro ⟨hleaf, hother⟩ va hc
    by_cases hp : g.OnPage leaf badv va
    · rw [h.own va hp]
      refine ⟨fun _ => h.present, fun hd => ?_⟩
      exact ((h.dirty va hp).1 hd).elim hleaf h.writable
    · obtain ⟨hvalid, hdirty⟩ := hother va hc hp
      constructor
      · rwa [h.beside va hc hp]
      · rwa [h.beside va hc hp]

end Marks

end Refill

theorem Geometry.marks_refill {g : Geometry} {t : PageTables} {root badv : UInt64} {leaf : Leaf}
    (hwalk : (g.walk t root badv).result = .ok leaf) {fromUser : Bool} {kind : MissKind}
    (hallow : Entry.allowsMiss leaf.entry fromUser kind = true) :
    (g.refill t root badv leaf kind).Marks g badv kind leaf fun va => (g.walk t root va).entry := by
  have hl := level_walk hwalk
  refine ⟨(Entry.present_of_allowsMiss hallow).1, (Entry.present_of_allowsMiss hallow).2,
    fun va hp => ?_, fun va hp => ?_, fun va hp => ?_, fun va => half_refill_of_ne hl kind⟩
  · simp only [walk_eq_of_span hwalk hp.symm, Walk.entry, hwalk]
  · rw [Entry.hasBits_valid, bitOf_half_refill_of_onPage hl kind hp (by decide)]
    exact bitOf_refillEntry_valid leaf.entry kind
  · rw [Entry.hasBits_dirty, Entry.hasBits_dirty,
      bitOf_half_refill_of_onPage hl kind hp (by decide)]
    exact bitOf_refillEntry_one leaf.entry kind

/-- A refill gives its pages no right that the table does not have for them in one form or the
other. The page that missed is present; its entry is loaded valid, and dirty if it is so in the
table or if the miss was a store to a clean page, which is writable then. The page beside it is
loaded as the table has it, an empty entry if it has none. So a half is valid only for a page that
is present, or whose own entry is valid beside the page that missed, and dirty only for a page that
is writable, or whose own entry is dirty. No half goes beyond what `present` and `write` give
exactly when the entry that missed is not dirty without being writable and the entry beside it is
consistent. -/
theorem refill_rights (hw : Hardware) {badv : UInt64} {fromUser : Bool} {kind : MissKind}
    {r : Refill} {hw' : Hardware} (h : hw.resolveMiss badv fromUser kind = (.ok r, hw')) :
    let walk := hw.geometry.walk hw.tables (hw.readCsr (Hardware.rootFor hw.geometry badv))
    (hw'.since hw.mark).filter Effect.isFill = [.tlbFill r.va r.lo0 r.lo1 r.pageShift] ∧
    ∃ leaf, (walk badv).result = .ok leaf ∧
      r.Marks hw.geometry badv kind leaf (fun va => (walk va).entry) ∧
      (∀ va, r.Covers va →
        (hasBits (r.half va) Entry.valid = true →
          hasBits (walk va).entry Entry.present = true ∨
            ¬ hw.geometry.OnPage leaf badv va ∧ hasBits (walk va).entry Entry.valid = true) ∧
        (hasBits (r.half va) Entry.dirty = true →
          hasBits (walk va).entry Entry.write = true ∨
            hasBits (walk va).entry Entry.dirty = true)) ∧
      ((∀ va, r.Covers va → r.Within va (walk va).entry) ↔
        (hasBits leaf.entry Entry.dirty = true → hasBits leaf.entry Entry.write = true) ∧
          ∀ va, r.Covers va → ¬ hw.geometry.OnPage leaf badv va →
            Entry.Consistent (walk va).entry) := by
  intro walk
  rcases hw.resolveMiss_cases badv fromUser kind with
    ⟨leaf, reads, hwalk, hallow, heq⟩ | ⟨e, reads, -, heq⟩
  · rw [heq] at h
    cases h
    have hmarks := Geometry.marks_refill hwalk hallow
    exact ⟨(Hardware.fills_noteReads reads [_] rfl).trans rfl, leaf, hwalk, hmarks,
      fun va hc => ⟨hmarks.present_or hc, hmarks.write_or hc⟩,
      hmarks.within_iff ((Geometry.refill_covers_iff kind badv).2 rfl)⟩
  · rw [heq] at h
    cases h

/-- Both halves of a huge page that is writable stay within its leaf after a store to it. -/
theorem refill_rights_oneLeaf :
    ∃ r hw', Hardware.oneLeaf.resolveMiss 0x20001234 true .modify = (.ok r, hw') ∧
      r.Covers 0x1fffffff ∧ hasBits (r.half 0x1fffffff) Entry.dirty = true ∧
      ∀ va, r.Covers va → r.Within va (Hardware.oneLeaf.geometry.walk Hardware.oneLeaf.tables
        (Hardware.oneLeaf.readCsr .pgdl) va).entry := by
  have hr : Hardware.oneLeaf.resolveMiss 0x20001234 true .modify =
      (.ok ⟨0, 0x8000018f, 0xa000018f, 29⟩, _) := rfl
  obtain ⟨-, leaf, hwalk, hmarks, -, hwithin⟩ := refill_rights .oneLeaf hr
  have hleaf : leaf = ⟨0x800001cc, 1⟩ := Except.ok.inj (hwalk.symm.trans rfl)
  subst hleaf
  refine ⟨_, _, hr, ⟨by decide, by decide⟩, by decide +kernel, hwithin.2 ⟨by decide, ?_⟩⟩
  rintro va ⟨-, hlt⟩ hp
  refine absurd ?_ hp
  unfold Geometry.OnPage
  exact (Nat.div_eq_of_lt hlt).trans (by decide +kernel)

/-- Tables that map the pair of base pages at zero by those entries. -/
def PageTables.pair (even odd : UInt64) : PageTables :=
  let tables := ((empty.write 0 0 0x1000).write 0x1000 0 0x2000).write 0x2000 0 0x3000
  (tables.write 0x3000 0 even).write 0x3000 1 odd

/-- Hardware on which the page at zero is present and dirty but not writable, and the one behind it
valid and dirty, but neither present nor writable. -/
def Hardware.markedPages : Hardware :=
  { Hardware.oneLeaf with
    tables := .pair (0x80000000 ||| Entry.present ||| Entry.user ||| Entry.dirty)
      (0x90000000 ||| Entry.valid ||| Entry.dirty) }

/-- A load from the first page makes the second one valid, and lets stores to both pass. -/
theorem refill_beyond_leaf :
    let entry := fun va => (Hardware.markedPages.geometry.walk Hardware.markedPages.tables
      (Hardware.markedPages.readCsr .pgdl) va).entry
    ∃ r, (Hardware.markedPages.resolveMiss 0x10 true .load).1 = .ok r ∧
      (r.Covers 0x10 ∧ hasBits (r.half 0x10) Entry.dirty = true ∧
        hasBits (entry 0x10) Entry.write = false) ∧
      r.Covers 0x1010 ∧ hasBits (r.half 0x1010) Entry.valid = true ∧
        hasBits (entry 0x1010) Entry.present = false ∧
        hasBits (r.half 0x1010) Entry.dirty = true ∧
        hasBits (entry 0x1010) Entry.write = false := by
  refine ⟨⟨0, 0x8000008f, 0x90000003, 12⟩, rfl, ⟨⟨by decide, by decide⟩, ?_⟩,
    ⟨by decide, by decide⟩, ?_⟩ <;> decide +kernel

end TrapLayer
