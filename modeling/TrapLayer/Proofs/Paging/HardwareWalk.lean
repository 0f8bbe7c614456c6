import TrapLayer.Proofs.Paging.Refill

/-!
# The tree that the hardware walks

The hardware knows the shape of the tables by two control words: for each level, the lowest address
bit that selects an entry and the number of such bits. A walk that follows those fields is compared
with the software walk. The fields are five bits wide but for the root's, and nothing checks that a
base fits: with four levels of 16 KiB pages the second level starts at bit 36, and its field says 4.

* `walkLevels_treeLevels`: a walk by the right levels is the software walk.
* `programmedLevels_eq_iff`: the control words hold the right levels, for every shape but one.
* `hardware_walk_agrees_iff`: for those shapes both walks read the same entries and end at the same
  leaf.
* `hardware_walk_strays`: for that shape they do not.
-/
namespace TrapLayer

/-! ## Walking by fields -/

/-- The address bits that select an entry at one level: `width` of them, from `base` on. -/
structure LevelBits where
  base : Nat
  width : Nat
  deriving DecidableEq, Repr

def LevelBits.index (b : LevelBits) (va : UInt64) : Nat := va.toNat / 2 ^ b.base % 2 ^ b.width

/-- The field of a control word at bit `pos`. -/
def controlField (w : UInt64) (pos width : Nat) : Nat := w.toNat / 2 ^ pos % 2 ^ width

/-- The levels that two control words describe, root first. The high word holds the root; the low
word holds the last level in its lowest fields, and above it those of the levels in between. -/
def programmedLevels (levels : Nat) (low high : UInt64) : List LevelBits :=
  [⟨controlField high 0 6, controlField high 6 6⟩] ++
    (if 3 < levels then [⟨controlField low 20 5, controlField low 25 5⟩] else []) ++
    (if 2 < levels then [⟨controlField low 10 5, controlField low 15 5⟩] else []) ++
    [⟨controlField low 0 5, controlField low 5 5⟩]

/-- The walk from `table` by those levels, the first of which is number `level`. -/
def PageTables.walkLevels (t : PageTables) (va : UInt64) : Nat → List LevelBits → UInt64 → Walk
  | level, [], _ => ⟨[], .error (.notPresent level)⟩
  | level, b :: bs, table =>
    let read : TableRead := ⟨level, table, b.index va⟩
    let entry := t.entry table read.index
    if entry = 0 then ⟨[read], .error (.notPresent level)⟩
    else if bs = [] ∨ Entry.isHuge entry then ⟨[read], .ok ⟨entry, level⟩⟩
    else
      let rest := t.walkLevels va (level + 1) bs (Entry.address entry)
      { rest with reads := read :: rest.reads }

namespace Geometry

/-- The walk of hardware that was set up for a geometry. -/
def hardwareWalk (g : Geometry) (t : PageTables) (root va : UInt64) : Walk :=
  t.walkLevels va 0 (programmedLevels g.levels g.walkControlLow g.walkControlHigh)
    (Entry.address root)

/-! ## The levels of the tree -/

/-- The address bits that the software walk takes at a level. -/
def levelBits (g : Geometry) (level : Nat) : LevelBits := ⟨g.levelShift level, g.indexBits⟩

theorem index_levelBits (g : Geometry) (level : Nat) (va : UInt64) :
    (g.levelBits level).index va = g.index level va := rfl

/-- The last `n` levels of the tree. -/
def treeLevels (g : Geometry) : Nat → List LevelBits
  | 0 => []
  | n + 1 => g.levelBits (g.lastLevel - n) :: g.treeLevels n

theorem walkLevels_treeLevels (g : Geometry) (t : PageTables) (va : UInt64) :
    ∀ (n : Nat) (table : UInt64), n ≤ g.lastLevel →
      t.walkLevels va (g.lastLevel - n) (g.treeLevels (n + 1)) table =
        g.walkFrom t va (n + 1) table
  | 0, _, _ => by
    simp only [treeLevels, PageTables.walkLevels, walkFrom, index_levelBits, true_or, if_true]
  | n + 1, table, h => by
    have ih := walkLevels_treeLevels g t va n
      (Entry.address (t.entry table (g.index (g.lastLevel - (n + 1)) va))) (by omega)
    have hlevel : g.lastLevel - (n + 1) + 1 = g.lastLevel - n := by omega
    have hmore : g.treeLevels (n + 1) ≠ [] := List.cons_ne_nil _ _
    rw [treeLevels, PageTables.walkLevels, walkFrom]
    simp only [index_levelBits, hlevel, hmore, Nat.succ_ne_zero, false_or, ih]

/-- The control words hold the levels of the tree, but for four levels of 16 KiB pages. -/
theorem programmedLevels_eq_iff (g : Geometry) :
    programmedLevels g.levels g.walkControlLow g.walkControlHigh = g.treeLevels g.levels ↔
      ¬ (g.levels = 4 ∧ g.pageShift = 14) := by
  obtain ⟨levels, shift, hl, hs, hc⟩ := g
  rcases hl with rfl | rfl | rfl <;> rcases hs with rfl | rfl | rfl <;> revert hc <;>
    decide +kernel

theorem hardwareWalk_eq_walk {g : Geometry} (h : ¬ (g.levels = 4 ∧ g.pageShift = 14))
    (t : PageTables) (root va : UInt64) : g.hardwareWalk t root va = g.walk t root va := by
  have hwalk := walkLevels_treeLevels g t va g.lastLevel (Entry.address root) (Nat.le_refl _)
  rw [Nat.sub_self, ← g.levels_eq] at hwalk
  unfold hardwareWalk walk
  rw [(programmedLevels_eq_iff g).2 h, hwalk]

/-! ## The shape that does not fit -/

/-- Four levels of 16 KiB pages: 58 address bits. -/
def fourBy16K : Geometry :=
  { active with pageShift := 14, shift_mem := by decide, covers := by decide }

/-- Tables in which every entry leads on to the page at `0x1000`. -/
def chained : PageTables := ⟨fun _ _ => 0x1000⟩

theorem fourBy16K_eq {g : Geometry} (hlevels : g.levels = 4) (hshift : g.pageShift = 14) :
    g = fourBy16K := by
  cases g with
  | mk levels shift hl hs hc =>
    simp only at hlevels hshift
    subst hlevels hshift
    rfl

/-- An address that differs in bit 36 alone takes entry 1 of the second table, and the hardware
takes entry 0. -/
theorem reads_ne_of_fourBy16K :
    (fourBy16K.hardwareWalk chained 0 0x1000000000).reads ≠
      (fourBy16K.walk chained 0 0x1000000000).reads := by
  decide +kernel

/-- The walk by the programmed fields reads the same entries in the same order as the software
walk, and ends at the same leaf or the same empty entry, for every table, root and address, exactly
when the shape is not four levels of 16 KiB pages. -/
theorem hardware_walk_agrees_iff (g : Geometry) :
    (∀ (t : PageTables) (root va : UInt64), g.hardwareWalk t root va = g.walk t root va) ↔
      ¬ (g.levels = 4 ∧ g.pageShift = 14) := by
  constructor
  · rintro h ⟨hlevels, hshift⟩
    rw [fourBy16K_eq hlevels hshift] at h
    exact reads_ne_of_fourBy16K (congrArg Walk.reads (h chained 0 0x1000000000))
  · exact hardwareWalk_eq_walk

/-- The second level of that shape starts at bit 36. Its field of five bits holds 4, and the two
walks read different entries. -/
theorem hardware_walk_strays :
    fourBy16K.levelShift 1 = 36 ∧ controlField fourBy16K.walkControlLow 20 5 = 4 ∧
      fourBy16K.hardwareWalk chained 0 0x1000000000 ≠ fourBy16K.walk chained 0 0x1000000000 := by
  refine ⟨rfl, by decide +kernel, fun h => ?_⟩
  exact reads_ne_of_fourBy16K (congrArg Walk.reads h)

end Geometry

end TrapLayer
