import TrapLayer.Paging.Entry
import TrapLayer.Paging.Geometry

/-!
# Walks and range checks

A walk reads one entry a level, from the root to the leaf that translates an address. An empty
entry ends it without a leaf; an entry with the huge bit ends it above the last level. What it read
is part of its result. Before user memory is touched, every base page of the range is walked in the
live table and its leaf is asked for the access.

* `length_reads_le`: a walk reads at most one entry a level.
* `granted_checkPages`: pages are granted together when each of them is.
-/
namespace TrapLayer

/-- Contents of the table pages: the entry at an index of the table at a physical address. -/
structure PageTables where
  entry : UInt64 → Nat → UInt64

namespace PageTables

/-- Tables in which every entry is empty. -/
def empty : PageTables := ⟨fun _ _ => 0⟩

def write (t : PageTables) (table : UInt64) (index : Nat) (v : UInt64) : PageTables :=
  ⟨fun a i => if a = table ∧ i = index then v else t.entry a i⟩

end PageTables

/-- One entry read by a walk. -/
structure TableRead where
  level : Nat
  table : UInt64
  index : Nat
  deriving DecidableEq, Repr

/-- The entry a walk ends at; above the last level it maps a huge page. -/
structure Leaf where
  entry : UInt64
  level : Nat
  deriving DecidableEq, Repr

def Leaf.isHuge (leaf : Leaf) (g : Geometry) : Bool := leaf.level + 1 < g.levels

/-- Why a walk ended without a leaf. -/
inductive WalkError
  /-- The entry at `level` is empty. -/
  | notPresent (level : Nat)
  deriving DecidableEq, Repr

def WalkError.message : WalkError → String
  | notPresent level => "NotPresent \x7b level: " ++ toString level ++ " \x7d"

structure Walk where
  reads : List TableRead
  result : Except WalkError Leaf

namespace Geometry

/-- The walk from `table`, with `n` levels still below it. -/
def walkFrom (g : Geometry) (t : PageTables) (va : UInt64) : Nat → UInt64 → Walk
  | 0, _ => ⟨[], .error (.notPresent g.lastLevel)⟩
  | n + 1, table =>
    let level := g.lastLevel - n
    let read : TableRead := ⟨level, table, g.index level va⟩
    let entry := t.entry table read.index
    if entry = 0 then ⟨[read], .error (.notPresent level)⟩
    else if n = 0 ∨ Entry.isHuge entry then ⟨[read], .ok ⟨entry, level⟩⟩
    else
      let rest := g.walkFrom t va n (Entry.address entry)
      { rest with reads := read :: rest.reads }

/-- The walk from `root` to the leaf that translates `va`. -/
def walk (g : Geometry) (t : PageTables) (root va : UInt64) : Walk :=
  g.walkFrom t va g.levels (Entry.address root)

theorem length_reads_walkFrom_le (g : Geometry) (t : PageTables) (va : UInt64) :
    ∀ n table, (g.walkFrom t va n table).reads.length ≤ n
  | 0, _ => by simp [walkFrom]
  | n + 1, table => by
    have ih := length_reads_walkFrom_le g t va n
    simp only [walkFrom]
    split
    · simp
    · split
      · simp
      · simp [ih]

theorem length_reads_le (g : Geometry) (t : PageTables) (root va : UInt64) :
    (g.walk t root va).reads.length ≤ g.levels :=
  length_reads_walkFrom_le g t va _ _

end Geometry

/-! ## Range checks

The check stops at the first page that fails. An empty range, a range at address zero and a range
that wraps fail without a walk, and so does one that leaves its half of the address space.
-/

/-- The answer of a range check and the entries it read, newest first. -/
structure RangeCheck where
  granted : Bool
  reads : List TableRead

/-- The walk found a leaf, and the leaf grants the access. -/
def Walk.grants (w : Walk) (access : Access) (half : Half) : Bool :=
  match w.result with
  | .ok leaf => Entry.permits leaf.entry access half
  | .error _ => false

namespace Geometry

/-- The walk to the base page of that number. -/
def walkPage (g : Geometry) (t : PageTables) (root : UInt64) (page : Nat) : Walk :=
  g.walk t root (UInt64.ofNat (page * g.pageSize))

/-- Checks `n` base pages, the first of number `page`, after the entries `seen` were read. -/
def checkPages (g : Geometry) (t : PageTables) (root : UInt64) (access : Access) (half : Half) :
    Nat → Nat → List TableRead → RangeCheck
  | _, 0, seen => ⟨true, seen⟩
  | page, n + 1, seen =>
    let w := g.walkPage t root page
    let seen := w.reads.reverse ++ seen
    if w.grants access half then g.checkPages t root access half (page + 1) n seen
    else ⟨false, seen⟩

theorem granted_checkPages (g : Geometry) (t : PageTables) (root : UInt64) (access : Access)
    (half : Half) (n : Nat) : ∀ page seen,
    (g.checkPages t root access half page n seen).granted = true ↔
      ∀ i < n, (g.walkPage t root (page + i)).grants access half = true := by
  induction n with
  | zero => intro page seen; simp [checkPages]
  | succ n ih =>
    intro page seen
    rw [checkPages, Nat.forall_lt_succ_left]
    split
    · rename_i h
      simp only [ih, h, true_and, Nat.add_zero, Nat.add_assoc, Nat.add_comm 1]
    · rename_i h
      simp [h]

/-- Checks the base pages of `[first, stop)`, a range that is not empty. -/
def checkSpan (g : Geometry) (t : PageTables) (root : UInt64) (first stop : Nat) (access : Access)
    (half : Half) : RangeCheck :=
  let page := first / g.pageSize
  let last := (stop - 1) / g.pageSize
  g.checkPages t root access half page (last - page + 1) []

/-- The end of `[addr, addr + len)`, if the range is not empty, does not start at zero and does
not wrap. -/
def rangeEnd? (addr : UInt64) (len : Nat) : Option Nat :=
  if addr = 0 ∨ len = 0 ∨ 2 ^ 64 ≤ addr.toNat + len then none else some (addr.toNat + len)

/-- Checks `[addr, addr + len)` in the lower half, below `root`. -/
def checkUser (g : Geometry) (t : PageTables) (root addr : UInt64) (len : Nat) (access : Access) :
    RangeCheck :=
  match rangeEnd? addr len with
  | none => ⟨false, []⟩
  | some stop =>
    if addr < userStart ∨ g.userEnd < stop then ⟨false, []⟩
    else g.checkSpan t root addr.toNat stop access .user

/-- Checks `[addr, addr + len)` in the upper half, below `root`. -/
def checkKernel (g : Geometry) (t : PageTables) (root addr : UInt64) (len : Nat)
    (access : Access) : RangeCheck :=
  match rangeEnd? addr len with
  | none => ⟨false, []⟩
  | some stop =>
    if addr.toNat < g.kernelStart then ⟨false, []⟩
    else g.checkSpan t root addr.toNat stop access .kernel

end Geometry

end TrapLayer
