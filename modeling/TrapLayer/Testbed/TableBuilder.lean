import Std.Data.HashMap
import TrapLayer.Hardware

/-!
# Building page tables

Table pages and page frames are handed out upward from a base address, and leaves are put into the
tree below a root register. A table page that was never handed out reads as empty and keeps nothing
that is written to it.
-/
namespace TrapLayer

structure TableBuilder where
  geometry : Geometry
  /-- The entries of each table page that was handed out, by its base address. -/
  pages : Std.HashMap UInt64 (Array UInt64)
  /-- The next address to hand out. -/
  next : UInt64

namespace TableBuilder

/-- Address of the first page that is handed out. -/
def base : UInt64 := 0x100000

def empty (g : Geometry) : TableBuilder := ⟨g, ∅, base⟩

/-- The entry at an index of a table page; zero outside the pages that were handed out. -/
def entry (b : TableBuilder) (table : UInt64) (index : Nat) : UInt64 :=
  match b.pages[table]? with
  | some page => page[index]?.getD 0
  | none => 0

/-- What a walk sees of the pages. -/
def tables (b : TableBuilder) : PageTables := ⟨b.entry⟩

/-- Hands out a table page. -/
def newTable (b : TableBuilder) : UInt64 × TableBuilder :=
  (b.next,
    { b with
      pages := b.pages.insert b.next (Array.replicate b.geometry.entries 0)
      next := b.next + UInt64.ofNat b.geometry.pageSize })

/-- Hands out `size` bytes, aligned to their size. -/
def newFrame (b : TableBuilder) (size : UInt64) : UInt64 × TableBuilder :=
  let addr := alignDown (b.next + size - 1) size
  (addr, { b with next := addr + size })

/-- Writes an entry of a table page that was handed out. -/
def write (b : TableBuilder) (table : UInt64) (index : Nat) (v : UInt64) : TableBuilder :=
  { b with pages := b.pages.modify table fun page => page.setIfInBounds index v }

/-- The table that `n` more levels lead to, from `table` at `level`; missing ones are made. -/
def descend (b : TableBuilder) (va : UInt64) (level : Nat) (table : UInt64) :
    Nat → UInt64 × TableBuilder
  | 0 => (table, b)
  | n + 1 =>
    let index := b.geometry.index level va
    let entry := b.entry table index
    if entry = 0 then
      let made := b.newTable
      (made.2.write table index made.1).descend va (level + 1) made.1 n
    else b.descend va (level + 1) (Entry.address entry) n

/-- Puts a leaf for `va` at `level` below `root`; above the last level it is marked huge. Gives the
entry. -/
def map (b : TableBuilder) (root va : UInt64) (level : Nat) (flags : UInt64) :
    UInt64 × TableBuilder :=
  let d := b.descend va 0 root level
  let f := d.2.newFrame (UInt64.ofNat (b.geometry.span level))
  let entry := f.1 ||| flags ||| (if level < b.geometry.lastLevel then Entry.huge else 0)
  (entry, f.2.write d.1 (b.geometry.index level va) entry)

/-- Puts leaves for `n + 1` consecutive base pages; gives the last entry. -/
def mapPages (b : TableBuilder) (root va : UInt64) (level : Nat) (flags : UInt64) :
    Nat → UInt64 × TableBuilder
  | 0 => b.map root va level flags
  | n + 1 =>
    (b.map root va level flags).2.mapPages root (va + UInt64.ofNat b.geometry.pageSize) level
      flags n

/-- Flags of a user page that can be read and written. -/
def userReadWrite : UInt64 :=
  Entry.present ||| Entry.valid ||| Entry.user ||| Entry.write ||| Entry.dirty

/-- Clears the leaf that translates `va`, with `n` levels still below the one at hand. -/
def unmapFrom (b : TableBuilder) (va : UInt64) : Nat → UInt64 → TableBuilder
  | n, table =>
    if !b.pages.contains table then b
    else
      let level := b.geometry.lastLevel - n
      let index := b.geometry.index level va
      let entry := b.entry table index
      match n with
      | 0 => b.write table index 0
      | n + 1 =>
        if Entry.isHuge entry then b.write table index 0
        else if entry = 0 then b
        else b.unmapFrom va n (Entry.address entry)

def unmap (b : TableBuilder) (root va : UInt64) : TableBuilder :=
  b.unmapFrom va b.geometry.lastLevel root

end TableBuilder

end TrapLayer
