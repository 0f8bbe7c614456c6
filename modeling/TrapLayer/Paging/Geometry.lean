import TrapLayer.Ident

/-!
# Page-table geometry

How many levels a page table has and how large a base page is. Entries take eight bytes and a
table fills one base page, so the page size fixes how many address bits each level translates.
Level 0 is the root. Only eight shapes are accepted: 2 to 4 levels, base pages of 4, 16 or 64 KiB,
and not the one of them that would translate more than 64 address bits.
-/
namespace TrapLayer

structure Geometry where
  levels : Nat
  pageShift : Nat
  levels_mem : levels = 2 ∨ levels = 3 ∨ levels = 4
  shift_mem : pageShift = 12 ∨ pageShift = 14 ∨ pageShift = 16
  covers : pageShift + levels * (pageShift - 3) ≤ 64
  deriving DecidableEq

/-- Why a shape is not a geometry. -/
inductive GeometryError
  | levels
  | pageSize
  | coverage
  deriving DecidableEq, Repr

def GeometryError.message : GeometryError → String
  | levels => "page table must have 2, 3 or 4 levels"
  | pageSize => "page size must be 4K, 16K or 64K"
  | coverage => "geometry covers more than 64 address bits"

namespace Geometry

/-- The geometry of that shape, if it is one. -/
def build (levels pageShift : Nat) : Except GeometryError Geometry :=
  if hl : levels = 2 ∨ levels = 3 ∨ levels = 4 then
    if hs : pageShift = 12 ∨ pageShift = 14 ∨ pageShift = 16 then
      if hc : pageShift + levels * (pageShift - 3) ≤ 64 then
        .ok ⟨levels, pageShift, hl, hs, hc⟩
      else .error .coverage
    else .error .pageSize
  else .error .levels

/-- The geometry of the running system: four levels of 4 KiB pages. -/
def active : Geometry := ⟨4, 12, by decide, by decide, by decide⟩

/-- Bytes of a base page. -/
def pageSize (g : Geometry) : Nat := 2 ^ g.pageShift

/-- Address bits that one level translates. -/
def indexBits (g : Geometry) : Nat := g.pageShift - 3

/-- Entries of one table. -/
def entries (g : Geometry) : Nat := 2 ^ g.indexBits

/-- Address bits that the whole walk translates. -/
def vaWidth (g : Geometry) : Nat := g.pageShift + g.levels * g.indexBits

/-- The level whose entries map base pages. -/
def lastLevel (g : Geometry) : Nat := g.levels - 1

/-- Lowest address bit that selects an entry at `level`. -/
def levelShift (g : Geometry) (level : Nat) : Nat :=
  g.pageShift + (g.levels - 1 - level) * g.indexBits

/-- Bytes that one entry at `level` translates. -/
def span (g : Geometry) (level : Nat) : Nat := 2 ^ g.levelShift level

/-- The entry that `va` selects at `level`. -/
def index (g : Geometry) (level : Nat) (va : UInt64) : Nat := va.toNat / g.span level % g.entries

/-- First address above the lower half: the reach of the walk, capped by what the hardware
translates. -/
def userEnd (g : Geometry) : Nat := 2 ^ min g.vaWidth vaBits

/-- First address of the upper half. -/
def kernelStart (g : Geometry) : Nat := 2 ^ 64 - g.userEnd

/-! ## Fields of the hardware walker -/

/-- Base and width of the last level and of the two levels above it, five bits each. -/
def walkControlLow (g : Geometry) : UInt64 :=
  let w := UInt64.ofNat g.indexBits
  let base := UInt64.ofNat g.pageShift
  let last := base ||| (w <<< 5)
  let middle := if g.levels > 2 then ((base + w) <<< 10) ||| (w <<< 15) else 0
  let upper := if g.levels > 3 then ((base + 2 * w) <<< 20) ||| (w <<< 25) else 0
  last ||| middle ||| upper

/-- Base and width of the root level, six bits each. -/
def walkControlHigh (g : Geometry) : UInt64 :=
  UInt64.ofNat (g.levelShift 0) ||| (UInt64.ofNat g.indexBits <<< 6)

end Geometry

end TrapLayer
