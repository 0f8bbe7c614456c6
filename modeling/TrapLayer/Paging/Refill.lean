import TrapLayer.Hardware

/-!
# Page misses

A page-invalid exception is resolved by walking the live table of the half its address lies in. If
the leaf allows the access, an even and an odd entry are loaded for the pair of pages around the
address: both halves of a huge page, or a base page and its neighbour as it stands in the table. The
entry that missed is marked valid, and dirty after a store to a clean page.
-/
namespace TrapLayer

/-- Why a miss was not resolved. -/
inductive MissError
  | walk (cause : WalkError)
  /-- The leaf does not allow the access. -/
  | denied (entry : UInt64)
  deriving DecidableEq, Repr

def MissError.message : MissError → String
  | walk cause => "Walk(" ++ cause.message ++ ")"
  | denied entry => "Denied \x7b entry: " ++ toString entry ++ " \x7d"

/-- The pair of entries loaded for a miss; `pageShift` is the size of each half. -/
structure Refill where
  va : UInt64
  lo0 : UInt64
  lo1 : UInt64
  pageShift : Nat
  deriving DecidableEq, Repr

namespace Refill

/-- The two halves of a huge page. -/
def ofHuge (g : Geometry) (badv entry : UInt64) (level : Nat) : Refill :=
  let lo0 := entry &&& ~~~ Entry.huge
  ⟨alignDown badv (UInt64.ofNat (g.span level)), lo0,
    lo0 + UInt64.ofNat (2 ^ (g.levelShift level - 1)), g.levelShift level - 1⟩

/-- The two halves of a huge page, or a stop where the second one does not start in a word. -/
def ofHugeChecked (g : Geometry) (badv entry : UInt64) (level : Nat) : Checked Refill := do
  let lo0 := entry &&& ~~~ Entry.huge
  let lo1 ← Checked.add lo0 (UInt64.ofNat (2 ^ (g.levelShift level - 1)))
  return ⟨alignDown badv (UInt64.ofNat (g.span level)), lo0, lo1, g.levelShift level - 1⟩

/-- The address is in the odd page of its pair. -/
def isOdd (g : Geometry) (badv : UInt64) : Bool := bitOf badv g.pageShift

/-- First address of the pair of base pages around an address. -/
def pairBase (g : Geometry) (badv : UInt64) : UInt64 :=
  alignDown badv (UInt64.ofNat (2 * g.pageSize))

/-- First address of the other page of the pair. -/
def neighbour (g : Geometry) (badv : UInt64) : UInt64 :=
  if isOdd g badv then pairBase g badv else pairBase g badv + UInt64.ofNat g.pageSize

/-- A base page and its neighbour. -/
def ofPair (g : Geometry) (badv entry other : UInt64) : Refill :=
  if isOdd g badv then ⟨pairBase g badv, other, entry, g.pageShift⟩
  else ⟨pairBase g badv, entry, other, g.pageShift⟩

end Refill

/-- The entry loaded for a leaf that allows the access. -/
def refillEntry (entry : UInt64) (kind : MissKind) : UInt64 :=
  entry ||| Entry.valid ||| (if kind = .modify then Entry.dirty else 0)

namespace Hardware

/-- The root register of the half an address lies in. -/
def rootFor (g : Geometry) (va : UInt64) : Csr :=
  if g.kernelStart ≤ va.toNat then .pgdh else .pgdl

/-- The pair for a leaf that allows the access. -/
def refillFor (hw : Hardware) (root badv : UInt64) (leaf : Leaf) (kind : MissKind) :
    Refill × Hardware :=
  let entry := refillEntry leaf.entry kind
  if leaf.isHuge hw.geometry then (.ofHuge hw.geometry badv entry leaf.level, hw)
  else
    let w := hw.walk root (Refill.neighbour hw.geometry badv)
    let other := match w.1 with
      | .ok l => l.entry
      | .error _ => 0
    (.ofPair hw.geometry badv entry other, w.2)

/-- Resolves a page-invalid exception at `badv`, for an access from user mode or not. -/
def resolveMiss (hw : Hardware) (badv : UInt64) (fromUser : Bool) (kind : MissKind) :
    Except MissError Refill × Hardware :=
  let root := hw.readCsr (rootFor hw.geometry badv)
  let w := hw.walk root badv
  match w.1 with
  | .error e => (.error (.walk e), w.2)
  | .ok leaf =>
    if Entry.allowsMiss leaf.entry fromUser kind then
      let r := w.2.refillFor root badv leaf kind
      (.ok r.1, r.2.fillTlb r.1.va r.1.lo0 r.1.lo1 r.1.pageShift)
    else (.error (.denied leaf.entry), w.2)

def refillForChecked (hw : Hardware) (root badv : UInt64) (leaf : Leaf) (kind : MissKind) :
    Checked (Refill × Hardware) := do
  if leaf.isHuge hw.geometry then
    let r ← Refill.ofHugeChecked hw.geometry badv (refillEntry leaf.entry kind) leaf.level
    return (r, hw)
  else return hw.refillFor root badv leaf kind

/-- Resolves a page-invalid exception, or stops before the translation buffer is filled. -/
def resolveMissChecked (hw : Hardware) (badv : UInt64) (fromUser : Bool) (kind : MissKind) :
    Checked (Except MissError Refill × Hardware) := do
  let root := hw.readCsr (rootFor hw.geometry badv)
  let w := hw.walk root badv
  match w.1 with
  | .error e => return (.error (.walk e), w.2)
  | .ok leaf =>
    if Entry.allowsMiss leaf.entry fromUser kind then
      let r ← w.2.refillForChecked root badv leaf kind
      return (.ok r.1, r.2.fillTlb r.1.va r.1.lo0 r.1.lo1 r.1.pageShift)
    else return (.error (.denied leaf.entry), w.2)

end Hardware

end TrapLayer
