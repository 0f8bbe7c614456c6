import TrapLayer.Signal.Deliver

/-!
# Delivery under overflow checks

The stack arithmetic of a delivery, checked, in the order in which it is done; all of it comes before
anything is read or written. What a delivery computes is otherwise what it computes without the
checks.
-/
namespace TrapLayer

namespace AltStack

def containsChecked (s : AltStack) (sp : UInt64) : Checked Bool :=
  if s.enabled && decide (s.sp < sp) then do
    let above ← Checked.sub sp s.sp
    return decide (above ≤ s.size)
  else return false

/-- A stack pointer on the stack, and the one it moves to is not. -/
def leavesChecked (s : AltStack) (sp next : UInt64) : Checked Bool := do
  if ← s.containsChecked sp then return !(← s.containsChecked next)
  else return false

end AltStack

def signalStackTopChecked (alt : AltStack) (flags sp : UInt64) : Checked (Option UInt64) := do
  if ← alt.leavesChecked sp (sp - UInt64.ofNat SigFrame.size) then return none
  else if hasBits flags SigFlag.onStack && alt.enabled && !(← alt.containsChecked sp) then
    return some (alignDown (← Checked.add alt.sp alt.size) 16)
  else return some (alignDown sp 16)

namespace ChainLayout

def placeChecked (base : UInt64) (k : RecordKind) : Checked Placement := do
  let payload ← Checked.sub base (UInt64.ofNat k.payloadSize)
  let addr ← Checked.sub (alignDown payload (max k.align 16)) (UInt64.ofNat Record.headerSize)
  let size ← Checked.sub base addr
  return ⟨some k, addr, size⟩

def placeAllChecked : UInt64 → List RecordKind → Checked (List Placement)
  | _, [] => return []
  | base, k :: ks => do
    let block ← placeChecked base k
    return block :: (← placeAllChecked block.addr ks)

def planChecked (sp : UInt64) (kinds : List RecordKind) : Checked ChainLayout := do
  let size := UInt64.ofNat Record.headerSize
  let addr ← Checked.sub sp size
  return ⟨⟨none, addr, size⟩, ← placeAllChecked addr kinds⟩

end ChainLayout

/-- Lays out a plan below its top for code interrupted at `sp`, and accepts it. -/
def DeliveryPlan.acceptChecked (p : DeliveryPlan) (alt : AltStack) (sp : UInt64) :
    Checked (Except DeliverError DeliveryPlan) := do
  let layout ← ChainLayout.planChecked p.top p.kinds
  let addr ← Checked.sub layout.low (UInt64.ofNat SigFrame.size)
  if ← alt.leavesChecked sp addr then return .error .altStackOverflow
  else
    let _length ← Checked.sub p.top addr
    return .ok p

def planDeliveryChecked (features : Features) (task : Task) (sig : Signal)
    (frame : ExceptionFrame) : Checked (Except DeliverError DeliveryPlan) :=
  let action := task.signals.action sig
  match action.disposition sig with
  | .handler handler => do
    let alt := task.signals.altstack
    match ← signalStackTopChecked alt action.flags frame.sp with
    | none => return .error .altStackOverflow
    | some top =>
      if top.toNat < lowestStackTop then return .error (.badFrame top)
      else
        let p : DeliveryPlan :=
          ⟨action, handler, top, recordKinds features frame.euen task.switch.fpu⟩
        p.acceptChecked alt frame.sp
  | .ignore | .terminate | .stop => return .error (.noHandler sig)

/-- Checks the region of a plan and builds the delivery in it. -/
def DeliveryPlan.carryOut (p : DeliveryPlan) (hw : Hardware) (task : Task) (sig : Signal)
    (info : SigInfo) (frame : ExceptionFrame) : Except DeliverError Delivery × Hardware :=
  let c := hw.checkUser p.addr p.length .readWrite
  if c.1 then
    let b := build c.2 task sig info frame p
    (.ok b.1, b.2)
  else (.error (.badFrame p.addr), c.2)

/-- Builds the frame for a signal, or stops in the arithmetic that plans it. -/
def deliverChecked (hw : Hardware) (task : Task) (sig : Signal) (info : SigInfo)
    (frame : ExceptionFrame) : Checked (Except DeliverError Delivery × Hardware) := do
  match ← planDeliveryChecked hw.features task sig frame with
  | .error e => return (.error e, hw)
  | .ok p => return p.carryOut hw task sig info frame

end TrapLayer
