import TrapLayer.Signal.Chain
import TrapLayer.Signal.Image
import TrapLayer.Task

/-!
# Signal delivery

Delivery builds a signal frame on the user stack and redirects the interrupted frame to the
handler. Everything is decided first, by `planDelivery`, from the task and the frame alone; then the
whole region is checked; and only then is anything saved or written.

* `deliver_eq`: a delivery is its plan, the check of the planned region, and the building of it.
-/
namespace TrapLayer

/-- Why no signal frame was built. -/
inductive DeliverError
  /-- The signal has no handler. -/
  | noHandler (sig : Signal)
  /-- The interrupted code runs on the alternate stack and the frame does not fit on it. -/
  | altStackOverflow
  /-- The region is not readable and writable user memory. -/
  | badFrame (addr : UInt64)
  deriving DecidableEq, Repr

def DeliverError.message : DeliverError → String
  | noHandler sig => "NoHandler(" ++ toString sig ++ ")"
  | altStackOverflow => "AltStackOverflow"
  | badFrame addr => "BadFrame \x7b addr: " ++ toString addr ++ " \x7d"

/-! ## Where the frame goes -/

/-- The top of the stack the frame is built on, 16-byte aligned. There is none when the stack
pointer is on the alternate stack and even the bare frame below it would leave that stack. -/
def signalStackTop (alt : AltStack) (flags sp : UInt64) : Option UInt64 :=
  if alt.contains sp && !alt.contains (sp - UInt64.ofNat SigFrame.size) then none
  else if hasBits flags SigFlag.onStack && alt.enabled && !alt.contains sp then
    some (alignDown (alt.sp + alt.size) 16)
  else some (alignDown sp 16)

/-- The word that stands for a stack without room. -/
def noStackTop : UInt64 := 0xffffffffffffffff

/-- Room kept below the stack top for the largest chain. -/
def chainRoom : Nat := 2048

/-- A stack top below this has no room for a frame above page zero. -/
def lowestStackTop : Nat := userStart.toNat + SigFrame.size + chainRoom

/-! ## Which records follow it -/

/-- The bank to save: the widest enabled one, or the widest the core has when the unit is off. -/
def savedBank? (features : Features) (euen : UInt64) : Option FpBank :=
  if hasBits euen euenFpe then
    if features.lasx && hasBits euen euenAsxe then some .lasx
    else if features.lsx && hasBits euen euenSxe then some .lsx
    else if features.fpu then some .fpu else none
  else if features.lasx then some .lasx
  else if features.lsx then some .lsx
  else if features.fpu then some .fpu else none

/-- The records to save, in save order: at most one bank, then binary translation. -/
def recordKinds (features : Features) (euen : UInt64) (fpu : FpState) : List RecordKind :=
  (if fpu.isUsed || hasBits euen euenFpe then
    ((savedBank? features euen).map RecordKind.bank).toList else []) ++
  (if features.lbt && hasBits euen euenBte then [.lbt] else [])

/-- Brings the saved state up to date for one record, from the live registers of an enabled unit. -/
def refresh (hw : Hardware) (euen : UInt64) (saved : FpState) (k : RecordKind) :
    FpState × Hardware :=
  match k with
  | .bank b => if hasBits euen euenFpe then hw.saveFp b saved else (saved, hw)
  | .lbt => if hasBits euen euenBte then hw.saveLbt saved else (saved, hw)

/-- The records captured, and the saved state and the hardware afterwards. -/
structure Captured where
  records : List Record
  saved : FpState
  hw : Hardware

/-- Captures each record, from the live registers of an enabled unit and otherwise from the saved
state. -/
def captureRecords (hw : Hardware) (euen : UInt64) (saved : FpState) : List RecordKind → Captured
  | [] => ⟨[], saved, hw⟩
  | k :: ks =>
    let now := refresh hw euen saved k
    let rest := captureRecords now.2 euen now.1 ks
    { rest with records := .capture k now.1 :: rest.records }

/-! ## The plan -/

/-- Everything about a delivery that is decided before memory is looked at. -/
structure DeliveryPlan where
  action : SigAction
  handler : UInt64
  top : UInt64
  kinds : List RecordKind
  deriving DecidableEq

namespace DeliveryPlan

def layout (p : DeliveryPlan) : ChainLayout := .plan p.top p.kinds

/-- Address of the signal frame, below the records. -/
def addr (p : DeliveryPlan) : UInt64 := p.layout.low - UInt64.ofNat SigFrame.size

/-- Bytes from the frame to the top of the records. -/
def length (p : DeliveryPlan) : Nat := (p.top - p.addr).toNat

end DeliveryPlan

def planDelivery (features : Features) (task : Task) (sig : Signal) (frame : ExceptionFrame) :
    Except DeliverError DeliveryPlan :=
  let action := task.signals.action sig
  match action.disposition sig with
  | .handler handler =>
    let alt := task.signals.altstack
    match signalStackTop alt action.flags frame.sp with
    | none => .error .altStackOverflow
    | some top =>
      if top.toNat < lowestStackTop then .error (.badFrame top)
      else
        let p : DeliveryPlan :=
          ⟨action, handler, top, recordKinds features frame.euen task.switch.fpu⟩
        if alt.contains frame.sp && !alt.contains p.addr then .error .altStackOverflow
        else .ok p
  | .ignore | .terminate | .stop => .error (.noHandler sig)

/-! ## The frame -/

/-- The image that is written for a task interrupted in `frame`. -/
def signalImage (task : Task) (info : SigInfo) (frame : ExceptionFrame) (kinds : List RecordKind) :
    SigFrame :=
  let alt := task.signals.altstack
  { info := info
    ucFlags := 0
    ucLink := 0
    stack := { alt with flags := if alt.contains frame.sp then AltStack.onStack else alt.flags }
    mask := task.signals.blocked
    context :=
      { pc := frame.era
        regs := frame.regs
        flags := if kinds.any RecordKind.isBank then SigFrame.usedFp else 0 } }

/-- The interrupted frame, redirected to the handler. -/
def enterHandler (p : DeliveryPlan) (sig : Signal) (frame : ExceptionFrame) : ExceptionFrame :=
  let ret :=
    if p.action.has SigFlag.restorer && p.action.restorer != 0 then p.action.restorer
    else p.addr + UInt64.ofNat SigFrame.trampOff
  { frame with
    regs := ((((frame.regs.put Reg.sp p.addr).put Reg.a0 sig.toUInt64).put Reg.a1
      (p.addr + UInt64.ofNat SigFrame.infoOff)).put Reg.a2
      (p.addr + UInt64.ofNat SigFrame.ucOff)).put Reg.ra ret
    era := p.handler }

/-- The signal state while the handler runs: its mask and, unless deferred, its own signal are
blocked, and a one-shot action is back at its default. -/
def SignalState.duringHandler (s : SignalState) (action : SigAction) (sig : Signal) :
    SignalState :=
  let mask := s.blocked.union action.mask
  let t := s.setBlocked (if action.has SigFlag.noDefer then mask else mask.insert sig)
  if action.has SigFlag.resetHand then t.resetAction sig else t

/-- A delivery that took place. -/
structure Delivery where
  addr : UInt64
  task : Task
  frame : ExceptionFrame

/-- Saves the records and writes the region of a plan that was accepted. -/
def build (hw : Hardware) (task : Task) (sig : Signal) (info : SigInfo) (frame : ExceptionFrame)
    (p : DeliveryPlan) : Delivery × Hardware :=
  let c := captureRecords hw frame.euen task.switch.fpu p.kinds
  let hw := c.hw.writeUser p.addr (signalImage task info frame p.kinds).toBytes
  let hw := p.layout.write c.records hw
  let hw := hw.flushIcache (p.addr + UInt64.ofNat SigFrame.trampOff) 16
  let task :=
    { task with
      switch := { task.switch with fpu := c.saved }
      signals := task.signals.duringHandler p.action sig }
  (⟨p.addr, task, enterHandler p sig frame⟩, hw)

/-- Builds the frame for a signal. On an error nothing was saved or written. -/
def deliver (hw : Hardware) (task : Task) (sig : Signal) (info : SigInfo)
    (frame : ExceptionFrame) : Except DeliverError Delivery × Hardware :=
  match planDelivery hw.features task sig frame with
  | .error e => (.error e, hw)
  | .ok p =>
    let c := hw.checkUser p.addr p.length .readWrite
    if c.1 then
      let b := build c.2 task sig info frame p
      (.ok b.1, b.2)
    else (.error (.badFrame p.addr), c.2)

theorem deliver_eq {hw : Hardware} {task : Task} {sig : Signal} {info : SigInfo}
    {frame : ExceptionFrame} {p : DeliveryPlan}
    (h : planDelivery hw.features task sig frame = .ok p) :
    deliver hw task sig info frame =
      if (hw.checkUser p.addr p.length .readWrite).1 then
        let b := build (hw.checkUser p.addr p.length .readWrite).2 task sig info frame p
        (.ok b.1, b.2)
      else (.error (.badFrame p.addr), (hw.checkUser p.addr p.length .readWrite).2) := by
  simp [deliver, h]

end TrapLayer
