import TrapLayer.Signal.Chain
import TrapLayer.Signal.Image
import TrapLayer.Task

/-!
# Signal return

The counterpart of a delivery: the frame at the user stack pointer and the records behind it are
read and checked, and only when all of them are accepted is the task changed. A control register
whose cause and enable bits overlap would raise an exception as soon as it is loaded; its cause bits
are dropped and the signal is queued instead.
-/
namespace TrapLayer

/-- Why a signal frame was refused. -/
inductive SigreturnError
  | badFrame (addr : UInt64)
  | chain (cause : ChainError)
  deriving DecidableEq, Repr

def SigreturnError.message : SigreturnError → String
  | badFrame addr => "BadFrame \x7b addr: " ++ toString addr ++ " \x7d"
  | chain cause => "Chain(" ++ cause.message ++ ")"

/-! ## The floating-point control register -/

namespace Fcsr

/-- Enable bits, 4 to 0. -/
def enables : UInt64 := 0x1f

/-- Cause bits, 28 to 24, in the order of the enable bits. -/
def causes : UInt64 := 0x1f000000

/-- An enabled exception is pending. -/
def isPending (fcsr : UInt64) : Bool := (fcsr >>> 24) &&& fcsr &&& enables != 0

def dropCauses (fcsr : UInt64) : UInt64 := fcsr &&& ~~~ causes

end Fcsr

/-! ## What a return reads -/

/-- The frame and the records that a return has read and accepted. -/
structure ReturnImage where
  frame : SigFrame
  records : List Record

/-- Reads and checks the signal frame at the stack pointer and the chain behind it. -/
def readReturnImage (hw : Hardware) (sp : UInt64) :
    Except SigreturnError ReturnImage × Hardware :=
  let image := hw.fetch sp SigFrame.size
  match image.1 with
  | none => (.error (.badFrame sp), image.2)
  | some bytes =>
    let chain := image.2.readChain (sp + UInt64.ofNat SigFrame.scExtOff)
    match chain.1 with
    | .error e => (.error (.chain e), chain.2)
    | .ok records => (.ok ⟨.ofBytes bytes, records⟩, chain.2)

/-! ## What a return changes -/

/-- The frame with the program counter and the registers of the image. Register zero stays zero and
no status word is taken from the image. -/
def restoreFrame (image : SigFrame) (frame : ExceptionFrame) : ExceptionFrame :=
  { frame with era := image.context.pc, regs := image.context.regs.put Reg.zero 0 }

/-- The alternate stack that an image asks for. -/
def restoredAltStack (stack : AltStack) : AltStack :=
  if stack.isDisabled then .none else { stack with flags := 0 }

/-- The blocked mask and the alternate stack of the image. -/
def restoreSignals (image : SigFrame) (s : SignalState) : SignalState :=
  { s.setBlocked image.mask with altstack := restoredAltStack image.stack }

/-- The information of a floating-point exception found on the way back to `era`. -/
def fpSignalInfo (era : UInt64) : SigInfo :=
  { SigInfo.blank with
    signo := Signal.fpe.toInt32
    code := SigInfo.codeFpUnknown
    addr := era }

/-- Puts one record back: into the saved state, and into the live registers of an enabled unit. -/
def restoreRecord (euen era : UInt64) (task : Task) (hw : Hardware) (r : Record) :
    Task × Hardware :=
  let st := r.apply task.switch.fpu
  match r.kind with
  | .bank b =>
    let raised := Fcsr.isPending st.fcsr
    let st := { st with fcsr := if raised then Fcsr.dropCauses st.fcsr else st.fcsr, used := 1 }
    let signals :=
      if raised then task.signals.queue Signal.fpe (fpSignalInfo era) else task.signals
    ({ task with switch := { task.switch with fpu := st }, signals := signals },
      if hasBits euen euenFpe then hw.restoreFp b st else hw)
  | .lbt =>
    ({ task with switch := { task.switch with fpu := st } },
      if hasBits euen euenBte then hw.restoreLbt st else hw)

/-- Puts the records back in the order they were read. -/
def restoreRecords (euen era : UInt64) : Task → Hardware → List Record → Task × Hardware
  | task, hw, [] => (task, hw)
  | task, hw, r :: rs =>
    let next := restoreRecord euen era task hw r
    restoreRecords euen era next.1 next.2 rs

/-- A task and its frame after a return that was accepted. -/
structure Returned where
  task : Task
  frame : ExceptionFrame

/-- Restores the state that a delivery saved, from the frame at the user stack pointer. On an error
neither the task nor the frame nor a register was changed. -/
def sigreturn (hw : Hardware) (task : Task) (frame : ExceptionFrame) :
    Except SigreturnError Returned × Hardware :=
  let image := readReturnImage hw frame.sp
  match image.1 with
  | .error e => (.error e, image.2)
  | .ok i =>
    let frame := restoreFrame i.frame frame
    let task := { task with signals := restoreSignals i.frame task.signals }
    let restored := restoreRecords frame.euen frame.era task image.2 i.records
    (.ok ⟨restored.1, frame.setKind .sigReturn⟩, restored.2)

end TrapLayer
