import TrapLayer.Bytes
import TrapLayer.Signal.Set

/-!
# Actions, signal information and the signal state

What a task registered for a signal and what happens when the signal is taken; the alternate stack
that handlers may run on; the record that tells a handler why its signal was sent; and the signal
state that a task keeps of all of them.
-/
namespace TrapLayer

/-! ## Actions and their flag bits -/

namespace SigFlag

def restorer : UInt64 := 0x04000000
def onStack : UInt64 := 0x08000000
def restart : UInt64 := 0x10000000
def noDefer : UInt64 := 0x40000000
def resetHand : UInt64 := 0x80000000

end SigFlag

/-- Handler address of the default action. -/
def handlerDefault : UInt64 := 0

/-- Handler address of an ignored signal. -/
def handlerIgnore : UInt64 := 1

/-- What happens when a signal is taken. -/
inductive Disposition
  | handler (addr : UInt64)
  | ignore
  | terminate
  | stop
  deriving DecidableEq, Repr

namespace Disposition

def text : Disposition → String
  | handler addr => "Handler(" ++ toString addr ++ ")"
  | ignore => "Ignore"
  | terminate => "Terminate"
  | stop => "Stop"

/-- The default of a signal. -/
def ofDefault (sig : Signal) : Disposition :=
  if sig = Signal.chld ∨ sig = Signal.cont ∨ sig = Signal.urg ∨ sig = Signal.winch then ignore
  else if sig = Signal.stop ∨ sig = Signal.tstp ∨ sig = Signal.ttin ∨ sig = Signal.ttou then stop
  else terminate

end Disposition

/-- What a task registered for a signal. Flag bits without a meaning are kept. -/
structure SigAction where
  handler : UInt64
  flags : UInt64
  restorer : UInt64
  mask : SigSet
  deriving DecidableEq, Repr

namespace SigAction

/-- The action of a signal for which nothing was registered. -/
def unset : SigAction := ⟨0, 0, 0, .empty⟩

def has (a : SigAction) (flag : UInt64) : Bool := hasBits a.flags flag

def disposition (a : SigAction) (sig : Signal) : Disposition :=
  if a.handler = handlerDefault then .ofDefault sig
  else if a.handler = handlerIgnore then .ignore
  else .handler a.handler

end SigAction

/-! ## Alternate stacks -/

structure AltStack where
  sp : UInt64
  flags : UInt32
  size : UInt64
  deriving DecidableEq, Repr

namespace AltStack

/-- Flag of a stack that a handler is running on. -/
def onStack : UInt32 := 1

/-- Flag of a stack that is switched off. -/
def disable : UInt32 := 2

/-- No alternate stack. -/
def none : AltStack := ⟨0, disable, 0⟩

def isDisabled (s : AltStack) : Bool := s.flags &&& disable != 0

def enabled (s : AltStack) : Bool := !s.isDisabled && s.size != 0

/-- A stack pointer that lies on the stack; the top belongs to it and the base does not. -/
def contains (s : AltStack) (sp : UInt64) : Bool :=
  s.enabled && decide (s.sp < sp) && decide (sp - s.sp ≤ s.size)

end AltStack

/-! ## Signal information -/

structure SigInfo where
  signo : Int32
  errno : Int32
  code : Int32
  /-- Faulting address or sender, depending on the code. -/
  addr : UInt64
  value : UInt64
  deriving DecidableEq, Repr

namespace SigInfo

/-- Bytes of the record on the user stack. -/
def wireSize : Nat := 128

/-- Code of a signal raised by the kernel. -/
def codeKernel : Int32 := 0x80

/-- Code of a floating-point exception whose cause is not identified. -/
def codeFpUnknown : Int32 := 14

def blank : SigInfo := ⟨0, 0, 0, 0, 0⟩

/-- The information of a signal raised by the kernel. -/
def ofKernel (sig : Signal) : SigInfo := { blank with signo := sig.toInt32, code := codeKernel }

def toBytes (i : SigInfo) : Bytes :=
  le32 i.signo.toUInt32 ++ le32 i.errno.toUInt32 ++ le32 i.code.toUInt32 ++
    List.replicate 4 0 ++ le64 i.addr ++ le64 i.value ++ List.replicate 96 0

@[simp] theorem length_toBytes (i : SigInfo) : i.toBytes.length = wireSize := by
  simp [toBytes, wireSize]

end SigInfo

/-! ## The signal state of a task

Pending and blocked signals, the alternate stack, and the action and the information of every
signal. A signal sent twice before it is taken keeps the information of the second send.
-/

/-- Why a change of the signal state was refused. -/
inductive SignalError
  | invalidSignal (sig : Signal)
  /-- The signal keeps its default action. -/
  | uncatchable (sig : Signal)
  deriving DecidableEq, Repr

def SignalError.message : SignalError → String
  | invalidSignal sig => "InvalidSignal(" ++ toString sig ++ ")"
  | uncatchable sig => "Uncatchable(" ++ toString sig ++ ")"

structure SignalState where
  pending : SigSet
  blocked : SigSet
  altstack : AltStack
  actions : Vector SigAction 64
  infos : Vector SigInfo 64
  deriving DecidableEq

namespace SignalState

/-- The state of a task that has just been created. -/
def fresh : SignalState :=
  ⟨.empty, .empty, .none, Vector.replicate 64 .unset, Vector.replicate 64 .blank⟩

/-- The action of a signal; numbers that are no signal have none registered. -/
def action (s : SignalState) (sig : Signal) : SigAction :=
  match Signal.slot? sig with
  | some i => s.actions[i.val]
  | none => .unset

/-- Registers an action. -/
def setAction (s : SignalState) (sig : Signal) (a : SigAction) : Except SignalError SignalState :=
  match Signal.slot? sig with
  | none => .error (.invalidSignal sig)
  | some i =>
    if SigSet.unblockable.contains sig then .error (.uncatchable sig)
    else .ok { s with actions := s.actions.set i.val a }

/-- The state with the action of a signal back at its default; signals that cannot be caught
already are. -/
def resetAction (s : SignalState) (sig : Signal) : SignalState :=
  match s.setAction sig .unset with
  | .ok t => t
  | .error _ => s

/-- Queues a signal with its information; numbers that are no signal are dropped. -/
def queue (s : SignalState) (sig : Signal) (info : SigInfo) : SignalState :=
  match Signal.slot? sig with
  | none => s
  | some i => { s with pending := s.pending.insert sig, infos := s.infos.set i.val info }

def send (s : SignalState) (sig : Signal) (info : SigInfo) : Except SignalError SignalState :=
  if (Signal.slot? sig).isSome then .ok (s.queue sig info) else .error (.invalidSignal sig)

/-- Replaces the blocked mask; the signals that cannot be blocked are stripped from it. -/
def setBlocked (s : SignalState) (mask : SigSet) : SignalState :=
  { s with blocked := mask.without .unblockable }

/-- The pending signals that are not blocked, lowest number first. -/
def deliverable (s : SignalState) : List Signal := (s.pending.without s.blocked).toList

/-- The lowest-numbered of them, left pending. -/
def nextDeliverable? (s : SignalState) : Option Signal := (s.pending.without s.blocked).first?

/-- The information that came with the last send of a signal. -/
def info (s : SignalState) (sig : Signal) : SigInfo :=
  match Signal.slot? sig with
  | some i => s.infos[i.val]
  | none => .ofKernel sig

/-- The state in which a signal is no longer pending. -/
def clear (s : SignalState) (sig : Signal) : SignalState :=
  { s with pending := s.pending.remove sig }

end SignalState

end TrapLayer
