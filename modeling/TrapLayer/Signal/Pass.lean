import TrapLayer.Signal.Deliver

/-!
# The signal pass

On the way back to user mode the pending signals are taken, lowest number first: ignored ones are
dropped, and the first other one kills the task, stops it, or has a signal frame built for its
handler. At most one frame is built, and a syscall restart is decided here and only here.
-/
namespace TrapLayer

/-! ## Syscall restart

A syscall interrupted by a signal leaves a restart code in `a0`. Once per return to user mode it is
decided whether the call is executed again or fails:

* no block to restart from, "no hand": again without a handler, fails with one;
* restart block: again through the restart call without a handler, fails with one;
* "sys": again without a handler or when the action asks for restart, fails otherwise;
* "no interrupt": always again.

`apply` marks the frame as consumed, so a second pass over it decides nothing.
-/

/-- Codes that a syscall may leave in `a0`. -/
inductive RestartCode
  | noHand | restartBlock | sys | noIntr
  deriving DecidableEq, Repr

namespace RestartCode

def all : List RestartCode := [noHand, restartBlock, sys, noIntr]

/-- The word the code is in `a0`: the negative of its number. -/
def word : RestartCode → UInt64
  | noHand => -514 | restartBlock => -516 | sys => -512 | noIntr => -513

def ofReturn? (a0 : UInt64) : Option RestartCode := all.find? (·.word == a0)

def text : RestartCode → String
  | noHand => "NoHand" | restartBlock => "RestartBlock" | sys => "Sys" | noIntr => "NoIntr"

end RestartCode

/-- What the return path does with an interrupted call. -/
inductive RestartAction
  /-- Fail it as interrupted. -/
  | interrupt
  /-- Execute the instruction again with the first argument as it was. -/
  | rewind
  /-- Execute it again as the restart call. -/
  | rewindRestartBlock
  deriving DecidableEq, Repr

def RestartAction.text : RestartAction → String
  | interrupt => "Interrupt" | rewind => "Rewind" | rewindRestartBlock => "RewindRestartBlock"

/-- The decision for a code, given the action of the handler that is about to run, if any. -/
def RestartCode.decide (code : RestartCode) (handler : Option SigAction) : RestartAction :=
  match code, handler with
  | .restartBlock, none => .rewindRestartBlock
  | _, none => .rewind
  | .noIntr, some _ => .rewind
  | .sys, some act => if act.has SigFlag.restart then .rewind else .interrupt
  | _, some _ => .interrupt

/-- The result of a call that failed as interrupted. -/
def interruptedResult : UInt64 := -4

/-- Bytes of a syscall instruction. -/
def syscallInsnSize : UInt64 := 4

namespace ExceptionFrame

/-- Back on the syscall instruction, with the first argument as it was on entry. -/
def rewind (f : ExceptionFrame) : ExceptionFrame :=
  { f.setA0 f.origA0 with era := f.era - syscallInsnSize }

/-- Carries out a restart decision. -/
def restartWith (f : ExceptionFrame) : RestartAction → ExceptionFrame
  | .interrupt => f.setA0 interruptedResult
  | .rewind => f.rewind
  | .rewindRestartBlock => { f.rewind with regs := f.rewind.regs.put Reg.a7 restartNumber }

/-- The restart code that a syscall frame still holds. -/
def restartCode? (f : ExceptionFrame) : Option RestartCode :=
  if f.kind = .syscall then RestartCode.ofReturn? f.a0 else none

/-- Decides the restart of a syscall frame, if it holds a code, and marks it as consumed. -/
def applyRestart (f : ExceptionFrame) (handler : Option SigAction) :
    Option RestartAction × ExceptionFrame :=
  match f.restartCode? with
  | none => (none, f)
  | some code =>
    let action := code.decide handler
    (some action, (f.restartWith action).setKind .exception)

end ExceptionFrame

/-! ## Taking the signals -/

/-- How a signal pass ended. -/
inductive PassOutcome
  /-- Nothing was left to deliver; the frame resumes. -/
  | resume
  /-- A frame was built for the handler of the signal. -/
  | delivered (sig : Signal)
  | killed (sig : Signal)
  | stopped (sig : Signal)
  deriving DecidableEq, Repr

def PassOutcome.text : PassOutcome → String
  | resume => "Resume"
  | delivered sig => "Delivered(" ++ toString sig ++ ")"
  | killed sig => "Killed(" ++ toString sig ++ ")"
  | stopped sig => "Stopped(" ++ toString sig ++ ")"

/-- A task, its frame and the hardware after a pass. -/
structure Pass where
  outcome : PassOutcome
  task : Task
  frame : ExceptionFrame
  hw : Hardware

/-- The task in which a signal is no longer pending. -/
def Task.clearSignal (t : Task) (sig : Signal) : Task :=
  { t with signals := t.signals.clear sig }

/-- Terminates a task over a signal frame that cannot be used, and asks for a switch. -/
def forceSegv (hw : Hardware) (task : Task) : Task × Hardware :=
  (task.terminate Signal.segv, hw.emit .reschedule)

/-- The frame after the restart decision for a handler that is about to run, or for none. -/
def ExceptionFrame.restarted (f : ExceptionFrame) (inSyscall : Bool) (handler : Option SigAction) :
    ExceptionFrame :=
  if inSyscall then (f.applyRestart handler).2 else f

/-- Takes a signal that has a handler. -/
def takeHandled (hw : Hardware) (id : TaskId) (task : Task) (inSyscall : Bool) (sig : Signal)
    (action : SigAction) (frame : ExceptionFrame) : Pass :=
  let frame := frame.restarted inSyscall (some action)
  let taken := task.clearSignal sig
  let d := deliver hw taken sig (task.signals.info sig) frame
  match d.1 with
  | .ok done => ⟨.delivered sig, done.task, done.frame, d.2⟩
  | .error e =>
    let hw := d.2.log .error "signal"
      (id.name ++ ": cannot build frame for signal " ++ toString sig ++ ": " ++ e.message)
    let forced := forceSegv hw taken
    ⟨.killed Signal.segv, forced.1, frame, forced.2⟩

/-- Takes the signals of a list in order, up to the first that ends the pass. -/
def takeSignals (hw : Hardware) (id : TaskId) (task : Task) (inSyscall : Bool)
    (frame : ExceptionFrame) : List Signal → Pass
  | [] => ⟨.resume, task, frame.restarted inSyscall none, hw⟩
  | sig :: rest =>
    let action := task.signals.action sig
    match action.disposition sig with
    | .ignore => takeSignals hw id (task.clearSignal sig) inSyscall frame rest
    | .terminate =>
      ⟨.killed sig, (task.clearSignal sig).terminate sig, frame, hw.emit .reschedule⟩
    | .stop => ⟨.stopped sig, (task.clearSignal sig).stop sig, frame, hw.emit .reschedule⟩
    | .handler _ => takeHandled hw id task inSyscall sig action frame

/-- Takes the deliverable signals of a task before its frame returns to user mode. -/
def signalPass (hw : Hardware) (id : TaskId) (task : Task) (frame : ExceptionFrame) : Pass :=
  takeSignals hw id task (frame.kind == .syscall) frame task.signals.deliverable

end TrapLayer
