import TrapLayer.Dispatch

/-!
# Scripted handlers

Handlers whose whole behaviour is a name: a syscall script gives a fixed result or one of its
arguments, an interrupt script does nothing, and some of either send a signal to the current task or
take the next queued trap. A trap taken inside a handler is one less in the queue, so the depth of
nesting is bounded by the length of the queue and the kernel is built by recursion on it.
-/
namespace TrapLayer

/-- What a scripted syscall handler does. -/
inductive CallScript
  | sum | a1 | last | zero | min | neg | eintr
  | restartSys | restartNoIntr | restartNoHand | restartBlock
  /-- Sends an alarm to the current task and asks for a restart. -/
  | alarm
  /-- Kills the current task. -/
  | kill
  /-- Takes the next queued trap. -/
  | nest
  deriving DecidableEq, Repr

/-- What a scripted interrupt handler does. -/
inductive IrqScript
  | note
  /-- Takes the next queued trap. -/
  | nest
  /-- Sends a user signal to the current task. -/
  | signal
  deriving DecidableEq, Repr

namespace Machine

/-- Sends a signal, as the kernel does, to the current task. -/
def signalCurrent (m : Machine) (sig : Signal) : Machine :=
  match m.currentTask? with
  | none => m
  | some (id, task) =>
    m.putTask id { task with signals := task.signals.queue sig (.ofKernel sig) }

end Machine

namespace CallScript

def all : List CallScript :=
  [sum, a1, last, zero, min, neg, eintr, restartSys, restartNoIntr, restartNoHand, restartBlock,
    alarm, kill, nest]

def name : CallScript → String
  | sum => "sum" | a1 => "a1" | last => "last" | zero => "zero" | min => "min" | neg => "neg"
  | eintr => "eintr" | restartSys => "restartsys" | restartNoIntr => "restartnointr"
  | restartNoHand => "restartnohand" | restartBlock => "restartblock" | alarm => "alarm"
  | kill => "kill" | nest => "nest"

/-- The script of that name; unknown names stand for the sum. -/
def ofName (s : String) : CallScript := (all.find? (·.name == s)).getD sum

/-- The word a script leaves in `a0`. -/
def result (s : CallScript) (args : SyscallArgs) : UInt64 :=
  match s with
  | sum => args.words.get 0 + args.words.get 1
  | a1 | nest => args.words.get 1
  | last => args.words.get 5
  | zero | kill => 0
  | min => 0x8000000000000000
  | neg => -38
  | eintr => interruptedResult
  | restartSys | alarm => RestartCode.sys.word
  | restartNoIntr => RestartCode.noIntr.word
  | restartNoHand => RestartCode.noHand.word
  | restartBlock => RestartCode.restartBlock.word

/-- The handler of a script; `nested` takes the next queued trap. -/
def handler (nested : CpuId → Machine → Machine) (framed : Bool) (s : CallScript) :
    SyscallHandler :=
  fun args m =>
    let m := m.emit (.syscallRun s.name framed args (m.hw.readCsr .crmd))
    let m := match s with
      | alarm => m.signalCurrent Signal.alrm
      | kill => m.signalCurrent Signal.kill
      | nest => nested .boot m
      | _ => m
    (s.result args, m)

end CallScript

namespace IrqScript

/-- The script of that name; unknown names stand for the one that does nothing. -/
def ofName (s : String) : IrqScript :=
  if s = "nest" then nest else if s = "signal" then signal else note

/-- The handler of a script; `nested` takes the next queued trap. -/
def handler (nested : CpuId → Machine → Machine) (s : IrqScript) : IrqHandler :=
  fun irq cpu m =>
    let m := m.emit (.irqRun irq cpu (m.slot cpu))
    match s with
    | note => m
    | nest => nested cpu m
    | signal => m.signalCurrent Signal.usr1

end IrqScript

/-- The handlers that were registered. -/
structure ScriptTables where
  calls : SyscallTables CallScript
  irqs : IrqTable IrqScript

namespace ScriptTables

def empty : ScriptTables := ⟨.empty, .empty⟩

/-- Where frames are said to lie. -/
def frameAddr : UInt64 := 0x90000000a5c3f1d0

/-- Takes the next queued trap, if there is one. -/
def takeNested (k : Kernel) (cpu : CpuId) (m : Machine) : Machine :=
  match m.nested with
  | [] => m
  | f :: rest =>
    let d := Machine.dispatch k ({ m with nested := rest }.emit .nestedBegin) cpu frameAddr f
    d.machine.emit (.nestedEnd d.outcome d.frame (d.machine.slot cpu))

/-- The kernel whose handlers take queued traps through `nested`. -/
def kernelWith (t : ScriptTables) (nested : CpuId → Machine → Machine) : Kernel :=
  ⟨t.calls.map (CallScript.handler nested), t.irqs.map (·.handler nested), 0⟩

/-- The kernel whose handlers nest at most `n` deep. -/
def kernel (t : ScriptTables) : Nat → Kernel
  | 0 => t.kernelWith fun _ m => m
  | n + 1 => t.kernelWith (takeNested (t.kernel n))

end ScriptTables

end TrapLayer
