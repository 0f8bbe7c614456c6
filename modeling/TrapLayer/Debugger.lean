import TrapLayer.Frame.Debug
import TrapLayer.Task

/-!
# The debugger's view of a task

Reading and writing the registers a task resumes with, directly or through a kernel buffer, and its
watchpoints and single stepping. A task that has never trapped shows and takes its entry point
only; a register set that would resume in a privileged mode is refused.
-/
namespace TrapLayer

/-- Why the debugger was refused. -/
inductive DebugError
  | task (cause : TaskError)
  | frame (cause : FrameError)
  /-- The buffer is not mapped in the upper half with the access it needs. -/
  | badBuffer (addr : UInt64)
  | noSuchSlot (slot : Nat)
  deriving DecidableEq, Repr

def DebugError.message : DebugError → String
  | task cause => "Task(" ++ cause.message ++ ")"
  | frame cause => "Frame(" ++ cause.message ++ ")"
  | badBuffer addr => "BadBuffer \x7b addr: " ++ toString addr ++ " \x7d"
  | noSuchSlot slot => "NoSuchSlot(" ++ toString slot ++ ")"

/-- Which watchpoints are meant. -/
inductive WatchKind
  | inst | data
  deriving DecidableEq, Repr

/-! ## Registers of one task -/

namespace Task

/-- The registers a debugger sees. -/
def debugView (t : Task) : DebugFrame :=
  if t.firstStart then .firstStart t.entry else .ofFrame t.shadow

/-- The task with the registers a debugger wrote; before the first run only the entry point is
taken. -/
def writeDebugView (t : Task) (d : DebugFrame) : Except FrameError Task :=
  if t.firstStart then .ok { t with entry := d.era, switch := { t.switch with pc := d.era } }
  else (d.applyTo t.shadow).map fun f => { t with shadow := f }

end Task

/-! ## Registers through the task table -/

/-- A live task, as the debugger looks it up. -/
def TaskTable.traced (t : TaskTable) (id : TaskId) : Except DebugError Task :=
  (t.task id).mapError .task

namespace Debugger

def readRegs (tasks : TaskTable) (id : TaskId) : Except DebugError DebugFrame :=
  (tasks.traced id).map Task.debugView

def writeRegs (tasks : TaskTable) (id : TaskId) (d : DebugFrame) : Except DebugError TaskTable :=
  match tasks.traced id with
  | .error e => .error e
  | .ok task =>
    match task.writeDebugView d with
    | .error e => .error (.frame e)
    | .ok task => .ok (tasks.put id task)

/-- Bytes of a register set in a buffer. -/
def bufferSize : Nat := DebugFrame.wordCount * 8

/-- The bytes of a register set. -/
def toBytes (d : DebugFrame) : Bytes := wordsLe d.toWords.toList

def ofBytes (b : Bytes) : DebugFrame := .ofWords (Vector.ofFn fun i => word64 b (i.val * 8))

/-- Copies the registers of a task into the kernel buffer at `addr`. -/
def exportRegs (hw : Hardware) (tasks : TaskTable) (id : TaskId) (addr : UInt64) :
    Except DebugError Unit × Hardware :=
  match readRegs tasks id with
  | .error e => (.error e, hw)
  | .ok d =>
    let c := hw.checkKernel addr bufferSize .write
    if c.1 then (.ok (), c.2.writeUser addr (toBytes d)) else (.error (.badBuffer addr), c.2)

/-- Installs the registers in the kernel buffer at `addr`. -/
def importRegs (hw : Hardware) (tasks : TaskTable) (id : TaskId) (addr : UInt64) :
    Except DebugError TaskTable × Hardware :=
  let c := hw.checkKernel addr bufferSize .read
  if c.1 then
    let r := c.2.readUser addr bufferSize
    (writeRegs tasks id (ofBytes r.1), r.2)
  else (.error (.badBuffer addr), c.2)

end Debugger

/-! ## Debug hardware of a task -/

namespace DebugRegs

/-- The registers with one watchpoint set. -/
def setWatch (r : DebugRegs) (kind : WatchKind) (slot : Fin 8) (w : Watchpoint) : DebugRegs :=
  match kind with
  | .inst => { r with inst := r.inst.set slot.val w }
  | .data => { r with data := r.data.set slot.val w }

end DebugRegs

/-- The task, traced, with its debug hardware changed. -/
def Task.withDebugRegs (t : Task) (f : DebugRegs → DebugRegs) : Task :=
  { t with trace := ⟨true, f t.trace.hw⟩ }

namespace Debugger

def setSingleStep (tasks : TaskTable) (id : TaskId) (on : Bool) : Except DebugError TaskTable :=
  (tasks.modify id (·.withDebugRegs fun r => { r with singleStep := on })).mapError .task

/-- Sets a watchpoint; it takes effect when the task next returns to user mode. -/
def setWatchpoint (tasks : TaskTable) (id : TaskId) (kind : WatchKind) (slot : Nat)
    (w : Watchpoint) : Except DebugError TaskTable :=
  if h : slot < 8 then
    (tasks.modify id (·.withDebugRegs fun r => r.setWatch kind ⟨slot, h⟩ w)).mapError .task
  else .error (.noSuchSlot slot)

def clearWatchpoint (tasks : TaskTable) (id : TaskId) (kind : WatchKind) (slot : Nat) :
    Except DebugError TaskTable :=
  setWatchpoint tasks id kind slot .off

/-- Drops all debugger state of a task, which is no longer traced. -/
def detach (tasks : TaskTable) (id : TaskId) : Except DebugError TaskTable :=
  (tasks.modify id fun t => { t with trace := .untraced }).mapError .task

end Debugger

end TrapLayer
