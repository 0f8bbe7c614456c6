import TrapLayer.Boot
import TrapLayer.Testbed.Script
import TrapLayer.Testbed.TableBuilder

/-!
# The test bed

A machine with page tables that can be built, memory that can be poked and peeked, scripted
handlers, and one frame at hand. What the bench itself does to the machine is not in the trace; what
the code under test asks of the hardware is, and the counters are read off it.
-/
namespace TrapLayer

structure Testbed where
  machine : Machine
  /-- The frame at hand. -/
  frame : ExceptionFrame
  scripts : ScriptTables
  /-- The page tables of the machine, as they are built. -/
  builder : TableBuilder
  /-- The kernel was registered with the boot code. -/
  registered : Bool
  /-- Memory writes by the bench itself. -/
  pokes : Nat
  /-- Memory reads by the bench itself since reads were last forgotten. -/
  peeks : List (UInt64 × Nat)
  /-- Where the trace stood when reads were last forgotten. -/
  readMark : Nat
  /-- Where the trace stood when the scheduler was last replaced. -/
  schedMark : Nat

namespace Testbed

/-- Hardware on which nothing happened, with an empty root table for each half. -/
def hardware (g : Geometry) (features : Features) (tables : PageTables) (user kernel : UInt64) :
    Hardware where
  geometry := g
  features := features
  csrs := (CsrFile.zero.write .pgdl user).write .pgdh kernel
  tables := tables
  memory := .zero
  fp := .cleared
  debugRegs := .off
  history := []

/-- A bench around a fresh machine. -/
def start (g : Geometry) (features : Features) (registered : Bool) : Testbed :=
  let user := (TableBuilder.empty g).newTable
  let kernel := user.2.newTable
  { machine := .ofHardware (hardware g features kernel.2.tables user.1 kernel.1)
    frame := .cleared
    scripts := .empty
    builder := kernel.2
    registered := registered
    pokes := 0
    peeks := []
    readMark := 0
    schedMark := 0 }

def hw (b : Testbed) : Hardware := b.machine.hw

def withHw (b : Testbed) (hw : Hardware) : Testbed :=
  { b with machine := { b.machine with hw := hw } }

def withTasks (b : Testbed) (tasks : TaskTable) : Testbed :=
  { b with machine := { b.machine with tasks := tasks } }

/-! ## Page tables and memory -/

def withBuilder (b : Testbed) (t : TableBuilder) : Testbed :=
  { b.withHw { b.hw with tables := t.tables } with builder := t }

/-- Maps `count` consecutive base pages, at least one, and gives the last entry. -/
def map (b : Testbed) (root : Csr) (va : UInt64) (level : Option Nat) (flags : UInt64)
    (count : Nat) : UInt64 × Testbed :=
  let r := b.builder.mapPages (b.hw.readCsr root) va (level.getD b.hw.geometry.lastLevel) flags
    (count - 1)
  (r.1, b.withBuilder r.2)

def unmap (b : Testbed) (root : Csr) (va : UInt64) : Testbed :=
  b.withBuilder (b.builder.unmap (b.hw.readCsr root) va)

/-- Sets a control register behind the back of the code under test. -/
def setCsr (b : Testbed) (c : Csr) (v : UInt64) : Testbed :=
  b.withHw { b.hw with csrs := b.hw.csrs.write c v }

def poke (b : Testbed) (addr : UInt64) (bytes : Bytes) : Testbed :=
  { b.withHw { b.hw with memory := b.hw.memory.write addr bytes } with pokes := b.pokes + 1 }

def peek (b : Testbed) (addr : UInt64) (len : Nat) : Bytes × Testbed :=
  (b.hw.memory.read addr len, { b with peeks := (addr, len) :: b.peeks })

def clearReads (b : Testbed) : Testbed := { b with peeks := [], readMark := b.hw.mark }

/-! ## Tasks and cores -/

/-- Creates `n + 1` tasks; gives the last identifier. -/
def spawnMany (tasks : TaskTable) (p : SpawnParams) : Nat → Except TaskError TaskId × TaskTable
  | 0 =>
    match tasks.spawn p with
    | .ok (id, tasks) => (.ok id, tasks)
    | .error e => (.error e, tasks)
  | n + 1 =>
    match tasks.spawn p with
    | .ok (_, tasks) => spawnMany tasks p n
    | .error _ => spawnMany tasks p n

/-- Creates `count` tasks, at least one; gives what the last creation gave. -/
def spawn (b : Testbed) (p : SpawnParams) (count : Nat) : Except TaskError TaskId × Testbed :=
  let r := spawnMany b.machine.tasks p (count - 1)
  (r.1, b.withTasks r.2)

/-- Replaces the scheduler by one whose current task is `task`. -/
def setCurrent (b : Testbed) (task : Option TaskId) : Testbed :=
  { b with
    machine := { b.machine with current := task }
    schedMark := b.hw.mark }

def raise (b : Testbed) (irq : IrqId) (source : CpuId) : Testbed :=
  { b with machine := { b.machine with pending := b.machine.pending ++ [⟨source, irq⟩] } }

/-- Sets up the page walker of a core, from its own state or as if it had none, and stores the
state that results. -/
def configure (b : Testbed) (cpu : CpuId) (asNew : Bool) (roots : Roots) (eentry : UInt64)
    (code : Bytes) : Except SetupError Unit × Testbed :=
  let slot := b.machine.slot cpu
  let state := if asNew then .uninitialized else slot.walker
  match b.machine.configureWalker cpu state roots eentry code with
  | .ok m => (.ok (), { b with machine := m })
  | .error e => (.error e, { b with machine := b.machine.setSlot cpu { slot with walker := state } })

/-! ## Running -/

/-- The kernel of the registered scripts. -/
def kernel (b : Testbed) : Kernel := b.scripts.kernel b.machine.nested.length

/-- The kernel as the boot code knows it. -/
def kernel? (b : Testbed) : Option Kernel := if b.registered then some b.kernel else none

/-- How a trap on the frame at hand enters the dispatcher. -/
inductive Via
  | dispatch
  | syscall
  | irq
  | miss (kind : MissKind)
  | fault (fault : FaultClass)

/-- Takes a trap with the frame at hand. -/
def trap (b : Testbed) (cpu : CpuId) (via : Via) : TrapOutcome × Testbed :=
  let m := b.machine
  let at_ := ScriptTables.frameAddr
  let d := match via with
    | .dispatch => Machine.dispatch b.kernel m cpu at_ b.frame
    | .syscall => Machine.handleSyscall b.kernel m cpu at_ b.frame
    | .irq => Machine.handleIrq b.kernel m cpu b.frame
    | .miss kind => m.handleMiss cpu b.frame kind
    | .fault fault => m.handleFault cpu b.frame fault
  (d.outcome, { b with machine := d.machine, frame := d.frame })

/-- Enters the kernel through a vector stub with the frame at hand. -/
def enter (b : Testbed) : EntryOutcome × Testbed :=
  let r := b.machine.trapEntry b.kernel? ScriptTables.frameAddr b.frame
  (r.1, { b with machine := r.2.2, frame := r.2.1 })

def initCore (b : Testbed) (roots : Roots) (stackTop lines : UInt64) : BootOutcome × Testbed :=
  let r := b.machine.initCore .linked b.kernel? roots stackTop lines
  (r.1, { b with machine := r.2 })

/-- Claims and handles what waits at the interrupt controller. -/
def drain (b : Testbed) (cpu : CpuId) : Nat × Testbed :=
  let r := Machine.drain b.kernel b.machine cpu
  (r.1, { b with machine := r.2 })

/-! ## Counters -/

/-- End of the highest user range read since reads were last forgotten. -/
def userReadEnd (b : Testbed) : UInt64 :=
  let reads := (b.hw.since b.readMark).filterMap fun e =>
    match e with
    | .userRead addr len => some (addr, len)
    | _ => none
  (reads ++ b.peeks).foldl (fun top r => max top (r.1 + UInt64.ofNat r.2)) 0

end Testbed

end TrapLayer
