import TrapLayer.Task
import TrapLayer.Trap.Report

/-!
# The machine

Everything a trap can see or change: the hardware, the task table, the per-core slots, the pending
interrupts, the task whose user context is live, and the record of recent traps. Traps that code in
a handler is going to take are queued in `nested`, oldest first.
-/
namespace TrapLayer

/-! ## The interrupt handler table

One handler a source, installed once and removable. Tables are parametric in what a handler is.
-/

/-- Why a handler was not installed. -/
inductive IrqError
  | outOfRange (irq : IrqId)
  | alreadyInstalled (irq : IrqId)
  deriving DecidableEq, Repr

def IrqError.message : IrqError → String
  | outOfRange irq => "OutOfRange(" ++ irq.text ++ ")"
  | alreadyInstalled irq => "AlreadyInstalled(" ++ irq.text ++ ")"

structure IrqTable (α : Type) where
  slots : Vector (Option α) maxIrqs

namespace IrqTable

variable {α β : Type}

def empty : IrqTable α := ⟨Vector.replicate maxIrqs none⟩

/-- The handler of a source, if it has one. -/
def handler? (t : IrqTable α) (irq : IrqId) : Option α := t.slots[irq.index]?.join

def install (t : IrqTable α) (irq : IrqId) (h : α) : Except IrqError (IrqTable α) :=
  if hi : irq.index < maxIrqs then
    if (t.handler? irq).isSome then .error (.alreadyInstalled irq)
    else .ok ⟨t.slots.set irq.index (some h)⟩
  else .error (.outOfRange irq)

/-- The table without the handler of a source. -/
def remove (t : IrqTable α) (irq : IrqId) : IrqTable α :=
  if hi : irq.index < maxIrqs then ⟨t.slots.set irq.index none⟩ else t

def map (f : α → β) (t : IrqTable α) : IrqTable β := ⟨t.slots.map (Option.map f)⟩

end IrqTable

/-! ## The state of the machine -/

/-- An interrupt waiting at the controller, with the core it was routed from. -/
structure PendingIrq where
  source : CpuId
  irq : IrqId
  deriving DecidableEq, Repr

structure Machine where
  hw : Hardware
  tasks : TaskTable
  cpus : CpuRegistry
  /-- Interrupts waiting at the controller, in the order they are claimed. -/
  pending : List PendingIrq
  /-- The task whose user context is live, if any. -/
  current : Option TaskId
  /-- The refill handler was installed. -/
  refillInstalled : Bool
  traps : TrapRing
  /-- Frames of traps that handlers will take, in order. -/
  nested : List ExceptionFrame

namespace Machine

/-- A machine with that hardware, no task and no trap so far. -/
def ofHardware (hw : Hardware) : Machine where
  hw := hw
  tasks := .empty
  cpus := .fresh
  pending := []
  current := none
  refillInstalled := false
  traps := .empty
  nested := []

def emit (m : Machine) (e : Effect) : Machine := { m with hw := m.hw.emit e }

def log (m : Machine) (level : LogLevel) (target text : String) : Machine :=
  { m with hw := m.hw.log level target text }

def writeCsr (m : Machine) (c : Csr) (v : UInt64) : Machine := { m with hw := m.hw.writeCsr c v }

def slot (m : Machine) (cpu : CpuId) : CpuSlot := m.cpus.get cpu

def setSlot (m : Machine) (cpu : CpuId) (s : CpuSlot) : Machine :=
  { m with cpus := m.cpus.set cpu s }

/-- Moves the dispatcher of a core to the state of a slot, and notes it. -/
def moveTo (m : Machine) (cpu : CpuId) (s : CpuSlot) : Machine :=
  (m.setSlot cpu s).emit (.transition cpu s)

def record (m : Machine) (f : ExceptionFrame) : Machine := { m with traps := m.traps.record f }

/-! ## Per-core transitions -/

/-- A trap starts to be dispatched on a core. -/
def enter (m : Machine) (cpu : CpuId) : Machine := m.moveTo cpu (m.slot cpu).enter

/-- The outermost trap of a core starts to return to user mode; anything else is reported. -/
def beginReturn (m : Machine) (cpu : CpuId) : Machine :=
  let s := m.slot cpu
  if s.mayReturn then m.moveTo cpu s.beginReturn
  else
    m.log .error "trap"
      (cpu.name ++ ": illegal transition " ++ s.state.text ++ " -> ReturningToUser at depth " ++
        toString s.depth)

/-- A trap is done; leaving a core that handles none is reported. -/
def leave (m : Machine) (cpu : CpuId) : Machine :=
  let s := m.slot cpu
  if s.depth = 0 then m.log .error "trap" (cpu.name ++ ": illegal transition Idle -> Idle")
  else m.moveTo cpu s.leave

def irqEnter (m : Machine) (cpu : CpuId) : Machine := m.setSlot cpu (m.slot cpu).irqEnter

def irqExit (m : Machine) (cpu : CpuId) : Machine := m.setSlot cpu (m.slot cpu).irqExit

def setNeedResched (m : Machine) (cpu : CpuId) : Machine :=
  m.setSlot cpu (m.slot cpu).setNeedResched

/-- Whether a switch was asked for on a core, and the machine in which it no longer is. -/
def takeNeedResched (m : Machine) (cpu : CpuId) : Bool × Machine :=
  ((m.slot cpu).needResched, m.setSlot cpu (m.slot cpu).clearNeedResched)

/-! ## The current task -/

/-- The current task, if there is one in the table. -/
def currentTask? (m : Machine) : Option (TaskId × Task) :=
  m.current.bind fun id => (m.tasks.find? id).map fun task => (id, task)

def putTask (m : Machine) (id : TaskId) (task : Task) : Machine :=
  { m with tasks := m.tasks.put id task }

end Machine

end TrapLayer
