import TrapLayer.Frame.Switch
import TrapLayer.Hardware
import TrapLayer.Signal.Action

/-!
# Tasks and the task table

A task as the trap layer sees it, and the bounded table of live tasks. An identifier is the index
of a slot; it is not reused while its task is live, and a new task takes the lowest free slot.

* `find?_put_same`, `find?_put_of_ne`: storing a task changes its own entry only.
-/
namespace TrapLayer

inductive TaskState
  | ready
  | running
  | stopped (sig : Signal)
  /-- Terminated by a signal; the scheduler reaps it. -/
  | killed (sig : Signal)
  deriving DecidableEq, Repr

def TaskState.text : TaskState → String
  | ready => "Ready"
  | running => "Running"
  | stopped sig => "Stopped(" ++ toString sig ++ ")"
  | killed sig => "Killed(" ++ toString sig ++ ")"

/-- What a debugger did to a task. -/
structure TraceState where
  traced : Bool
  hw : DebugRegs
  deriving DecidableEq

def TraceState.untraced : TraceState := ⟨false, .off⟩

structure Task where
  id : TaskId
  state : TaskState
  /-- User entry point, reported to the debugger before the first run. -/
  entry : UInt64
  /-- True until the task has trapped into the kernel once. -/
  firstStart : Bool
  switch : SwitchContext
  /-- Copy of the most recent frame pushed from user mode. -/
  shadow : ExceptionFrame
  signals : SignalState
  trace : TraceState
  deriving DecidableEq

namespace Task

def isAlive (t : Task) : Bool :=
  match t.state with
  | .ready | .running => true
  | .stopped _ | .killed _ => false

def terminate (t : Task) (sig : Signal) : Task := { t with state := .killed sig }

def stop (t : Task) (sig : Signal) : Task := { t with state := .stopped sig }

end Task

/-- Why the task table refused an operation. -/
inductive TaskError
  /-- Every slot is taken. -/
  | tableFull
  | noSuchTask (id : TaskId)
  deriving DecidableEq, Repr

def TaskError.message : TaskError → String
  | tableFull => "TableFull"
  | noSuchTask id => "NoSuchTask(" ++ id.text ++ ")"

/-- What a new user task starts with. -/
structure SpawnParams where
  entry : UInt64
  stackTop : UInt64
  tls : UInt64
  pgdl : UInt64
  asid : Asid

/-- The task that has just been created in a slot. -/
def Task.spawned (id : TaskId) (p : SpawnParams) : Task where
  id := id
  state := .ready
  entry := p.entry
  firstStart := true
  switch := .threadInit p.entry p.stackTop p.tls p.pgdl p.asid true
  shadow := .cleared
  signals := .fresh
  trace := .untraced

structure TaskTable where
  slots : List (Option Task)
  deriving DecidableEq

namespace TaskTable

def empty : TaskTable := ⟨[]⟩

def find? (t : TaskTable) (id : TaskId) : Option Task := t.slots[id.index]?.join

def task (t : TaskTable) (id : TaskId) : Except TaskError Task :=
  match t.find? id with
  | some task => .ok task
  | none => .error (.noSuchTask id)

/-- The first free slot, or the slot past the end while the table may still grow. -/
def freeSlot? (t : TaskTable) : Option Nat :=
  let free := t.slots.findIdx Option.isNone
  if free < maxTasks then some free else none

/-- Creates a ready user task in the first free slot. -/
def spawn (t : TaskTable) (p : SpawnParams) : Except TaskError (TaskId × TaskTable) :=
  match t.freeSlot? with
  | none => .error .tableFull
  | some i =>
    let id : TaskId := ⟨UInt32.ofNat i⟩
    let task := some (Task.spawned id p)
    .ok (id, ⟨if i < t.slots.length then t.slots.set i task else t.slots ++ [task]⟩)

/-- Stores a task back into its slot. -/
def put (t : TaskTable) (id : TaskId) (task : Task) : TaskTable :=
  ⟨t.slots.set id.index (some task)⟩

/-- Frees the slot of a task. -/
def remove (t : TaskTable) (id : TaskId) : Except TaskError (Task × TaskTable) :=
  (t.task id).map fun task => (task, ⟨t.slots.set id.index none⟩)

/-- Changes a live task. -/
def modify (t : TaskTable) (id : TaskId) (f : Task → Task) : Except TaskError TaskTable :=
  (t.task id).map fun task => t.put id (f task)

/-- Number of live tasks. -/
def size (t : TaskTable) : Nat := t.slots.countP Option.isSome

def isEmpty (t : TaskTable) : Bool := t.size == 0

theorem lt_length_of_find? {t : TaskTable} {id : TaskId} {task : Task}
    (h : t.find? id = some task) : id.index < t.slots.length := by
  unfold find? at h
  by_cases hl : id.index < t.slots.length
  · exact hl
  · rw [List.getElem?_eq_none (by omega)] at h; cases h

theorem find?_put_same {t : TaskTable} {id : TaskId} {old : Task} (h : t.find? id = some old)
    (task : Task) : (t.put id task).find? id = some task := by
  have hl := lt_length_of_find? h
  simp [put, find?, hl]

theorem find?_put_of_ne (t : TaskTable) {id other : TaskId} (h : other ≠ id) (task : Task) :
    (t.put id task).find? other = t.find? other := by
  have hi : id.index ≠ other.index := fun e => h (by
    cases id; cases other; simp only [TaskId.index] at e; rw [UInt32.toNat_inj.mp e])
  simp [put, find?, hi]

end TaskTable

end TrapLayer
