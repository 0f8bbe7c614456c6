import TrapLayer.Ident

/-!
# Per-core trap state

Each core has a slot: where its dispatcher stands, how deeply traps and interrupts are nested,
whether a switch was asked for, whether its page walker is set up, and how many traps it took.

* `get_set_same`, `get_set_of_ne`: setting one core's slot leaves the others alone.
-/
namespace TrapLayer

/-- Where the dispatcher of a core stands. -/
inductive DispatchState
  | idle | dispatching | returningToUser
  deriving DecidableEq, Repr

def DispatchState.text : DispatchState → String
  | idle => "Idle" | dispatching => "Dispatching" | returningToUser => "ReturningToUser"

/-- Whether the page walker of a core was set up. -/
inductive WalkerState
  | uninitialized | configured
  deriving DecidableEq, Repr

def WalkerState.text : WalkerState → String
  | uninitialized => "Uninitialized" | configured => "Configured"

structure CpuSlot where
  state : DispatchState
  /-- Traps being handled on the core, the outermost included. -/
  depth : UInt32
  irqNesting : UInt32
  needResched : Bool
  walker : WalkerState
  /-- Traps taken since the slot was created. -/
  traps : UInt64
  deriving DecidableEq, Repr

namespace CpuSlot

/-- The slot of a core that has taken no trap. -/
def fresh : CpuSlot := ⟨.idle, 0, 0, false, .uninitialized, 0⟩

def inIrq (s : CpuSlot) : Bool := s.irqNesting != 0

/-- One more trap: idle or returning to user mode, to dispatching. -/
def enter (s : CpuSlot) : CpuSlot :=
  { s with depth := s.depth + 1, traps := s.traps + 1, state := .dispatching }

/-- The outermost trap may start to return to user mode. -/
def mayReturn (s : CpuSlot) : Bool := s.depth == 1 && s.state == .dispatching

def beginReturn (s : CpuSlot) : CpuSlot := { s with state := .returningToUser }

/-- One trap less; the outermost exit goes back to idle. -/
def leave (s : CpuSlot) : CpuSlot :=
  { s with depth := s.depth - 1, state := if s.depth = 1 then .idle else .dispatching }

def irqEnter (s : CpuSlot) : CpuSlot := { s with irqNesting := s.irqNesting + 1 }

def irqExit (s : CpuSlot) : CpuSlot := { s with irqNesting := s.irqNesting - 1 }

def setNeedResched (s : CpuSlot) : CpuSlot := { s with needResched := true }

def clearNeedResched (s : CpuSlot) : CpuSlot := { s with needResched := false }

end CpuSlot

/-- The slots of all cores. -/
structure CpuRegistry where
  slots : Vector CpuSlot maxCpus
  deriving DecidableEq

namespace CpuRegistry

def fresh : CpuRegistry := ⟨Vector.replicate maxCpus .fresh⟩

def get (r : CpuRegistry) (cpu : CpuId) : CpuSlot := r.slots[cpu.index.val]

def set (r : CpuRegistry) (cpu : CpuId) (s : CpuSlot) : CpuRegistry :=
  ⟨r.slots.set cpu.index.val s⟩

@[simp] theorem get_set_same (r : CpuRegistry) (cpu : CpuId) (s : CpuSlot) :
    (r.set cpu s).get cpu = s := by
  simp [get, set]

theorem get_set_of_ne (r : CpuRegistry) {cpu other : CpuId} (h : other ≠ cpu) (s : CpuSlot) :
    (r.set cpu s).get other = r.get other := by
  have : cpu.index.val ≠ other.index.val := fun e => h (by
    cases cpu; cases other; simp at e ⊢; exact (Fin.ext e).symm)
  simp [get, set, this]

end CpuRegistry

end TrapLayer
