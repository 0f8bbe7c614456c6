/-!
# Sizes and identifiers

The fixed capacities of the per-core, task, syscall and interrupt tables, and the cores, tasks,
interrupt sources and address spaces that are numbered within them. A `CpuId` carries its bound, so
every core that has an identifier has a per-core slot.
-/
namespace TrapLayer

/-- Cores that have a slot of their own. -/
abbrev maxCpus : Nat := 8

/-- Slots of the standard syscall table, numbers `0 ..< 512`. -/
abbrev standardSyscalls : Nat := 512

/-- First number of the extended syscall window. -/
abbrev extendedStart : Nat := 0x1000

/-- Slots of the extended syscall table. -/
abbrev extendedSyscalls : Nat := 64

/-- Interrupt sources that can have a handler. -/
abbrev maxIrqs : Nat := 256

/-- Tasks that can be live at once. -/
abbrev maxTasks : Nat := 256

/-- Width of the virtual addresses the hardware translates. -/
abbrev vaBits : Nat := 48

/-- Bytes between two entries of the exception vector table. -/
abbrev vectorSize : Nat := 0x200

/-- Lowest address user code may be given; page zero is never mapped. -/
def userStart : UInt64 := 0x1000

/-- A core that has a slot of its own. -/
structure CpuId where
  index : Fin maxCpus
  deriving DecidableEq, Repr

namespace CpuId

/-- The core that boots first. -/
def boot : CpuId := ⟨⟨0, by decide⟩⟩

/-- Core number `n`, if it has a slot. -/
def ofNat? (n : Nat) : Option CpuId :=
  if h : n < maxCpus then some ⟨⟨n, h⟩⟩ else none

/-- The core number field of the core identification register: its low nine bits. -/
def csrField (value : UInt64) : Nat := value.toNat % 0x200

/-- The core a value of the core identification register names, if it has a slot. -/
def ofCsr? (value : UInt64) : Option CpuId := ofNat? (csrField value)

def isBoot (cpu : CpuId) : Bool := cpu.index.val == 0

/-- The name the diagnostics use. -/
def name (cpu : CpuId) : String := "cpu" ++ toString cpu.index.val

def text (cpu : CpuId) : String := "CpuId(" ++ toString cpu.index.val ++ ")"

theorem ofNat?_index (cpu : CpuId) : ofNat? cpu.index.val = some cpu := by
  simp [ofNat?]

end CpuId

/-- Index of a task in the task table. -/
structure TaskId where
  val : UInt32
  deriving DecidableEq, Repr

namespace TaskId

def index (id : TaskId) : Nat := id.val.toNat

/-- The name the diagnostics use. -/
def name (id : TaskId) : String := "task#" ++ toString id.val

def text (id : TaskId) : String := "TaskId(" ++ toString id.val ++ ")"

end TaskId

/-- An interrupt source, as the interrupt controller numbers it. -/
structure IrqId where
  val : UInt32
  deriving DecidableEq, Repr

namespace IrqId

def index (irq : IrqId) : Nat := irq.val.toNat

def text (irq : IrqId) : String := "IrqId(" ++ toString irq.val ++ ")"

end IrqId

/-- An address-space number. -/
structure Asid where
  val : UInt16
  deriving DecidableEq, Repr

end TrapLayer
