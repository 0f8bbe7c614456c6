import TrapLayer.Frame.Exception
import TrapLayer.Signal.Action

/-!
# The signal frame

The image a delivery leaves on the user stack: a trampoline of four instructions, the signal
information, the user context with the stack and the blocked mask, and the machine context with the
program counter and the general registers. Extended register records follow it. The information is
for the handler alone and is not read back.

* `length_toBytes`: the image has 592 bytes.
-/
namespace TrapLayer

namespace SigFrame

/-- Load the number of the signal return, call it, and two that do nothing. -/
def trampoline : List UInt32 := [0x02822c0b, 0x002b0000, 0x03400000, 0x03400000]

/-! ## Offsets -/

def trampOff : Nat := 0

def infoOff : Nat := 16

def ucOff : Nat := infoOff + SigInfo.wireSize

def ucFlagsOff : Nat := ucOff

def ucLinkOff : Nat := ucOff + 8

def ucStackOff : Nat := ucOff + 16

def ucSigmaskOff : Nat := ucOff + 40

/-- The mask is padded to 1024 bits, and the machine context is 16-byte aligned. -/
def mcOff : Nat := ucOff + 176

def scPcOff : Nat := mcOff

def scRegsOff : Nat := mcOff + 8

def scFlagsOff : Nat := scRegsOff + 32 * 8

/-- Where the extended records start. -/
def scExtOff : Nat := (scFlagsOff + 4 + 15) / 16 * 16

/-- Bytes of the image. -/
def size : Nat := scExtOff

/-- Machine context flag: a floating-point or vector record follows. -/
def usedFp : UInt32 := 1

end SigFrame

/-- The program counter, the general registers and the flags of a machine context. -/
structure MachineContext where
  pc : UInt64
  regs : RegFile
  flags : UInt32
  deriving DecidableEq

structure SigFrame where
  info : SigInfo
  ucFlags : UInt64
  ucLink : UInt64
  stack : AltStack
  mask : SigSet
  context : MachineContext
  deriving DecidableEq

namespace SigFrame

def toBytes (f : SigFrame) : Bytes :=
  trampoline.flatMap le32 ++ f.info.toBytes ++
    le64 f.ucFlags ++ le64 f.ucLink ++
    le64 f.stack.sp ++ le32 f.stack.flags ++ List.replicate 4 0 ++ le64 f.stack.size ++
    le64 f.mask.bits ++ List.replicate 128 0 ++
    le64 f.context.pc ++ wordsLe f.context.regs.toList ++ le32 f.context.flags ++
    List.replicate 4 0

@[simp] theorem length_toBytes (f : SigFrame) : f.toBytes.length = size := by
  have ht : (trampoline.flatMap le32).length = 16 := by decide
  have hi : f.info.toBytes.length = 128 := SigInfo.length_toBytes _
  simp only [toBytes, List.length_append, ht, hi, length_le64, length_le32, length_wordsLe,
    List.length_replicate, Vector.length_toList]
  rfl

/-- Reads the fields that a signal return uses. -/
def ofBytes (b : Bytes) : SigFrame where
  info := .blank
  ucFlags := word64 b ucFlagsOff
  ucLink := word64 b ucLinkOff
  stack := ⟨word64 b ucStackOff, word32 b (ucStackOff + 8), word64 b (ucStackOff + 16)⟩
  mask := ⟨word64 b ucSigmaskOff⟩
  context :=
    { pc := word64 b scPcOff
      regs := Vector.ofFn fun i => word64 b (scRegsOff + i.val * 8)
      flags := word32 b scFlagsOff }

end SigFrame

end TrapLayer
