import TrapLayer.Csr
import TrapLayer.Frame.Register
import TrapLayer.Word

/-!
# The exception frame

The registers the entry stub pushes when a trap is taken: 32 general registers, the first syscall
argument as it was on entry, the kind of trap, and seven status words. The image in memory is the
41 words in that order.

* `ofWords_toWords`, `toWords_ofWords`: the image loses nothing and adds nothing.
-/
namespace TrapLayer

/-- Why the frame was pushed. -/
inductive FrameKind
  | exception | syscall | irq | tlbRefill
  /-- The registers were just reloaded from a signal frame; no syscall restart applies. -/
  | sigReturn
  deriving DecidableEq, Repr

namespace FrameKind

/-- The word the entry stub stores. -/
def word : FrameKind → UInt64
  | exception => 0 | syscall => 1 | irq => 2 | tlbRefill => 3 | sigReturn => 4

/-- The kind a stored word stands for; unknown words are exceptions. -/
def ofWord (w : UInt64) : FrameKind :=
  if w = 1 then syscall else if w = 2 then irq else if w = 3 then tlbRefill
  else if w = 4 then sigReturn else exception

def text : FrameKind → String
  | exception => "Exception" | syscall => "Syscall" | irq => "Irq"
  | tlbRefill => "TlbRefill" | sigReturn => "SigReturn"

def all : List FrameKind := [exception, syscall, irq, tlbRefill, sigReturn]

theorem ofWord_word (k : FrameKind) : ofWord k.word = k := by cases k <;> rfl

end FrameKind

structure ExceptionFrame where
  regs : RegFile
  /-- First syscall argument as it was on entry; `a0` itself is overwritten by the result. -/
  origA0 : UInt64
  frameType : UInt64
  era : UInt64
  badv : UInt64
  crmd : UInt64
  prmd : UInt64
  euen : UInt64
  ecfg : UInt64
  estat : UInt64
  deriving DecidableEq

namespace ExceptionFrame

def cleared : ExceptionFrame := ⟨.cleared, 0, 0, 0, 0, 0, 0, 0, 0, 0⟩

def gpr (f : ExceptionFrame) (index : Nat) : Except FrameError UInt64 := f.regs.gpr index

def setGpr (f : ExceptionFrame) (index : Nat) (v : UInt64) : Except FrameError ExceptionFrame :=
  (f.regs.setGpr index v).map fun r => { f with regs := r }

def status (f : ExceptionFrame) : StatusField → UInt64
  | .era => f.era | .badv => f.badv | .crmd => f.crmd | .prmd => f.prmd
  | .euen => f.euen | .ecfg => f.ecfg | .estat => f.estat

def setStatus (f : ExceptionFrame) (field : StatusField) (v : UInt64) : ExceptionFrame :=
  match field with
  | .era => { f with era := v }
  | .badv => { f with badv := v }
  | .crmd => { f with crmd := v }
  | .prmd => { f with prmd := v }
  | .euen => { f with euen := v }
  | .ecfg => { f with ecfg := v }
  | .estat => { f with estat := v }

def kind (f : ExceptionFrame) : FrameKind := .ofWord f.frameType

def setKind (f : ExceptionFrame) (k : FrameKind) : ExceptionFrame := { f with frameType := k.word }

/-- The trap was taken from user mode. -/
def fromUser (f : ExceptionFrame) : Bool := f.prmd &&& plvMask == plvUser

def sp (f : ExceptionFrame) : UInt64 := f.regs.read Reg.sp

def a0 (f : ExceptionFrame) : UInt64 := f.regs.read Reg.a0

def setA0 (f : ExceptionFrame) (v : UInt64) : ExceptionFrame :=
  { f with regs := f.regs.put Reg.a0 v }

def syscallNumber (f : ExceptionFrame) : UInt64 := f.regs.read Reg.a7

/-! ## The image in memory -/

/-- Words of the image. -/
def wordCount : Nat := 41

/-- Stack bytes the entry stub reserves: the image, rounded up to 16 bytes. -/
def stackSize : Nat := (wordCount * 8 + 15) / 16 * 16

/-- Byte offsets of the words behind the general registers. -/
def offOrigA0 : Nat := 32 * 8

def offType : Nat := offOrigA0 + 8

def offEra : Nat := offType + 8

def offBadv : Nat := offEra + 8

def offCrmd : Nat := offBadv + 8

def offPrmd : Nat := offCrmd + 8

def offEuen : Nat := offPrmd + 8

def offEcfg : Nat := offEuen + 8

def offEstat : Nat := offEcfg + 8

/-- The words behind the general registers. -/
def trailer (f : ExceptionFrame) : Vector UInt64 9 :=
  #v[f.origA0, f.frameType, f.era, f.badv, f.crmd, f.prmd, f.euen, f.ecfg, f.estat]

/-- The frame with those general registers and those words behind them. -/
def ofParts (regs : RegFile) (t : Vector UInt64 9) : ExceptionFrame :=
  ⟨regs, t[0], t[1], t[2], t[3], t[4], t[5], t[6], t[7], t[8]⟩

def toWords (f : ExceptionFrame) : Vector UInt64 (32 + 9) := f.regs ++ f.trailer

def ofWords (w : Vector UInt64 (32 + 9)) : ExceptionFrame := ofParts (Words.front w) (Words.back w)

theorem trailer_ofParts (regs : RegFile) (t : Vector UInt64 9) : (ofParts regs t).trailer = t := by
  ext i hi
  match i, hi with
  | 0, _ | 1, _ | 2, _ | 3, _ | 4, _ | 5, _ | 6, _ | 7, _ | 8, _ => rfl

theorem ofWords_toWords (f : ExceptionFrame) : ofWords f.toWords = f := by
  rw [ofWords, toWords, Words.front_append, Words.back_append]
  rfl

theorem toWords_ofWords (w : Vector UInt64 (32 + 9)) : (ofWords w).toWords = w := by
  rw [ofWords, toWords, trailer_ofParts]
  exact Words.front_append_back w

/-- Status words the return path reinstates, in order. The previous mode carries the privilege
that the return installs, so it goes last. -/
def restoreOrder : List StatusField := [.euen, .era, .prmd]

end ExceptionFrame

end TrapLayer
