import TrapLayer.Csr
import TrapLayer.Frame.Float
import TrapLayer.Frame.Register
import TrapLayer.Ident
import TrapLayer.Word

/-!
# The switch context

The registers of a task that survive a voluntary switch: a head of twelve words, the general
registers and the floating-point save area, 184 words in that order. It carries every status word
except the exception return address.

* `ofWords_toWords`, `toWords_ofWords`: the image loses nothing and adds nothing.
-/
namespace TrapLayer

structure SwitchContext where
  badv : UInt64
  crmd : UInt64
  prmd : UInt64
  euen : UInt64
  ecfg : UInt64
  estat : UInt64
  pc : UInt64
  sp : UInt64
  tls : UInt64
  /-- Root table of the lower half, installed when the task runs. -/
  pgdl : UInt64
  asid : UInt64
  /-- Non-zero while the task runs with interrupts enabled. -/
  vintflag : UInt64
  regs : RegFile
  fpu : FpState
  deriving DecidableEq

namespace SwitchContext

def cleared : SwitchContext := ⟨0, 0, 0, 0, 0, 0, 0, 0, 0, 0, 0, 0, .cleared, .cleared⟩

/-- The context of a task that has never run. The stack pointer is rounded down to 16 bytes. -/
def threadInit (entry stackTop tls pgdl : UInt64) (asid : Asid) (user : Bool) : SwitchContext :=
  let sp := alignDown stackTop 16
  { cleared with
    pc := entry
    sp := sp
    tls := tls
    pgdl := pgdl
    asid := asid.val.toUInt64
    crmd := plvKernel ||| crmdPg
    prmd := if user then prmdUserEntry else plvKernel ||| prmdPie
    vintflag := 1
    regs := (RegFile.cleared.put Reg.sp sp).put Reg.tp tls }

def gpr (c : SwitchContext) (index : Nat) : Except FrameError UInt64 := c.regs.gpr index

def setGpr (c : SwitchContext) (index : Nat) (v : UInt64) : Except FrameError SwitchContext :=
  (c.regs.setGpr index v).map fun r => { c with regs := r }

def status (c : SwitchContext) : StatusField → Except FrameError UInt64
  | .era => .error (.noSuchField .era)
  | .badv => .ok c.badv
  | .crmd => .ok c.crmd
  | .prmd => .ok c.prmd
  | .euen => .ok c.euen
  | .ecfg => .ok c.ecfg
  | .estat => .ok c.estat

def setStatus (c : SwitchContext) (field : StatusField) (v : UInt64) :
    Except FrameError SwitchContext :=
  match field with
  | .era => .error (.noSuchField .era)
  | .badv => .ok { c with badv := v }
  | .crmd => .ok { c with crmd := v }
  | .prmd => .ok { c with prmd := v }
  | .euen => .ok { c with euen := v }
  | .ecfg => .ok { c with ecfg := v }
  | .estat => .ok { c with estat := v }

/-- Words of the image. -/
def wordCount : Nat := 184

/-- Byte offsets that the switch routine uses. -/
def offPc : Nat := 6 * 8

def offSp : Nat := 7 * 8

def offRegs : Nat := 12 * 8

def offFpu : Nat := offRegs + 32 * 8

/-- The words in front of the general registers. -/
def head (c : SwitchContext) : Vector UInt64 12 :=
  #v[c.badv, c.crmd, c.prmd, c.euen, c.ecfg, c.estat, c.pc, c.sp, c.tls, c.pgdl, c.asid,
    c.vintflag]

/-- The context with that head, those general registers and that save area. -/
def ofParts (h : Vector UInt64 12) (regs : RegFile) (fpu : FpState) : SwitchContext :=
  ⟨h.get 0, h.get 1, h.get 2, h.get 3, h.get 4, h.get 5, h.get 6, h.get 7, h.get 8, h.get 9,
    h.get 10, h.get 11, regs, fpu⟩

def toWords (c : SwitchContext) : Vector UInt64 (12 + 32 + 140) := c.head ++ c.regs ++ c.fpu.toWords

def ofWords (w : Vector UInt64 (12 + 32 + 140)) : SwitchContext :=
  let front : Vector UInt64 (12 + 32) := Words.front w
  ofParts (Words.front front) (Words.back front) (.ofWords (Words.back w))

theorem head_ofParts (h : Vector UInt64 12) (regs : RegFile) (fpu : FpState) :
    (ofParts h regs fpu).head = h := by
  ext i hi
  match i, hi with
  | 0, _ | 1, _ | 2, _ | 3, _ | 4, _ | 5, _ | 6, _ | 7, _ | 8, _ | 9, _ | 10, _ | 11, _ => rfl

theorem ofWords_toWords (c : SwitchContext) : ofWords c.toWords = c := by
  simp only [ofWords, toWords, Words.front_append, Words.back_append]
  rw [FpState.ofWords_toWords]
  rfl

theorem toWords_ofWords (w : Vector UInt64 (12 + 32 + 140)) : (ofWords w).toWords = w := by
  simp only [ofWords, toWords, head_ofParts]
  rw [ofParts, FpState.toWords_ofWords, Words.front_append_back, Words.front_append_back]

end SwitchContext

end TrapLayer
