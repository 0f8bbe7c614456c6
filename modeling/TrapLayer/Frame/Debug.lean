import TrapLayer.Frame.Exception

/-!
# The debugger's register view

The 39 words a debugger reads and writes: the general registers and the seven status words of an
exception frame. A view that would resume in a privileged mode is refused, because the previous
mode is what the return to user mode installs.

* `ofWords_toWords`, `toWords_ofWords`: the image loses nothing and adds nothing.
-/
namespace TrapLayer

structure DebugFrame where
  regs : RegFile
  era : UInt64
  badv : UInt64
  crmd : UInt64
  prmd : UInt64
  euen : UInt64
  ecfg : UInt64
  estat : UInt64
  deriving DecidableEq

namespace DebugFrame

def cleared : DebugFrame := ⟨.cleared, 0, 0, 0, 0, 0, 0, 0⟩

/-- View of a task that has never run: only the entry point means something. -/
def firstStart (entry : UInt64) : DebugFrame := { cleared with era := entry }

def ofFrame (f : ExceptionFrame) : DebugFrame :=
  ⟨f.regs, f.era, f.badv, f.crmd, f.prmd, f.euen, f.ecfg, f.estat⟩

/-- Refuses a view that does not resume in user mode. -/
def validate (d : DebugFrame) : Except FrameError Unit :=
  if d.prmd &&& plvMask = plvUser then .ok () else .error (.privilegedMode (d.prmd &&& plvMask))

def status (d : DebugFrame) : StatusField → UInt64
  | .era => d.era | .badv => d.badv | .crmd => d.crmd | .prmd => d.prmd
  | .euen => d.euen | .ecfg => d.ecfg | .estat => d.estat

def setStatus (d : DebugFrame) (field : StatusField) (v : UInt64) : DebugFrame :=
  match field with
  | .era => { d with era := v }
  | .badv => { d with badv := v }
  | .crmd => { d with crmd := v }
  | .prmd => { d with prmd := v }
  | .euen => { d with euen := v }
  | .ecfg => { d with ecfg := v }
  | .estat => { d with estat := v }

def gpr (d : DebugFrame) (index : Nat) : Except FrameError UInt64 := d.regs.gpr index

def setGpr (d : DebugFrame) (index : Nat) (v : UInt64) : Except FrameError DebugFrame :=
  (d.regs.setGpr index v).map fun r => { d with regs := r }

/-- The frame with the registers and status words of the view; register zero stays zero. -/
def overwrite (d : DebugFrame) (f : ExceptionFrame) : ExceptionFrame :=
  { f with
    regs := d.regs.put Reg.zero 0
    era := d.era
    badv := d.badv
    crmd := d.crmd
    prmd := d.prmd
    euen := d.euen
    ecfg := d.ecfg
    estat := d.estat }

/-- Writes the view back into a frame, if it resumes in user mode. -/
def applyTo (d : DebugFrame) (f : ExceptionFrame) : Except FrameError ExceptionFrame :=
  d.validate.map fun _ => d.overwrite f

/-- Words of the image. -/
def wordCount : Nat := 39

/-- The words behind the general registers. -/
def trailer (d : DebugFrame) : Vector UInt64 7 :=
  #v[d.era, d.badv, d.crmd, d.prmd, d.euen, d.ecfg, d.estat]

/-- The view with those general registers and those words behind them. -/
def ofParts (regs : RegFile) (t : Vector UInt64 7) : DebugFrame :=
  ⟨regs, t[0], t[1], t[2], t[3], t[4], t[5], t[6]⟩

def toWords (d : DebugFrame) : Vector UInt64 (32 + 7) := d.regs ++ d.trailer

def ofWords (w : Vector UInt64 (32 + 7)) : DebugFrame := ofParts (Words.front w) (Words.back w)

theorem trailer_ofParts (regs : RegFile) (t : Vector UInt64 7) : (ofParts regs t).trailer = t := by
  ext i hi
  match i, hi with
  | 0, _ | 1, _ | 2, _ | 3, _ | 4, _ | 5, _ | 6, _ => rfl

theorem ofWords_toWords (d : DebugFrame) : ofWords d.toWords = d := by
  rw [ofWords, toWords, Words.front_append, Words.back_append]
  rfl

theorem toWords_ofWords (w : Vector UInt64 (32 + 7)) : (ofWords w).toWords = w := by
  rw [ofWords, toWords, trailer_ofParts]
  exact Words.front_append_back w

end DebugFrame

end TrapLayer
