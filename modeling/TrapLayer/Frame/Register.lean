import TrapLayer.Word

/-!
# General registers

The 32 general registers of a frame, the ones the calling convention gives a role, and the checked
accessors. Register zero reads as zero and drops writes; an index outside the file is an error and
is never truncated.
-/
namespace TrapLayer

/-- The general registers, `r0` to `r31`. -/
abbrev RegFile := Vector UInt64 32

/-! ## Registers that have a role in the calling convention -/

namespace Reg

def zero : Fin 32 := 0
def ra : Fin 32 := 1
def tp : Fin 32 := 2
def sp : Fin 32 := 3
def a0 : Fin 32 := 4
def a1 : Fin 32 := 5
def a2 : Fin 32 := 6
/-- Carries the syscall number. -/
def a7 : Fin 32 := 11

end Reg

/-- A status word captured in a frame. -/
inductive StatusField
  | era | badv | crmd | prmd | euen | ecfg | estat
  deriving DecidableEq, Repr

namespace StatusField

/-- Every status word, in the order the frames store them. -/
def all : List StatusField := [era, badv, crmd, prmd, euen, ecfg, estat]

def text : StatusField → String
  | era => "Era" | badv => "Badv" | crmd => "Crmd" | prmd => "Prmd"
  | euen => "Euen" | ecfg => "Ecfg" | estat => "Estat"

def ofText? (s : String) : Option StatusField := all.find? (·.text == s)

end StatusField

/-- Why an access to a frame was refused. -/
inductive FrameError
  /-- There is no general register of that number. -/
  | indexOutOfRange (index : Nat)
  /-- The frame does not hold that status word. -/
  | noSuchField (field : StatusField)
  /-- The frame would resume in a mode that is not the user mode. -/
  | privilegedMode (plv : UInt64)
  deriving DecidableEq, Repr

def FrameError.message : FrameError → String
  | indexOutOfRange i => "IndexOutOfRange(" ++ toString i ++ ")"
  | noSuchField f => "NoSuchField(" ++ f.text ++ ")"
  | privilegedMode p => "PrivilegedMode(" ++ toString p ++ ")"

namespace RegFile

def cleared : RegFile := Vector.replicate 32 0

/-- The word held by register `i`, register zero included. -/
def read (r : RegFile) (i : Fin 32) : UInt64 := r[i.val]

/-- The register file with register `i` replaced, register zero included. -/
def put (r : RegFile) (i : Fin 32) (v : UInt64) : RegFile := r.set i.val v

/-- The value an instruction reads from register `index`. -/
def gpr (r : RegFile) (index : Nat) : Except FrameError UInt64 :=
  if h : index < 32 then .ok (if index = 0 then 0 else r[index])
  else .error (.indexOutOfRange index)

/-- The file after an instruction writes register `index`. -/
def setGpr (r : RegFile) (index : Nat) (v : UInt64) : Except FrameError RegFile :=
  if h : index < 32 then .ok (if index = 0 then r else r.set index v)
  else .error (.indexOutOfRange index)

@[simp] theorem read_put_same (r : RegFile) (i : Fin 32) (v : UInt64) :
    (r.put i v).read i = v := by
  simp [put, read]

theorem read_put_of_ne (r : RegFile) {i j : Fin 32} (h : j ≠ i) (v : UInt64) :
    (r.put i v).read j = r.read j := by
  have : i.val ≠ j.val := fun e => h (Fin.ext e.symm)
  simp [put, read, this]

theorem getElem?_put (r : RegFile) (i : Fin 32) (v : UInt64) (j : Nat) :
    (r.put i v)[j]? = if j = i.val then some v else r[j]? := by
  simp [put, Vector.getElem?_set, eq_comm]

end RegFile

end TrapLayer
