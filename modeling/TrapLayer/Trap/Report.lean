import TrapLayer.Console
import TrapLayer.Frame.Exception
import TrapLayer.Ident
import TrapLayer.Trap.Cause

/-!
# Fatal reports, frame dumps and the trap ring

What is said about a trap that stops the system, one line a row, the short dump of a frame, and the
frames of the most recent traps.
-/
namespace TrapLayer

namespace ExceptionFrame

def ecode (f : ExceptionFrame) : Nat := exceptionCode f.estat

def subcode (f : ExceptionFrame) : Nat := exceptionSubcode f.estat

/-- The general registers `first ..< first + n`. -/
def regRow (f : ExceptionFrame) (first n : Nat) : List UInt64 := (f.regs.toList.drop first).take n

/-- The short dump: return address, cause, bad address and argument registers. -/
def dump (f : ExceptionFrame) : String :=
  " era=" ++ Text.hex16 f.era ++ "\n estat=" ++ Text.hex16 f.estat ++
    " (" ++ Ecode.nameOf f.ecode ++ ")\n badv=" ++ Text.hex16 f.badv ++
    "\n a0..a7 = " ++ Text.hexRow (f.regRow 4 8) ++ "\n"

end ExceptionFrame

/-- A trap that stops the system. -/
structure FatalReport where
  cpu : CpuId
  fault : FaultClass
  frame : ExceptionFrame
  deriving DecidableEq

namespace FatalReport

/-- The lines of the report, in order. -/
def rows (r : FatalReport) : List String :=
  let f := r.frame
  [r.cpu.name ++ ": fatal " ++ r.fault.text ++ " (" ++ Ecode.nameOf f.ecode ++ " ecode=0x" ++
      hexDigits f.ecode ++ " subcode=0x" ++ hexDigits f.subcode ++ ") from " ++
      (if f.fromUser then "user" else "kernel"),
    " era=" ++ Text.hex16 f.era ++ " badv=" ++ Text.hex16 f.badv ++ " estat=" ++
      Text.hex16 f.estat,
    " crmd=" ++ Text.hex f.crmd ++ " prmd=" ++ Text.hex f.prmd ++ " euen=" ++ Text.hex f.euen ++
      " ecfg=" ++ Text.hex f.ecfg] ++
    [0, 8, 16, 24].map fun first =>
      " r" ++ Text.two first ++ "..r" ++ Text.two (first + 7) ++ " = " ++
        Text.hexRow (f.regRow first 8)

/-- The report as log lines. -/
def lines (r : FatalReport) : List LogLine := r.rows.map fun row => ⟨.error, "trap", row⟩

end FatalReport

/-- What the entry stub does once a trap was dispatched. -/
inductive TrapOutcome
  /-- Restore the frame, which may have been changed. -/
  | resume
  /-- The report was logged; stop the core. -/
  | halt (report : FatalReport)
  deriving DecidableEq

/-! ## The trap ring

The frames of the most recent 64 traps, written around a ring, and the last of them.
-/

structure TrapRing where
  slots : Vector (Option ExceptionFrame) 64
  /-- The slot the next trap goes to. -/
  next : Fin 64
  last : Option ExceptionFrame

namespace TrapRing

def empty : TrapRing := ⟨Vector.replicate 64 none, 0, none⟩

/-- Remembers a frame as the most recent trap. -/
def record (r : TrapRing) (f : ExceptionFrame) : TrapRing :=
  ⟨r.slots.set r.next.val (some f), r.next + 1, some f⟩

/-- The frames held, oldest first. -/
def recent (r : TrapRing) : List ExceptionFrame :=
  (r.slots.toList.rotateLeft r.next.val).filterMap id

end TrapRing

end TrapLayer
