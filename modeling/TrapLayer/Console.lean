/-!
# The console

Diagnostics are single lines with a severity and a target. A capture keeps the most recent 1024 of
them and answers questions about their text; the serial port is what a text is sent through.
-/
namespace TrapLayer

inductive LogLevel
  | error | warn | info | debug | trace
  deriving DecidableEq, Repr

namespace LogLevel

def all : List LogLevel := [error, warn, info, debug, trace]

def tag : LogLevel → String
  | error => "ERROR" | warn => "WARN" | info => "INFO" | debug => "DEBUG" | trace => "TRACE"

end LogLevel

structure LogLine where
  level : LogLevel
  target : String
  text : String
  deriving DecidableEq, Repr

/-- `needle` occurs in `text`. -/
def containsText (needle : List Char) : List Char → Bool
  | [] => needle.isEmpty
  | c :: rest => needle.isPrefixOf (c :: rest) || containsText needle rest

def LogLine.mentions (line : LogLine) (needle : String) : Bool :=
  containsText needle.toList line.text.toList

/-- The most recent lines, oldest first. -/
structure LogCapture where
  lines : List LogLine
  deriving DecidableEq, Repr

namespace LogCapture

/-- Lines a capture holds at most. -/
def capacity : Nat := 1024

def empty : LogCapture := ⟨[]⟩

/-- The capture of a whole history of lines. -/
def ofHistory (history : List LogLine) : LogCapture :=
  ⟨history.drop (history.length - capacity)⟩

def push (c : LogCapture) (line : LogLine) : LogCapture := ofHistory (c.lines ++ [line])

/-- A line of that level whose text contains `needle` is held. -/
def contains (c : LogCapture) (level : LogLevel) (needle : String) : Bool :=
  c.lines.any fun line => line.level == level && line.mentions needle

/-- Lines of any level whose text contains `needle`. -/
def count (c : LogCapture) (needle : String) : Nat :=
  c.lines.countP fun line => line.mentions needle

/-- The levels at which a line containing `needle` is held, in order of severity. -/
def levelsOf (c : LogCapture) (needle : String) : List LogLevel :=
  LogLevel.all.filter fun level => c.contains level needle

/-- A line emitted `n` times, numbered from zero. -/
def pushNumbered (c : LogCapture) (level : LogLevel) (target text : String) (n : Nat) :
    LogCapture :=
  ofHistory (c.lines ++ (List.range n).map fun i => ⟨level, target, text ++ "#" ++ toString i⟩)

end LogCapture

/-! ## The serial port

The transmitter takes one byte at a time, and before each of them the status register is polled
until the transmitter is idle. A line feed is sent as carriage return and line feed. The device
answers the polls with the bytes of `status`, and is idle once they are used up.
-/

/-- A serial port at an address. -/
structure Uart where
  base : UInt64
  deriving DecidableEq, Repr

namespace Uart

/-- The port of the boot console. -/
def console : Uart := ⟨0x800000001fe001e0⟩

def transmitOff : UInt64 := 0x0

def statusOff : UInt64 := 0x5

/-- Status bit of an idle transmitter. -/
def idleBit : UInt8 := 0x20

/-- What the status register reads as once no other answer is left. -/
def idleStatus : UInt8 := 0x60

/-- What the device saw: the bytes sent, where, and the polls. -/
structure Traffic where
  sent : List (UInt64 × UInt8)
  polled : List UInt64
  deriving DecidableEq, Repr

/-- Polls until the transmitter is idle: how often, and the answers that are left. -/
def poll : List UInt8 → Nat × List UInt8
  | [] => (1, [])
  | s :: rest =>
    if s &&& idleBit != 0 then (1, rest)
    else
      let r := poll rest
      (r.1 + 1, r.2)

/-- Sends bytes as they are. -/
def sendRaw (u : Uart) : List UInt8 → List UInt8 → Traffic
  | _, [] => ⟨[], []⟩
  | status, b :: bs =>
    let p := poll status
    let rest := u.sendRaw p.2 bs
    ⟨(u.base + transmitOff, b) :: rest.sent,
      List.replicate p.1 (u.base + statusOff) ++ rest.polled⟩

/-- The bytes on the line for the bytes of a text. -/
def onLine (bytes : List UInt8) : List UInt8 :=
  bytes.flatMap fun b => if b = 10 then [13, 10] else [b]

/-- Writes a text. -/
def write (u : Uart) (status : List UInt8) (text : String) : Traffic :=
  u.sendRaw status (onLine text.toUTF8.toList)

end Uart

end TrapLayer
