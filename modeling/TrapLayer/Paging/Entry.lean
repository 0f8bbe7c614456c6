import TrapLayer.Word

/-!
# Page-table entries

The bits of an entry and the physical address it carries. Read and execute permission are negative
bits, write permission is a bit of its own, and an entry is open to user mode when both bits of its
privilege field are set.
-/
namespace TrapLayer

namespace Entry

def valid : UInt64 := 0x1

def dirty : UInt64 := 0x2

/-- The privilege field set to 3: reachable from user mode. -/
def user : UInt64 := 0xc

/-- Above the last level: the entry maps a huge page. -/
def huge : UInt64 := 0x40

def present : UInt64 := 0x80

def write : UInt64 := 0x100

def noRead : UInt64 := 0x2000000000000000

def noExec : UInt64 := 0x4000000000000000

def rplv : UInt64 := 0x8000000000000000

/-- Every bit that has a meaning here. -/
def known : UInt64 :=
  valid ||| dirty ||| user ||| huge ||| present ||| write ||| noRead ||| noExec ||| rplv

/-- Bits that carry the physical address, 48 bits wide and page aligned. -/
def frameMask : UInt64 := 0x0000fffffffff000

/-- The physical address an entry, or a root register, carries. -/
def address (entry : UInt64) : UInt64 := entry &&& frameMask

def isHuge (entry : UInt64) : Bool := entry &&& huge != 0

end Entry

/-- Access that a range is checked for. -/
inductive Access
  | read | write | readWrite
  deriving DecidableEq, Repr

def Access.text : Access → String
  | read => "Read" | write => "Write" | readWrite => "ReadWrite"

/-- The half of the address space that a range is checked in. -/
inductive Half
  | user | kernel
  deriving DecidableEq, Repr

/-- The access that raised a page-invalid exception. -/
inductive MissKind
  | load | store | fetch
  /-- A store to a clean page. -/
  | modify
  deriving DecidableEq, Repr

namespace MissKind

def all : List MissKind := [load, store, fetch, modify]

def text : MissKind → String
  | load => "Load" | store => "Store" | fetch => "Fetch" | modify => "Modify"

end MissKind

namespace Entry

/-- The leaf grants `access` to the half it is checked in. -/
def permits (entry : UInt64) (access : Access) (half : Half) : Bool :=
  hasBits entry present && (half == .kernel || hasBits entry user) &&
    match access with
    | .read => !hasBits entry noRead
    | .write => hasBits entry write
    | .readWrite => !hasBits entry noRead && hasBits entry write

/-- The leaf allows the access that missed, made from user mode or not. -/
def allowsMiss (entry : UInt64) (fromUser : Bool) (kind : MissKind) : Bool :=
  hasBits entry present && (!fromUser || hasBits entry user) &&
    match kind with
    | .load => !hasBits entry noRead
    | .store | .modify => hasBits entry write
    | .fetch => !hasBits entry noExec

end Entry

end TrapLayer
