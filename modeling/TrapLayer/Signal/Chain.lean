import TrapLayer.Hardware
import TrapLayer.Signal.Record

/-!
# Record chains

Records are laid out downward from a stack pointer: a terminator on top, then each record below the
last, its payload aligned. The size in a header covers the header, the payload and the gap up to
the record placed before it, so adding it to the address of a record gives the next header. Reading
goes upward along those sizes. Every header and every payload is checked before it is read, and the
first bad record ends the reading.

* `magic_ne_zero`: no record looks like a terminator.
-/
namespace TrapLayer

/-- A block of the layout; no kind stands for the terminator. -/
structure Placement where
  kind : Option RecordKind
  addr : UInt64
  size : UInt64
  deriving DecidableEq, Repr

/-- A terminator and the records below it, highest first. -/
structure ChainLayout where
  terminator : Placement
  records : List Placement
  deriving DecidableEq, Repr

namespace ChainLayout

/-- The block of a record below `base`. -/
def place (base : UInt64) (k : RecordKind) : Placement :=
  let addr := alignDown (base - UInt64.ofNat k.payloadSize) (max k.align 16) -
    UInt64.ofNat Record.headerSize
  ⟨some k, addr, base - addr⟩

/-- The blocks of records, each below the one before. -/
def placeAll : UInt64 → List RecordKind → List Placement
  | _, [] => []
  | base, k :: ks => place base k :: placeAll (place base k).addr ks

/-- The terminator at the top, then the kinds in order. -/
def plan (sp : UInt64) (kinds : List RecordKind) : ChainLayout :=
  let size := UInt64.ofNat Record.headerSize
  ⟨⟨none, sp - size, size⟩, placeAll (sp - size) kinds⟩

def blocks (l : ChainLayout) : List Placement := l.terminator :: l.records

/-- Address of the lowest block. -/
def low (l : ChainLayout) : UInt64 := (l.records.getLast?.getD l.terminator).addr

/-- Bytes from the lowest block to the end of the terminator. -/
def size (l : ChainLayout) : UInt64 := l.blocks.foldl (fun n b => n + b.size) 0

/-- The bytes of a block: its header, and its record if one of that kind was captured. -/
def blockBytes (contexts : List Record) (b : Placement) : Bytes :=
  match b.kind with
  | none => le32 0 ++ le32 0 ++ List.replicate 8 0
  | some k =>
    le32 k.magic ++ le32 b.size.toUInt32 ++ List.replicate 8 0 ++
      ((contexts.find? (·.kind == k)).map Record.encode).getD []

/-- Writes the blocks, highest first. -/
def write (l : ChainLayout) (contexts : List Record) (hw : Hardware) : Hardware :=
  l.blocks.foldl (fun hw b => hw.writeUser b.addr (blockBytes contexts b)) hw

end ChainLayout

/-- Why a chain was refused. -/
inductive ChainError
  /-- A header or a payload is not readable user memory. -/
  | fault (position : Nat) (addr : UInt64)
  | badMagic (position : Nat) (magic : UInt32)
  /-- The size does not cover the payload, or a terminator has one. -/
  | badSize (position : Nat) (size : UInt32)
  /-- A kind stands twice, or two banks do. -/
  | duplicate (position : Nat)
  /-- There is no terminator within the record limit or the address space. -/
  | unterminated
  deriving DecidableEq, Repr

def ChainError.message : ChainError → String
  | fault p addr =>
    "Fault \x7b position: " ++ toString p ++ ", addr: " ++ toString addr ++ " \x7d"
  | badMagic p magic =>
    "BadMagic \x7b position: " ++ toString p ++ ", magic: " ++ toString magic ++ " \x7d"
  | badSize p size =>
    "BadSize \x7b position: " ++ toString p ++ ", size: " ++ toString size ++ " \x7d"
  | duplicate p => "Duplicate \x7b position: " ++ toString p ++ " \x7d"
  | unterminated => "Unterminated"

/-- The two words of a record header. -/
structure RecordHeader where
  magic : UInt32
  size : UInt32
  deriving DecidableEq, Repr

namespace RecordHeader

def ofBytes (b : Bytes) : RecordHeader := ⟨word32 b 0, word32 b 4⟩

/-- What a header at `position`, after the records `seen`, announces: a record, or the end. -/
def announce (h : RecordHeader) (seen : List Record) (position : Nat) :
    Except ChainError (Option RecordKind) :=
  if h.magic = 0 then
    if h.size = 0 then .ok none else .error (.badSize position h.size)
  else
    match RecordKind.ofMagic? h.magic with
    | none => .error (.badMagic position h.magic)
    | some k =>
      if h.size.toNat < Record.headerSize + k.payloadSize then .error (.badSize position h.size)
      else if seen.any fun r => r.kind == k || (r.kind.isBank && k.isBank) then
        .error (.duplicate position)
      else .ok (some k)

end RecordHeader

namespace Hardware

/-- Checks a user range and reads it. -/
def fetch (hw : Hardware) (addr : UInt64) (len : Nat) : Option Bytes × Hardware :=
  let c := hw.checkUser addr len .read
  if c.1 then
    let r := c.2.readUser addr len
    (some r.1, r.2)
  else (none, c.2)

/-- Reads the records from `cursor` on, of which `n` may still follow. -/
def readRecords (hw : Hardware) (seen : List Record) (cursor : UInt64) (position : Nat) :
    Nat → Except ChainError (List Record) × Hardware
  | 0 => (.error .unterminated, hw)
  | n + 1 =>
    let header := hw.fetch cursor Record.headerSize
    match header.1 with
    | none => (.error (.fault position cursor), header.2)
    | some bytes =>
      let h := RecordHeader.ofBytes bytes
      match h.announce seen position with
      | .error e => (.error e, header.2)
      | .ok none => (.ok seen, header.2)
      | .ok (some k) =>
        let at_ := cursor + UInt64.ofNat Record.headerSize
        let payload := header.2.fetch at_ k.payloadSize
        match payload.1 with
        | none => (.error (.fault position at_), payload.2)
        | some bytes =>
          if 2 ^ 64 ≤ cursor.toNat + h.size.toNat then (.error .unterminated, payload.2)
          else
            payload.2.readRecords (seen ++ [.decode k bytes]) (cursor + h.size.toUInt64)
              (position + 1) n

/-- Records a chain may have, the terminator included. -/
def chainLimit : Nat := 8

/-- Reads the chain at `start`, lowest record first. -/
def readChain (hw : Hardware) (start : UInt64) : Except ChainError (List Record) × Hardware :=
  hw.readRecords [] start 0 chainLimit

end Hardware

theorem RecordKind.magic_ne_zero (k : RecordKind) : k.magic ≠ 0 := by
  cases k with
  | bank b => cases b <;> decide
  | lbt => decide

end TrapLayer
