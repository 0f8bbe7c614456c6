import TrapLayer.Bytes
import TrapLayer.Frame.Float

/-!
# Extended register records

Register state that follows a signal frame: one record for a floating-point or vector bank and one
for the binary-translation registers. A record has a header of 16 bytes and a payload; a bank's
payload holds the lanes it covers, the condition flags and the low half of the control register.
-/
namespace TrapLayer

/-- What a record describes. -/
inductive RecordKind
  | bank (b : FpBank)
  | lbt
  deriving DecidableEq, Repr

namespace RecordKind

def all : List RecordKind := [bank .fpu, bank .lsx, bank .lasx, lbt]

def text : RecordKind → String
  | bank b => b.text
  | lbt => "Lbt"

def ofText? (s : String) : Option RecordKind := all.find? (·.text == s)

/-- The word that opens a record. -/
def magic : RecordKind → UInt32
  | bank .fpu => 0x46505501
  | bank .lsx => 0x53580001
  | bank .lasx => 0x41535801
  | lbt => 0x42540001

def ofMagic? (m : UInt32) : Option RecordKind := all.find? (·.magic == m)

/-- Alignment of the payload. -/
def align : RecordKind → UInt64
  | bank .fpu | lbt => 8
  | bank .lsx => 16
  | bank .lasx => 32

/-- Bytes of the payload, padded to its alignment. -/
def payloadSize : RecordKind → Nat
  | bank .fpu => 32 * 8 + 8 + 8
  | bank .lsx => 64 * 8 + 8 + 8
  | bank .lasx => 128 * 8 + 32
  | lbt => 4 * 8 + 4 + 4

def bank? : RecordKind → Option FpBank
  | bank b => some b
  | lbt => none

def isBank (k : RecordKind) : Bool := k.bank?.isSome

end RecordKind

/-- A record without its header. Lanes past the bank are zero. -/
inductive Record
  | bank (b : FpBank) (regs : Vector Lanes 32) (fcc : UInt64) (fcsr : UInt32)
  | lbt (scr : Lanes) (eflags ftop : UInt32)
  deriving DecidableEq

namespace Record

/-- Bytes of a header. -/
def headerSize : Nat := 16

def kind : Record → RecordKind
  | bank b .. => .bank b
  | lbt .. => .lbt

/-- The part of `state` that a kind describes. -/
def capture (k : RecordKind) (state : FpState) : Record :=
  match k with
  | .bank b =>
    bank b (FpState.mergeRegs b.lanes state.fpr FpState.cleared.fpr) state.fcc
      state.fcsr.toUInt32
  | .lbt => lbt state.scr state.eflags.toUInt32 state.ftop.toUInt32

/-- `state` with the record written back; lanes past the bank are left alone. -/
def apply (r : Record) (state : FpState) : FpState :=
  match r with
  | bank b regs fcc fcsr =>
    { state with
      fpr := FpState.mergeRegs b.lanes regs state.fpr
      fcc := fcc
      fcsr := fcsr.toUInt64 }
  | lbt scr eflags ftop =>
    { state with scr := scr, eflags := eflags.toUInt64, ftop := ftop.toUInt64 }

/-- The payload bytes that carry state; padding behind them is not written. -/
def encode : Record → Bytes
  | bank b regs fcc fcsr =>
    regs.toList.flatMap (fun r => wordsLe (r.toList.take b.lanes)) ++ le64 fcc ++ le32 fcsr
  | lbt scr eflags ftop => wordsLe scr.toList ++ le32 eflags ++ le32 ftop

/-- Reads a payload. -/
def decode (k : RecordKind) (payload : Bytes) : Record :=
  match k with
  | .bank b =>
    let tail := 32 * b.lanes * 8
    bank b
      (Vector.ofFn fun i => Vector.ofFn fun l =>
        if l.val < b.lanes then word64 payload ((i.val * b.lanes + l.val) * 8) else 0)
      (word64 payload tail) (word32 payload (tail + 8))
  | .lbt =>
    lbt (Vector.ofFn fun l => word64 payload (l.val * 8)) (word32 payload 32) (word32 payload 36)

@[simp] theorem kind_capture (k : RecordKind) (state : FpState) : (capture k state).kind = k := by
  cases k <;> rfl

@[simp] theorem kind_decode (k : RecordKind) (payload : Bytes) : (decode k payload).kind = k := by
  cases k <;> rfl

end Record

end TrapLayer
