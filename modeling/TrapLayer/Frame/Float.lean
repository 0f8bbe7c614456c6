import TrapLayer.Word

/-!
# Floating-point, vector and binary-translation state

Every vector register is kept at its full width of four words; the scalar and the 128-bit view use
the low one and two. Moving a bank copies the lanes that the bank covers, the condition flags and
the control register, and leaves the other lanes alone.

* `ofWords_toWords`, `toWords_ofWords`: the save area loses nothing and adds nothing.
-/
namespace TrapLayer

/-- A vector register at full width, low word first. -/
abbrev Lanes := Vector UInt64 4

/-- The register bank a save or a restore names. -/
inductive FpBank
  /-- 64-bit scalar registers. -/
  | fpu
  /-- 128-bit vector registers. -/
  | lsx
  /-- 256-bit vector registers. -/
  | lasx
  deriving DecidableEq, Repr

namespace FpBank

/-- Words of each register that the bank covers. -/
def lanes : FpBank → Nat
  | fpu => 1 | lsx => 2 | lasx => 4

def text : FpBank → String
  | fpu => "Fpu" | lsx => "Lsx" | lasx => "Lasx"

end FpBank

/-- Units the core has. -/
structure Features where
  fpu : Bool
  lsx : Bool
  lasx : Bool
  lbt : Bool
  deriving DecidableEq, Repr

structure FpState where
  fpr : Vector Lanes 32
  /-- Condition flags, one byte each. -/
  fcc : UInt64
  fcsr : UInt64
  /-- Scratch registers of the binary translation unit. -/
  scr : Lanes
  eflags : UInt64
  ftop : UInt64
  /-- Non-zero once the task has executed a floating-point instruction. -/
  used : UInt64
  /-- Unused words at the end of the save area. -/
  reserved : Vector UInt64 3
  deriving DecidableEq

namespace FpState

def cleared : FpState :=
  ⟨Vector.replicate 32 (Vector.replicate 4 0), 0, 0, Vector.replicate 4 0, 0, 0, 0,
    Vector.replicate 3 0⟩

def isUsed (s : FpState) : Bool := s.used != 0

/-- The low `n` words of `src` over those of `dst`. -/
def mergeLanes (n : Nat) (src dst : Lanes) : Lanes :=
  Vector.ofFn fun l => if l.val < n then src[l.val] else dst[l.val]

/-- The low `n` words of every register of `src` over those of `dst`. -/
def mergeRegs (n : Nat) (src dst : Vector Lanes 32) : Vector Lanes 32 :=
  src.zipWith (mergeLanes n) dst

/-- `dst` after the registers of `bank` are moved into it from `src`. -/
def moveBank (bank : FpBank) (src dst : FpState) : FpState :=
  { dst with fpr := mergeRegs bank.lanes src.fpr dst.fpr, fcc := src.fcc, fcsr := src.fcsr }

/-- `dst` after the binary-translation registers are moved into it from `src`. -/
def moveLbt (src dst : FpState) : FpState :=
  { dst with scr := src.scr, eflags := src.eflags, ftop := src.ftop }

/-- Words of the save area. -/
def wordCount : Nat := 140

/-- The words behind the vector registers. -/
def trailer (s : FpState) : Vector UInt64 12 :=
  #v[s.fcc, s.fcsr, s.scr[0], s.scr[1], s.scr[2], s.scr[3], s.eflags, s.ftop, s.used,
    s.reserved[0], s.reserved[1], s.reserved[2]]

/-- The state with those vector registers and those words behind them. -/
def ofParts (fpr : Vector Lanes 32) (t : Vector UInt64 12) : FpState :=
  ⟨fpr, t[0], t[1], #v[t[2], t[3], t[4], t[5]], t[6], t[7], t[8], #v[t[9], t[10], t[11]]⟩

def toWords (s : FpState) : Vector UInt64 (32 * 4 + 12) := s.fpr.flatten ++ s.trailer

def ofWords (w : Vector UInt64 (32 * 4 + 12)) : FpState :=
  ofParts (Words.rows (Words.front w)) (Words.back w)

theorem trailer_ofParts (fpr : Vector Lanes 32) (t : Vector UInt64 12) :
    (ofParts fpr t).trailer = t := by
  ext i hi
  match i, hi with
  | 0, _ | 1, _ | 2, _ | 3, _ | 4, _ | 5, _ | 6, _ | 7, _ | 8, _ | 9, _ | 10, _ | 11, _ => rfl

theorem ofParts_trailer (s : FpState) : ofParts s.fpr s.trailer = s := by
  have hs : #v[s.scr[0], s.scr[1], s.scr[2], s.scr[3]] = s.scr := by
    ext i hi
    match i, hi with
    | 0, _ | 1, _ | 2, _ | 3, _ => rfl
  have hr : #v[s.reserved[0], s.reserved[1], s.reserved[2]] = s.reserved := by
    ext i hi
    match i, hi with
    | 0, _ | 1, _ | 2, _ => rfl
  have h : ofParts s.fpr s.trailer =
      { s with
        scr := #v[s.scr[0], s.scr[1], s.scr[2], s.scr[3]]
        reserved := #v[s.reserved[0], s.reserved[1], s.reserved[2]] } := rfl
  rw [h, hs, hr]

theorem ofWords_toWords (s : FpState) : ofWords s.toWords = s := by
  rw [ofWords, toWords, Words.front_append, Words.back_append, Words.rows_flatten]
  exact ofParts_trailer s

theorem toWords_ofWords (w : Vector UInt64 (32 * 4 + 12)) : (ofWords w).toWords = w := by
  rw [ofWords, toWords, trailer_ofParts]
  exact (congrArg (· ++ Words.back w) (Words.flatten_rows (Words.front w))).trans
    (Words.front_append_back w)

end FpState

end TrapLayer
