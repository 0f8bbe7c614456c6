/-!
# Words

Operations on 64-bit words that the layers share, said through `%` and single bits so that they
move to `Nat` directly; sums and differences that are checked; the vectors of words that register
images are; and the text of words in the diagnostics.

* `toNat_alignDown`: rounding down is subtracting the remainder.
* `Checked.add_of_lt`, `Checked.add_of_le`: a checked sum is the sum, or stops.
* `Words.front_append`, `Words.back_append`, `Words.front_append_back`: the two pieces of an image.
* `Words.rows_flatten`, `Words.flatten_rows`: the rows of an image.
* `Words.toList_eq_map_get`, `Words.toList_flatten`: its words as a list.
-/
namespace TrapLayer

/-- The largest multiple of `size` that is not above `w`. -/
def alignDown (w size : UInt64) : UInt64 := w - w % size

theorem toNat_alignDown (w size : UInt64) :
    (alignDown w size).toNat = w.toNat - w.toNat % size.toNat := by
  unfold alignDown
  have h : w % size ≤ w := by
    rw [UInt64.le_iff_toNat_le, UInt64.toNat_mod]; exact Nat.mod_le _ _
  rw [UInt64.toNat_sub_of_le _ _ h, UInt64.toNat_mod]

/-- Bit `i` of a word; bits from 64 on are clear. -/
def bitOf (w : UInt64) (i : Nat) : Bool := w.toBitVec.getLsbD i

/-- The word with bit `i` set and no other; zero when `i` is not below 64. -/
def oneBit (i : Nat) : UInt64 := if i < 64 then ⟨BitVec.twoPow 64 i⟩ else 0

/-- All bits of `mask` are set in `w`. -/
def hasBits (w mask : UInt64) : Bool := w &&& mask == mask

/-- Number of the lowest set bit, if any bit is set. -/
def lowestBit? (w : UInt64) : Option Nat := (List.range 64).find? (bitOf w)

theorem bitOf_oneBit (i j : Nat) : bitOf (oneBit i) j = (decide (j < 64) && decide (i = j)) := by
  by_cases hi : i < 64
  · by_cases h : i = j
    · subst h; simp [bitOf, oneBit, hi]
    · simp [bitOf, oneBit, BitVec.getLsbD_twoPow, hi, h]
  · by_cases h : i = j
    · subst h; simp [bitOf, oneBit, hi]
    · simp [bitOf, oneBit, hi, h]

/-! ## Checked arithmetic

A build with overflow checks stops at the first sum or difference that does not fit in a word. A
function that adds or subtracts without a guard has beside it a form that stops where such a build
does.
-/

/-- An operation whose result does not fit in a word. -/
inductive ArithmeticFault
  | add
  | sub
  deriving DecidableEq, Repr

def ArithmeticFault.message : ArithmeticFault → String
  | add => "attempt to add with overflow"
  | sub => "attempt to subtract with overflow"

/-- A computation that stops at a result that does not fit. -/
abbrev Checked := Except ArithmeticFault

namespace Checked

def add (a b : UInt64) : Checked UInt64 :=
  if a.toNat + b.toNat < 2 ^ 64 then .ok (a + b) else .error .add

def sub (a b : UInt64) : Checked UInt64 := if b ≤ a then .ok (a - b) else .error .sub

variable {α β : Type} {a b : UInt64}

theorem ok_bind (x : α) (f : α → Checked β) : ((.ok x : Checked α) >>= f) = f x := rfl

theorem error_bind (e : ArithmeticFault) (f : α → Checked β) :
    ((.error e : Checked α) >>= f) = .error e := rfl

theorem pure_eq (x : α) : (pure x : Checked α) = .ok x := rfl

theorem add_of_lt (h : a.toNat + b.toNat < 2 ^ 64) : add a b = .ok (a + b) := if_pos h

theorem add_of_le (h : 2 ^ 64 ≤ a.toNat + b.toNat) : add a b = .error .add :=
  if_neg (Nat.not_lt.2 h)

theorem sub_of_le (h : b.toNat ≤ a.toNat) : sub a b = .ok (a - b) :=
  if_pos (UInt64.le_iff_toNat_le.2 h)

end Checked

/-! ## Word images

A register image in memory is one vector of words; here such a vector is cut into its first words
and the rest, or into rows of one width. Cutting and joining are inverse to each other, so an image
that is put together from parts gives the parts back.
-/

namespace Words

variable {α : Type} {n m : Nat}

/-- The first `n` words of an image. -/
def front (w : Vector α (n + m)) : Vector α n := Vector.ofFn fun i => w[i.val]

/-- The words behind the first `n`. -/
def back (w : Vector α (n + m)) : Vector α m := Vector.ofFn fun i => w[n + i.val]

theorem row_lt {i l : Nat} (hi : i < n) (hl : l < m) : i * m + l < n * m := by
  have h : (i + 1) * m ≤ n * m := Nat.mul_le_mul_right m hi
  rw [Nat.add_mul, Nat.one_mul] at h
  omega

/-- The words of an image in `n` rows of `m`. -/
def rows (w : Vector α (n * m)) : Vector (Vector α m) n :=
  Vector.ofFn fun i => Vector.ofFn fun l =>
    have h := row_lt i.isLt l.isLt
    w[i.val * m + l.val]

@[simp] theorem front_append (a : Vector α n) (b : Vector α m) : front (a ++ b) = a := by
  ext i hi
  simp [front]

@[simp] theorem back_append (a : Vector α n) (b : Vector α m) : back (a ++ b) = b := by
  ext i hi
  simp [back]

@[simp] theorem front_append_back (w : Vector α (n + m)) : front w ++ back w = w := by
  ext i hi
  rw [Vector.getElem_append]
  split
  · simp [front]
  · have hn : n + (i - n) = i := by omega
    simp [back, hn]

@[simp] theorem rows_flatten (v : Vector (Vector α m) n) : rows v.flatten = v := by
  ext i hi l hl
  have hd : (i * m + l) / m = i := by
    rw [Nat.add_comm, Nat.add_mul_div_right _ _ (by omega), Nat.div_eq_of_lt hl, Nat.zero_add]
  have hm : (i * m + l) % m = l := by
    rw [Nat.add_comm, Nat.add_mul_mod_self_right, Nat.mod_eq_of_lt hl]
  simp only [rows, Vector.getElem_ofFn, Vector.getElem_flatten, hd, hm]

@[simp] theorem flatten_rows (w : Vector α (n * m)) : (rows w).flatten = w := by
  ext i hi
  simp [rows, Vector.getElem_flatten, Nat.div_add_mod']

theorem toList_eq_map_get (w : Vector α n) : w.toList = (List.finRange n).map w.get := by
  apply List.ext_getElem
  · simp
  · intro i h1 h2
    simp [Vector.get]

theorem toList_flatten (v : Vector (Vector α m) n) :
    v.flatten.toList = v.toList.flatMap Vector.toList := by
  show (v.toArray.map Vector.toArray).flatten.toList = _
  rw [Array.toList_flatten, Array.toList_map, List.map_map, List.flatMap_def]
  rfl

end Words

/-! ## Number text -/

/-- Lower-case hexadecimal digits of `n`, at least one. -/
def hexDigits (n : Nat) : String := String.ofList (Nat.toDigits 16 n)

/-- `n` in hexadecimal, filled with zeros on the left up to `width` digits. -/
def hexPadded (width n : Nat) : String :=
  let digits := Nat.toDigits 16 n
  String.ofList (List.replicate (width - digits.length) '0' ++ digits)

namespace Text

/-- A word as `0x` and its digits, without leading zeros. -/
def hex (w : UInt64) : String := "0x" ++ hexDigits w.toNat

/-- A word as `0x` and all of its sixteen digits. -/
def hex16 (w : UInt64) : String := "0x" ++ hexPadded 16 w.toNat

/-- Words in brackets, sixteen digits each. -/
def hexRow (ws : List UInt64) : String :=
  "[" ++ ", ".intercalate (ws.map fun w => hexPadded 16 w.toNat) ++ "]"

/-- Two decimal digits. -/
def two (n : Nat) : String := if n < 10 then "0" ++ toString n else toString n

/-- The record `name \x7b body \x7d`. -/
def braced (name body : String) : String := name ++ " \x7b " ++ body ++ " \x7d"

end Text

end TrapLayer
