/-!
# Bytes and byte memory

Numbers as bytes, least significant first, and fields read back by their offset; and memory as the
trap layer sees it behind a validated address.

* `leNat_leBytes`: `n` bytes give a number back modulo `256 ^ n`.
* `leBytes_leNat`: bytes are the encoding of their number.
* `word64_le64`, `word32_le32`: a field written behind any bytes is read at their length.
* `Memory.byte_write`: a write changes the bytes it covers and no other.
-/
namespace TrapLayer

-- A power of numbers can also be read as one in a monoid, wherever monoids are in scope. The plain
-- reading goes first, so a module states the same whatever it is imported beside.
attribute [instance (high), default_instance (high + 1)] instPowNat

abbrev Bytes := List UInt8

/-- The `n` low bytes of `v`, least significant first. -/
def leBytes : Nat → Nat → Bytes
  | 0, _ => []
  | n + 1, v => UInt8.ofNat v :: leBytes n (v / 256)

/-- The number whose bytes these are, least significant first. -/
def leNat : Bytes → Nat
  | [] => 0
  | b :: bs => b.toNat + 256 * leNat bs

@[simp] theorem length_leBytes : ∀ n v, (leBytes n v).length = n
  | 0, _ => rfl
  | n + 1, v => by simp [leBytes, length_leBytes n]

theorem leNat_leBytes : ∀ n v, leNat (leBytes n v) = v % 256 ^ n
  | 0, v => by simp [leBytes, leNat, Nat.mod_one]
  | n + 1, v => by
    rw [leBytes, leNat, leNat_leBytes n, Nat.pow_succ, Nat.mul_comm (256 ^ n), Nat.mod_mul]
    simp

theorem leNat_lt (bs : Bytes) : leNat bs < 256 ^ bs.length := by
  induction bs with
  | nil => simp [leNat]
  | cons b bs ih =>
    have := b.toNat_lt
    rw [leNat, List.length_cons, Nat.pow_succ]
    omega

theorem leBytes_leNat (bs : Bytes) : leBytes bs.length (leNat bs) = bs := by
  induction bs with
  | nil => rfl
  | cons b bs ih =>
    have hb : b.toNat < 256 := b.toNat_lt
    have hd : (b.toNat + 256 * leNat bs) / 256 = leNat bs := by omega
    have hm : UInt8.ofNat (b.toNat + 256 * leNat bs) = b := by
      apply UInt8.toNat_inj.mp
      simp
    rw [List.length_cons, leNat, leBytes, hd, hm, ih]

/-- The eight bytes of a word. -/
def le64 (w : UInt64) : Bytes := leBytes 8 w.toNat

/-- The four bytes of a half word. -/
def le32 (w : UInt32) : Bytes := leBytes 4 w.toNat

@[simp] theorem length_le64 (w : UInt64) : (le64 w).length = 8 := length_leBytes 8 _

@[simp] theorem length_le32 (w : UInt32) : (le32 w).length = 4 := length_leBytes 4 _

/-- The word whose eight bytes start at `off`; bytes past the end read as zero. -/
def word64 (bs : Bytes) (off : Nat) : UInt64 := UInt64.ofNat (leNat ((bs.drop off).take 8))

/-- The half word whose four bytes start at `off`; bytes past the end read as zero. -/
def word32 (bs : Bytes) (off : Nat) : UInt32 := UInt32.ofNat (leNat ((bs.drop off).take 4))

theorem word64_le64 (a b : Bytes) (w : UInt64) : word64 (a ++ le64 w ++ b) a.length = w := by
  have hw : w.toNat < 2 ^ 64 := w.toNat_lt
  have ht : ((a ++ le64 w ++ b).drop a.length).take 8 = le64 w := by
    rw [List.append_assoc, List.drop_left, List.take_left' (length_le64 w)]
  apply UInt64.toNat_inj.mp
  rw [word64, ht, le64, leNat_leBytes]
  simp

theorem word32_le32 (a b : Bytes) (w : UInt32) : word32 (a ++ le32 w ++ b) a.length = w := by
  have hw : w.toNat < 2 ^ 32 := w.toNat_lt
  have ht : ((a ++ le32 w ++ b).drop a.length).take 4 = le32 w := by
    rw [List.append_assoc, List.drop_left, List.take_left' (length_le32 w)]
  apply UInt32.toNat_inj.mp
  rw [word32, ht, le32, leNat_leBytes]
  simp

/-- The bytes of words, one after the other. -/
def wordsLe (ws : List UInt64) : Bytes := ws.flatMap le64

@[simp] theorem length_wordsLe (ws : List UInt64) : (wordsLe ws).length = 8 * ws.length := by
  induction ws with
  | nil => rfl
  | cons w ws ih =>
    rw [wordsLe, List.flatMap_cons, List.length_append, length_le64, ← wordsLe, ih,
      List.length_cons]
    omega

/-! ## Memory

One byte an address, zero where nothing was written. Addresses wrap at the end of the address
space.
-/

structure Memory where
  byte : UInt64 → UInt8

namespace Memory

/-- Memory in which nothing was written. -/
def zero : Memory := ⟨fun _ => 0⟩

def read (m : Memory) (addr : UInt64) (len : Nat) : Bytes :=
  (List.range len).map fun i => m.byte (addr + UInt64.ofNat i)

def write (m : Memory) (addr : UInt64) (bytes : Bytes) : Memory :=
  let data := bytes.toArray
  ⟨fun a => data[(a - addr).toNat]?.getD (m.byte a)⟩

theorem byte_write (m : Memory) (addr a : UInt64) (bytes : Bytes) :
    (m.write addr bytes).byte a = bytes[(a - addr).toNat]?.getD (m.byte a) := by
  simp [write]

@[simp] theorem length_read (m : Memory) (addr : UInt64) (len : Nat) :
    (m.read addr len).length = len := by
  simp [read]

end Memory

end TrapLayer
