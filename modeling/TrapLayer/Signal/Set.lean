import TrapLayer.Word

/-!
# Signal numbers and sets

Signals are numbered 1 to 64, and a set of them is a word with bit `n - 1` for signal `n`. Numbers
outside that range are in no set, and inserting or removing them does nothing.

* `contains_insert`, `contains_remove`, `contains_union`, `contains_without`: the operations by
  membership.
-/
namespace TrapLayer

abbrev Signal := UInt32

namespace Signal

def fpe : Signal := 8
def kill : Signal := 9
def usr1 : Signal := 10
def segv : Signal := 11
def alrm : Signal := 14
def chld : Signal := 17
def cont : Signal := 18
def stop : Signal := 19
def tstp : Signal := 20
def ttin : Signal := 21
def ttou : Signal := 22
def urg : Signal := 23
def winch : Signal := 28

/-- The position of a signal in a per-signal table, if the number is one. -/
def slot? (sig : Signal) : Option (Fin 64) :=
  if h : 1 ≤ sig.toNat ∧ sig.toNat ≤ 64 then some ⟨sig.toNat - 1, by omega⟩ else none

end Signal

structure SigSet where
  bits : UInt64
  deriving DecidableEq, Repr

namespace SigSet

def empty : SigSet := ⟨0⟩

/-- The word of the set that holds `sig` alone. -/
def bit (sig : Signal) : UInt64 := if sig = 0 then 0 else oneBit (sig.toNat - 1)

def contains (s : SigSet) (sig : Signal) : Bool := sig != 0 && bitOf s.bits (sig.toNat - 1)

def insert (s : SigSet) (sig : Signal) : SigSet := ⟨s.bits ||| bit sig⟩

def remove (s : SigSet) (sig : Signal) : SigSet := ⟨s.bits &&& ~~~ bit sig⟩

def union (s t : SigSet) : SigSet := ⟨s.bits ||| t.bits⟩

def without (s t : SigSet) : SigSet := ⟨s.bits &&& ~~~ t.bits⟩

/-- The lowest-numbered member. -/
def first? (s : SigSet) : Option Signal :=
  (lowestBit? s.bits).map fun i => UInt32.ofNat (i + 1)

/-- The members, lowest number first. -/
def toList (s : SigSet) : List Signal :=
  ((List.range 64).filter (bitOf s.bits)).map fun i => UInt32.ofNat (i + 1)

/-- The signals that can be neither blocked nor caught. -/
def unblockable : SigSet := (empty.insert Signal.kill).insert Signal.stop

theorem contains_union (s t : SigSet) (sig : Signal) :
    (s.union t).contains sig = (s.contains sig || t.contains sig) := by
  simp [union, contains, bitOf, Bool.and_or_distrib_left]

theorem contains_without (s t : SigSet) (sig : Signal) :
    (s.without t).contains sig = (s.contains sig && !t.contains sig) := by
  by_cases h : sig = 0
  · simp [contains, h]
  · have hs : (sig != 0) = true := by simpa using h
    by_cases hb : sig.toNat - 1 < 64
    · simp [without, contains, bitOf, hs, hb]
    · have e : s.bits.toBitVec.getLsbD (sig.toNat - 1) = false :=
        BitVec.getLsbD_of_ge _ _ (by omega)
      simp [without, contains, bitOf, e]

theorem contains_bit (sig x : Signal) :
    (⟨bit sig⟩ : SigSet).contains x = (decide (x = sig) && (Signal.slot? sig).isSome) := by
  have hx : x = 0 ↔ x.toNat = 0 := by rw [← UInt32.toNat_inj]; rfl
  have hs : sig = 0 ↔ sig.toNat = 0 := by rw [← UInt32.toNat_inj]; rfl
  have he : x = sig ↔ x.toNat = sig.toNat := by rw [UInt32.toNat_inj]
  have hv : (Signal.slot? sig).isSome = decide (1 ≤ sig.toNat ∧ sig.toNat ≤ 64) := by
    unfold Signal.slot?; split <;> simp_all
  have hb : bitOf (bit sig) (x.toNat - 1) =
      (decide (sig ≠ 0) &&
        (decide (x.toNat - 1 < 64) && decide (sig.toNat - 1 = x.toNat - 1))) := by
    unfold bit
    by_cases h : sig = 0
    · simp [h, bitOf]
    · rw [if_neg h, bitOf_oneBit]; simp [h]
  have hn : (x != 0) = decide (x.toNat ≠ 0) := by
    rw [bne, Bool.eq_iff_iff]
    simp [hx]
  rw [contains, hb, hv, hn, Bool.eq_iff_iff]
  simp only [Bool.and_eq_true, decide_eq_true_eq, ne_eq, he, hs]
  omega

theorem insert_eq_union (s : SigSet) (sig : Signal) : s.insert sig = s.union ⟨bit sig⟩ := rfl

theorem remove_eq_without (s : SigSet) (sig : Signal) : s.remove sig = s.without ⟨bit sig⟩ := rfl

theorem contains_insert (s : SigSet) (sig x : Signal) :
    (s.insert sig).contains x =
      (s.contains x || (decide (x = sig) && (Signal.slot? sig).isSome)) := by
  rw [insert_eq_union, contains_union, contains_bit]

theorem contains_remove (s : SigSet) (sig x : Signal) :
    (s.remove sig).contains x =
      (s.contains x && !(decide (x = sig) && (Signal.slot? sig).isSome)) := by
  rw [remove_eq_without, contains_without, contains_bit]

end SigSet

end TrapLayer
