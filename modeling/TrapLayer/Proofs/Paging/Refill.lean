import TrapLayer.Paging.Refill
import TrapLayer.Proofs.Hardware

/-!
# Refills translate like the page table

A miss loads two entries for a pair of pages. What the hardware reads off them later is compared
with the walk, for every address of the pair and not only for the one that missed.

* `walk_eq_of_span`: an address reaches the leaf that any other address of its span reaches.
* `toNat_address_add`: an aligned increment of an entry moves the address it carries, and nothing
  below it.
* `half_ofHuge`, `half_ofPair`: which entry is loaded for an address of the pair.
* `resolveMissChecked_eq`, `resolveMissChecked_of_wraps`: which misses stop under overflow checks.
* `resolveMiss_cases`: a miss is resolved with one refill, or it is refused and only looked.
* `refill_translates_exactly`: each half of a refill carries what the walk gives.
-/
namespace TrapLayer

/-! ## Spans -/

namespace Geometry

theorem levels_eq (g : Geometry) : g.levels = g.lastLevel + 1 := by
  have h := g.levels_mem
  unfold lastLevel
  omega

theorem levelShift_anti (g : Geometry) {l m : Nat} (h : l ≤ m) :
    g.levelShift m ≤ g.levelShift l :=
  Nat.add_le_add_left (Nat.mul_le_mul_right _ (by omega)) _

theorem span_dvd (g : Geometry) {l m : Nat} (h : l ≤ m) : g.span m ∣ g.span l :=
  Nat.pow_dvd_pow 2 (g.levelShift_anti h)

theorem levelShift_lastLevel (g : Geometry) : g.levelShift g.lastLevel = g.pageShift := by
  simp [levelShift, lastLevel]

theorem levelShift_le (g : Geometry) (level : Nat) : g.levelShift level ≤ 47 := by
  refine Nat.le_trans (g.levelShift_anti (Nat.zero_le level)) ?_
  obtain ⟨l, s, hl, hs, hc⟩ := g
  simp only [levelShift, indexBits]
  rcases hl with rfl | rfl | rfl <;> rcases hs with rfl | rfl | rfl <;> simp at hc ⊢

/-- Above the last level, half a span is still made of base pages. -/
theorem pageShift_lt_levelShift (g : Geometry) {level : Nat} (h : level < g.lastLevel) :
    g.pageShift < g.levelShift level := by
  have hmul : 1 * g.indexBits ≤ (g.levels - 1 - level) * g.indexBits :=
    Nat.mul_le_mul_right _ (by unfold lastLevel at h; omega)
  have hpos : 0 < g.indexBits := by have := g.shift_mem; unfold indexBits; omega
  unfold levelShift
  omega

theorem index_eq_of_span (g : Geometry) {a b : UInt64} {l m : Nat} (h : l ≤ m)
    (hs : a.toNat / g.span m = b.toNat / g.span m) : g.index l a = g.index l b := by
  unfold index
  rw [div_eq_of_dvd (g.span_dvd h) hs]

theorem level_walkFrom (g : Geometry) (t : PageTables) (va : UInt64) {leaf : Leaf} :
    ∀ (n : Nat) (table : UInt64), (g.walkFrom t va n table).result = .ok leaf →
      g.levels ≤ leaf.level + n ∧ leaf.level ≤ g.lastLevel
  | 0, _, h => by cases h
  | n + 1, table, h => by
    have hlevels := g.levels_eq
    rw [walkFrom] at h
    dsimp only at h
    split at h
    · cases h
    · split at h
      · cases h
        exact ⟨by simp only; omega, Nat.sub_le _ _⟩
      · obtain ⟨h1, h2⟩ := level_walkFrom g t va n _ h
        exact ⟨by omega, h2⟩

theorem level_walk {g : Geometry} {t : PageTables} {root va : UInt64} {leaf : Leaf}
    (h : (g.walk t root va).result = .ok leaf) : leaf.level ≤ g.lastLevel :=
  (g.level_walkFrom t va _ _ h).2

theorem walkFrom_eq_of_span (g : Geometry) (t : PageTables) {a b : UInt64} {leaf : Leaf}
    (hs : a.toNat / g.span leaf.level = b.toNat / g.span leaf.level) :
    ∀ (n : Nat) (table : UInt64), (g.walkFrom t a n table).result = .ok leaf →
      g.walkFrom t b n table = g.walkFrom t a n table
  | 0, _, h => by cases h
  | n + 1, table, h => by
    -- the walk of `a` ends at or below this level, so both addresses select one entry here
    have hlevel : g.lastLevel - n ≤ leaf.level := by
      have := g.levels_eq
      have := (g.level_walkFrom t a _ _ h).1
      omega
    have hi := g.index_eq_of_span hlevel hs
    rw [walkFrom] at h ⊢
    rw [walkFrom]
    simp only [hi] at h ⊢
    split
    · rfl
    · rename_i he
      rw [if_neg he] at h
      split
      · rfl
      · rename_i hd
        rw [if_neg hd] at h
        rw [walkFrom_eq_of_span g t hs n _ h]

theorem walk_eq_of_span {g : Geometry} {t : PageTables} {root a b : UInt64} {leaf : Leaf}
    (h : (g.walk t root a).result = .ok leaf)
    (hs : a.toNat / g.span leaf.level = b.toNat / g.span leaf.level) :
    g.walk t root b = g.walk t root a :=
  g.walkFrom_eq_of_span t hs _ _ h

/-- The leaf of a pair's other page is no huge page either: a huge page would reach over both. -/
theorem level_of_pair {g : Geometry} {t : PageTables} {root a b : UInt64} {leaf other : Leaf}
    (ha : (g.walk t root a).result = .ok leaf) (hl : leaf.level = g.lastLevel)
    (hb : (g.walk t root b).result = .ok other)
    (hp : b.toNat / 2 ^ (g.pageShift + 1) = a.toNat / 2 ^ (g.pageShift + 1)) :
    other.level = g.lastLevel := by
  refine Nat.le_antisymm (level_walk hb) (Nat.le_of_not_lt fun hlt => ?_)
  have hd : 2 ^ (g.pageShift + 1) ∣ g.span other.level :=
    Nat.pow_dvd_pow 2 (g.pageShift_lt_levelShift hlt)
  rw [walk_eq_of_span hb (div_eq_of_dvd hd hp), hb] at ha
  cases ha
  omega

end Geometry

theorem Leaf.isHuge_iff (leaf : Leaf) (g : Geometry) :
    leaf.isHuge g = true ↔ leaf.level < g.lastLevel := by
  have := g.levels_eq
  simp only [Leaf.isHuge, decide_eq_true_eq]
  omega

/-! ## The address an entry carries -/

namespace Entry

theorem toNat_address (entry : UInt64) :
    (address entry).toNat = entry.toNat / 2 ^ 12 % 2 ^ 36 * 2 ^ 12 := by
  have hmask : frameMask.toNat = (2 ^ 36 - 1) * 2 ^ 12 := by decide
  unfold address
  rw [UInt64.toNat_and, hmask]
  apply Nat.eq_of_testBit_eq
  intro i
  rw [Nat.testBit_and, Nat.testBit_mul_two_pow, Nat.testBit_mul_two_pow,
    Nat.testBit_two_pow_sub_one, Nat.testBit_mod_two_pow, Nat.testBit_div_two_pow]
  by_cases hi : 12 ≤ i
  · rw [Nat.sub_add_cancel hi]
    simp only [hi, decide_true, Bool.true_and]
    exact Bool.and_comm _ _
  · simp only [hi, decide_false, Bool.false_and, Bool.and_false]

theorem address_lt (entry : UInt64) : (address entry).toNat < 2 ^ 48 := by
  rw [toNat_address]
  omega

theorem toNat_address_add {entry : UInt64} {n : Nat}
    (h : (address entry).toNat + n * 2 ^ 12 < 2 ^ 48) :
    (address (entry + UInt64.ofNat (n * 2 ^ 12))).toNat = (address entry).toNat + n * 2 ^ 12 := by
  have hn : (UInt64.ofNat (n * 2 ^ 12)).toNat = n * 2 ^ 12 :=
    toNat_ofNat (Nat.lt_trans (Nat.lt_of_le_of_lt (Nat.le_add_left _ _) h) (by decide))
  rw [toNat_address] at h
  rw [toNat_address, toNat_address, UInt64.toNat_add, hn]
  omega

theorem address_congr {a b : UInt64} (h : ∀ i, 12 ≤ i → i < 48 → bitOf a i = bitOf b i) :
    address a = address b := by
  have hlow : ∀ i < 12, bitOf frameMask i = false := by decide
  have hhigh : ∀ i, 48 ≤ i → bitOf frameMask i = false := fun i hi =>
    bitOf_of_lt (Nat.lt_of_lt_of_le (by decide) (Nat.pow_le_pow_right (by decide) hi))
  apply eq_of_bitOf
  intro i
  unfold address
  rw [bitOf_and, bitOf_and]
  by_cases h1 : 12 ≤ i
  · by_cases h2 : i < 48
    · rw [h i h1 h2]
    · rw [hhigh i (by omega), Bool.and_false, Bool.and_false]
  · rw [hlow i (by omega), Bool.and_false, Bool.and_false]

theorem address_and_not_huge (entry : UInt64) :
    address (entry &&& ~~~ huge) = address entry := by
  refine address_congr fun i h1 h2 => ?_
  have hhuge : bitOf huge i = false :=
    bitOf_of_lt (Nat.lt_of_lt_of_le (by decide) (Nat.pow_le_pow_right (by decide) h1))
  have h64 : i < 64 := by omega
  rw [bitOf_and, bitOf_not, hhuge, decide_eq_true h64, Bool.not_false, Bool.and_true,
    Bool.and_true]

/-- The physical address that an entry gives for `va` in a page of `2 ^ shift` bytes. -/
def physical (entry : UInt64) (shift : Nat) (va : UInt64) : Nat :=
  (address entry).toNat + va.toNat % 2 ^ shift

end Entry

/-! ## The entry that missed -/

/-- Only the two lowest bits of an entry are changed before it is loaded. -/
theorem bitOf_refillEntry (entry : UInt64) (kind : MissKind) {i : Nat} (hi : 2 ≤ i) :
    bitOf (refillEntry entry kind) i = bitOf entry i := by
  have hlow : ∀ m : UInt64, m.toNat < 2 ^ 2 → bitOf m i = false := fun m hm =>
    bitOf_of_lt (Nat.lt_of_lt_of_le hm (Nat.pow_le_pow_right (by decide) hi))
  unfold refillEntry
  rw [bitOf_or, bitOf_or, hlow Entry.valid (by decide), Bool.or_false]
  split
  · rw [hlow Entry.dirty (by decide), Bool.or_false]
  · rw [hlow 0 (by decide), Bool.or_false]

theorem bitOf_refillEntry_valid (entry : UInt64) (kind : MissKind) :
    bitOf (refillEntry entry kind) 0 = true := by
  have hv : bitOf Entry.valid 0 = true := by decide
  unfold refillEntry
  rw [bitOf_or, bitOf_or, hv, Bool.or_true, Bool.true_or]

theorem bitOf_refillEntry_dirty (entry : UInt64) : bitOf (refillEntry entry .modify) 1 = true := by
  have hd : bitOf Entry.dirty 1 = true := by decide
  unfold refillEntry
  rw [bitOf_or, if_pos rfl, hd, Bool.or_true]

theorem address_refillEntry (entry : UInt64) (kind : MissKind) :
    Entry.address (refillEntry entry kind) = Entry.address entry :=
  Entry.address_congr fun _ h _ => bitOf_refillEntry entry kind (Nat.le_trans (by decide) h)

/-! ## What a leaf and a refill translate -/

/-- The physical address of `va` behind a leaf. -/
def Leaf.physical (leaf : Leaf) (g : Geometry) (va : UInt64) : Nat :=
  Entry.physical leaf.entry (g.levelShift leaf.level) va

/-- The address of a leaf is a multiple of what the leaf maps. -/
def Leaf.Aligned (leaf : Leaf) (g : Geometry) : Prop :=
  (Entry.address leaf.entry).toNat % g.span leaf.level = 0

theorem Leaf.Aligned.room {leaf : Leaf} {g : Geometry} (h : leaf.Aligned g) :
    (Entry.address leaf.entry).toNat + g.span leaf.level ≤ 2 ^ 48 := by
  have hlt := Entry.address_lt leaf.entry
  have hspan : g.span leaf.level ∣ 2 ^ 48 :=
    Nat.pow_dvd_pow 2 (Nat.le_trans (g.levelShift_le _) (by decide))
  have hd : g.span leaf.level ∣ 2 ^ 48 - (Entry.address leaf.entry).toNat :=
    Nat.dvd_sub hspan (Nat.dvd_of_mod_eq_zero h)
  have := Nat.le_of_dvd (by omega) hd
  omega

namespace Refill

/-- The address is in the pair of pages of a refill. -/
def Covers (r : Refill) (va : UInt64) : Prop :=
  r.va.toNat ≤ va.toNat ∧ va.toNat < r.va.toNat + 2 ^ (r.pageShift + 1)

/-- The entry that the hardware takes for an address of the pair: the lowest bit above the offset
in a page selects it. -/
def half (r : Refill) (va : UInt64) : UInt64 := if bitOf va r.pageShift then r.lo1 else r.lo0

/-- The half of `va` gives the physical address that a walk gives, and is empty where the walk
finds no leaf. -/
def Agrees (r : Refill) (g : Geometry) (w : Walk) (va : UInt64) : Prop :=
  match w.result with
  | .ok leaf => Entry.physical (r.half va) r.pageShift va = leaf.physical g va
  | .error _ => r.half va = 0

theorem covers_iff {r : Refill} {badv : UInt64} (hk : r.pageShift + 1 < 64)
    (h : r.va = alignDown badv (UInt64.ofNat (2 ^ (r.pageShift + 1)))) (va : UInt64) :
    r.Covers va ↔ va.toNat / 2 ^ (r.pageShift + 1) = badv.toNat / 2 ^ (r.pageShift + 1) := by
  have hpos := Nat.two_pow_pos (r.pageShift + 1)
  unfold Covers
  rw [h, toNat_alignDown_two_pow _ hk, Nat.div_eq_iff hpos]
  omega

/-! ### Both halves of a huge page -/

/-- Both halves of a huge page are the entry, moved on by half a span for the upper one. -/
theorem half_ofHuge (g : Geometry) (badv entry : UInt64) (level : Nat) (va : UInt64) :
    (ofHuge g badv entry level).half va =
      (entry &&& ~~~ Entry.huge) + UInt64.ofNat
        (va.toNat / 2 ^ (g.levelShift level - 1) % 2 * 2 ^ (g.levelShift level - 1)) := by
  unfold half ofHuge
  simp only [bitOf_eq, decide_eq_true_eq]
  rcases Nat.mod_two_eq_zero_or_one (va.toNat / 2 ^ (g.levelShift level - 1)) with hb | hb
  · simp [hb]
  · simp [hb]

theorem va_ofHuge (g : Geometry) (badv entry : UInt64) {level : Nat} (h : level < g.lastLevel) :
    (ofHuge g badv entry level).va =
      alignDown badv (UInt64.ofNat (2 ^ ((ofHuge g badv entry level).pageShift + 1))) := by
  have := g.pageShift_lt_levelShift h
  have hs : g.levelShift level - 1 + 1 = g.levelShift level := by omega
  unfold ofHuge
  simp only [hs, Geometry.span]

theorem toNat_address_half_ofHuge {g : Geometry} {leaf : Leaf} {k : Nat}
    (hk : g.levelShift leaf.level = k + 12 + 1) (ha : leaf.Aligned g) (badv : UInt64)
    (kind : MissKind) (va : UInt64) :
    (Entry.address ((ofHuge g badv (refillEntry leaf.entry kind) leaf.level).half va)).toNat =
      (Entry.address leaf.entry).toNat + va.toNat / 2 ^ (k + 12) % 2 * 2 ^ (k + 12) := by
  have hroom := ha.room
  have hbit := Nat.mod_lt (va.toNat / 2 ^ (k + 12)) (show 0 < 2 by decide)
  rw [half_ofHuge, hk, Nat.add_sub_cancel]
  unfold Geometry.span at hroom
  rw [hk, Nat.pow_succ] at hroom
  generalize va.toNat / 2 ^ (k + 12) % 2 = bit at hbit ⊢
  have hle : bit * 2 ^ (k + 12) ≤ 2 ^ (k + 12) :=
    Nat.le_trans (Nat.mul_le_mul_right _ (Nat.le_of_lt_succ hbit)) (Nat.le_of_eq (Nat.one_mul _))
  have hpos := Nat.two_pow_pos (k + 12)
  have hmul : bit * 2 ^ (k + 12) = bit * 2 ^ k * 2 ^ 12 := by rw [Nat.pow_add, Nat.mul_assoc]
  have haddr : Entry.address (refillEntry leaf.entry kind &&& ~~~ Entry.huge) =
      Entry.address leaf.entry :=
    (Entry.address_and_not_huge _).trans (address_refillEntry _ _)
  rw [hmul, Entry.toNat_address_add (by rw [haddr]; omega), haddr]

/-- Each half of an aligned huge page carries what the page carries. -/
theorem physical_half_ofHuge {g : Geometry} {leaf : Leaf} (hh : leaf.level < g.lastLevel)
    (ha : leaf.Aligned g) (badv : UInt64) (kind : MissKind) (va : UInt64) :
    Entry.physical ((ofHuge g badv (refillEntry leaf.entry kind) leaf.level).half va)
      (g.levelShift leaf.level - 1) va = leaf.physical g va := by
  have hshift := g.pageShift_lt_levelShift hh
  have hps := g.shift_mem
  obtain ⟨k, hk⟩ : ∃ k, g.levelShift leaf.level = k + 12 + 1 :=
    ⟨g.levelShift leaf.level - 13, by omega⟩
  unfold Leaf.physical Entry.physical
  rw [toNat_address_half_ofHuge hk ha, hk, Nat.add_sub_cancel,
    Nat.mod_pow_succ (x := va.toNat) (b := 2) (k := k + 12), Nat.mul_comm (2 ^ (k + 12))]
  omega

/-- The bits below the address are those of the entry that missed, in either half. -/
theorem bitOf_half_ofHuge {g : Geometry} {level : Nat} (hh : level < g.lastLevel)
    (badv entry va : UInt64) {i : Nat} (hi : i < 6) :
    bitOf ((ofHuge g badv entry level).half va) i = bitOf entry i := by
  have hshift := g.pageShift_lt_levelShift hh
  have hps := g.shift_mem
  have hle := g.levelShift_le level
  have hhuge : ∀ i < 6, bitOf Entry.huge i = false := by decide
  rw [half_ofHuge, bitOf_add_mul_two_pow _ _ (by omega) (by omega), bitOf_and, bitOf_not,
    hhuge i hi, decide_eq_true (show i < 64 by omega), Bool.not_false, Bool.and_true,
    Bool.and_true]

/-! ### A pair of base pages -/

theorem two_mul_pageSize (g : Geometry) : 2 * g.pageSize = 2 ^ (g.pageShift + 1) := by
  rw [Geometry.pageSize, Nat.pow_succ, Nat.mul_comm]

theorem pageShift_ofPair (g : Geometry) (badv entry other : UInt64) :
    (ofPair g badv entry other).pageShift = g.pageShift := by
  unfold ofPair
  split <;> rfl

theorem va_ofPair (g : Geometry) (badv entry other : UInt64) :
    (ofPair g badv entry other).va =
      alignDown badv (UInt64.ofNat (2 ^ ((ofPair g badv entry other).pageShift + 1))) := by
  unfold ofPair pairBase
  split <;> simp only [two_mul_pageSize]

theorem half_ofPair (g : Geometry) (badv entry other va : UInt64) :
    (ofPair g badv entry other).half va =
      if bitOf va g.pageShift = bitOf badv g.pageShift then entry else other := by
  unfold half ofPair isOdd
  cases hb : bitOf badv g.pageShift <;> cases hv : bitOf va g.pageShift <;> simp [hv]

theorem toNat_neighbour (g : Geometry) (badv : UInt64) :
    (neighbour g badv).toNat = badv.toNat / 2 ^ (g.pageShift + 1) * 2 ^ (g.pageShift + 1) +
      (if bitOf badv g.pageShift then 0 else 2 ^ g.pageShift) := by
  have hs := g.shift_mem
  have hb := badv.toNat_lt
  have hbase := toNat_alignDown_two_pow badv (k := g.pageShift + 1) (by omega)
  unfold neighbour isOdd pairBase
  rw [two_mul_pageSize]
  split
  · exact hbase
  · rw [toNat_add_ofNat, hbase, Geometry.pageSize]
    rw [hbase, Geometry.pageSize]
    rcases hs with hs | hs | hs <;> rw [hs] <;> omega

theorem page_of_pair {g : Geometry} {badv va : UInt64}
    (h : va.toNat / 2 ^ (g.pageShift + 1) = badv.toNat / 2 ^ (g.pageShift + 1)) :
    if bitOf va g.pageShift = bitOf badv g.pageShift then
      va.toNat / g.pageSize = badv.toNat / g.pageSize
    else va.toNat / g.pageSize = (neighbour g badv).toNat / g.pageSize := by
  have hs := g.shift_mem
  rw [toNat_neighbour, bitOf_eq, bitOf_eq]
  unfold Geometry.pageSize
  simp only [decide_eq_decide, decide_eq_true_eq]
  generalize g.pageShift = s at h hs ⊢
  rcases hs with rfl | rfl | rfl
  all_goals
    split
    · omega
    · split <;> omega

end Refill

/-- The entry a walk ends at, or an empty one. -/
def Walk.entry (w : Walk) : UInt64 :=
  match w.result with
  | .ok leaf => leaf.entry
  | .error _ => 0

namespace Refill

theorem agrees_ofPair {g : Geometry} {t : PageTables} {root badv : UInt64} {leaf : Leaf}
    (hw : (g.walk t root badv).result = .ok leaf) (hl : leaf.level = g.lastLevel)
    (kind : MissKind) {va : UInt64}
    (hv : va.toNat / 2 ^ (g.pageShift + 1) = badv.toNat / 2 ^ (g.pageShift + 1)) :
    (ofPair g badv (refillEntry leaf.entry kind)
      (g.walk t root (neighbour g badv)).entry).Agrees g (g.walk t root va) va := by
  have hpage := page_of_pair hv
  unfold Agrees
  rw [half_ofPair, pageShift_ofPair]
  by_cases hb : bitOf va g.pageShift = bitOf badv g.pageShift
  · rw [if_pos hb] at hpage ⊢
    rw [g.walk_eq_of_page t root hpage, hw]
    simp only [Leaf.physical, Entry.physical, hl, g.levelShift_lastLevel, address_refillEntry]
  · rw [if_neg hb] at hpage ⊢
    rw [← g.walk_eq_of_page t root hpage]
    cases hother : (g.walk t root va).result with
    | error e => simp only [Walk.entry, hother]
    | ok other =>
      have hlast := Geometry.level_of_pair hw hl hother hv
      simp only [Walk.entry, hother, Leaf.physical, Entry.physical, hlast,
        g.levelShift_lastLevel]

end Refill

/-! ## Overflow checks -/

namespace Refill

/-- The second half of a huge page does not start in a word. -/
def HalfWraps (g : Geometry) (entry : UInt64) (level : Nat) : Prop :=
  2 ^ 64 ≤ (entry &&& ~~~ Entry.huge).toNat + 2 ^ (g.levelShift level - 1)

theorem toNat_half_size (g : Geometry) (level : Nat) :
    (UInt64.ofNat (2 ^ (g.levelShift level - 1))).toNat = 2 ^ (g.levelShift level - 1) := by
  have hle := g.levelShift_le level
  exact toNat_ofNat (Nat.pow_lt_pow_right (by decide) (by omega))

theorem ofHugeChecked_of_wraps {g : Geometry} {entry : UInt64} {level : Nat}
    (h : HalfWraps g entry level) (badv : UInt64) :
    ofHugeChecked g badv entry level = .error .add := by
  unfold ofHugeChecked
  dsimp only
  rw [Checked.add_of_le (by rw [toNat_half_size]; exact h), Checked.error_bind]

theorem ofHugeChecked_eq {g : Geometry} {entry : UInt64} {level : Nat}
    (h : ¬ HalfWraps g entry level) (badv : UInt64) :
    ofHugeChecked g badv entry level = .ok (ofHuge g badv entry level) := by
  unfold ofHugeChecked
  dsimp only
  rw [Checked.add_of_lt (by rw [toNat_half_size]; exact Nat.lt_of_not_le h), Checked.ok_bind]
  rfl

/-- An entry that leaves one bit above its half clear, as one does whose frame lies in the physical
address space, has a second half. -/
theorem not_halfWraps_of_clear {g : Geometry} {entry : UInt64} {level i : Nat} (hi : i < 64)
    (hle : g.levelShift level - 1 ≤ i) (h : bitOf entry i = false) : ¬ HalfWraps g entry level := by
  have hclear : bitOf (entry &&& ~~~ Entry.huge) i = false := by rw [bitOf_and, h, Bool.false_and]
  have hroom := toNat_add_two_pow_lt hi hclear
  have hpow : 2 ^ (g.levelShift level - 1) ≤ 2 ^ i := Nat.pow_le_pow_right (by decide) hle
  unfold HalfWraps
  omega

end Refill

namespace Hardware

/-- A miss is resolved by a huge page whose second half does not start in a word. -/
structure MissWraps (hw : Hardware) (badv : UInt64) (fromUser : Bool) (kind : MissKind)
    (leaf : Leaf) : Prop where
  walk : (hw.walk (hw.readCsr (rootFor hw.geometry badv)) badv).1 = .ok leaf
  allowed : Entry.allowsMiss leaf.entry fromUser kind = true
  huge : leaf.isHuge hw.geometry = true
  wraps : Refill.HalfWraps hw.geometry (refillEntry leaf.entry kind) leaf.level

theorem refillForChecked_of_wraps (hw : Hardware) (root badv : UInt64) {leaf : Leaf}
    {kind : MissKind} (huge : leaf.isHuge hw.geometry = true)
    (wraps : Refill.HalfWraps hw.geometry (refillEntry leaf.entry kind) leaf.level) :
    hw.refillForChecked root badv leaf kind = .error .add := by
  unfold refillForChecked
  rw [if_pos huge, Refill.ofHugeChecked_of_wraps wraps, Checked.error_bind]

theorem refillForChecked_eq (hw : Hardware) (root badv : UInt64) {leaf : Leaf} {kind : MissKind}
    (h : leaf.isHuge hw.geometry = true →
      ¬ Refill.HalfWraps hw.geometry (refillEntry leaf.entry kind) leaf.level) :
    hw.refillForChecked root badv leaf kind = .ok (hw.refillFor root badv leaf kind) := by
  unfold refillForChecked refillFor
  dsimp only
  split
  · rename_i huge
    rw [Refill.ofHugeChecked_eq (h huge), Checked.ok_bind, Checked.pure_eq]
  · rfl

theorem resolveMissChecked_of_wraps {hw : Hardware} {badv : UInt64} {fromUser : Bool}
    {kind : MissKind} {leaf : Leaf} (h : hw.MissWraps badv fromUser kind leaf) :
    hw.resolveMissChecked badv fromUser kind = .error .add := by
  have hstop := refillForChecked_of_wraps (hw.walk (hw.readCsr (rootFor hw.geometry badv)) badv).2
    (hw.readCsr (rootFor hw.geometry badv)) badv h.huge h.wraps
  unfold resolveMissChecked
  simp only [h.walk, h.allowed, if_true, hstop, Checked.error_bind]

/-- Any other miss is resolved as it is without the check. -/
theorem resolveMissChecked_eq {hw : Hardware} {badv : UInt64} {fromUser : Bool} {kind : MissKind}
    (h : ∀ leaf, ¬ hw.MissWraps badv fromUser kind leaf) :
    hw.resolveMissChecked badv fromUser kind = .ok (hw.resolveMiss badv fromUser kind) := by
  unfold resolveMissChecked resolveMiss
  dsimp only
  cases hwalk : (hw.walk (hw.readCsr (rootFor hw.geometry badv)) badv).1 with
  | error e => rfl
  | ok leaf =>
    dsimp only
    split
    · rename_i hallowed
      rw [refillForChecked_eq (hw.walk (hw.readCsr (rootFor hw.geometry badv)) badv).2 _ _
          fun huge hwraps => h leaf ⟨hwalk, hallowed, huge, hwraps⟩,
        Checked.ok_bind, Checked.pure_eq]
    · rfl

end Hardware

/-! ## Misses -/

/-- An entry pair was loaded into the translation buffer. -/
def Effect.isFill : Effect → Bool
  | .tlbFill .. => true
  | _ => false

/-- The pair that is loaded for a leaf that allows the access. -/
def Geometry.refill (g : Geometry) (t : PageTables) (root badv : UInt64) (leaf : Leaf)
    (kind : MissKind) : Refill :=
  let entry := refillEntry leaf.entry kind
  if leaf.isHuge g then .ofHuge g badv entry leaf.level
  else .ofPair g badv entry (g.walk t root (Refill.neighbour g badv)).entry

namespace Geometry

theorem refill_covers_iff {g : Geometry} {t : PageTables} {root badv : UInt64} {leaf : Leaf}
    (kind : MissKind) (va : UInt64) :
    (g.refill t root badv leaf kind).Covers va ↔
      va.toNat / 2 ^ ((g.refill t root badv leaf kind).pageShift + 1) =
        badv.toNat / 2 ^ ((g.refill t root badv leaf kind).pageShift + 1) := by
  have hps := g.shift_mem
  have hle := g.levelShift_le leaf.level
  unfold refill
  dsimp only
  split
  · rename_i hh
    refine Refill.covers_iff ?_ (Refill.va_ofHuge g _ _ ((leaf.isHuge_iff g).1 hh)) va
    show g.levelShift leaf.level - 1 + 1 < 64
    omega
  · refine Refill.covers_iff ?_ (Refill.va_ofPair g _ _ _) va
    rw [Refill.pageShift_ofPair]
    omega

/-- Every address of the pair is translated as its own walk says. -/
theorem refill_agrees {g : Geometry} {t : PageTables} {root badv : UInt64} {leaf : Leaf}
    (hw : (g.walk t root badv).result = .ok leaf) (ha : leaf.Aligned g) (kind : MissKind)
    {va : UInt64} (hc : (g.refill t root badv leaf kind).Covers va) :
    (g.refill t root badv leaf kind).Agrees g (g.walk t root va) va := by
  rw [refill_covers_iff] at hc
  unfold refill at hc ⊢
  dsimp only at hc ⊢
  split at hc
  · rename_i hh
    have hlt := (leaf.isHuge_iff g).1 hh
    have := g.pageShift_lt_levelShift hlt
    have hshift : (Refill.ofHuge g badv (refillEntry leaf.entry kind) leaf.level).pageShift + 1 =
        g.levelShift leaf.level := Nat.sub_add_cancel (by omega)
    rw [hshift] at hc
    rw [if_pos hh]
    unfold Refill.Agrees
    rw [walk_eq_of_span hw hc.symm, hw]
    exact Refill.physical_half_ofHuge hlt ha badv kind va
  · rename_i hh
    have hl : leaf.level = g.lastLevel :=
      Nat.le_antisymm (level_walk hw) (Nat.le_of_not_lt fun h => hh ((leaf.isHuge_iff g).2 h))
    rw [Refill.pageShift_ofPair] at hc
    rw [if_neg hh]
    exact Refill.agrees_ofPair hw hl kind hc

theorem bitOf_half_refill (g : Geometry) (t : PageTables) (root badv : UInt64) (leaf : Leaf)
    (kind : MissKind) {i : Nat} (hi : i < 6) :
    bitOf ((g.refill t root badv leaf kind).half badv) i =
      bitOf (refillEntry leaf.entry kind) i := by
  unfold refill
  dsimp only
  split
  · rename_i hh
    exact Refill.bitOf_half_ofHuge ((leaf.isHuge_iff g).1 hh) _ _ _ hi
  · rw [Refill.half_ofPair, if_pos rfl]

end Geometry

namespace Hardware

theorem noteReads_noteReads (hw : Hardware) (reads more : List TableRead) :
    (hw.noteReads reads).noteReads more = hw.noteReads (more ++ reads) := by
  simp only [noteReads, List.map_append, List.append_assoc]

/-- The pair is chosen from the page map alone; the neighbour is looked up for a base page. -/
theorem refillFor_eq (hw : Hardware) (root badv : UInt64) (leaf : Leaf) (kind : MissKind) :
    ∃ reads : List TableRead, hw.refillFor root badv leaf kind =
      (hw.geometry.refill hw.tables root badv leaf kind, hw.noteReads reads) := by
  unfold refillFor Geometry.refill
  by_cases hh : leaf.isHuge hw.geometry = true
  · exact ⟨[], by simp only [hh, if_true]; rfl⟩
  · refine ⟨(hw.geometry.walk hw.tables root
      (Refill.neighbour hw.geometry badv)).reads.reverse, ?_⟩
    simp only [hh, if_false, Bool.false_eq_true]
    rfl

/-- A miss is resolved with one refill when the walk ends at a leaf that allows the access, and
otherwise it only looked. -/
theorem resolveMiss_cases (hw : Hardware) (badv : UInt64) (fromUser : Bool) (kind : MissKind) :
    let root := hw.readCsr (rootFor hw.geometry badv)
    let walk := hw.geometry.walk hw.tables root badv
    (∃ (leaf : Leaf) (reads : List TableRead), walk.result = .ok leaf ∧
      Entry.allowsMiss leaf.entry fromUser kind = true ∧
      let r := hw.geometry.refill hw.tables root badv leaf kind
      hw.resolveMiss badv fromUser kind =
        (.ok r, (hw.noteReads reads).fillTlb r.va r.lo0 r.lo1 r.pageShift)) ∨
    ∃ (e : MissError) (reads : List TableRead),
      (∀ leaf, walk.result = .ok leaf → Entry.allowsMiss leaf.entry fromUser kind = false) ∧
      hw.resolveMiss badv fromUser kind = (.error e, hw.noteReads reads) := by
  intro root walk
  unfold resolveMiss Hardware.walk
  cases hwalk : walk.result with
  | error e =>
    right
    refine ⟨.walk e, walk.reads.reverse, nofun, ?_⟩
    simp only [hwalk, walk, root]
  | ok leaf =>
    by_cases hallow : Entry.allowsMiss leaf.entry fromUser kind = true
    · left
      obtain ⟨more, hmore⟩ :=
        (hw.noteReads walk.reads.reverse).refillFor_eq root badv leaf kind
      refine ⟨leaf, more ++ walk.reads.reverse, rfl, hallow, ?_⟩
      rw [noteReads_noteReads] at hmore
      simp only [hwalk, walk, root, hallow, if_true] at hmore ⊢
      rw [hmore]
      rfl
    · right
      refine ⟨.denied leaf.entry, walk.reads.reverse, ?_, ?_⟩
      · rintro l ⟨⟩
        exact Bool.not_eq_true _ ▸ hallow
      · simp only [hwalk, walk, root, hallow, if_false, Bool.false_eq_true]

theorem fills_noteReads {hw hw' : Hardware} (reads : List TableRead) (es : List Effect)
    (h : hw'.history = es ++ (hw.noteReads reads).history) :
    (hw'.since hw.mark).filter Effect.isFill = es.reverse.filter Effect.isFill := by
  obtain ⟨base, hreads, hsince⟩ := (hw.onlyReads_noteReads reads).since h
  have hbase : base.filter Effect.isFill = [] := by
    rw [List.filter_eq_nil_iff]
    intro e he hfill
    have hread := hreads e he
    cases e with
    | tableRead | userRead => cases hfill
    | _ => cases hread
  rw [hsince, List.filter_append, hbase, List.nil_append]

end Hardware

/-- A miss is resolved as the page table says. One pair is loaded; every address of the pair, of
both pages or of both halves of a huge page, gets the physical address that its own walk gives, and
nothing where its walk finds no leaf. The address that missed is in the pair, its half is valid,
and dirty after a store to a clean page. A miss that is refused loads nothing. -/
theorem refill_translates_exactly (hw : Hardware) (badv : UInt64) (fromUser : Bool)
    (kind : MissKind)
    (ha : ∀ leaf, (hw.geometry.walk hw.tables (hw.readCsr (Hardware.rootFor hw.geometry badv))
      badv).result = .ok leaf → leaf.Aligned hw.geometry) :
    match hw.resolveMiss badv fromUser kind with
    | (.ok r, hw') =>
      (hw'.since hw.mark).filter Effect.isFill = [.tlbFill r.va r.lo0 r.lo1 r.pageShift] ∧
      (∀ va, r.Covers va → r.Agrees hw.geometry
        (hw.geometry.walk hw.tables (hw.readCsr (Hardware.rootFor hw.geometry badv)) va) va) ∧
      r.Covers badv ∧
      hasBits (r.half badv) Entry.valid = true ∧
      (kind = .modify → hasBits (r.half badv) Entry.dirty = true)
    | (.error _, hw') => (hw'.since hw.mark).filter Effect.isFill = [] := by
  rcases hw.resolveMiss_cases badv fromUser kind with
    ⟨leaf, reads, hwalk, -, heq⟩ | ⟨e, reads, -, heq⟩
  · rw [heq]
    refine ⟨(Hardware.fills_noteReads reads [_] rfl).trans rfl,
      fun va hc => Geometry.refill_agrees hwalk (ha leaf hwalk) kind hc,
      (Geometry.refill_covers_iff kind badv).2 rfl, ?_, ?_⟩
    · have hv : Entry.valid = oneBit 0 := by decide
      rw [hv, hasBits_oneBit _ (by decide), Geometry.bitOf_half_refill _ _ _ _ _ _ (by decide)]
      exact bitOf_refillEntry_valid leaf.entry kind
    · rintro rfl
      have hd : Entry.dirty = oneBit 1 := by decide
      rw [hd, hasBits_oneBit _ (by decide), Geometry.bitOf_half_refill _ _ _ _ _ _ (by decide)]
      exact bitOf_refillEntry_dirty leaf.entry
  · rw [heq]
    exact Hardware.fills_noteReads reads [] rfl

/-- Hardware on which a gigabyte is mapped by one leaf right below the root. -/
def Hardware.oneLeaf : Hardware where
  geometry := .active
  features := ⟨true, true, true, true⟩
  csrs := .zero
  tables := (PageTables.empty.write 0 0 0x1000).write 0x1000 0
    (0x80000000 ||| Entry.present ||| Entry.user ||| Entry.huge ||| Entry.write)
  memory := .zero
  fp := .cleared
  debugRegs := .off
  history := []

/-- A store to a clean page in the upper half of the gigabyte loads both halves of it, and the last
byte of each half is where the leaf has it. -/
theorem refill_translates_exactly_oneLeaf :
    ∃ hw' : Hardware,
      let r : Refill := ⟨0, 0x8000018f, 0xa000018f, 29⟩
      Hardware.oneLeaf.resolveMiss 0x20001234 true .modify = (.ok r, hw') ∧
      (hw'.since Hardware.oneLeaf.mark).filter Effect.isFill =
        [.tlbFill 0 0x8000018f 0xa000018f 29] ∧
      Entry.physical (r.half 0x1fffffff) 29 0x1fffffff = 0x9fffffff ∧
      Entry.physical (r.half 0x3fffffff) 29 0x3fffffff = 0xbfffffff ∧
      hasBits (r.half 0x20001234) Entry.dirty = true := by
  have hbadv : (Hardware.oneLeaf.geometry.walk Hardware.oneLeaf.tables
      (Hardware.oneLeaf.readCsr (Hardware.rootFor Hardware.oneLeaf.geometry 0x20001234))
      0x20001234).result = .ok ⟨0x800001cc, 1⟩ := by rfl
  have ha : ∀ leaf, (Hardware.oneLeaf.geometry.walk Hardware.oneLeaf.tables
      (Hardware.oneLeaf.readCsr (Hardware.rootFor Hardware.oneLeaf.geometry 0x20001234))
      0x20001234).result = .ok leaf → leaf.Aligned Hardware.oneLeaf.geometry := by
    intro leaf hl
    rw [hbadv] at hl
    cases hl
    unfold Leaf.Aligned
    decide +kernel
  have h := refill_translates_exactly Hardware.oneLeaf 0x20001234 true .modify ha
  have hr : (Hardware.oneLeaf.resolveMiss 0x20001234 true .modify).1 =
      .ok ⟨0, 0x8000018f, 0xa000018f, 29⟩ := by rfl
  cases heq : Hardware.oneLeaf.resolveMiss 0x20001234 true .modify with
  | mk result hw' =>
    rw [heq] at h hr
    cases hr
    obtain ⟨hfill, hagree, -, -, hdirty⟩ := h
    have hlow := hagree 0x1fffffff ⟨by decide, by decide⟩
    have hhigh := hagree 0x3fffffff ⟨by decide, by decide⟩
    unfold Refill.Agrees at hlow hhigh
    rw [Geometry.walk_eq_of_span hbadv (by decide +kernel), hbadv] at hlow hhigh
    exact ⟨hw', rfl, hfill, hlow.trans (by decide +kernel), hhigh.trans (by decide +kernel),
      hdirty rfl⟩

end TrapLayer
