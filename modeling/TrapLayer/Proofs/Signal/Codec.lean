import TrapLayer.Signal.Record

/-!
# Encodings read back

The bytes of words and of records, read at the offsets of their fields.

* `word64_append_right`, `word64_wordsLe`, `ofFn_word64_wordsLe`: a field is read behind any bytes
  and in any table, and a table of words gives them back.
* `le64_word64`, `le32_word32`: a field that was read is encoded as it stands.
* `decode_encode`: a record payload gives the record back, whatever stands behind it.
-/
namespace TrapLayer

/-! ## Fields of byte lists -/

theorem word64_append_right (a b : Bytes) (off : Nat) :
    word64 (a ++ b) (a.length + off) = word64 b off := by
  unfold word64; rw [List.drop_length_add_append]

theorem word32_append_right (a b : Bytes) (off : Nat) :
    word32 (a ++ b) (a.length + off) = word32 b off := by
  unfold word32; rw [List.drop_length_add_append]

theorem word64_skip {a : Bytes} {n off : Nat} (h : a.length = n) (b : Bytes) (hn : n ≤ off) :
    word64 (a ++ b) off = word64 b (off - n) := by
  subst h
  rw [← word64_append_right a b, Nat.add_sub_cancel' hn]

theorem word32_skip {a : Bytes} {n off : Nat} (h : a.length = n) (b : Bytes) (hn : n ≤ off) :
    word32 (a ++ b) off = word32 b (off - n) := by
  subst h
  rw [← word32_append_right a b, Nat.add_sub_cancel' hn]

theorem word64_head (w : UInt64) (b : Bytes) : word64 (le64 w ++ b) 0 = w := word64_le64 [] b w

theorem word32_head (w : UInt32) (b : Bytes) : word32 (le32 w ++ b) 0 = w := word32_le32 [] b w

theorem le64_inj {v w : UInt64} (h : le64 v = le64 w) : v = w := by
  rw [← word64_head v [], h, word64_head]

theorem le32_inj {v w : UInt32} (h : le32 v = le32 w) : v = w := by
  rw [← word32_head v [], h, word32_head]

/-- The number of some bytes in a row has them as its encoding. -/
theorem leBytes_leNat_slice {b : Bytes} {off n : Nat} (h : off + n ≤ b.length) :
    leNat ((b.drop off).take n) < 256 ^ n ∧
      leBytes n (leNat ((b.drop off).take n)) = (b.drop off).take n := by
  have hlen : ((b.drop off).take n).length = n := by
    rw [List.length_take, List.length_drop]; omega
  have hlt := leNat_lt ((b.drop off).take n)
  have hback := leBytes_leNat ((b.drop off).take n)
  rw [hlen] at hlt hback
  exact ⟨hlt, hback⟩

theorem le64_word64 {b : Bytes} {off : Nat} (h : off + 8 ≤ b.length) :
    le64 (word64 b off) = (b.drop off).take 8 := by
  obtain ⟨hlt, hback⟩ := leBytes_leNat_slice h
  rw [le64, word64, UInt64.toNat_ofNat_of_lt' hlt, hback]

theorem le32_word32 {b : Bytes} {off : Nat} (h : off + 4 ≤ b.length) :
    le32 (word32 b off) = (b.drop off).take 4 := by
  obtain ⟨hlt, hback⟩ := leBytes_leNat_slice h
  rw [le32, word32, UInt32.toNat_ofNat_of_lt' hlt, hback]

theorem word64_wordsLe (b : Bytes) : ∀ (ws : List UInt64) (i : Nat) (h : i < ws.length),
    word64 (wordsLe ws ++ b) (i * 8) = ws[i]
  | w :: ws, 0, _ => by
    rw [wordsLe, List.flatMap_cons, List.append_assoc, Nat.zero_mul]
    exact word64_head w _
  | w :: ws, i + 1, h => by
    rw [wordsLe, List.flatMap_cons, List.append_assoc, Nat.succ_mul,
      word64_skip (length_le64 w) _ (by omega), Nat.add_sub_cancel]
    exact word64_wordsLe b ws i (Nat.lt_of_succ_lt_succ h)

theorem ofFn_word64_wordsLe {n : Nat} (v : Vector UInt64 n) (b : Bytes) :
    (Vector.ofFn fun i : Fin n => word64 (wordsLe v.toList ++ b) (i.val * 8)) = v := by
  apply Vector.ext; intro i hi
  rw [Vector.getElem_ofFn, word64_wordsLe _ _ _ (by simpa using hi), Vector.getElem_toList]

/-- Row `i`, column `j` of rows of one width, written one after the other. -/
theorem getElem?_flatMap_of_width {α β : Type} {f : α → List β} {n : Nat}
    (hf : ∀ a, (f a).length = n) {j : Nat} (hj : j < n) :
    ∀ (l : List α) (i : Nat), (l.flatMap f)[i * n + j]? = (l[i]?).bind fun a => (f a)[j]?
  | [], i => by simp
  | a :: l, 0 => by
    rw [List.flatMap_cons, Nat.zero_mul, Nat.zero_add,
      List.getElem?_append_left (by rw [hf]; exact hj)]
    rfl
  | a :: l, i + 1 => by
    have hi : (i + 1) * n + j - (f a).length = i * n + j := by
      rw [hf, Nat.succ_mul]; omega
    rw [List.flatMap_cons, List.getElem?_append_right (by rw [hf, Nat.succ_mul]; omega), hi,
      getElem?_flatMap_of_width hf hj l i]
    rfl

/-! ## Record payloads -/

namespace Record

/-- The lanes that the bank of a record does not cover are zero. -/
def Padded : Record → Prop
  | bank b regs _ _ => ∀ i (_ : i < 32) l (_ : l < 4), b.lanes ≤ l → regs[i][l] = 0
  | lbt .. => True

theorem padded_capture (k : RecordKind) (state : FpState) : (capture k state).Padded := by
  cases k with
  | lbt => trivial
  | bank b =>
    intro i hi l hl hb
    have hl' : ¬ l < b.lanes := by omega
    simp [FpState.mergeRegs, FpState.mergeLanes, FpState.cleared, hl']

theorem lanes_le (b : FpBank) : b.lanes ≤ 4 := by cases b <;> decide

theorem lanes_bytes (b : FpBank) (regs : Vector Lanes 32) :
    regs.toList.flatMap (fun r => wordsLe (r.toList.take b.lanes)) =
      wordsLe (regs.toList.flatMap fun r => r.toList.take b.lanes) := by
  unfold wordsLe
  rw [List.flatMap_assoc]

theorem length_lanes (b : FpBank) (r : Lanes) : (r.toList.take b.lanes).length = b.lanes := by
  have := lanes_le b
  simp; omega

theorem length_flatMap_lanes (b : FpBank) (regs : Vector Lanes 32) :
    (regs.toList.flatMap fun r => r.toList.take b.lanes).length = 32 * b.lanes := by
  simp only [List.length_flatMap, length_lanes, List.map_const', List.sum_replicate_nat,
    Vector.length_toList]

theorem getElem_flatMap_lanes (b : FpBank) (regs : Vector Lanes 32) (i : Fin 32) (l : Fin 4)
    (hl : l.val < b.lanes)
    (h : i.val * b.lanes + l.val < (regs.toList.flatMap fun r => r.toList.take b.lanes).length) :
    (regs.toList.flatMap fun r => r.toList.take b.lanes)[i.val * b.lanes + l.val] =
      regs[i.val][l.val] := by
  have := getElem?_flatMap_of_width (length_lanes b) hl regs.toList i.val
  rw [List.getElem?_eq_getElem h] at this
  simpa [hl] using this

theorem length_encode (r : Record) :
    r.encode.length = match r with
      | bank b .. => 8 * (32 * b.lanes) + 12
      | lbt .. => 40 := by
  cases r with
  | bank b regs fcc fcsr =>
    simp only [encode, lanes_bytes, List.length_append, length_wordsLe, length_flatMap_lanes,
      length_le64, length_le32]
  | lbt scr eflags ftop => simp [encode]

theorem length_encode_le (r : Record) : r.encode.length ≤ r.kind.payloadSize := by
  rw [length_encode]
  cases r with
  | bank b _ _ _ =>
    cases b with
    | fpu => show 8 * (32 * 1) + 12 ≤ 32 * 8 + 8 + 8; decide
    | lsx => show 8 * (32 * 2) + 12 ≤ 64 * 8 + 8 + 8; decide
    | lasx => show 8 * (32 * 4) + 12 ≤ 128 * 8 + 32; decide
  | lbt _ _ _ => show 40 ≤ 4 * 8 + 4 + 4; decide

/-- The lane table of a bank, read back at the offsets of the decoder. -/
theorem decode_lanes {b : FpBank} {regs : Vector Lanes 32}
    (hr : ∀ i (_ : i < 32) l (_ : l < 4), b.lanes ≤ l → regs[i][l] = 0) (rest : Bytes) :
    (Vector.ofFn fun i : Fin 32 => Vector.ofFn fun l : Fin 4 =>
      if l.val < b.lanes then
        word64 (wordsLe (regs.toList.flatMap fun r => r.toList.take b.lanes) ++ rest)
          ((i.val * b.lanes + l.val) * 8)
      else 0) = regs := by
  apply Vector.ext; intro i hi
  apply Vector.ext; intro l hl
  simp only [Vector.getElem_ofFn]
  split
  · rename_i hb
    have h : i * b.lanes + l < (regs.toList.flatMap fun r => r.toList.take b.lanes).length := by
      rw [length_flatMap_lanes]; exact Words.row_lt hi hb
    rw [word64_wordsLe _ _ _ h]
    exact getElem_flatMap_lanes b regs ⟨i, hi⟩ ⟨l, hl⟩ hb h
  · rename_i hb
    exact (hr i hi l hl (Nat.le_of_not_lt hb)).symm

/-- Reading the payload of a record gives the record, with anything behind it. -/
theorem decode_encode {r : Record} (hr : r.Padded) (rest : Bytes) :
    decode r.kind (r.encode ++ rest) = r := by
  cases r with
  | bank b regs fcc fcsr =>
    have hlen : (wordsLe (regs.toList.flatMap fun r => r.toList.take b.lanes)).length =
        32 * b.lanes * 8 := by
      rw [length_wordsLe, length_flatMap_lanes, Nat.mul_comm]
    have hfcc : word64 (wordsLe (regs.toList.flatMap fun r => r.toList.take b.lanes) ++
        (le64 fcc ++ (le32 fcsr ++ rest))) (32 * b.lanes * 8) = fcc := by
      rw [word64_skip hlen _ (Nat.le_refl _), Nat.sub_self, word64_head]
    have hfcsr : word32 (wordsLe (regs.toList.flatMap fun r => r.toList.take b.lanes) ++
        (le64 fcc ++ (le32 fcsr ++ rest))) (32 * b.lanes * 8 + 8) = fcsr := by
      rw [word32_skip hlen _ (Nat.le_add_right _ _), Nat.add_sub_cancel_left,
        word32_skip (length_le64 fcc) _ (Nat.le_refl _), word32_head]
    simp only [kind, decode, encode, lanes_bytes, List.append_assoc]
    rw [decode_lanes hr, hfcc, hfcsr]
  | lbt scr eflags ftop =>
    have hlen : (wordsLe scr.toList).length = 32 := by simp
    have hscr : (Vector.ofFn fun l : Fin 4 =>
        word64 (wordsLe scr.toList ++ (le32 eflags ++ (le32 ftop ++ rest))) (l.val * 8)) = scr :=
      ofFn_word64_wordsLe scr _
    have heflags : word32 (wordsLe scr.toList ++ (le32 eflags ++ (le32 ftop ++ rest))) 32 =
        eflags := by
      rw [word32_skip hlen _ (Nat.le_refl _), Nat.sub_self, word32_head]
    have hftop : word32 (wordsLe scr.toList ++ (le32 eflags ++ (le32 ftop ++ rest))) 36 =
        ftop := by
      rw [word32_skip hlen _ (by decide), word32_skip (length_le32 eflags) _ (by decide),
        word32_head]
    simp only [kind, decode, encode, List.append_assoc]
    rw [hscr, heflags, hftop]

end Record

end TrapLayer
