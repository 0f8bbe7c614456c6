import TrapLayer.Bytes

/-!
# Fields of an image

An image is a list of cells, and each of its fields stands on an extent, some cells in a row. A
layout lists the fields in the order in which they lie, none reaching into the next one, and its
image has what the fields hold on their extents and a blank everywhere else.

* `foldl_overwrite`: fields that are written where an image has them give the image, in any order
  and any number of times, over anything that agrees with it elsewhere.
* `ImageLayout.within`, `ImageLayout.apart`: the fields of a layout lie in it, and not on each
  other.
* `ImageLayout.slice_image`, `ImageLayout.covered_or_blank`: what stands in the image of a layout.
-/
namespace TrapLayer

/-- Cells in a row. -/
structure Extent where
  off : Nat
  width : Nat
  deriving DecidableEq, Repr

namespace Extent

variable {α : Type} {e e' : Extent} {image cells : List α} {i : Nat}

/-- The first cell behind the extent. -/
def stop (e : Extent) : Nat := e.off + e.width

def Covers (e : Extent) (i : Nat) : Prop := e.off ≤ i ∧ i < e.stop

instance (e : Extent) (i : Nat) : Decidable (e.Covers i) :=
  inferInstanceAs (Decidable (e.off ≤ i ∧ i < e.stop))

/-- One of the two ends before the other starts. -/
def Apart (e e' : Extent) : Prop := e.stop ≤ e'.off ∨ e'.stop ≤ e.off

/-- The first extent is a part of the second. -/
def Inside (e e' : Extent) : Prop := e'.off ≤ e.off ∧ e.stop ≤ e'.stop

instance (e e' : Extent) : Decidable (e.Inside e') :=
  inferInstanceAs (Decidable (e'.off ≤ e.off ∧ e.stop ≤ e'.stop))

/-- The cells of an image that lie on the extent. -/
def slice (e : Extent) (image : List α) : List α := (image.drop e.off).take e.width

/-- The image with other cells on the extent. -/
def overwrite (e : Extent) (cells image : List α) : List α :=
  image.take e.off ++ cells ++ image.drop e.stop

theorem Apart.of_inside {e₁ : Extent} (h : e.Apart e') (hin : e₁.Inside e) : e₁.Apart e' := by
  obtain ⟨hoff, hstop⟩ := hin
  rcases h with h | h
  · exact .inl (Nat.le_trans hstop h)
  · exact .inr (Nat.le_trans h hoff)

theorem slice_append {before after : List α} (hoff : before.length = e.off)
    (hwidth : cells.length = e.width) : e.slice (before ++ (cells ++ after)) = cells := by
  rw [slice, ← hoff, List.drop_left, ← hwidth, List.take_left]

theorem length_slice (h : e.stop ≤ image.length) : (e.slice image).length = e.width := by
  unfold stop at h
  rw [slice, List.length_take, List.length_drop]
  omega

theorem getElem?_of_covers (hi : e.Covers i) : (e.slice image)[i - e.off]? = image[i]? := by
  obtain ⟨hlo, hhi⟩ := hi
  unfold stop at hhi
  rw [slice, List.getElem?_take_of_lt (by omega), List.getElem?_drop, Nat.add_sub_cancel' hlo]

theorem length_overwrite (hcells : cells.length = e.width) (h : e.stop ≤ image.length) :
    (e.overwrite cells image).length = image.length := by
  unfold overwrite stop at *
  simp only [List.length_append, List.length_take, List.length_drop, hcells]
  omega

theorem getElem?_overwrite (hcells : cells.length = e.width) (h : e.stop ≤ image.length) (i : Nat) :
    (e.overwrite cells image)[i]? = if e.Covers i then cells[i - e.off]? else image[i]? := by
  have hfront : (image.take e.off).length = e.off := by
    unfold stop at h
    rw [List.length_take]; omega
  unfold overwrite
  rw [List.append_assoc]
  by_cases hlo : i < e.off
  · rw [List.getElem?_append_left (by omega), List.getElem?_take_of_lt hlo,
      if_neg fun hc => Nat.not_le.2 hlo hc.1]
  · rw [List.getElem?_append_right (by omega), hfront]
    by_cases hhi : i < e.stop
    · rw [List.getElem?_append_left (by unfold stop at hhi; omega),
        if_pos ⟨Nat.not_lt.1 hlo, hhi⟩]
    · rw [List.getElem?_append_right (by unfold stop at hhi; omega), List.getElem?_drop,
        if_neg fun hc => hhi hc.2]
      congr 1
      unfold stop at *
      omega

/-- A field that is written where the image has it brings the image in on its extent. -/
theorem getElem?_overwrite_slice {before : List α} (hlen : before.length = image.length)
    (h : e.stop ≤ image.length) (i : Nat) :
    (e.overwrite (e.slice image) before)[i]? = if e.Covers i then image[i]? else before[i]? := by
  rw [getElem?_overwrite (length_slice h) (hlen ▸ h)]
  split
  · rename_i hi
    exact getElem?_of_covers hi
  · rfl

end Extent

variable {α F : Type}

/-- Fields that are written where an image has them give the image, in any order and any number of
times, over cells that are those of the image wherever no field is written. -/
theorem foldl_overwrite {extent : F → Extent} {content : F → List α} {image : List α}
    (hwithin : ∀ x, (extent x).stop ≤ image.length)
    (hcontent : ∀ x, (extent x).slice image = content x) :
    ∀ (order : List F) (before : List α), before.length = image.length →
      (∀ i, (∃ x ∈ order, (extent x).Covers i) ∨ before[i]? = image[i]?) →
      order.foldl (fun b x => (extent x).overwrite (content x) b) before = image
  | [], before, _, h => List.ext_getElem? fun i => (h i).resolve_left (by simp)
  | x :: order, before, hlen, h => by
    have hx := Extent.length_slice (hwithin x)
    rw [List.foldl_cons, ← hcontent x]
    refine foldl_overwrite hwithin hcontent order _ ?_ fun i => ?_
    · rw [Extent.length_overwrite hx (hlen ▸ hwithin x), hlen]
    · rw [Extent.getElem?_overwrite_slice hlen (hwithin x)]
      split
      · exact .inr rfl
      · rename_i hout
        rcases h i with ⟨y, hy, hi⟩ | heq
        · rcases List.mem_cons.1 hy with rfl | hy
          · exact absurd hi hout
          · exact .inl ⟨y, hy, hi⟩
        · exact .inr heq

/-! ## Layouts -/

/-- From `pos` on the fields lie one behind the other, in an image of `size` cells. -/
def Ascending (extent : F → Extent) (size : Nat) : Nat → List F → Prop
  | pos, [] => pos ≤ size
  | pos, x :: xs => pos ≤ (extent x).off ∧ Ascending extent size (extent x).stop xs

instance decidableAscending (extent : F → Extent) (size : Nat) :
    ∀ pos xs, Decidable (Ascending extent size pos xs)
  | pos, [] => inferInstanceAs (Decidable (pos ≤ size))
  | pos, x :: xs =>
    have := decidableAscending extent size (extent x).stop xs
    inferInstanceAs (Decidable (pos ≤ (extent x).off ∧ Ascending extent size (extent x).stop xs))

/-- The fields of an image in the order in which they lie. -/
structure ImageLayout (F : Type) where
  fields : List F
  extent : F → Extent
  /-- Cells of the image. -/
  size : Nat
  complete : ∀ x, x ∈ fields
  ascending : Ascending extent size 0 fields

namespace Ascending

variable {extent : F → Extent} {size pos : Nat} {x : F} {xs : List F}

theorem le_off : ∀ {xs : List F} {pos : Nat}, Ascending extent size pos xs →
    ∀ x ∈ xs, pos ≤ (extent x).off
  | y :: ys, pos, h, x, hx => by
    rcases List.mem_cons.1 hx with rfl | hx
    · exact h.1
    · have hstop : (extent y).stop ≤ (extent x).off := h.2.le_off x hx
      have hpos := h.1
      unfold Extent.stop at hstop
      omega

theorem stop_le : ∀ {xs : List F} {pos : Nat}, Ascending extent size pos xs → pos ≤ size
  | [], _, h => h
  | x :: _, _, h => by
    have hstop : (extent x).stop ≤ size := h.2.stop_le
    have hpos := h.1
    unfold Extent.stop at hstop
    omega

theorem within : ∀ {xs : List F} {pos : Nat}, Ascending extent size pos xs →
    ∀ x ∈ xs, (extent x).stop ≤ size
  | y :: ys, pos, h, x, hx => by
    rcases List.mem_cons.1 hx with rfl | hx
    · exact h.2.stop_le
    · exact h.2.within x hx

theorem apart : ∀ {xs : List F} {pos : Nat}, Ascending extent size pos xs →
    ∀ x ∈ xs, ∀ y ∈ xs, x ≠ y → (extent x).Apart (extent y)
  | z :: zs, pos, h, x, hx, y, hy, hne => by
    rcases List.mem_cons.1 hx with rfl | hxs <;> rcases List.mem_cons.1 hy with rfl | hys
    · exact absurd rfl hne
    · exact .inl (h.2.le_off y hys)
    · exact .inr (h.2.le_off x hxs)
    · exact h.2.apart x hxs y hys hne

end Ascending

namespace ImageLayout

variable (l : ImageLayout F)

theorem within (x : F) : (l.extent x).stop ≤ l.size := l.ascending.within x (l.complete x)

theorem apart {x y : F} (h : x ≠ y) : (l.extent x).Apart (l.extent y) :=
  l.ascending.apart x (l.complete x) y (l.complete y) h

end ImageLayout

/-! ## The image of a layout -/

section Fill

variable (extent : F → Extent) (size : Nat) (blank : α) (content : F → List α)

/-- The cells from `pos` to the end: each field on its extent, and blanks between them. -/
def fill : Nat → List F → List α
  | pos, [] => List.replicate (size - pos) blank
  | pos, x :: xs =>
    List.replicate ((extent x).off - pos) blank ++ (content x ++ fill (extent x).stop xs)

/-- From `pos` to `stop` the fields lie one behind the other with nothing in between. -/
def Packed : Nat → List F → Nat → Prop
  | pos, [], stop => pos = stop
  | pos, x :: xs, stop => (extent x).off = pos ∧ Packed (extent x).stop xs stop

instance decidablePacked : ∀ pos xs stop, Decidable (Packed extent pos xs stop)
  | pos, [], stop => inferInstanceAs (Decidable (pos = stop))
  | pos, x :: xs, stop =>
    have := decidablePacked (extent x).stop xs stop
    inferInstanceAs (Decidable ((extent x).off = pos ∧ Packed extent (extent x).stop xs stop))

variable {extent size blank content}

theorem fill_append_of_packed : ∀ {xs : List F} {pos stop : Nat}, Packed extent pos xs stop →
    ∀ ys, fill extent size blank content pos (xs ++ ys) =
      xs.flatMap content ++ fill extent size blank content stop ys
  | [], pos, stop, h, ys => by
    obtain rfl : pos = stop := h
    rfl
  | x :: xs, pos, stop, h, ys => by
    rw [List.cons_append, fill, h.1, Nat.sub_self, fill_append_of_packed h.2, List.flatMap_cons,
      List.append_assoc]
    rfl

variable (hcontent : ∀ x, (content x).length = (extent x).width)

include hcontent

theorem length_fill : ∀ {xs : List F} {pos : Nat}, Ascending extent size pos xs →
    pos + (fill extent size blank content pos xs).length = size
  | [], pos, h => by rw [fill, List.length_replicate]; exact Nat.add_sub_cancel' h
  | x :: xs, pos, h => by
    have hrest := length_fill h.2
    have hpos := h.1
    rw [fill, List.length_append, List.length_append, List.length_replicate, hcontent]
    unfold Extent.stop at *
    omega

/-- Behind `before`, each field stands on its extent. -/
theorem slice_fill : ∀ {xs : List F} {pos : Nat}, Ascending extent size pos xs →
    ∀ before : List α, before.length = pos → ∀ x ∈ xs,
      (extent x).slice (before ++ fill extent size blank content pos xs) = content x
  | y :: ys, pos, h, before, hlen, x, hx => by
    have hgap : (before ++ List.replicate ((extent y).off - pos) blank).length =
        (extent y).off := by
      have := h.1
      rw [List.length_append, List.length_replicate]; omega
    rw [fill, ← List.append_assoc]
    rcases List.mem_cons.1 hx with rfl | hx
    · exact Extent.slice_append hgap (hcontent x)
    · rw [← List.append_assoc]
      refine slice_fill h.2 _ ?_ x hx
      rw [List.length_append, hgap, hcontent, Extent.stop]

/-- Behind `before`, what is on no extent is blank. -/
theorem covered_or_blank_fill : ∀ {xs : List F} {pos : Nat}, Ascending extent size pos xs →
    ∀ before : List α, before.length = pos → ∀ i, pos ≤ i → i < size →
      (∃ x ∈ xs, (extent x).Covers i) ∨
        (before ++ fill extent size blank content pos xs)[i]? = some blank
  | [], pos, _, before, hlen, i, hlo, hhi => by
    refine .inr ?_
    rw [List.getElem?_append_right (by omega), fill, List.getElem?_replicate, if_pos (by omega)]
  | x :: xs, pos, h, before, hlen, i, hlo, hhi => by
    have hgap : (before ++ List.replicate ((extent x).off - pos) blank).length =
        (extent x).off := by
      have := h.1
      rw [List.length_append, List.length_replicate]; omega
    rw [fill, ← List.append_assoc]
    by_cases hbefore : i < (extent x).off
    · refine .inr ?_
      rw [List.getElem?_append_left (by omega), List.getElem?_append_right (by omega),
        List.getElem?_replicate, if_pos (by omega)]
    · by_cases hon : i < (extent x).stop
      · exact .inl ⟨x, List.mem_cons_self, Nat.not_lt.1 hbefore, hon⟩
      · rw [← List.append_assoc]
        have hrest := covered_or_blank_fill h.2
          (before ++ List.replicate ((extent x).off - pos) blank ++ content x)
          (by rw [List.length_append, hgap, hcontent, Extent.stop]) i (Nat.not_lt.1 hon) hhi
        exact hrest.imp_left fun ⟨y, hy, hi⟩ => ⟨y, List.mem_cons_of_mem _ hy, hi⟩

end Fill

namespace ImageLayout

variable (l : ImageLayout F) (blank : α) (content : F → List α)

/-- Each field on its extent, and blanks everywhere else. -/
def image : List α := fill l.extent l.size blank content 0 l.fields

variable {l blank content} (hcontent : ∀ x, (content x).length = (l.extent x).width)

include hcontent

theorem length_image : (l.image blank content).length = l.size := by
  have h : 0 + (l.image blank content).length = l.size := length_fill hcontent l.ascending
  rwa [Nat.zero_add] at h

theorem slice_image (x : F) : (l.extent x).slice (l.image blank content) = content x :=
  slice_fill hcontent l.ascending [] rfl x (l.complete x)

theorem covered_or_blank {i : Nat} (hi : i < l.size) :
    (∃ x ∈ l.fields, (l.extent x).Covers i) ∨ (l.image blank content)[i]? = some blank :=
  covered_or_blank_fill hcontent l.ascending [] rfl i (Nat.zero_le i) hi

theorem foldl_overwrite_blank {order : List F} (horder : ∀ x, x ∈ order) :
    order.foldl (fun b x => (l.extent x).overwrite (content x) b) (List.replicate l.size blank) =
      l.image blank content := by
  have hlen : (l.image blank content).length = l.size := length_image hcontent
  refine foldl_overwrite (fun x => hlen.symm ▸ l.within x) (slice_image hcontent) order _
    (by rw [List.length_replicate, hlen]) fun i => ?_
  by_cases hi : i < l.size
  · have hcell : _ ∨ (l.image blank content)[i]? = some blank := covered_or_blank hcontent hi
    rcases hcell with ⟨x, -, hx⟩ | hblank
    · exact .inl ⟨x, horder x, hx⟩
    · exact .inr (by rw [hblank, List.getElem?_replicate, if_pos hi])
  · refine .inr ?_
    rw [List.getElem?_eq_none (by rw [List.length_replicate]; omega),
      List.getElem?_eq_none (by omega)]

end ImageLayout

end TrapLayer
