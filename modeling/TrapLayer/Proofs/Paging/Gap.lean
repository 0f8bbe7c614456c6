import TrapLayer.Proofs.Paging.Misses

/-!
# Addresses between the two halves

Between the end of the lower half and the start of the upper one lies most of the address space, and
nothing is mapped there. Both range checks refuse every range that touches it. A miss is not asked
where it lies: below the upper half it walks from the lower root, and the walk masks the address at
every level, so a miss in the gap is the miss at the address without its high bits.

* `walk_truncate`: a walk reads the low `vaWidth` bits of an address.
* `entries_resolveMiss_truncate`: a miss in the gap is answered with the entries of its low alias.
* `gap_misses_refused_iff`: all of them are refused exactly when the lower half maps nothing.
-/
namespace TrapLayer

namespace Geometry

/-! ## The gap -/

/-- The address is in neither half. -/
def InGap (g : Geometry) (va : UInt64) : Prop := g.userEnd ≤ va.toNat ∧ va.toNat < g.kernelStart

/-- The address without the bits that no level translates. -/
def truncate (g : Geometry) (va : UInt64) : UInt64 := UInt64.ofNat (va.toNat % 2 ^ g.vaWidth)

/-- The address walks from `root` to a leaf that allows the access that missed. -/
def Allows (g : Geometry) (t : PageTables) (root va : UInt64) (fromUser : Bool) (kind : MissKind) :
    Prop :=
  ∃ leaf, (g.walk t root va).result = .ok leaf ∧ Entry.allowsMiss leaf.entry fromUser kind = true

theorem vaWidth_le (g : Geometry) : g.vaWidth ≤ 58 := by
  obtain ⟨l, s, hl, hs, hc⟩ := g
  simp only [vaWidth, indexBits]
  rcases hl with rfl | rfl | rfl <;> rcases hs with rfl | rfl | rfl <;> simp at hc ⊢

theorem pageShift_succ_le_vaWidth (g : Geometry) : g.pageShift + 1 ≤ g.vaWidth := by
  have hl := g.levels_mem
  have hs := g.shift_mem
  have hmul : 1 * 1 ≤ g.levels * g.indexBits :=
    Nat.mul_le_mul (by omega) (by unfold indexBits; omega)
  unfold vaWidth
  omega

theorem levelShift_add_le (g : Geometry) (level : Nat) :
    g.levelShift level + g.indexBits ≤ g.vaWidth := by
  have hl := g.levels_mem
  have hmul : (g.levels - 1 - level + 1) * g.indexBits ≤ g.levels * g.indexBits :=
    Nat.mul_le_mul_right _ (by omega)
  rw [Nat.add_mul, Nat.one_mul] at hmul
  unfold levelShift vaWidth
  omega

theorem toNat_truncate (g : Geometry) (va : UInt64) :
    (g.truncate va).toNat = va.toNat % 2 ^ g.vaWidth :=
  toNat_ofNat (Nat.lt_of_le_of_lt (Nat.mod_le _ _) va.toNat_lt)

theorem truncate_lt (g : Geometry) (va : UInt64) : (g.truncate va).toNat < 2 ^ g.vaWidth := by
  rw [toNat_truncate]
  exact Nat.mod_lt _ (Nat.two_pow_pos _)

theorem two_pow_vaWidth_lt (g : Geometry) : 2 ^ g.vaWidth + 2 ^ g.vaWidth < g.kernelStart := by
  have hw : 2 ^ g.vaWidth ≤ 2 ^ 58 := Nat.pow_le_pow_right (by decide) g.vaWidth_le
  have hend := g.userEnd_le
  unfold kernelStart
  omega

theorem exists_inGap_alias (g : Geometry) {va : UInt64} (h : va.toNat < 2 ^ g.vaWidth) :
    ∃ high, g.InGap high ∧ g.truncate high = va := by
  have htop := g.two_pow_vaWidth_lt
  have hend : g.userEnd ≤ 2 ^ g.vaWidth := Nat.pow_le_pow_right (by decide) (Nat.min_le_left _ _)
  have hstart : g.kernelStart ≤ 2 ^ 64 := Nat.sub_le _ _
  have halias : (UInt64.ofNat (va.toNat + 2 ^ g.vaWidth)).toNat = va.toNat + 2 ^ g.vaWidth :=
    toNat_ofNat (by omega)
  refine ⟨UInt64.ofNat (va.toNat + 2 ^ g.vaWidth), ⟨by omega, by omega⟩, UInt64.toNat_inj.1 ?_⟩
  rw [toNat_truncate, halias, Nat.add_mod_right, Nat.mod_eq_of_lt h]

/-! ## A walk reads the low bits -/

theorem index_truncate (g : Geometry) (level : Nat) (va : UInt64) :
    g.index level (g.truncate va) = g.index level va := by
  have hle := g.levelShift_add_le level
  have hsplit : 2 ^ g.vaWidth = g.span level * 2 ^ (g.vaWidth - g.levelShift level) := by
    rw [span, ← Nat.pow_add, Nat.add_sub_cancel' (by omega)]
  have hd : g.entries ∣ 2 ^ (g.vaWidth - g.levelShift level) := Nat.pow_dvd_pow 2 (by omega)
  unfold index
  rw [toNat_truncate, hsplit, Nat.mod_mul_right_div_self, Nat.mod_mod_of_dvd _ hd]

theorem walkFrom_truncate (g : Geometry) (t : PageTables) (va : UInt64) :
    ∀ n table, g.walkFrom t (g.truncate va) n table = g.walkFrom t va n table
  | 0, _ => rfl
  | n + 1, table => by
    simp only [walkFrom, index_truncate, walkFrom_truncate g t va n]

/-- A walk reads nothing of an address above its low `vaWidth` bits. -/
theorem walk_truncate (g : Geometry) (t : PageTables) (root va : UInt64) :
    g.walk t root (g.truncate va) = g.walk t root va :=
  g.walkFrom_truncate t va _ _

theorem walk_eq_of_truncate {g : Geometry} {a b : UInt64} (h : g.truncate a = g.truncate b)
    (t : PageTables) (root : UInt64) : g.walk t root a = g.walk t root b := by
  rw [← walk_truncate g t root a, h, walk_truncate]

theorem bitOf_truncate (g : Geometry) (va : UInt64) {i : Nat} (h : i < g.vaWidth) :
    bitOf (g.truncate va) i = bitOf va i := by
  have hbit : bitOf (g.truncate va) i = (va.toNat % 2 ^ g.vaWidth).testBit i := by
    rw [← toNat_truncate]
    rfl
  rw [hbit, Nat.testBit_mod_two_pow, decide_eq_true h, Bool.true_and]
  rfl

/-- The other page of a pair, without its high bits, is that of the address without them. -/
theorem truncate_neighbour (g : Geometry) (va : UInt64) :
    g.truncate (Refill.neighbour g va) = g.truncate (Refill.neighbour g (g.truncate va)) := by
  have hle := g.pageShift_succ_le_vaWidth
  have hd : 2 ^ (g.pageShift + 1) ∣ 2 ^ g.vaWidth := Nat.pow_dvd_pow 2 hle
  have hbase : va.toNat % 2 ^ g.vaWidth / 2 ^ (g.pageShift + 1) * 2 ^ (g.pageShift + 1) =
      va.toNat / 2 ^ (g.pageShift + 1) * 2 ^ (g.pageShift + 1) % 2 ^ g.vaWidth := by
    obtain ⟨c, hc⟩ := hd
    rw [hc, Nat.mod_mul_right_div_self, Nat.mul_comm (2 ^ (g.pageShift + 1)) c,
      Nat.mul_mod_mul_right]
  apply UInt64.toNat_inj.1
  rw [toNat_truncate, toNat_truncate, Refill.toNat_neighbour, Refill.toNat_neighbour,
    bitOf_truncate g va hle, toNat_truncate, hbase, Nat.mod_add_mod]

end Geometry

namespace Hardware

/-! ## Misses in the gap -/

theorem rootFor_truncate (g : Geometry) (va : UInt64) : rootFor g (g.truncate va) = .pgdl := by
  have hlt := g.truncate_lt va
  have htop := g.two_pow_vaWidth_lt
  exact rootFor_of_lt (by omega)

end Hardware

/-- The entries of a pair, and the size of the pages that they map. -/
def Refill.entries (r : Refill) : UInt64 × UInt64 × Nat := (r.lo0, r.lo1, r.pageShift)

/-- The pair loaded for an address and for its truncation holds the same entries. -/
theorem Geometry.entries_refill_truncate (g : Geometry) (t : PageTables) (root va : UInt64)
    (leaf : Leaf) (kind : MissKind) :
    (g.refill t root (g.truncate va) leaf kind).entries =
      (g.refill t root va leaf kind).entries := by
  have hother := Geometry.walk_eq_of_truncate (g.truncate_neighbour va) t root
  have hodd : Refill.isOdd g (g.truncate va) = Refill.isOdd g va :=
    g.bitOf_truncate va g.pageShift_succ_le_vaWidth
  unfold refill Refill.ofPair
  rw [hother, hodd]
  dsimp only
  split
  · rfl
  · split <;> rfl

namespace Hardware

theorem resolveMiss_of_error {hw : Hardware} {badv : UInt64} {e : WalkError}
    (h : (hw.geometry.walk hw.tables (hw.readCsr (rootFor hw.geometry badv)) badv).result =
      .error e) (fromUser : Bool) (kind : MissKind) :
    (hw.resolveMiss badv fromUser kind).1 = .error (.walk e) := by
  unfold resolveMiss Hardware.walk
  simp only [h]

theorem resolveMiss_of_leaf {hw : Hardware} {badv : UInt64} {leaf : Leaf}
    (h : (hw.geometry.walk hw.tables (hw.readCsr (rootFor hw.geometry badv)) badv).result =
      .ok leaf) (fromUser : Bool) (kind : MissKind) :
    (hw.resolveMiss badv fromUser kind).1 =
      if Entry.allowsMiss leaf.entry fromUser kind then
        .ok (hw.geometry.refill hw.tables (hw.readCsr (rootFor hw.geometry badv)) badv leaf kind)
      else .error (.denied leaf.entry) := by
  unfold resolveMiss Hardware.walk
  simp only [h]
  split
  · obtain ⟨reads, hrefill⟩ := (hw.noteReads (hw.geometry.walk hw.tables
      (hw.readCsr (rootFor hw.geometry badv)) badv).reads.reverse).refillFor_eq
      (hw.readCsr (rootFor hw.geometry badv)) badv leaf kind
    rw [hrefill]
    rfl
  · rfl

/-- A miss below the upper half is answered as the miss at its truncation is: it is refused for the
same reason, or the same entries are loaded. -/
theorem entries_resolveMiss_truncate (hw : Hardware) {badv : UInt64}
    (h : badv.toNat < hw.geometry.kernelStart) (fromUser : Bool) (kind : MissKind) :
    (hw.resolveMiss (hw.geometry.truncate badv) fromUser kind).1.map Refill.entries =
      (hw.resolveMiss badv fromUser kind).1.map Refill.entries := by
  have hroot : rootFor hw.geometry (hw.geometry.truncate badv) = rootFor hw.geometry badv :=
    (rootFor_truncate _ _).trans (rootFor_of_lt h).symm
  have hwalk := hw.geometry.walk_truncate hw.tables (hw.readCsr (rootFor hw.geometry badv)) badv
  cases hleaf : (hw.geometry.walk hw.tables
      (hw.readCsr (rootFor hw.geometry badv)) badv).result with
  | error e =>
    rw [resolveMiss_of_error hleaf, resolveMiss_of_error (by rw [hroot, hwalk, hleaf])]
  | ok leaf =>
    rw [resolveMiss_of_leaf hleaf, resolveMiss_of_leaf (by rw [hroot, hwalk, hleaf]), hroot]
    split
    · simp only [Except.map, Geometry.entries_refill_truncate]
    · rfl

/-- The miss is answered with an error, and nothing is loaded into the translation buffer. -/
def RefusesMiss (hw : Hardware) (badv : UInt64) (fromUser : Bool) (kind : MissKind) : Prop :=
  (hw.resolveMiss badv fromUser kind).1.isOk = false ∧
    ((hw.resolveMiss badv fromUser kind).2.since hw.mark).filter Effect.isFill = []

theorem refusesMiss_iff (hw : Hardware) (badv : UInt64) (fromUser : Bool) (kind : MissKind) :
    hw.RefusesMiss badv fromUser kind ↔
      ¬ hw.geometry.Allows hw.tables (hw.readCsr (rootFor hw.geometry badv)) badv fromUser
        kind := by
  unfold RefusesMiss Geometry.Allows
  rw [← isOk_resolveMiss_iff, Bool.not_eq_true]
  refine ⟨And.left, fun h => ⟨h, ?_⟩⟩
  rcases hw.resolveMiss_cases badv fromUser kind with ⟨leaf, reads, -, -, heq⟩ | ⟨e, reads, -, heq⟩
  · rw [heq] at h
    cases h
  · rw [heq]
    exact fills_noteReads reads [] rfl

/-- A miss in the gap is refused exactly when its low alias reaches no leaf that allows it. -/
theorem refusesMiss_iff_of_inGap (hw : Hardware) {badv : UInt64} (h : hw.geometry.InGap badv)
    (fromUser : Bool) (kind : MissKind) :
    hw.RefusesMiss badv fromUser kind ↔
      ¬ hw.geometry.Allows hw.tables (hw.readCsr .pgdl) (hw.geometry.truncate badv) fromUser
        kind := by
  rw [refusesMiss_iff, rootFor_of_lt h.2]
  unfold Geometry.Allows
  rw [Geometry.walk_truncate]

theorem checks_refuse_gap (hw : Hardware) {va : UInt64} (h : hw.geometry.InGap va) {addr : UInt64}
    {len : Nat} (hlo : addr.toNat ≤ va.toNat) (hhi : va.toNat < addr.toNat + len)
    (access : Access) :
    (hw.checkUser addr len access).1 = false ∧ (hw.checkKernel addr len access).1 = false := by
  obtain ⟨hend, hstart⟩ := h
  rw [← Bool.not_eq_true, ← Bool.not_eq_true]
  constructor
  · intro hgranted
    obtain ⟨-, -, -, hin, -⟩ := (Geometry.granted_checkUser_iff ..).1 hgranted
    omega
  · intro hgranted
    obtain ⟨hin, -⟩ := (Geometry.granted_checkKernel_iff ..).1 hgranted
    omega

end Hardware

/-- Both range checks refuse every range that touches the gap, and the miss path does not look.
A miss in the gap gets what its low alias gets, the same refusal or the same entries, and so it is
refused exactly when the lower root leads from there to no leaf that allows it. All misses in the
gap are refused exactly when no address that the walk translates reaches a leaf that allows
anything: as soon as the lower half maps a page that can be touched, the gap holds aliases of it. -/
theorem gap_misses_refused_iff (hw : Hardware) :
    (∀ (va addr : UInt64) (len : Nat) (access : Access), hw.geometry.InGap va →
      addr.toNat ≤ va.toNat → va.toNat < addr.toNat + len →
        (hw.checkUser addr len access).1 = false ∧ (hw.checkKernel addr len access).1 = false) ∧
    (∀ (badv : UInt64) (fromUser : Bool) (kind : MissKind), hw.geometry.InGap badv →
      (hw.resolveMiss (hw.geometry.truncate badv) fromUser kind).1.map Refill.entries =
          (hw.resolveMiss badv fromUser kind).1.map Refill.entries ∧
        (hw.RefusesMiss badv fromUser kind ↔
          ¬ hw.geometry.Allows hw.tables (hw.readCsr .pgdl) (hw.geometry.truncate badv) fromUser
            kind)) ∧
    ((∀ (badv : UInt64) (fromUser : Bool) (kind : MissKind), hw.geometry.InGap badv →
        hw.RefusesMiss badv fromUser kind) ↔
      ∀ (va : UInt64) (fromUser : Bool) (kind : MissKind), va.toNat < 2 ^ hw.geometry.vaWidth →
        ¬ hw.geometry.Allows hw.tables (hw.readCsr .pgdl) va fromUser kind) := by
  refine ⟨fun va addr len access hgap hlo hhi => hw.checks_refuse_gap hgap hlo hhi access,
    fun badv fromUser kind hgap => ⟨hw.entries_resolveMiss_truncate hgap.2 fromUser kind,
      hw.refusesMiss_iff_of_inGap hgap fromUser kind⟩, ?_⟩
  constructor
  · intro h va fromUser kind hva
    obtain ⟨badv, hgap, rfl⟩ := hw.geometry.exists_inGap_alias hva
    exact (hw.refusesMiss_iff_of_inGap hgap fromUser kind).1 (h badv fromUser kind hgap)
  · intro h badv fromUser kind hgap
    exact (hw.refusesMiss_iff_of_inGap hgap fromUser kind).2
      (h _ fromUser kind (hw.geometry.truncate_lt badv))

/-- Three levels of 4 KiB pages: 39 address bits. -/
def Geometry.threeBy4K : Geometry :=
  { active with levels := 3, levels_mem := by decide, covers := by decide }

/-- Hardware of that shape on which a huge page is mapped at the bottom of the lower half. -/
def Hardware.lowPage : Hardware := { Hardware.oneLeaf with geometry := .threeBy4K }

/-- There the range checks stop at the gap, a store to the alias of the page is resolved, and a
load from an alias of nothing is refused. -/
theorem gap_misses_refused_iff_lowPage :
    (Hardware.lowPage.checkUser 0x7ffffffff0 0x20 .read).1 = false ∧
    ¬ Hardware.lowPage.RefusesMiss 0x8000001234 true .store ∧
    Hardware.lowPage.RefusesMiss 0x8040000000 true .load := by
  obtain ⟨hchecks, hmisses, -⟩ := gap_misses_refused_iff .lowPage
  obtain ⟨-, halias⟩ := hmisses 0x8000001234 true .store ⟨by decide, by decide⟩
  obtain ⟨-, hnone⟩ := hmisses 0x8040000000 true .load ⟨by decide, by decide⟩
  have hbottom : (Hardware.lowPage.geometry.walk Hardware.lowPage.tables
      (Hardware.lowPage.readCsr .pgdl) (Hardware.lowPage.geometry.truncate 0x8000001234)).result =
      .ok ⟨0x800001cc, 1⟩ := rfl
  have hnext : (Hardware.lowPage.geometry.walk Hardware.lowPage.tables
      (Hardware.lowPage.readCsr .pgdl) (Hardware.lowPage.geometry.truncate 0x8040000000)).result =
      .error (.notPresent 0) := rfl
  refine ⟨(hchecks 0x8000000000 _ _ _ ⟨by decide, by decide⟩ (by decide) (by decide)).1,
    fun h => halias.1 h ⟨_, hbottom, by decide⟩, hnone.2 ?_⟩
  rintro ⟨leaf, hwalk, -⟩
  rw [hnext] at hwalk
  cases hwalk

/-- Right above the lower half a task reads, through the translation buffer, what is mapped at its
bottom, where no range check lets the kernel follow. -/
theorem gap_miss_resolved :
    Hardware.lowPage.geometry.InGap 0x8000001234 ∧
    (Hardware.lowPage.checkUser 0x8000001234 1 .read).1 = false ∧
    ¬ Hardware.lowPage.RefusesMiss 0x8000001234 true .load ∧
    (Hardware.lowPage.resolveMiss 0x8000001234 true .load).1 =
      .ok ⟨0x8000000000, 0x8000018d, 0x8010018d, 20⟩ := by
  refine ⟨⟨by decide, by decide⟩, by decide +kernel, ?_, rfl⟩
  rintro ⟨hrefused, -⟩
  revert hrefused
  decide +kernel

end TrapLayer
