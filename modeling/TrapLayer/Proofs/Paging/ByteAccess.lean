import TrapLayer.Hardware
import TrapLayer.Proofs.Word

/-!
# Range checks, byte by byte

A range check walks one address a base page. What its callers rely on is a fact about every byte of
the range: the walk of that byte ends at a leaf that grants the access.

* `walk_eq_of_page`: a walk depends on the base page of an address only, at every level, so a huge
  leaf and a hole look the same from every byte of a page.
* `pageLoop_iff`: a loop over the page addresses that stops at the last one visits those pages.
* `granted_checkSpan_iff`: a span is granted exactly when each of its bytes is.
* `granted_checkUser_iff`, `granted_checkKernel_iff`: the two checks, with their windows.
* `reaches_of_granted`, `granted_checkUser_sub`: what was granted for a range is granted for each of
  its bytes, and for each part of it.
* `range_checks_exact`: both checks on the live tables, and how many entries they read at most.
-/
namespace TrapLayer

namespace Geometry

/-! ## A walk depends on the page -/

theorem pageSize_pos (g : Geometry) : 0 < g.pageSize := Nat.two_pow_pos _

/-- A level translates whole pages. -/
theorem pageSize_mul_span (g : Geometry) (level : Nat) :
    g.span level = g.pageSize * 2 ^ ((g.levels - 1 - level) * g.indexBits) := by
  rw [span, levelShift, Nat.pow_add, pageSize]

theorem index_eq_of_page (g : Geometry) {a b : UInt64}
    (h : a.toNat / g.pageSize = b.toNat / g.pageSize) (level : Nat) :
    g.index level a = g.index level b := by
  simp only [index, pageSize_mul_span, ← Nat.div_div_eq_div_mul, h]

theorem walkFrom_eq_of_page (g : Geometry) (t : PageTables) {a b : UInt64}
    (h : a.toNat / g.pageSize = b.toNat / g.pageSize) :
    ∀ n table, g.walkFrom t a n table = g.walkFrom t b n table
  | 0, _ => rfl
  | n + 1, table => by
    simp only [walkFrom, index_eq_of_page g h, walkFrom_eq_of_page g t h n]

theorem walk_eq_of_page (g : Geometry) (t : PageTables) (root : UInt64) {a b : UInt64}
    (h : a.toNat / g.pageSize = b.toNat / g.pageSize) : g.walk t root a = g.walk t root b :=
  walkFrom_eq_of_page g t h _ _

/-- The walk to a page is the walk to each of its bytes. -/
theorem walkPage_div (g : Geometry) (t : PageTables) (root b : UInt64) :
    g.walkPage t root (b.toNat / g.pageSize) = g.walk t root b := by
  have hle : b.toNat / g.pageSize * g.pageSize ≤ b.toNat := Nat.div_mul_le_self _ _
  have hb := b.toNat_lt
  refine walk_eq_of_page g t root ?_
  rw [toNat_ofNat (by omega)]
  exact Nat.mul_div_cancel _ (pageSize_pos g)

/-! ## A span is its bytes -/

theorem forall_page_iff (g : Geometry) {first stop : Nat} (hlt : first < stop) (hs : stop ≤ 2 ^ 64)
    (P : Nat → Prop) :
    (∀ i < (stop - 1) / g.pageSize - first / g.pageSize + 1, P (first / g.pageSize + i)) ↔
      ∀ b : UInt64, first ≤ b.toNat → b.toNat < stop → P (b.toNat / g.pageSize) := by
  have hp := pageSize_pos g
  constructor
  · intro h b h1 h2
    have l1 : first / g.pageSize ≤ b.toNat / g.pageSize := Nat.div_le_div_right h1
    have l2 : b.toNat / g.pageSize ≤ (stop - 1) / g.pageSize := Nat.div_le_div_right (by omega)
    have := h (b.toNat / g.pageSize - first / g.pageSize) (by omega)
    rwa [Nat.add_sub_cancel' l1] at this
  · intro h i hi
    have l1 : first / g.pageSize ≤ (stop - 1) / g.pageSize := Nat.div_le_div_right (by omega)
    -- The byte that stands for page `first / pageSize + i`: its base, or `first` on the first page.
    have hm : (first / g.pageSize + i) * g.pageSize ≤ stop - 1 :=
      Nat.le_trans (Nat.mul_le_mul_right _ (by omega)) (Nat.div_mul_le_self _ _)
    have hf := Nat.div_add_mod first g.pageSize
    have hr := Nat.mod_lt first hp
    rcases Nat.eq_zero_or_pos i with rfl | hi0
    · have hb : (UInt64.ofNat first).toNat = first := toNat_ofNat (by omega)
      have := h (UInt64.ofNat first) (by omega) (by omega)
      rwa [hb] at this
    · have hb : (UInt64.ofNat ((first / g.pageSize + i) * g.pageSize)).toNat =
          (first / g.pageSize + i) * g.pageSize := toNat_ofNat (by omega)
      have hge : first ≤ (first / g.pageSize + i) * g.pageSize := by
        have : (first / g.pageSize + 1) * g.pageSize ≤ (first / g.pageSize + i) * g.pageSize :=
          Nat.mul_le_mul_right _ (by omega)
        rw [Nat.add_mul, Nat.one_mul, Nat.mul_comm (first / g.pageSize)] at this
        omega
      have := h _ (by rw [hb]; exact hge) (by rw [hb]; omega)
      rwa [hb, Nat.mul_div_cancel _ hp] at this

theorem granted_checkSpan_iff (g : Geometry) (t : PageTables) (root : UInt64) {first stop : Nat}
    (hlt : first < stop) (hs : stop ≤ 2 ^ 64) (access : Access) (half : Half) :
    (g.checkSpan t root first stop access half).granted = true ↔
      ∀ b : UInt64, first ≤ b.toNat → b.toNat < stop →
        (g.walk t root b).grants access half = true := by
  rw [checkSpan, granted_checkPages,
    forall_page_iff g hlt hs fun p => (g.walkPage t root p).grants access half = true]
  simp only [walkPage_div]

/-! ## The loop over the pages -/

/-- A loop that goes from page address to page address, after the entries `seen` were read: it walks
the page it is at, ends at a page that does not grant the access and at the last one, and otherwise
goes one page on. -/
inductive PageLoop (g : Geometry) (t : PageTables) (root : UInt64) (access : Access) (half : Half)
    (last : UInt64) : UInt64 → List TableRead → RangeCheck → Prop
  | denied {page : UInt64} {seen : List TableRead}
      (h : (g.walk t root page).grants access half = false) :
      PageLoop g t root access half last page seen
        ⟨false, (g.walk t root page).reads.reverse ++ seen⟩
  | last {seen : List TableRead} (h : (g.walk t root last).grants access half = true) :
      PageLoop g t root access half last last seen
        ⟨true, (g.walk t root last).reads.reverse ++ seen⟩
  | next {page : UInt64} {seen : List TableRead} {r : RangeCheck}
      (h : (g.walk t root page).grants access half = true) (more : page ≠ last)
      (rest : PageLoop g t root access half last (page + UInt64.ofNat g.pageSize)
        ((g.walk t root page).reads.reverse ++ seen) r) :
      PageLoop g t root access half last page seen r

section

variable {g : Geometry} {t : PageTables} {root : UInt64} {access : Access} {half : Half}

theorem PageLoop.unique {last page : UInt64} {seen : List TableRead} {r r' : RangeCheck}
    (h : g.PageLoop t root access half last page seen r)
    (h' : g.PageLoop t root access half last page seen r') : r = r' := by
  induction h with
  | denied h =>
    cases h' with
    | denied => rfl
    | last h' => rw [h] at h'; cases h'
    | next h' => rw [h] at h'; cases h'
  | last h =>
    cases h' with
    | denied h' => rw [h] at h'; cases h'
    | last => rfl
    | next h' more => exact absurd rfl more
  | next h more rest ih =>
    cases h' with
    | denied h' => rw [h] at h'; cases h'
    | last => exact absurd rfl more
    | next h' more' rest' => exact ih rest'

/-- The loop visits the pages from the first to the last, of which there are `n + 1`. -/
theorem pageLoop_checkPages (g : Geometry) (t : PageTables) (root : UInt64) (access : Access)
    (half : Half) {page n : Nat} (hlast : (page + n) * g.pageSize < 2 ^ 64)
    (seen : List TableRead) :
    g.PageLoop t root access half (UInt64.ofNat ((page + n) * g.pageSize))
      (UInt64.ofNat (page * g.pageSize)) seen
      (g.checkPages t root access half page (n + 1) seen) := by
  induction n generalizing page seen with
  | zero =>
    rw [checkPages]
    split
    · exact .last ‹_›
    · exact .denied (Bool.eq_false_iff.2 ‹_›)
  | succ n ih =>
    rw [checkPages]
    split
    · rename_i h
      have hcomm : page + (n + 1) = page + 1 + n := by omega
      have hbelow : page * g.pageSize < (page + (n + 1)) * g.pageSize :=
        Nat.mul_lt_mul_of_pos_right (by omega) g.pageSize_pos
      have hnext : UInt64.ofNat (page * g.pageSize) + UInt64.ofNat g.pageSize =
          UInt64.ofNat ((page + 1) * g.pageSize) := by
        rw [Nat.succ_mul, UInt64.ofNat_add]
      refine .next h (fun heq => ?_) ?_
      · have hnum := congrArg UInt64.toNat heq
        rw [toNat_ofNat (Nat.lt_trans hbelow hlast), toNat_ofNat hlast] at hnum
        omega
      · rw [hcomm] at hlast ⊢
        rw [hnext]
        exact ih hlast _
    · exact .denied (Bool.eq_false_iff.2 ‹_›)

theorem alignDown_pageSize (g : Geometry) (a : UInt64) :
    alignDown a (UInt64.ofNat g.pageSize) = UInt64.ofNat (a.toNat / g.pageSize * g.pageSize) := by
  have hshift : g.pageShift < 64 := by
    have := g.shift_mem
    omega
  have hle : a.toNat / g.pageSize * g.pageSize < 2 ^ 64 :=
    Nat.lt_of_le_of_lt (Nat.div_mul_le_self _ _) a.toNat_lt
  apply UInt64.toNat_inj.mp
  rw [toNat_ofNat hle]
  exact toNat_alignDown_two_pow a hshift

/-- The loop over a range ends, and what it ends with is the check of the span and nothing else. -/
theorem pageLoop_iff {addr : UInt64} {len : Nat} (hlen : 0 < len)
    (hend : addr.toNat + len < 2 ^ 64) {r : RangeCheck} :
    g.PageLoop t root access half
      (alignDown (addr + UInt64.ofNat len - 1) (UInt64.ofNat g.pageSize))
      (alignDown addr (UInt64.ofNat g.pageSize)) [] r ↔
        r = g.checkSpan t root addr.toNat (addr.toNat + len) access half := by
  have hstop : (addr + UInt64.ofNat len).toNat = addr.toNat + len := toNat_add_ofNat hend
  have hlast : (addr + UInt64.ofNat len - 1).toNat = addr.toNat + len - 1 := by
    have hone : 1 ≤ (addr + UInt64.ofNat len).toNat := by omega
    rw [← hstop]
    exact toNat_sub_ofNat hone
  have hpages : addr.toNat / g.pageSize + ((addr.toNat + len - 1) / g.pageSize -
      addr.toNat / g.pageSize) = (addr.toNat + len - 1) / g.pageSize :=
    Nat.add_sub_cancel' (Nat.div_le_div_right (by omega))
  have hbound : (addr.toNat + len - 1) / g.pageSize * g.pageSize < 2 ^ 64 :=
    Nat.lt_of_le_of_lt (Nat.div_mul_le_self _ _) (by omega)
  have hloop := g.pageLoop_checkPages t root access half (by rwa [hpages]) []
  rw [hpages, ← hlast, ← alignDown_pageSize, ← alignDown_pageSize, hlast] at hloop
  exact ⟨fun h => h.unique hloop, fun h => h ▸ hloop⟩

end

end Geometry

/-! ## What a leaf grants -/

/-- The bits a leaf needs for an access: present, both privilege bits if user mode is to reach it,
no read lock, the write permission. -/
structure Entry.Grants (entry : UInt64) (access : Access) (half : Half) : Prop where
  present : bitOf entry 7 = true
  user : half = .user → bitOf entry 2 = true ∧ bitOf entry 3 = true
  readable : access ≠ .write → bitOf entry 61 = false
  writable : access ≠ .read → bitOf entry 8 = true

namespace Entry

theorem hasBits_present (entry : UInt64) : hasBits entry present = bitOf entry 7 :=
  hasBits_oneBit entry (i := 7) (by decide)

theorem hasBits_write (entry : UInt64) : hasBits entry write = bitOf entry 8 :=
  hasBits_oneBit entry (i := 8) (by decide)

theorem hasBits_noRead (entry : UInt64) : hasBits entry noRead = bitOf entry 61 :=
  hasBits_oneBit entry (i := 61) (by decide)

theorem hasBits_user (entry : UInt64) : hasBits entry user = (bitOf entry 2 && bitOf entry 3) := by
  have h : user = oneBit 2 ||| oneBit 3 := by decide
  rw [h, hasBits_or, hasBits_oneBit _ (by decide), hasBits_oneBit _ (by decide)]

theorem permits_iff (entry : UInt64) (access : Access) (half : Half) :
    permits entry access half = true ↔ Grants entry access half := by
  unfold permits
  rw [hasBits_present, hasBits_user, hasBits_write, hasBits_noRead]
  constructor
  · intro h
    cases access <;> cases half <;> simp at h <;> constructor <;> simp [h]
  · rintro ⟨hp, hu, hr, hw⟩
    cases access <;> cases half <;> simp_all

end Entry

/-- Who may have the one access may have the other. -/
def Access.Includes (granted asked : Access) : Prop := granted = asked ∨ granted = .readWrite

theorem Entry.Grants.of_includes {entry : UInt64} {granted asked : Access} {half : Half}
    (h : Entry.Grants entry granted half) (hi : granted.Includes asked) :
    Entry.Grants entry asked half := by
  rcases hi with rfl | rfl
  · exact h
  · exact ⟨h.present, h.user, fun _ => h.readable (by decide), fun _ => h.writable (by decide)⟩

namespace Geometry

/-- The walk of `va` ends at a leaf that grants the access. -/
def Reaches (g : Geometry) (t : PageTables) (root va : UInt64) (access : Access) (half : Half) :
    Prop :=
  ∃ leaf, (g.walk t root va).result = .ok leaf ∧ Entry.Grants leaf.entry access half

theorem grants_iff_reaches (g : Geometry) (t : PageTables) (root va : UInt64) (access : Access)
    (half : Half) :
    (g.walk t root va).grants access half = true ↔ g.Reaches t root va access half := by
  unfold Walk.grants Reaches
  cases h : (g.walk t root va).result with
  | error e => simp
  | ok leaf => simp [Entry.permits_iff]

/-! ## The two checks -/

theorem rangeEnd?_eq_some_iff (addr : UInt64) (len stop : Nat) :
    rangeEnd? addr len = some stop ↔
      addr ≠ 0 ∧ 0 < len ∧ addr.toNat + len < 2 ^ 64 ∧ stop = addr.toNat + len := by
  unfold rangeEnd?
  split
  · rename_i h
    simp only [reduceCtorEq, false_iff, not_and]
    intro h0 h1 h2
    rcases h with h | h | h
    · exact absurd h h0
    · omega
    · omega
  · rename_i h
    simp only [not_or, Nat.not_le] at h
    simp only [Option.some.injEq, ne_eq, h.1, not_false_eq_true, h.2.2, true_and]
    constructor
    · intro e; exact ⟨by omega, e.symm⟩
    · intro e; exact e.2.symm

/-- A check of `[addr, addr + len)` behind a window that may refuse it. -/
def windowed (g : Geometry) (t : PageTables) (root addr : UInt64) (len : Nat) (access : Access)
    (half : Half) (outside : Nat → Prop) [DecidablePred outside] : RangeCheck :=
  match rangeEnd? addr len with
  | none => ⟨false, []⟩
  | some stop =>
    if outside stop then ⟨false, []⟩ else g.checkSpan t root addr.toNat stop access half

theorem checkUser_eq_windowed (g : Geometry) (t : PageTables) (root addr : UInt64) (len : Nat)
    (access : Access) :
    g.checkUser t root addr len access =
      g.windowed t root addr len access .user fun stop => addr < userStart ∨ g.userEnd < stop := rfl

theorem checkKernel_eq_windowed (g : Geometry) (t : PageTables) (root addr : UInt64) (len : Nat)
    (access : Access) :
    g.checkKernel t root addr len access =
      g.windowed t root addr len access .kernel fun _ => addr.toNat < g.kernelStart := rfl

theorem granted_windowed_iff (g : Geometry) (t : PageTables) (root addr : UInt64) (len : Nat)
    (access : Access) (half : Half) (outside : Nat → Prop) [DecidablePred outside] :
    (g.windowed t root addr len access half outside).granted = true ↔
      addr ≠ 0 ∧ 0 < len ∧ addr.toNat + len < 2 ^ 64 ∧ ¬ outside (addr.toNat + len) ∧
        ∀ b : UInt64, addr.toNat ≤ b.toNat → b.toNat < addr.toNat + len →
          g.Reaches t root b access half := by
  unfold windowed
  cases hr : rangeEnd? addr len with
  | none =>
    simp only [Bool.false_eq_true, false_iff]
    rintro ⟨h1, h2, h3, -⟩
    have := (rangeEnd?_eq_some_iff addr len _).2 ⟨h1, h2, h3, rfl⟩
    rw [hr] at this; cases this
  | some stop =>
    obtain ⟨h1, h2, h3, rfl⟩ := (rangeEnd?_eq_some_iff addr len _).1 hr
    by_cases ho : outside (addr.toNat + len)
    · simp only [ho, if_true, Bool.false_eq_true, not_true, false_and, and_false]
    · simp only [ho, if_false, granted_checkSpan_iff g t root (Nat.lt_add_of_pos_right h2)
        (Nat.le_of_lt h3), grants_iff_reaches]
      exact ⟨fun h => ⟨h1, h2, h3, not_false, h⟩, fun h => h.2.2.2.2⟩

theorem granted_checkUser_iff (g : Geometry) (t : PageTables) (root addr : UInt64) (len : Nat)
    (access : Access) :
    (g.checkUser t root addr len access).granted = true ↔
      0x1000 ≤ addr.toNat ∧ 0 < len ∧ addr.toNat + len < 2 ^ 64 ∧ addr.toNat + len ≤ g.userEnd ∧
        ∀ b : UInt64, addr.toNat ≤ b.toNat → b.toNat < addr.toNat + len →
          g.Reaches t root b access .user := by
  have hlow : addr < userStart ↔ addr.toNat < 0x1000 := UInt64.lt_iff_toNat_lt
  have hz : 0x1000 ≤ addr.toNat → addr ≠ 0 := by rintro h rfl; simp at h
  rw [checkUser_eq_windowed, granted_windowed_iff, hlow]
  constructor
  · rintro ⟨-, h2, h3, h4, h5⟩
    exact ⟨by omega, h2, h3, by omega, h5⟩
  · rintro ⟨h1, h2, h3, h4, h5⟩
    exact ⟨hz h1, h2, h3, by omega, h5⟩

theorem userEnd_le (g : Geometry) : g.userEnd ≤ 2 ^ 48 :=
  Nat.pow_le_pow_right (by decide) (Nat.min_le_right _ _)

theorem userEnd_lt_kernelStart (g : Geometry) : g.userEnd < g.kernelStart := by
  have h := g.userEnd_le
  unfold kernelStart; omega

theorem granted_checkKernel_iff (g : Geometry) (t : PageTables) (root addr : UInt64) (len : Nat)
    (access : Access) :
    (g.checkKernel t root addr len access).granted = true ↔
      g.kernelStart ≤ addr.toNat ∧ 0 < len ∧ addr.toNat + len < 2 ^ 64 ∧
        ∀ b : UInt64, addr.toNat ≤ b.toNat → b.toNat < addr.toNat + len →
          g.Reaches t root b access .kernel := by
  have hz : g.kernelStart ≤ addr.toNat → addr ≠ 0 := by
    rintro h rfl
    have := userEnd_lt_kernelStart g
    simp at h; omega
  rw [checkKernel_eq_windowed, granted_windowed_iff, Nat.not_lt]
  constructor
  · rintro ⟨-, h2, h3, h4, h5⟩
    exact ⟨h4, h2, h3, h5⟩
  · rintro ⟨h1, h2, h3, h4⟩
    exact ⟨hz h1, h2, h3, h1, h4⟩

/-- A granted range reaches, from each of its bytes, a leaf for every access it was granted for. -/
theorem reaches_of_granted {g : Geometry} {t : PageTables} {root addr va : UInt64} {len : Nat}
    {granted asked : Access} (h : (g.checkUser t root addr len granted).granted = true)
    (hlo : addr.toNat ≤ va.toNat) (hhi : va.toNat < addr.toNat + len)
    (hi : granted.Includes asked) :
    va.toNat < g.userEnd ∧ g.Reaches t root va asked .user := by
  rw [granted_checkUser_iff] at h
  obtain ⟨-, -, -, hend, hbytes⟩ := h
  obtain ⟨leaf, hwalk, hgrants⟩ := hbytes va hlo hhi
  exact ⟨by omega, leaf, hwalk, hgrants.of_includes hi⟩

/-- A range granted for an access is granted, in each of its parts, for all that the access
includes. -/
theorem granted_checkUser_sub {g : Geometry} {t : PageTables} {root addr a : UInt64} {len n : Nat}
    {granted asked : Access} (h : (g.checkUser t root addr len granted).granted = true)
    (ha : addr.toNat ≤ a.toNat) (hn : 0 < n) (hle : a.toNat + n ≤ addr.toNat + len)
    (hi : granted.Includes asked) : (g.checkUser t root a n asked).granted = true := by
  have hbounds := (granted_checkUser_iff ..).1 h
  rw [granted_checkUser_iff]
  refine ⟨by omega, hn, by omega, by omega, fun b hb1 hb2 => ?_⟩
  exact (reaches_of_granted h (by omega) (by omega) hi).2

/-! ## How much a check reads -/

theorem length_reads_checkPages_le (g : Geometry) (t : PageTables) (root : UInt64)
    (access : Access) (half : Half) (n : Nat) : ∀ page seen,
    (g.checkPages t root access half page n seen).reads.length ≤ seen.length + g.levels * n := by
  induction n with
  | zero => intro page seen; simp [checkPages]
  | succ n ih =>
    intro page seen
    have hw : (g.walkPage t root page).reads.length ≤ g.levels := length_reads_le g t root _
    rw [checkPages, Nat.mul_succ]
    split
    · refine Nat.le_trans (ih _ _) ?_
      simp only [List.length_append, List.length_reverse]; omega
    · simp only [List.length_append, List.length_reverse]; omega

/-- A span of `len` bytes lies in at most two pages more than it fills. -/
theorem length_reads_checkSpan_le (g : Geometry) (t : PageTables) (root : UInt64)
    (first len : Nat) (access : Access) (half : Half) :
    (g.checkSpan t root first (first + len) access half).reads.length ≤
      g.levels * (len / g.pageSize + 2) := by
  refine Nat.le_trans (length_reads_checkPages_le g t root access half _ _ _) ?_
  have hp := pageSize_pos g
  have h1 : (first + len - 1) / g.pageSize ≤ (first + len) / g.pageSize :=
    Nat.div_le_div_right (Nat.sub_le _ _)
  have h2 : (first + len) / g.pageSize ≤ first / g.pageSize + len / g.pageSize + 1 := by
    rw [Nat.add_div hp]; split <;> omega
  have h3 : (first + len - 1) / g.pageSize - first / g.pageSize + 1 ≤ len / g.pageSize + 2 := by
    generalize len / g.pageSize = q at *
    omega
  simp only [List.length_nil, Nat.zero_add]
  exact Nat.mul_le_mul_left _ h3

theorem length_reads_windowed_le (g : Geometry) (t : PageTables) (root addr : UInt64) (len : Nat)
    (access : Access) (half : Half) (outside : Nat → Prop) [DecidablePred outside] :
    (g.windowed t root addr len access half outside).reads.length ≤
      g.levels * (len / g.pageSize + 2) := by
  unfold windowed
  cases hr : rangeEnd? addr len with
  | none => exact Nat.zero_le _
  | some stop =>
    obtain ⟨-, -, -, rfl⟩ := (rangeEnd?_eq_some_iff addr len _).1 hr
    dsimp only
    split
    · exact Nat.zero_le _
    · exact length_reads_checkSpan_le g t root _ _ _ _

end Geometry

/-! ## The checks on the live tables -/

/-- Each check answers for every byte of its range: it grants the range exactly when the range is
not empty, does not wrap, stays in its half, and each byte walks to a leaf that grants the access.
It stops after one walk for each page at most. -/
theorem range_checks_exact (hw : Hardware) (addr : UInt64) (len : Nat) (access : Access) :
    ((hw.checkUser addr len access).1 = true ↔
      0x1000 ≤ addr.toNat ∧ 0 < len ∧ addr.toNat + len < 2 ^ 64 ∧
        addr.toNat + len ≤ hw.geometry.userEnd ∧
        ∀ b : UInt64, addr.toNat ≤ b.toNat → b.toNat < addr.toNat + len →
          hw.geometry.Reaches hw.tables (hw.readCsr .pgdl) b access .user) ∧
    ((hw.checkKernel addr len access).1 = true ↔
      hw.geometry.kernelStart ≤ addr.toNat ∧ 0 < len ∧ addr.toNat + len < 2 ^ 64 ∧
        ∀ b : UInt64, addr.toNat ≤ b.toNat → b.toNat < addr.toNat + len →
          hw.geometry.Reaches hw.tables (hw.readCsr .pgdh) b access .kernel) ∧
    (hw.checkUser addr len access).2.mark ≤
      hw.mark + hw.geometry.levels * (len / hw.geometry.pageSize + 2) ∧
    (hw.checkKernel addr len access).2.mark ≤
      hw.mark + hw.geometry.levels * (len / hw.geometry.pageSize + 2) := by
  have hu := hw.geometry.length_reads_windowed_le hw.tables (hw.readCsr .pgdl) addr len access .user
    fun stop => addr < userStart ∨ hw.geometry.userEnd < stop
  have hk := hw.geometry.length_reads_windowed_le hw.tables (hw.readCsr .pgdh) addr len access
    .kernel fun _ => addr.toNat < hw.geometry.kernelStart
  rw [← Geometry.checkUser_eq_windowed] at hu
  rw [← Geometry.checkKernel_eq_windowed] at hk
  refine ⟨hw.geometry.granted_checkUser_iff .., hw.geometry.granted_checkKernel_iff .., ?_, ?_⟩
  · simp only [Hardware.checkUser, Hardware.noteReads, Hardware.mark, List.length_append,
      List.length_map]
    omega
  · simp only [Hardware.checkKernel, Hardware.noteReads, Hardware.mark, List.length_append,
      List.length_map]
    omega

end TrapLayer
