import TrapLayer.Dispatch
import TrapLayer.Proofs.Paging.Refill

/-!
# Misses and range checks agree

User memory is guarded twice: a range check walks the pages of a buffer before the kernel uses it,
and a miss walks the page that the task touched. They are written apart. Both are put here as one
property of a leaf, `Entry.Grants`, so that neither can let in what the other keeps out.

* `allowsMiss_of_user`: from user mode, a miss asks of a leaf what the check asks.
* `isOk_resolveMiss_iff_reaches`: a miss in the lower half is resolved exactly when the address
  walks to a leaf that grants the access.
* `dispatch_miss_resume_iff`: the trap of a miss resumes exactly when the miss is resolved.
* `misses_agree_with_checks`: byte for byte the two agree, and what was checked can be touched.
-/
namespace TrapLayer

/-! ## One access, two ways to ask for it -/

/-- The access that a miss asks for, as a range check names it; no range is checked for fetches. -/
def MissKind.access? : MissKind → Option Access
  | .load => some .read
  | .store | .modify => some .write
  | .fetch => none

/-- From user mode, a miss asks of a leaf what the check of its access asks. -/
theorem Entry.allowsMiss_of_user (entry : UInt64) {kind : MissKind} {access : Access}
    (h : kind.access? = some access) :
    Entry.allowsMiss entry true kind = Entry.permits entry access .user := by
  cases kind with
  | load | store | modify => cases h; rfl
  | fetch => cases h

namespace Geometry

theorem granted_checkUser_one_iff {g : Geometry} {t : PageTables} {root va : UInt64}
    (hlo : 0x1000 ≤ va.toNat) (hhi : va.toNat < g.userEnd) (access : Access) :
    (g.checkUser t root va 1 access).granted = true ↔ g.Reaches t root va access .user := by
  have hend := g.userEnd_le
  rw [granted_checkUser_iff]
  constructor
  · rintro ⟨-, -, -, -, h⟩
    exact h va (Nat.le_refl _) (Nat.lt_succ_self _)
  · intro h
    refine ⟨hlo, Nat.one_pos, by omega, hhi, fun b hb hb' => ?_⟩
    have hbv : b = va := UInt64.toNat_inj.1 (by omega)
    rwa [hbv]

end Geometry

namespace Hardware

/-- Below the upper half, the root that a miss walks from is the one that checks walk from. -/
theorem rootFor_of_lt {g : Geometry} {va : UInt64} (h : va.toNat < g.kernelStart) :
    rootFor g va = .pgdl := by
  rw [rootFor, if_neg (Nat.not_le.2 h)]

theorem isOk_resolveMiss_iff (hw : Hardware) (badv : UInt64) (fromUser : Bool) (kind : MissKind) :
    (hw.resolveMiss badv fromUser kind).1.isOk = true ↔
      ∃ leaf, (hw.geometry.walk hw.tables (hw.readCsr (rootFor hw.geometry badv)) badv).result =
        .ok leaf ∧ Entry.allowsMiss leaf.entry fromUser kind = true := by
  rcases hw.resolveMiss_cases badv fromUser kind with
    ⟨leaf, reads, hwalk, hallow, heq⟩ | ⟨e, reads, hdeny, heq⟩
  · rw [heq]
    exact ⟨fun _ => ⟨leaf, hwalk, hallow⟩, fun _ => rfl⟩
  · rw [heq]
    refine ⟨nofun, ?_⟩
    rintro ⟨leaf, hwalk, hallow⟩
    rw [hdeny leaf hwalk] at hallow
    cases hallow

/-- A miss of a task is resolved exactly when the address walks to a leaf that grants the
access. -/
theorem isOk_resolveMiss_iff_reaches (hw : Hardware) {va : UInt64}
    (hhi : va.toNat < hw.geometry.userEnd) {kind : MissKind} {access : Access}
    (hk : kind.access? = some access) :
    (hw.resolveMiss va true kind).1.isOk = true ↔
      hw.geometry.Reaches hw.tables (hw.readCsr .pgdl) va access .user := by
  rw [isOk_resolveMiss_iff, rootFor_of_lt (Nat.lt_trans hhi hw.geometry.userEnd_lt_kernelStart)]
  simp only [Geometry.Reaches, Entry.allowsMiss_of_user _ hk, Entry.permits_iff]

/-- A miss is resolved exactly when the check of the byte that missed grants it. -/
theorem isOk_resolveMiss_iff_checkUser (hw : Hardware) {va : UInt64} (hlo : 0x1000 ≤ va.toNat)
    (hhi : va.toNat < hw.geometry.userEnd) {kind : MissKind} {access : Access}
    (hk : kind.access? = some access) :
    (hw.resolveMiss va true kind).1.isOk = true ↔ (hw.checkUser va 1 access).1 = true :=
  (hw.isOk_resolveMiss_iff_reaches hhi hk).trans
    (Geometry.granted_checkUser_one_iff hlo hhi access).symm

/-- Under one page map, a miss in a granted range is resolved for every access it was granted
for. -/
theorem isOk_resolveMiss_of_granted {hw hw' : Hardware} (hmap : hw.SameMap hw')
    {addr va : UInt64} {len : Nat} {granted asked : Access} {kind : MissKind}
    (h : (hw.checkUser addr len granted).1 = true) (hlo : addr.toNat ≤ va.toNat)
    (hhi : va.toNat < addr.toNat + len) (hk : kind.access? = some asked)
    (hi : granted.Includes asked) : (hw'.resolveMiss va true kind).1.isOk = true := by
  rw [← checkUser_congr hmap] at h
  obtain ⟨hend, hreach⟩ := Geometry.reaches_of_granted h hlo hhi hi
  exact (hw'.isOk_resolveMiss_iff_reaches hend hk).2 hreach

theorem isOk_resolveMiss_emit (hw : Hardware) (e : Effect) (badv : UInt64) (fromUser : Bool)
    (kind : MissKind) :
    ((hw.emit e).resolveMiss badv fromUser kind).1.isOk =
      (hw.resolveMiss badv fromUser kind).1.isOk := by
  rw [Bool.eq_iff_iff, isOk_resolveMiss_iff, isOk_resolveMiss_iff]
  exact Iff.rfl

end Hardware

/-! ## The trap of a miss -/

namespace Machine

theorem handleMiss_resume_iff (m : Machine) (cpu : CpuId) (f : ExceptionFrame) (kind : MissKind) :
    (m.handleMiss cpu f kind).outcome = .resume ↔
      (m.hw.resolveMiss f.badv f.fromUser kind).1.isOk = true := by
  rw [← m.hw.isOk_resolveMiss_emit (.transition cpu (m.slot cpu).enter)]
  unfold handleMiss
  have hentered : (m.enter cpu).hw = m.hw.emit (.transition cpu (m.slot cpu).enter) := rfl
  have hbadv : (f.setKind .tlbRefill).badv = f.badv := rfl
  have huser : (f.setKind .tlbRefill).fromUser = f.fromUser := rfl
  simp only [hentered, hbadv, huser]
  cases (m.hw.emit (.transition cpu (m.slot cpu).enter)).resolveMiss f.badv f.fromUser kind with
  | mk result hw' =>
    cases result with
    | ok r => exact ⟨fun _ => rfl, fun _ => rfl⟩
    | error e => exact ⟨nofun, nofun⟩

theorem dispatch_miss_resume_iff (k : Kernel) (m : Machine) (cpu : CpuId) (frameAddr : UInt64)
    {f : ExceptionFrame} {kind : MissKind} (h : classify f.estat f.fromUser = .miss kind) :
    (dispatch k m cpu frameAddr f).outcome = .resume ↔
      (m.hw.resolveMiss f.badv f.fromUser kind).1.isOk = true := by
  unfold dispatch
  simp only [h]
  exact (m.record f).handleMiss_resume_iff cpu f kind

end Machine

/-- The check and the miss path agree on who may access what. Between the first user address and
the end of the lower half, a miss of a task is resolved exactly when the check of that single byte
grants the access. So while the page map stays as it was checked, no access to a byte of a granted
range, for which the range was granted, stops the system: its trap resumes. -/
theorem misses_agree_with_checks (hw : Hardware) :
    (∀ v : UInt64, 0x1000 ≤ v.toNat → v.toNat < hw.geometry.userEnd →
      ((hw.resolveMiss v true .load).1.isOk = true ↔ (hw.checkUser v 1 .read).1 = true) ∧
      ((hw.resolveMiss v true .store).1.isOk = true ↔ (hw.checkUser v 1 .write).1 = true) ∧
      ((hw.resolveMiss v true .modify).1.isOk = true ↔ (hw.checkUser v 1 .write).1 = true)) ∧
    ∀ (addr : UInt64) (len : Nat) (granted : Access), (hw.checkUser addr len granted).1 = true →
      ∀ (k : Kernel) (m : Machine) (cpu : CpuId) (frameAddr : UInt64) (f : ExceptionFrame)
        (kind : MissKind) (asked : Access), hw.SameMap m.hw → f.fromUser = true →
        classify f.estat f.fromUser = .miss kind → kind.access? = some asked →
        granted.Includes asked → addr.toNat ≤ f.badv.toNat → f.badv.toNat < addr.toNat + len →
        (Machine.dispatch k m cpu frameAddr f).outcome = .resume := by
  constructor
  · intro v hlo hhi
    exact ⟨hw.isOk_resolveMiss_iff_checkUser hlo hhi rfl,
      hw.isOk_resolveMiss_iff_checkUser hlo hhi rfl, hw.isOk_resolveMiss_iff_checkUser hlo hhi rfl⟩
  · intro addr len granted hgranted k m cpu frameAddr f kind asked hmap huser hmiss hk hi hlo hhi
    rw [Machine.dispatch_miss_resume_iff k m cpu frameAddr hmiss, huser]
    exact Hardware.isOk_resolveMiss_of_granted hmap hgranted hlo hhi hk hi

/-- A miss of a task at that address, with that exception code. -/
def ExceptionFrame.ofMiss (code badv : UInt64) : ExceptionFrame :=
  { ExceptionFrame.cleared with prmd := plvUser, estat := code <<< 16, badv := badv }

/-- A buffer over a page boundary is granted for reading and writing: a load of its first byte and
a store to its last one are resolved, and the trap of the store resumes. -/
theorem misses_agree_with_checks_oneLeaf :
    (Hardware.oneLeaf.checkUser 0x1ff0 0x20 .readWrite).1 = true ∧
    (Hardware.oneLeaf.resolveMiss 0x1ff0 true .load).1.isOk = true ∧
    (Hardware.oneLeaf.resolveMiss 0x200f true .modify).1.isOk = true ∧
    (Machine.dispatch ⟨.empty, .empty, 0⟩ (.ofHardware .oneLeaf) .boot 0
      (.ofMiss 2 0x200f)).outcome = .resume := by
  have hgranted : (Hardware.oneLeaf.checkUser 0x1ff0 0x20 .readWrite).1 = true := by
    decide +kernel
  obtain ⟨hbytes, htraps⟩ := misses_agree_with_checks .oneLeaf
  obtain ⟨hload, -, -⟩ := hbytes 0x1ff0 (by decide) (by decide)
  obtain ⟨-, -, hmodify⟩ := hbytes 0x200f (by decide) (by decide)
  refine ⟨hgranted, hload.2 (by decide +kernel), hmodify.2 (by decide +kernel), ?_⟩
  exact htraps 0x1ff0 0x20 .readWrite hgranted _ (.ofHardware .oneLeaf) .boot 0 (.ofMiss 2 0x200f)
    .store .write ⟨rfl, rfl, rfl⟩ (by decide) (by decide) rfl (.inr rfl) (by decide) (by decide)

end TrapLayer
