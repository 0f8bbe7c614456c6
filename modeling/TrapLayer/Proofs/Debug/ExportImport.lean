import TrapLayer.Proofs.Debug.Shadow
import TrapLayer.Proofs.RegisteredCall
import TrapLayer.Proofs.Signal.Codec

/-!
# Exported registers come back

The registers that a debugger exports to a kernel buffer are 39 words, and an import reads the same
words. In a machine that was reached by traps, new tasks and calls of the debugger they resume in
user mode, so the import is not refused: it gives the task its own registers, with register zero
cleared. A call that is refused has only looked.

* `Debugger.ofBytes_toBytes`: the bytes of a register set give it back.
* `Task.writeDebugView_debugView`: a consistent task takes its own registers.
* `Machine.registerCall_export_ok`, `Machine.registerCall_import`: what a call does to the buffer,
  and with it.
* `Machine.registerCall_error`: a call that is refused only looked.
* `Machine.import_undoes_export`: an import of what was exported changes register zero at most.
-/
namespace TrapLayer

/-! ## The bytes of a register set -/

namespace Debugger

theorem length_toBytes (d : DebugFrame) : (toBytes d).length = bufferSize := by
  unfold toBytes
  rw [length_wordsLe, Vector.length_toList]
  rfl

theorem ofBytes_toBytes (d : DebugFrame) : ofBytes (toBytes d) = d := by
  have hwords : (Vector.ofFn fun i : Fin (32 + 7) => word64 (toBytes d) (i.val * 8)) =
      d.toWords := by
    have htable := ofFn_word64_wordsLe d.toWords []
    rwa [List.append_nil] at htable
  unfold ofBytes
  rw [hwords, DebugFrame.ofWords_toWords]

/-- An export that can read its task writes the registers to the buffer, or finds that it may
not. -/
theorem exportRegs_of_read {hw : Hardware} {tasks : TaskTable} {id : TaskId} {d : DebugFrame}
    (h : readRegs tasks id = .ok d) (addr : UInt64) :
    exportRegs hw tasks id addr =
      if (hw.checkKernel addr bufferSize .write).1 then
        (.ok (), (hw.checkKernel addr bufferSize .write).2.writeUser addr (toBytes d))
      else (.error (.badBuffer addr), (hw.checkKernel addr bufferSize .write).2) := by
  unfold exportRegs
  rw [h]

end Debugger

/-! ## A task that takes its own registers -/

/-- The task after its own registers were written back: register zero of its shadow is cleared. A
task that has not trapped is the same. -/
def Task.writtenBack (t : Task) : Task :=
  if t.firstStart then t
  else { t with shadow := { t.shadow with regs := t.shadow.regs.put Reg.zero 0 } }

theorem Task.writeDebugView_debugView {t : Task} (h : t.Consistent) :
    t.writeDebugView t.debugView = .ok t.writtenBack := by
  unfold writeDebugView debugView writtenBack
  by_cases hs : t.firstStart = true
  · -- the entry point is written over itself
    have hpc : { t.switch with pc := t.entry } = t.switch := by rw [← h.fresh hs]
    rw [if_pos hs, if_pos hs, if_pos hs]
    show Except.ok { t with entry := t.entry, switch := { t.switch with pc := t.entry } } = .ok t
    rw [hpc]
  · have huser : (DebugFrame.ofFrame t.shadow).validate = .ok () :=
      if_pos (h.trapped (Bool.not_eq_true _ ▸ hs))
    rw [if_neg hs, if_neg hs, if_neg hs]
    unfold DebugFrame.applyTo
    rw [huser]
    rfl

/-! ## The calls -/

namespace Machine

variable {m n : Machine} {id : TaskId} {addr : UInt64} {task : Task}

/-- An export that is allowed writes the registers of its task to a buffer that does not wrap. -/
theorem registerCall_export_ok (hfind : m.tasks.find? id = some task)
    (h : m.registerCall (.exportTo id addr) = (.ok (), n)) :
    addr.toNat + Debugger.bufferSize < 2 ^ 64 ∧
      n.hw.memory = m.hw.memory.write addr (Debugger.toBytes task.debugView) := by
  have hread : Debugger.readRegs m.tasks id = .ok task.debugView := by
    unfold Debugger.readRegs
    rw [TaskTable.traced_of_find? hfind]
    rfl
  unfold registerCall at h
  dsimp only at h
  obtain ⟨hok, rfl⟩ := Prod.mk.inj h
  rw [Debugger.exportRegs_of_read hread] at hok ⊢
  split at hok
  · rename_i hgranted
    obtain ⟨-, -, hwrap, -⟩ := (Geometry.granted_checkKernel_iff _ _ _ _ _ _).1 hgranted
    refine ⟨hwrap, ?_⟩
    rw [if_pos hgranted]
    unfold Hardware.writeUser
    rw [(m.hw.onlyReads_checkKernel addr Debugger.bufferSize .write).memory]
    rfl
  · cases hok

/-- An import of the registers of its own task is allowed, and writes them back. -/
theorem registerCall_import (hfind : m.tasks.find? id = some task) (htask : task.Consistent)
    (hgranted : (m.hw.checkKernel addr Debugger.bufferSize .read).1 = true)
    (hbuffer : m.hw.memory.read addr Debugger.bufferSize = Debugger.toBytes task.debugView) :
    ∃ hw, m.registerCall (.importFrom id addr) =
        (.ok (), { m with hw := hw, tasks := m.tasks.put id task.writtenBack }) ∧
      m.hw.OnlyReads hw := by
  have hwrite : Debugger.writeRegs m.tasks id task.debugView =
      .ok (m.tasks.put id task.writtenBack) := by
    unfold Debugger.writeRegs
    rw [TaskTable.traced_of_find? hfind]
    dsimp only
    rw [Task.writeDebugView_debugView htask]
  unfold registerCall
  dsimp only
  rw [Debugger.importRegs_eq, if_pos hgranted, hbuffer, Debugger.ofBytes_toBytes]
  dsimp only
  rw [hwrite]
  refine ⟨_, rfl, ?_⟩
  exact (m.hw.onlyReads_checkKernel addr _ .read).trans (Hardware.onlyReads_readUser _ addr _)

theorem registerCall_error {c : RegisterCall} {e : DebugError}
    (h : m.registerCall c = (.error e, n)) : ∃ hw, n = { m with hw := hw } ∧ m.hw.OnlyReads hw := by
  have hchecked := fun addr access =>
    m.hw.onlyReads_checkKernel addr Debugger.bufferSize access
  unfold registerCall at h
  cases c with
  | read id => exact ⟨m.hw, (Prod.mk.inj h).2.symm, .refl _⟩
  | write id d =>
    dsimp only at h
    split at h
    · cases (Prod.mk.inj h).1
    · exact ⟨m.hw, (Prod.mk.inj h).2.symm, .refl _⟩
  | exportTo id addr =>
    dsimp only at h
    obtain ⟨hrefused, rfl⟩ := Prod.mk.inj h
    refine ⟨_, rfl, ?_⟩
    cases hread : Debugger.readRegs m.tasks id with
    | error e =>
      unfold Debugger.exportRegs
      rw [hread]
      exact .refl _
    | ok d =>
      rw [Debugger.exportRegs_of_read hread] at hrefused ⊢
      split at hrefused
      · cases hrefused
      · rename_i hno
        rw [if_neg hno]
        exact hchecked addr .write
  | importFrom id addr =>
    have hreads : m.hw.OnlyReads (Debugger.importRegs m.hw m.tasks id addr).2 := by
      rw [Debugger.importRegs_eq]
      split
      · exact (hchecked addr .read).trans (Hardware.onlyReads_readUser _ addr _)
      · exact hchecked addr .read
    dsimp only at h
    split at h
    · cases (Prod.mk.inj h).1
    · exact ⟨_, (Prod.mk.inj h).2.symm, hreads⟩

/-! ## Export and import -/

/-- However a machine was reached, a task that has trapped resumes in user mode. So what is exported
can be imported: as long as the task and the buffer are as the export left them and the buffer can
be read, the import is allowed, and changes nothing but register zero of the shadow. A call that is
refused leaves tasks and memory alone, and no call stores a shadow of a privileged mode. -/
theorem import_undoes_export (h : m.Reached) :
    (∀ id task, m.tasks.find? id = some task → task.firstStart = false →
      task.shadow.prmd &&& plvMask = plvUser) ∧
    (∀ id addr task n, m.tasks.find? id = some task →
      m.registerCall (.exportTo id addr) = (.ok (), n) →
      n.tasks = m.tasks ∧
      ∀ later : Machine, later.tasks.find? id = some task →
        n.hw.memory.AgreeOn later.hw.memory addr.toNat (addr.toNat + Debugger.bufferSize) →
        (later.hw.checkKernel addr Debugger.bufferSize .read).1 = true →
        ∃ hw, later.registerCall (.importFrom id addr) =
            (.ok (), { later with hw := hw, tasks := later.tasks.put id task.writtenBack }) ∧
          later.hw.OnlyReads hw) ∧
    (∀ c e n, m.registerCall c = (.error e, n) →
      n.tasks = m.tasks ∧ n.hw.memory = m.hw.memory) ∧
    ∀ c id task, (m.registerCall c).2.tasks.find? id = some task →
      (∃ old, m.tasks.find? id = some old ∧ task.shadow = old.shadow) ∨
        task.shadow.prmd &&& plvMask = plvUser := by
  refine ⟨fun id task hfind => (h.consistent id task hfind).trapped, ?_, ?_,
    fun c id task hfind => m.shadow_registerCall c hfind⟩
  · intro id addr task n hfind hexport
    refine ⟨(congrArg (·.2.tasks) hexport).symm, fun later hlater hagree hgranted => ?_⟩
    obtain ⟨hwrap, hwritten⟩ := registerCall_export_ok hfind hexport
    have hbuffer : later.hw.memory.read addr Debugger.bufferSize =
        Debugger.toBytes task.debugView := by
      have hlen := Debugger.length_toBytes task.debugView
      rw [← hagree.read (Nat.le_refl _) (Nat.le_refl _) (Nat.le_of_lt hwrap), hwritten, ← hlen]
      exact Memory.read_write_self _ _ _ (by rw [hlen]; decide)
    exact registerCall_import hlater (h.consistent id task hfind) hgranted hbuffer
  · intro c e n hrefused
    obtain ⟨hw, rfl, hreads⟩ := registerCall_error hrefused
    exact ⟨rfl, hreads.memory⟩

end Machine

/-! ## One export and import -/

theorem reached_running : (Machine.running .caller).Reached := by
  have hspawn : TaskTable.empty.spawn ⟨0x4000, 0x100000, 0, 0, ⟨0⟩⟩ =
      .ok (⟨0⟩, ⟨[some Task.caller]⟩) := rfl
  refine .step (.step (.start (.mapped ⟨true, true, true, true⟩)) (.spawn _ hspawn)) (.beside ?_)
  exact fun _ task hfind => ⟨task, hfind, rfl, rfl, rfl, fun _ => rfl⟩

/-- A call of user code that left a word in register zero of its frame. -/
def ExceptionFrame.ofCallWithZero (v : UInt64) : ExceptionFrame :=
  let f := ofCall
  { f with regs := f.regs.put Reg.zero v }

/-- The registers of a call are exported and imported: the task has its shadow back, but for the
word in register zero. -/
theorem import_undoes_export_running :
    let f := ExceptionFrame.ofCallWithZero 7
    let addr : UInt64 := 0xffff000000001000
    let task := Task.caller.captured f.atSyscall
    let m := (Machine.dispatch .bare (.running .caller) .boot 0 f).machine
    let n := (m.registerCall (.exportTo ⟨0⟩ addr)).2
    m.Reached ∧ m.tasks.find? ⟨0⟩ = some task ∧ task.shadow.regs.read Reg.zero = 7 ∧
      n.hw.memory.read addr 16 ≠ m.hw.memory.read addr 16 ∧
      (n.registerCall (.importFrom ⟨0⟩ addr)).2.tasks.find? ⟨0⟩ = some task.writtenBack := by
  intro f addr task m n
  have hserves : Kernel.bare.Serves Machine.RegisterStep (fun _ => True) .boot 0 f :=
    ⟨fun _ h hh => absurd ((SyscallTables.handler?_empty _).symm.trans hh) nofun,
      fun hc => absurd hc (by decide +kernel)⟩
  have hm : m.Reached := .trap reached_running 0 hserves
  have hfind : m.tasks.find? ⟨0⟩ = some task := by decide +kernel
  have hallowed : (m.registerCall (.exportTo ⟨0⟩ addr)).1.isOk = true := by decide +kernel
  have hexport : m.registerCall (.exportTo ⟨0⟩ addr) = (.ok (), n) := by
    refine Prod.ext ?_ rfl
    cases hanswer : (m.registerCall (.exportTo ⟨0⟩ addr)).1 with
    | ok _ => rfl
    | error e => rw [hanswer] at hallowed; cases hallowed
  obtain ⟨-, hround, -, -⟩ := Machine.import_undoes_export hm
  obtain ⟨htasks, himport⟩ := hround ⟨0⟩ addr task n hfind hexport
  have hlater : n.tasks.find? ⟨0⟩ = some task := by rw [htasks]; exact hfind
  obtain ⟨hw, hcall, -⟩ := himport n hlater (.refl _ _ _) (by decide +kernel)
  refine ⟨hm, hfind, rfl, by decide +kernel, ?_⟩
  rw [hcall]
  exact TaskTable.find?_put_same hlater _

end TrapLayer
