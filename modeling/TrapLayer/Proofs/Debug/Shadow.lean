import TrapLayer.Proofs.Debug.Quiet
import TrapLayer.Proofs.Debug.RegisterWrite

/-!
# Shadows over whole runs

The shadow of a task is filled from a frame that user mode pushed, and from then on replaced by
such frames, or by a debugger whose registers were checked to resume in user mode. So, however
traps nest and whatever is done beside them, the shadow of a task that has trapped resumes in user
mode; a task that has not trapped starts at the entry point that it shows.

* `Task.Consistent.writeDebugView`: a register write that is allowed keeps both.
* `TaskTable.writeRegs_ok`, `Machine.tasks_registerCall`: a call of the debugger is such a write, or
  it leaves the tasks alone.
* `Machine.closedTrap_keepsConsistent`: so do entries, signal returns and ways back.
* `Machine.Reached.consistent`: so does every run of traps, new tasks and calls.
-/
namespace TrapLayer

/-! ## One task -/

/-- The registers in the shadow resume in user mode. -/
def Task.ShadowsUser (t : Task) : Prop := t.shadow.prmd &&& plvMask = plvUser

/-- A task that has trapped resumes in user mode, and one that has not starts where it says. -/
structure Task.Consistent (t : Task) : Prop where
  trapped : t.firstStart = false → t.ShadowsUser
  fresh : t.firstStart = true → t.switch.pc = t.entry

/-- Both resume alike: from one shadow, or from one entry point. -/
structure Task.ResumesAs (t t' : Task) : Prop where
  firstStart : t'.firstStart = t.firstStart
  shadow : t'.shadow = t.shadow
  entry : t'.entry = t.entry
  pc : t'.firstStart = true → t'.switch.pc = t.switch.pc

namespace Task

variable {t t' : Task} {d : DebugFrame}

theorem AfterSignals.resumesAs (h : t.AfterSignals t') : t.ResumesAs t' := by
  obtain ⟨_, _, _, rfl⟩ := h
  exact ⟨rfl, rfl, rfl, fun _ => rfl⟩

namespace Consistent

theorem resumesAs (h : t.Consistent) (hs : t.ResumesAs t') : t'.Consistent where
  trapped ht := by
    unfold ShadowsUser
    rw [hs.shadow]
    exact h.trapped (hs.firstStart.symm.trans ht)
  fresh ht := by
    rw [hs.pc ht, hs.entry]
    exact h.fresh (hs.firstStart.symm.trans ht)

theorem spawned (id : TaskId) (p : SpawnParams) : (Task.spawned id p).Consistent :=
  ⟨nofun, fun _ => rfl⟩

/-- A frame of user mode is a shadow that resumes there. -/
theorem captured (t : Task) {f : ExceptionFrame} (h : f.fromUser = true) :
    (t.captured f).Consistent :=
  ⟨fun _ => beq_iff_eq.1 h, nofun⟩

end Consistent

/-- A register write that is allowed: before the first run it moves the entry point, afterwards it
fills the shadow with registers of user mode. -/
theorem writeDebugView_ok (h : t.writeDebugView d = .ok t') :
    (t.firstStart = true ∧
      t' = { t with entry := d.era, switch := { t.switch with pc := d.era } }) ∨
    (t.firstStart = false ∧ d.prmd &&& plvMask = plvUser ∧
      t' = { t with shadow := d.overwrite t.shadow }) := by
  unfold writeDebugView at h
  cases hs : t.firstStart with
  | true =>
    rw [hs, if_pos rfl] at h
    exact .inl ⟨rfl, (Except.ok.inj h).symm⟩
  | false =>
    rw [hs, if_neg Bool.false_ne_true] at h
    unfold DebugFrame.applyTo DebugFrame.validate at h
    by_cases hu : d.prmd &&& plvMask = plvUser
    · rw [if_pos hu] at h
      exact .inr ⟨rfl, hu, (Except.ok.inj h).symm⟩
    · rw [if_neg hu] at h
      cases h

theorem Consistent.writeDebugView (h : t.writeDebugView d = .ok t') : t'.Consistent := by
  rcases writeDebugView_ok h with ⟨hs, rfl⟩ | ⟨hs, hu, rfl⟩
  · exact ⟨fun ht => (Bool.false_ne_true (ht.symm.trans hs)).elim, fun _ => rfl⟩
  · exact ⟨fun _ => hu, fun ht => (Bool.false_ne_true (hs.symm.trans ht)).elim⟩

/-- The shadow that a write leaves is the one before, or it resumes in user mode. -/
theorem shadow_writeDebugView (h : t.writeDebugView d = .ok t') :
    t'.shadow = t.shadow ∨ t'.ShadowsUser := by
  rcases writeDebugView_ok h with ⟨-, rfl⟩ | ⟨-, hu, rfl⟩
  · exact .inl rfl
  · exact .inr hu

end Task

/-! ## The task table -/

namespace TaskTable

variable {t t' : TaskTable} {id other : TaskId}

/-- Every task of the table is consistent. -/
def Consistent (t : TaskTable) : Prop := ∀ id task, t.find? id = some task → task.Consistent

theorem find?_of_put {task found : Task} (h : (t.put id task).find? other = some found) :
    (other = id ∧ found = task) ∨ (other ≠ id ∧ t.find? other = some found) := by
  by_cases he : other = id
  · subst he
    refine .inl ⟨rfl, ?_⟩
    have hl : other.index < t.slots.length := by
      have := lt_length_of_find? h
      simpa [put] using this
    simpa [put, find?, hl, eq_comm] using h
  · rw [find?_put_of_ne t he] at h
    exact .inr ⟨he, h⟩

theorem Consistent.put (h : t.Consistent) {task : Task} (ht : task.Consistent) :
    (t.put id task).Consistent := by
  intro other found hfind
  rcases find?_of_put hfind with ⟨-, rfl⟩ | ⟨-, hfind⟩
  · exact ht
  · exact h other found hfind

theorem find?_of_spawn {p : SpawnParams} (h : t.spawn p = .ok (id, t')) {found : Task}
    (hfind : t'.find? other = some found) :
    found = Task.spawned id p ∨ t.find? other = some found := by
  unfold spawn at h
  cases hi : t.freeSlot? with
  | none => rw [hi] at h; cases h
  | some i =>
    rw [hi] at h
    obtain ⟨rfl, rfl⟩ := Prod.mk.inj (Except.ok.inj h)
    unfold find? at hfind ⊢
    dsimp only at hfind
    split at hfind
    · by_cases he : i = other.index
      · subst he
        rw [List.getElem?_set_self (by assumption)] at hfind
        exact .inl (Option.some.inj hfind).symm
      · rw [List.getElem?_set_ne he] at hfind
        exact .inr hfind
    · rw [List.getElem?_append] at hfind
      split at hfind
      · exact .inr hfind
      · rw [List.getElem?_singleton] at hfind
        split at hfind
        · exact .inl (Option.some.inj hfind).symm
        · cases hfind

/-- A register write that is allowed is one to a task of the table. -/
theorem writeRegs_ok {d : DebugFrame} (h : Debugger.writeRegs t id d = .ok t') :
    ∃ old task, t.find? id = some old ∧ old.writeDebugView d = .ok task ∧ t' = t.put id task := by
  unfold Debugger.writeRegs at h
  cases hfind : t.find? id with
  | none =>
    unfold traced TaskTable.task at h
    rw [hfind] at h
    cases h
  | some old =>
    rw [traced_of_find? hfind] at h
    dsimp only at h
    cases hw : old.writeDebugView d with
    | error e => rw [hw] at h; cases h
    | ok task =>
      rw [hw] at h
      exact ⟨old, task, rfl, hw, (Except.ok.inj h).symm⟩

end TaskTable

/-! ## Calls for the registers of a task -/

theorem Debugger.importRegs_eq (hw : Hardware) (tasks : TaskTable) (id : TaskId) (addr : UInt64) :
    importRegs hw tasks id addr =
      if (hw.checkKernel addr bufferSize .read).1 then
        (writeRegs tasks id (ofBytes (hw.memory.read addr bufferSize)),
          ((hw.checkKernel addr bufferSize .read).2.readUser addr bufferSize).2)
      else (.error (.badBuffer addr), (hw.checkKernel addr bufferSize .read).2) := by
  unfold importRegs Hardware.readUser
  dsimp only
  rw [(hw.onlyReads_checkKernel addr bufferSize .read).memory]

/-- A call of the debugger that reads or writes the registers of a task, directly or through a
kernel buffer. -/
inductive RegisterCall
  | read (id : TaskId)
  | write (id : TaskId) (d : DebugFrame)
  | exportTo (id : TaskId) (addr : UInt64)
  | importFrom (id : TaskId) (addr : UInt64)

namespace Machine

/-- Whether a call was allowed, and the machine after it. -/
def registerCall (m : Machine) : RegisterCall → Except DebugError Unit × Machine
  | .read id => ((Debugger.readRegs m.tasks id).map fun _ => (), m)
  | .write id d =>
    match Debugger.writeRegs m.tasks id d with
    | .ok tasks => (.ok (), { m with tasks := tasks })
    | .error e => (.error e, m)
  | .exportTo id addr =>
    let r := Debugger.exportRegs m.hw m.tasks id addr
    (r.1, { m with hw := r.2 })
  | .importFrom id addr =>
    let r := Debugger.importRegs m.hw m.tasks id addr
    match r.1 with
    | .ok tasks => (.ok (), { m with hw := r.2, tasks := tasks })
    | .error e => (.error e, { m with hw := r.2 })

theorem tasks_registerCall (m : Machine) (c : RegisterCall) :
    (m.registerCall c).2.tasks = m.tasks ∨
      ∃ id d, Debugger.writeRegs m.tasks id d = .ok (m.registerCall c).2.tasks := by
  cases c with
  | read id => exact .inl rfl
  | write id d =>
    unfold registerCall
    dsimp only
    cases hw : Debugger.writeRegs m.tasks id d with
    | error e => exact .inl rfl
    | ok tasks => exact .inr ⟨id, d, hw⟩
  | exportTo id addr => exact .inl rfl
  | importFrom id addr =>
    unfold registerCall
    dsimp only
    cases hi : (Debugger.importRegs m.hw m.tasks id addr).1 with
    | error e => exact .inl rfl
    | ok tasks =>
      refine .inr ⟨id, Debugger.ofBytes (m.hw.memory.read addr Debugger.bufferSize), ?_⟩
      rw [Debugger.importRegs_eq] at hi
      split at hi
      · exact hi
      · cases hi

/-- No call stores a shadow that resumes in a privileged mode. -/
theorem shadow_registerCall (m : Machine) (c : RegisterCall) {id : TaskId} {task : Task}
    (h : (m.registerCall c).2.tasks.find? id = some task) :
    (∃ old, m.tasks.find? id = some old ∧ task.shadow = old.shadow) ∨ task.ShadowsUser := by
  rcases m.tasks_registerCall c with htasks | ⟨target, d, hwrite⟩
  · rw [htasks] at h
    exact .inl ⟨task, h, rfl⟩
  · obtain ⟨old, written, hfind, hview, htasks⟩ := TaskTable.writeRegs_ok hwrite
    rw [htasks] at h
    rcases TaskTable.find?_of_put h with ⟨rfl, rfl⟩ | ⟨-, h⟩
    · exact (Task.shadow_writeDebugView hview).imp_left fun hs => ⟨old, hfind, hs⟩
    · exact .inl ⟨task, h, rfl⟩

/-! ## Runs -/

/-- A step after which every task is consistent if every task was. -/
def KeepsConsistent (m n : Machine) : Prop := m.tasks.Consistent → n.tasks.Consistent

theorem keepsConsistent_captureUserEntry (m : Machine) (f : ExceptionFrame) :
    m.KeepsConsistent (m.captureUserEntry f) := by
  intro h
  unfold captureUserEntry
  split
  · rename_i huser
    split
    · exact h
    · dsimp only
      split
      · exact h.put (.captured _ huser)
      · exact h
  · exact h

theorem keepsConsistent_sysSigreturn (m : Machine) (f : ExceptionFrame) :
    m.KeepsConsistent (m.sysSigreturn f).2 := by
  intro h
  unfold sysSigreturn
  cases hcur : m.currentTask? with
  | none => exact h
  | some cur =>
    obtain ⟨id, task⟩ := cur
    have htask := h id task (currentTask?_eq_some_iff.1 hcur).2
    dsimp only
    split
    · rename_i back hback
      have hafter := afterSignals_sigreturn (Prod.ext hback rfl)
      exact h.put (htask.resumesAs hafter.resumesAs)
    · have hkilled : task.AfterSignals (task.terminate Signal.segv) := ⟨_, _, _, rfl⟩
      exact h.put (htask.resumesAs hkilled.resumesAs)

theorem keepsConsistent_returnToUser (m : Machine) (cpu : CpuId) (f : ExceptionFrame) :
    m.KeepsConsistent (m.returnToUser cpu f).2 := by
  intro h
  unfold returnToUser
  split
  · obtain ⟨_, _, hbegin, -⟩ := m.beginReturn_eq cpu
    have hb : (m.beginReturn cpu).tasks.Consistent := by rw [hbegin]; exact h
    generalize m.beginReturn cpu = b at hb
    unfold resumeCurrent
    cases hcur : b.currentTask? with
    | none => exact hb
    | some cur =>
      obtain ⟨id, task⟩ := cur
      have htask := hb id task (currentTask?_eq_some_iff.1 hcur).2
      dsimp only
      rw [tasks_settle]
      exact hb.put (htask.resumesAs (b.afterSignals_wayBack id task f).resumesAs)
  · exact h

theorem closedTrap_keepsConsistent : ClosedTrap KeepsConsistent where
  trans h h' := h' ∘ h
  work h hm := by rw [h.tasks]; exact hm
  capture := keepsConsistent_captureUserEntry
  sigreturn := keepsConsistent_sysSigreturn
  back := keepsConsistent_returnToUser

/-- What code of the kernel may do between traps: create a task, call the debugger for registers,
and anything else that leaves every task to resume as it would have. -/
inductive RegisterStep : Machine → Machine → Prop
  | beside {m n : Machine}
    (h : ∀ id task, n.tasks.find? id = some task →
      ∃ old, m.tasks.find? id = some old ∧ old.ResumesAs task) : RegisterStep m n
  | spawn {m : Machine} (p : SpawnParams) {id : TaskId} {tasks : TaskTable}
    (h : m.tasks.spawn p = .ok (id, tasks)) : RegisterStep m { m with tasks := tasks }
  | call (m : Machine) (c : RegisterCall) : RegisterStep m (m.registerCall c).2

theorem RegisterStep.keepsConsistent {m n : Machine} (h : RegisterStep m n) :
    m.KeepsConsistent n := by
  intro hm id task hfind
  cases h with
  | beside h =>
    obtain ⟨old, hold, hs⟩ := h id task hfind
    exact (hm id old hold).resumesAs hs
  | spawn p h =>
    rcases TaskTable.find?_of_spawn h hfind with rfl | hfind
    · exact .spawned _ p
    · exact hm id task hfind
  | call c =>
    rcases m.tasks_registerCall c with htasks | ⟨target, d, hwrite⟩
    · rw [htasks] at hfind
      exact hm id task hfind
    · obtain ⟨old, written, -, hview, htasks⟩ := TaskTable.writeRegs_ok hwrite
      rw [htasks] at hfind
      exact hm.put (.writeDebugView hview) id task hfind

/-- The machines that such steps and traps lead to, with handlers that do such steps too, and take
traps nested to any depth. -/
inductive Reached : Machine → Prop
  | start (hw : Hardware) : Reached (.ofHardware hw)
  | step {m n : Machine} (h : Reached m) (hs : RegisterStep m n) : Reached n
  | trap {k : Kernel} {m : Machine} {cpu : CpuId} {f : ExceptionFrame} {depth : Nat}
    (h : Reached m) (frameAddr : UInt64)
    (hk : k.Serves RegisterStep (fun _ => True) cpu depth f) :
    Reached (dispatch k m cpu frameAddr f).machine

theorem Reached.consistent {m : Machine} (h : Reached m) : m.tasks.Consistent := by
  have hsteps : ∀ m n : Machine, RegisterStep m n → m.KeepsConsistent n :=
    fun _ _ hs => hs.keepsConsistent
  induction h with
  | start hw =>
    intro id task hfind
    cases hfind
  | step _ hs ih => exact hs.keepsConsistent ih
  | trap _ frameAddr hk ih =>
    refine closed_dispatch closedTrap_keepsConsistent (fun hc h hh args m => ?_)
      (fun hc irq h hh m => ?_) _ frameAddr ih
    · exact (hk.calls hc h hh args m).closedTrap closedTrap_keepsConsistent hsteps
    · exact (hk.irqs hc irq h hh m).closedTrap closedTrap_keepsConsistent hsteps

end Machine

end TrapLayer
