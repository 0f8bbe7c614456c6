import TrapLayer.Proofs.Debug.RegisterWrite
import TrapLayer.Proofs.Trap.Balance
import TrapLayer.Proofs.Trap.Drain
import TrapLayer.Proofs.Trap.KernelMode

/-!
# What the scheduler is told

The scheduler is told once that a task entered the kernel, and at most once how the trap ended: that
the task is about to run, or that it exited, and nothing if it was stopped. What it is told is what
the task table says afterwards.

* `state_signalPass`, `told_wayBack`: the outcome of a way back is the state that it leaves the task
  in, and what is told of one is told of the other.
* `Machine.Minds`: a step that changes at most one task, and tells the scheduler nothing.
* `Machine.Trapped`, `trapped_handled`: what holds between the entry of a task and its way back.
* `verdict_returnToUser`: the last part of a trap tells the scheduler the state of its task.
* `scheduler_told_who_resumes`: so does the whole trap, however its handlers nest.
-/
namespace TrapLayer

/-! ## The outcome and the state -/

/-- The state that a way back leaves a task in, if it was in `before`. -/
def PassOutcome.stateAfter (before : TaskState) : PassOutcome → TaskState
  | .resume | .delivered _ => before
  | .killed sig => .killed sig
  | .stopped sig => .stopped sig

theorem state_takeHandled (hw : Hardware) (id : TaskId) (task : Task) (inSyscall : Bool)
    (sig : Signal) (action : SigAction) (frame : ExceptionFrame) :
    let p := takeHandled hw id task inSyscall sig action frame
    p.task.state = p.outcome.stateAfter task.state := by
  unfold takeHandled
  dsimp only
  split
  · rename_i d hd
    obtain ⟨p, -, -, hb⟩ := deliver_ok (Prod.ext hd rfl)
    rw [(Prod.mk.inj hb).1]
    rfl
  · rfl

theorem state_signalPass (hw : Hardware) (id : TaskId) (task : Task) (frame : ExceptionFrame) :
    let p := signalPass hw id task frame
    p.task.state = p.outcome.stateAfter task.state := by
  obtain ⟨pending, hends⟩ := signalPass_ends hw id task frame
  dsimp only
  generalize signalPass hw id task frame = p at hends ⊢
  cases hends with
  | ignored | killed sig | stopped sig => rfl
  | handled sig action =>
    exact state_takeHandled hw id (task.withPending pending) _ sig action frame

/-- What the scheduler is told of a task in that state, at the end of a trap. -/
def TaskState.verdict (id : TaskId) : TaskState → List Effect
  | .ready | .running => [.enterUser id]
  | .killed _ => [.taskExited id]
  | .stopped _ => []

/-- What the scheduler is told of an outcome. -/
def PassOutcome.told (id : TaskId) : PassOutcome → List Effect
  | .resume | .delivered _ => [.enterUser id]
  | .killed _ => [.taskExited id]
  | .stopped _ => []

/-- A hook of the scheduler was called, or the way back to user mode began. -/
def Effect.isVerdict : Effect → Bool
  | .enterKernel _ | .enterUser _ | .taskExited _ => true
  | .transition _ s => s.state == .returningToUser
  | _ => false

theorem Effect.isVerdict_of_isWork {e : Effect} (h : e.isWork = true) : e.isVerdict = false := by
  cases e with
  | enterKernel id | enterUser id | taskExited id | transition cpu s => cases h
  | _ => rfl

theorem Effect.isVerdict_of_isKernel {e : Effect} (h : e.isKernel = true) :
    e.isVerdict = false := by
  cases e with
  | enterKernel id | enterUser id | taskExited id => cases h
  | transition cpu s => exact beq_eq_false_iff_ne.2 (bne_iff_ne.1 h)
  | _ => rfl

namespace Machine

theorem shows_settle (m : Machine) (id : TaskId) (task : Task) (outcome : PassOutcome) :
    m.hw.Shows Effect.isVerdict (outcome.told id) (m.settle id task outcome).hw := by
  unfold settle
  cases outcome with
  | killed sig => exact ⟨[.taskExited id, _], rfl, rfl⟩
  | stopped sig => exact .refl _
  | resume | delivered sig =>
    dsimp only
    split
    · exact ⟨[.enterUser id, .debugWrite task.trace.hw], rfl, rfl⟩
    · exact .of_emit _ rfl

/-- What is told at the end of a way back is the state that the task is left in. -/
theorem told_wayBack (m : Machine) (id : TaskId) (task : Task) (f : ExceptionFrame) :
    (m.wayBack id task f).outcome.told id = (m.wayBack id task f).task.state.verdict id := by
  have halive : task.state = .ready ∨ task.state = .running →
      (signalPass m.hw id task f).outcome.told id =
        (signalPass m.hw id task f).task.state.verdict id := by
    intro hs
    rw [state_signalPass m.hw id task f]
    cases (signalPass m.hw id task f).outcome with
    | resume | delivered sig => rcases hs with hs | hs <;> rw [hs] <;> rfl
    | killed sig | stopped sig => rfl
  unfold wayBack
  cases hs : task.state with
  | killed sig | stopped sig =>
    dsimp only
    rw [hs]
    rfl
  | ready => exact halive (.inl hs)
  | running => exact halive (.inr hs)

/-! ## One task at a time -/

/-- A step that may change the task `id`, which stays current, and no other. No hook is called, and
no way back begins. -/
structure Minds (id : TaskId) (m n : Machine) : Prop where
  current : n.current = m.current
  present : (m.tasks.find? id).isSome = true → (n.tasks.find? id).isSome = true
  others : ∀ other, other ≠ id → n.tasks.find? other = m.tasks.find? other
  emits : m.hw.Emits (·.isVerdict = false) n.hw

namespace Minds

variable {id : TaskId} {m n o : Machine}

theorem trans (h : m.Minds id n) (h' : n.Minds id o) : m.Minds id o :=
  ⟨h'.current.trans h.current, fun hp => h'.present (h.present hp),
    fun other hne => (h'.others other hne).trans (h.others other hne), h.emits.trans h'.emits⟩

theorem of_tasks (hcurrent : n.current = m.current) (htasks : n.tasks = m.tasks)
    (hemits : m.hw.Emits (·.isVerdict = false) n.hw) : m.Minds id n :=
  ⟨hcurrent, fun hp => htasks ▸ hp, fun _ _ => by rw [htasks], hemits⟩

theorem of_put {old task : Task} (hfind : m.tasks.find? id = some old)
    (h : m.Beside (·.isWork = true) n) (htasks : n.tasks = m.tasks.put id task) :
    m.Minds id n := by
  refine ⟨h.current, fun _ => ?_, fun other hne => ?_,
    h.emits.mono fun _ => Effect.isVerdict_of_isWork⟩
  · rw [htasks, TaskTable.find?_put_same hfind]
    rfl
  · rw [htasks, TaskTable.find?_put_of_ne _ hne]

theorem closed (id : TaskId) : Closed (Minds id) :=
  ⟨trans, fun h => of_tasks h.current h.tasks (h.emits.mono fun _ => Effect.isVerdict_of_isKernel)⟩

theorem currentTask? {task : Task} (h : m.Minds id n) (hcur : m.currentTask? = some (id, task)) :
    ∃ task', n.currentTask? = some (id, task') := by
  obtain ⟨hcurrent, hfind⟩ := currentTask?_eq_some_iff.1 hcur
  obtain ⟨task', hfind'⟩ := Option.isSome_iff_exists.1 (h.present (by rw [hfind]; rfl))
  exact ⟨task', currentTask?_eq_some_iff.2 ⟨h.current.trans hcurrent, hfind'⟩⟩

end Minds

/-! ## The parts of a trap from user mode -/

section

variable {k : Kernel} {m n : Machine} {cpu : CpuId} {f g : ExceptionFrame} {id : TaskId}
  {task : Task}

theorem minds_runSyscall (hcur : m.currentTask? = some (id, task))
    (hcalls : ∀ h, k.syscalls.handler? f.syscallNumber = some h → ∀ args (m : Machine),
      m.Minds id (h args m).2) (cpu : CpuId) (frameAddr : UInt64) :
    m.Minds id (runSyscall k m cpu frameAddr f).2 := by
  have hclosed := Minds.closed id
  cases hh : k.syscalls.handler? f.syscallNumber with
  | some h =>
    rw [machine_runSyscall_of_handler hh]
    exact ((hclosed.work (.writeCsr m .crmd _)).trans (hcalls h hh _ _)).trans
      (hclosed.work (.writeCsr _ .crmd _))
  | none =>
    rcases KernelWork.runSyscall_of_none hh m cpu frameAddr with heq | hwork
    · -- only the signal return changes the task
      have hfind := (currentTask?_eq_some_iff.1 hcur).2
      have hbeside := beside_sysSigreturn m f
      have hput := sysSigreturn_of_current hcur f
      rw [heq]
      split at hput
      · obtain ⟨history, hreturn⟩ := hput
        exact .of_put hfind hbeside (by rw [hreturn])
      · exact .of_put hfind hbeside (by rw [hput])
    · exact hclosed.work hwork

theorem fromUser_runSyscall (k : Kernel) (m : Machine) (cpu : CpuId) (frameAddr : UInt64)
    (f : ExceptionFrame) : (runSyscall k m cpu frameAddr f).1.fromUser = f.fromUser := by
  have hcomplete : ∀ (m : Machine) (result : Except SyscallError UInt64),
      (m.completeSyscall cpu f result).1.fromUser = f.fromUser := by
    intro m result
    cases result <;> rfl
  unfold runSyscall
  split
  · unfold sysSigreturn
    split
    · rfl
    · rename_i id task _
      rcases sigreturn_cases m.hw task f with
        ⟨image, read, -, -, heq⟩ | ⟨e, read, -, -, heq⟩
      · rw [heq]
        rfl
      · rw [heq]
  all_goals exact hcomplete _ _

/-- The last part of a trap tells the scheduler how its task is left. -/
theorem verdict_returnToUser (huser : g.fromUser = true) (hopen : (n.slot cpu).Open 1)
    (hcur : n.currentTask? = some (id, task)) :
    let o := (n.returnToUser cpu g).2.leave cpu
    ∃ (after : Task) (s : CpuSlot), s.state = .returningToUser ∧
      o.tasks.find? id = some after ∧
      (∀ other, other ≠ id → o.tasks.find? other = n.tasks.find? other) ∧
      n.hw.Shows Effect.isVerdict (.transition cpu s :: after.state.verdict id) o.hw := by
  intro o
  have hdepth : (n.slot cpu).depth = 1 := hopen.depth_eq_one_iff.2 rfl
  have hmay : (n.slot cpu).mayReturn = true := by
    unfold CpuSlot.mayReturn
    rw [hdepth, hopen.state]
    rfl
  have hbegin : n.beginReturn cpu = n.moveTo cpu (n.slot cpu).beginReturn := if_pos hmay
  have hback := returnToUser_of_outermost huser hdepth hcur
  generalize hb : n.beginReturn cpu = b at hback hbegin
  have htold := told_wayBack b id task g
  have hworks := works_wayBack b id task g
  generalize hp : b.wayBack id task g = p at hback htold hworks
  have htasks : o.tasks = n.tasks.put id p.task := by
    show ((n.returnToUser cpu g).2.leave cpu).tasks = _
    rw [tasks_leave, hback, tasks_afterBack, hbegin]
    rfl
  have hfind := (currentTask?_eq_some_iff.1 hcur).2
  refine ⟨p.task, (n.slot cpu).beginReturn, rfl, ?_, fun other hne => ?_, ?_⟩
  · rw [htasks, TaskTable.find?_put_same hfind]
  · rw [htasks, TaskTable.find?_put_of_ne _ hne]
  · have hreturning : n.hw.Shows Effect.isVerdict
        [.transition cpu (n.slot cpu).beginReturn] b.hw := by
      rw [hbegin]
      exact .of_emit _ rfl
    have hsettled : b.hw.Shows Effect.isVerdict (p.task.state.verdict id)
        (b.afterBack id p).hw := by
      rw [← htold]
      exact (hworks.emits.shows fun _ => Effect.isVerdict_of_isWork).trans (shows_settle _ id _ _)
    have hleft := (KernelWork.leave (b.afterBack id p) cpu).emits.shows fun _ =>
      Effect.isVerdict_of_isKernel
    have ho : o = (b.afterBack id p).leave cpu := by
      show (n.returnToUser cpu g).2.leave cpu = _
      rw [hback]
    rw [ho]
    have hall := hreturning.trans (hsettled.trans hleft)
    rwa [List.append_nil] at hall

end

/-! ## The whole trap -/

/-- A trap of a task from user mode, somewhere between its entry and its way back: the scheduler was
told of the entry and of nothing since, and no other task has changed. -/
structure Trapped (m : Machine) (cpu : CpuId) (id : TaskId) (n : Machine) : Prop where
  current : ∃ task, n.currentTask? = some (id, task)
  slot : (n.slot cpu).Open 1
  others : ∀ other, other ≠ id → n.tasks.find? other = m.tasks.find? other
  shows : m.hw.Shows Effect.isVerdict [.enterKernel id] n.hw

/-- A step of a handler while the task `id` is trapped. -/
def MindsOwn (cpu : CpuId) (id : TaskId) (m n : Machine) : Prop :=
  OwnStep cpu m n ∧ m.Minds id n

section

variable {k : Kernel} {m n c : Machine} {cpu : CpuId} {frameAddr : UInt64} {f g : ExceptionFrame}
  {id : TaskId} {task : Task}

theorem trapped_userEntry (huser : g.fromUser = true) (hdepth : (m.slot cpu).depth = 0)
    (hcur : m.currentTask? = some (id, task)) :
    m.Trapped cpu id (((m.record f).enter cpu).captureUserEntry g) := by
  have hentered : m.KernelWork ((m.record f).enter cpu) :=
    (KernelWork.record m f).trans (.enter _ cpu)
  have hopen : (((m.record f).enter cpu).slot cpu).Open 1 := by
    rw [enter, slot_moveTo_same]
    refine ⟨?_, rfl⟩
    show ((m.slot cpu).depth + 1).toNat = 1
    rw [hdepth]
    rfl
  have hcur' : ((m.record f).enter cpu).currentTask? = some (id, task) := hcur
  obtain ⟨hid, hfind⟩ := currentTask?_eq_some_iff.1 hcur
  rw [captureUserEntry_of_current huser hcur']
  refine ⟨⟨task.captured g, currentTask?_eq_some_iff.2 ⟨hid, ?_⟩⟩, hopen, fun other hne => ?_, ?_⟩
  · exact TaskTable.find?_put_same hfind _
  · exact TaskTable.find?_put_of_ne m.tasks hne _
  · exact (hentered.emits.shows fun _ => Effect.isVerdict_of_isKernel).trans (.of_emit _ rfl)

theorem Trapped.trans {fs : List ExceptionFrame} (h : m.Trapped cpu id c) (hminds : c.Minds id n)
    (htraps : c.TakesTraps cpu 1 fs n) : m.Trapped cpu id n := by
  obtain ⟨task, hcur⟩ := h.current
  refine ⟨hminds.currentTask? hcur, htraps.isOpen h.slot, fun other hne => ?_, ?_⟩
  · rw [hminds.others other hne, h.others other hne]
  · exact h.shows.trans (hminds.emits.shows fun _ he => he)

theorem trapped_handled (h : handled? k m cpu frameAddr f = some (g, n)) {depth : Nat}
    (hk : k.Serves (MindsOwn cpu id) ExceptionFrame.FromKernel cpu depth f)
    (hlt : depth + 1 < 2 ^ 32) (huser : f.fromUser = true) (hdepth : (m.slot cpu).depth = 0)
    (hcur : m.currentTask? = some (id, task)) : m.Trapped cpu id n ∧ g.fromUser = true := by
  have hminds : ∀ {m n : Machine},
      m.Handles (MindsOwn cpu id) ExceptionFrame.FromKernel cpu depth n → m.Minds id n :=
    fun h => h.closed (Minds.closed id) fun _ _ => And.right
  have htraps : ∀ {m n : Machine}, (m.slot cpu).Open 1 →
      m.Handles (MindsOwn cpu id) ExceptionFrame.FromKernel cpu depth n →
        ∃ fs, m.TakesTraps cpu 1 fs n :=
    fun hs h => (h.mono (fun _ _ => And.left) fun _ h => h).takesTraps hs (by omega)
  unfold handled? at h
  cases hc : classify f.estat f.fromUser with
  | syscall =>
    simp only [hc, Option.some.injEq] at h
    have hentry := trapped_userEntry (f := f) (g := f.atSyscall) huser hdepth hcur
    obtain ⟨task', hcur'⟩ := hentry.current
    have hmind := minds_runSyscall (k := k) (f := f.atSyscall) hcur'
      (fun nr hh args m => hminds (hk.calls hc nr hh args m)) cpu frameAddr
    obtain ⟨fs, hfs⟩ := takesTraps_runSyscall (k := k) (f := f.atSyscall)
      (fun nr hh args m hm => htraps hm (hk.calls hc nr hh args m)) hentry.slot frameAddr
    have hstays := hentry.trans hmind hfs
    have hmode := fromUser_runSyscall k (m.inSyscall cpu f) cpu frameAddr f.atSyscall
    unfold inSyscall at h hmode
    rw [h] at hstays hmode
    exact ⟨hstays, hmode.trans huser⟩
  | interrupt =>
    simp only [hc, Option.some.injEq, Prod.mk.injEq] at h
    obtain ⟨rfl, rfl⟩ := h
    have hentry := trapped_userEntry (f := f) (g := f.setKind .irq) huser hdepth hcur
    have hmind := closed_drain (Minds.closed id)
      (fun irq h hh m => hminds (hk.irqs hc irq h hh m))
      (((m.record f).enter cpu).captureUserEntry (f.setKind .irq))
    obtain ⟨fs, hfs⟩ := takesTraps_drainUpTo
      (fun irq h hh m hm => htraps hm (hk.irqs hc irq h hh m)) _ hentry.slot
    have hdrained := hentry.trans hmind hfs
    exact ⟨hdrained.trans ((Minds.closed id).work (.askSwitch _ cpu)) (.reschedule _ cpu), huser⟩
  | miss kind | fatal fault => simp [hc] at h

end

/-- The scheduler is told the truth about who resumes. Take the outermost trap of a task from user
mode, by a call or an interrupt. Its handlers may do what they like to the task, send it signals or
stop it, but to no other, and may take traps from kernel mode whose handlers do the same, as deep as
the counter can count. Of what the scheduler is told the trace shows this alone: that the task
entered, the way back, and behind it that the task is about to run if the table holds it alive in
the end, that it exited if it is killed there, and nothing if it is stopped. No other task has
changed. A trap from kernel mode, however its own handlers nest, is noticed by no task unless a
handler is. -/
theorem scheduler_told_who_resumes (k : Kernel) (m : Machine) (cpu : CpuId) (frameAddr : UInt64)
    (f : ExceptionFrame) (n : Nat) :
    let done := dispatch k m cpu frameAddr f
    (∀ (id : TaskId) (task : Task),
      classify f.estat f.fromUser = .syscall ∨ classify f.estat f.fromUser = .interrupt →
      f.fromUser = true → (m.slot cpu).depth = 0 → m.currentTask? = some (id, task) →
      k.Serves (MindsOwn cpu id) ExceptionFrame.FromKernel cpu n f → n + 1 < 2 ^ 32 →
      done.outcome = .resume ∧
      ∃ (after : Task) (s : CpuSlot), s.state = .returningToUser ∧
        done.machine.tasks.find? id = some after ∧
        (done.machine.hw.since m.hw.mark).filter Effect.isVerdict =
          .enterKernel id :: .transition cpu s :: after.state.verdict id ∧
        ∀ other, other ≠ id → done.machine.tasks.find? other = m.tasks.find? other) ∧
    (f.FromKernel → k.Serves Spares ExceptionFrame.FromKernel cpu n f → m.Spares done.machine) := by
  intro done
  constructor
  · intro id task hroute huser hdepth hcur hk hlt
    obtain ⟨⟨g, c⟩, hhandled⟩ : ∃ r, handled? k m cpu frameAddr f = some r := by
      unfold handled?
      rcases hroute with hc | hc <;> rw [hc] <;> exact ⟨_, rfl⟩
    obtain ⟨htrapped, hguser⟩ := trapped_handled hhandled hk hlt huser hdepth hcur
    have hdone : done = _ := dispatch_of_handled? hhandled
    obtain ⟨task', hcur'⟩ := htrapped.current
    obtain ⟨after, s, hs, hfind, hothers, hshows⟩ :=
      verdict_returnToUser hguser htrapped.slot hcur'
    rw [hdone]
    refine ⟨rfl, after, s, hs, hfind, (htrapped.shows.trans hshows).since, fun other hne => ?_⟩
    exact (hothers other hne).trans (htrapped.others other hne)
  · intro hf hk
    refine closed_kernelTrap closed_spares hf (fun hc irq h hh m => ?_) m frameAddr
    exact (hk.irqs hc irq h hh m).closed closed_spares fun _ _ h => h

end Machine

/-! ## An interrupt and a refused return -/

/-- The call of a signal return with a stack pointer below all that is mapped. -/
def ExceptionFrame.ofBadReturn : ExceptionFrame :=
  let f := ofUser 0x4000 0x10
  { f with regs := f.regs.put Reg.a7 sigReturnNumber, estat := 0xb0000 }

/-- An interrupt whose handler takes another one resumes the task; a refused return ends it. The
same interrupt from kernel mode is not noticed. -/
theorem scheduler_told_who_resumes_killed :
    let woken := Machine.dispatch .raising .twoPending .boot 0 (.ofUser 0x4000 0x100000)
    let ended := Machine.dispatch .bare (.running .caller) .boot 0 .ofBadReturn
    (∃ s : CpuSlot, s.state = .returningToUser ∧
      (woken.machine.hw.since Machine.twoPending.hw.mark).filter Effect.isVerdict =
        [.enterKernel ⟨0⟩, .transition .boot s, .enterUser ⟨0⟩]) ∧
    (∃ s : CpuSlot, s.state = .returningToUser ∧
      (ended.machine.hw.since (Machine.running .caller).hw.mark).filter Effect.isVerdict =
        [.enterKernel ⟨0⟩, .transition .boot s, .taskExited ⟨0⟩]) ∧
    Machine.twoPending.Spares (Machine.dispatch .raising .twoPending .boot 0 .cleared).machine := by
  intro woken ended
  have hcomes : ∀ m : Machine, let n := { m with pending := m.pending ++ [⟨.boot, ⟨4⟩⟩] }
      Machine.MindsOwn .boot ⟨0⟩ m n ∧ m.Spares n := fun m =>
    ⟨⟨.aside ⟨rfl, rfl, .refl _⟩, .of_tasks rfl rfl (.refl _)⟩, rfl, rfl, .refl _⟩
  have hkernel : ExceptionFrame.cleared.FromKernel := rfl
  refine ⟨?_, ?_, ?_⟩
  · obtain ⟨-, after, s, hs, hfind, hshows, -⟩ :=
      (Machine.scheduler_told_who_resumes .raising .twoPending .boot 0
        (.ofUser 0x4000 0x100000) 1).1 ⟨0⟩ .caller (.inr (by decide +kernel)) (by decide +kernel)
        rfl rfl ⟨fun hc => absurd hc (by decide +kernel),
          fun _ _ _ hh => handles_raising (fun m => (hcomes m).1) hkernel hh⟩ (by decide)
    have hready : (woken.machine.tasks.find? ⟨0⟩).map (·.state) = some .ready := by decide +kernel
    rw [hfind] at hready
    have hstate : after.state = .ready := Option.some.inj hready
    rw [hstate] at hshows
    exact ⟨s, hs, hshows⟩
  · have hnone : Kernel.bare.syscalls.handler? ExceptionFrame.ofBadReturn.syscallNumber = none := by
      have hr : SyscallRoute.ofNumber ExceptionFrame.ofBadReturn.syscallNumber = .sigReturn := by
        decide +kernel
      unfold SyscallTables.handler?
      rw [hr]
    obtain ⟨-, after, s, hs, hfind, hshows, -⟩ :=
      (Machine.scheduler_told_who_resumes .bare (.running .caller) .boot 0 .ofBadReturn 0).1 ⟨0⟩
        .caller (.inl (by decide +kernel)) (by decide +kernel) rfl rfl
        ⟨fun _ h hh => absurd (hnone.symm.trans hh) nofun,
          fun hc => absurd hc (by decide +kernel)⟩ (by decide)
    have hkilled : (ended.machine.tasks.find? ⟨0⟩).map (·.state) = some (.killed 11) := by
      decide +kernel
    rw [hfind] at hkilled
    have hstate : after.state = .killed 11 := Option.some.inj hkilled
    rw [hstate] at hshows
    exact ⟨s, hs, hshows⟩
  · exact (Machine.scheduler_told_who_resumes .raising .twoPending .boot 0 .cleared 1).2 hkernel
      ⟨fun hc => absurd hc (by decide +kernel),
        fun _ _ _ hh => handles_raising (fun m => (hcomes m).2) hkernel hh⟩

end TrapLayer
