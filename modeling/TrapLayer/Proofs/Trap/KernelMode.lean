import TrapLayer.Proofs.Trap.Handlers

/-!
# Traps from kernel mode

A trap from kernel mode captures nothing and takes no way back. What is left of it is kernel work:
it tends the slots, the controller and the translation buffer, and changes no task, no memory and no
debug register. So whatever its handlers do, step by step and trap by trap, is all that it does to
them. A trap from user mode adds the entry and the way back of its task, and a syscall the signal
return.

* `Machine.KernelWork`: a step of kernel work, with one lemma for each part of a trap.
* `closed_drain`: a drain does no more than its handlers, for any relation that holds of work.
* `closed_kernelTrap`, `Handles.closed`: so does a trap from kernel mode, and one inside another.
* `closed_dispatch`, `Handles.closedTrap`: with those three parts, so does a trap from any mode.
* `Machine.Spares`: a step that no task notices, such as all kernel work.
-/
namespace TrapLayer

/-- No hook of the scheduler, no write of user memory or of the debug registers, and not the start
of a return to user mode. -/
def Effect.isKernel : Effect → Bool
  | .enterKernel _ | .enterUser _ | .taskExited _ | .userWrite .. | .debugWrite _ => false
  | .transition _ s => s.state != .returningToUser
  | _ => true

/-- A hook of the scheduler was called, or user memory was written. -/
def Effect.isForTask : Effect → Bool
  | .enterKernel _ | .enterUser _ | .taskExited _ | .userWrite .. => true
  | _ => false

theorem Effect.isForTask_of_isKernel {e : Effect} (h : e.isKernel = true) :
    e.isForTask = false := by
  cases e with
  | enterKernel id | enterUser id | taskExited id | userWrite addr bytes => cases h
  | _ => rfl

/-- A trap that was taken from kernel mode. -/
def ExceptionFrame.FromKernel (f : ExceptionFrame) : Prop := f.fromUser = false

theorem classify_ne_syscall {f : ExceptionFrame} (h : f.FromKernel) :
    classify f.estat f.fromUser ≠ .syscall := by
  intro hc
  have huser := Machine.fromUser_of_classify hc
  rw [h] at huser
  cases huser

namespace Machine

/-- A step that changes no task, no memory and no debug register, with effects of kernel mode. -/
structure KernelWork (m n : Machine) : Prop where
  tasks : n.tasks = m.tasks
  current : n.current = m.current
  memory : n.hw.memory = m.hw.memory
  debugRegs : n.hw.debugRegs = m.hw.debugRegs
  emits : m.hw.Emits (·.isKernel = true) n.hw

namespace KernelWork

variable {m n o : Machine}

theorem refl (m : Machine) : m.KernelWork m := ⟨rfl, rfl, rfl, rfl, .refl _⟩

theorem trans (h : m.KernelWork n) (h' : n.KernelWork o) : m.KernelWork o :=
  ⟨h'.tasks.trans h.tasks, h'.current.trans h.current, h'.memory.trans h.memory,
    h'.debugRegs.trans h.debugRegs, h.emits.trans h'.emits⟩

theorem emit (m : Machine) {e : Effect} (h : e.isKernel = true) : m.KernelWork (m.emit e) :=
  ⟨rfl, rfl, rfl, rfl, .of_emit _ h⟩

theorem log (m : Machine) (level : LogLevel) (target text : String) :
    m.KernelWork (m.log level target text) := emit m rfl

theorem record (m : Machine) (f : ExceptionFrame) : m.KernelWork (m.record f) :=
  ⟨rfl, rfl, rfl, rfl, .refl _⟩

theorem setSlot (m : Machine) (cpu : CpuId) (s : CpuSlot) : m.KernelWork (m.setSlot cpu s) :=
  ⟨rfl, rfl, rfl, rfl, .refl _⟩

theorem writeCsr (m : Machine) (c : Csr) (v : UInt64) : m.KernelWork (m.writeCsr c v) :=
  ⟨rfl, rfl, rfl, rfl, .of_emit _ rfl⟩

/-- A number without a handler is kernel work, unless it is that of the signal return. -/
theorem runSyscall_of_none {k : Kernel} {f : ExceptionFrame}
    (hh : k.syscalls.handler? f.syscallNumber = none) (m : Machine) (cpu : CpuId)
    (frameAddr : UInt64) :
    runSyscall k m cpu frameAddr f = m.sysSigreturn f ∨
      m.KernelWork (runSyscall k m cpu frameAddr f).2 := by
  rcases Machine.runSyscall_of_none hh m cpu frameAddr with ⟨-, heq⟩ | ⟨-, n, hmode, heq⟩
  · exact .inl heq
  · have hn : m.KernelWork n := by
      rcases hmode with rfl | ⟨v, v', rfl⟩
      · exact refl n
      · exact (writeCsr m .crmd v).trans (writeCsr _ .crmd v')
    rw [heq]
    exact .inr (hn.trans (log n _ _ _))

theorem enter (m : Machine) (cpu : CpuId) : m.KernelWork (m.enter cpu) :=
  (setSlot m cpu _).trans (emit _ rfl)

theorem leave (m : Machine) (cpu : CpuId) : m.KernelWork (m.leave cpu) := by
  unfold Machine.leave
  dsimp only
  split
  · exact log m _ _ _
  · refine (setSlot m cpu _).trans (emit _ ?_)
    unfold CpuSlot.leave Effect.isKernel
    dsimp only
    split <;> rfl

theorem askSwitch (m : Machine) (cpu : CpuId) :
    m.KernelWork ((m.setNeedResched cpu).emit .reschedule) := (setSlot m cpu _).trans (emit _ rfl)

theorem resolveMiss (m : Machine) (badv : UInt64) (fromUser : Bool) (kind : MissKind) :
    m.KernelWork { m with hw := (m.hw.resolveMiss badv fromUser kind).2 } := by
  have hreads : ∀ reads, m.hw.Emits (·.isKernel = true) (m.hw.noteReads reads) := fun reads =>
    (m.hw.onlyReads_noteReads reads).emits.mono fun e he => by
      rcases Effect.eq_of_isRead he with ⟨read, rfl⟩ | ⟨addr, len, rfl⟩ <;> rfl
  rcases m.hw.resolveMiss_cases badv fromUser kind with
    ⟨leaf, reads, -, -, heq⟩ | ⟨e, reads, -, heq⟩
  · rw [heq]
    exact ⟨rfl, rfl, rfl, rfl, (hreads reads).trans (.of_emit _ rfl)⟩
  · rw [heq]
    exact ⟨rfl, rfl, rfl, rfl, hreads reads⟩

theorem haltReport (m : Machine) (cpu : CpuId) (f : ExceptionFrame) (fault : FaultClass) :
    m.KernelWork (m.haltReport cpu f fault).2 := by
  rw [machine_haltReport]
  refine ⟨rfl, rfl, rfl, rfl, _, fun e he => ?_, rfl⟩
  obtain ⟨line, -, rfl⟩ := List.mem_map.1 (List.mem_reverse.1 he)
  rfl

theorem handleMiss (m : Machine) (cpu : CpuId) (f : ExceptionFrame) (kind : MissKind) :
    m.KernelWork (m.handleMiss cpu f kind).machine := by
  have hmiss := (enter m cpu).trans (resolveMiss _ (f.setKind .tlbRefill).badv
    (f.setKind .tlbRefill).fromUser kind)
  unfold Machine.handleMiss
  dsimp only
  split
  · exact hmiss.trans (leave _ cpu)
  · exact (hmiss.trans (log _ _ _ _)).trans ((haltReport _ cpu _ _).trans (leave _ cpu))

theorem handleFault (m : Machine) (cpu : CpuId) (f : ExceptionFrame) (fault : FaultClass) :
    m.KernelWork (m.handleFault cpu f fault).machine :=
  (enter m cpu).trans ((haltReport _ cpu _ fault).trans (leave _ cpu))

end KernelWork

/-! ## Relations that hold of kernel work -/

/-- Kernel work can be put in front of, between and behind the steps of a relation. -/
structure Closed (R : Machine → Machine → Prop) : Prop where
  trans : ∀ {m n o : Machine}, R m n → R n o → R m o
  work : ∀ {m n : Machine}, m.KernelWork n → R m n

section

variable {R : Machine → Machine → Prop} (hR : Closed R)

include hR

theorem closed_handleClaimed {k : Kernel} {cpu : CpuId}
    (hirqs : ∀ irq h, k.irqs.handler? irq = some h → ∀ m : Machine, R m (h irq cpu m))
    (m : Machine) (p : PendingIrq) : R m (handleClaimed k m cpu p) := by
  have hclaim : m.KernelWork ((m.emit (.irqClaim p.source p.irq)).irqEnter cpu) :=
    (KernelWork.emit m rfl).trans (.setSlot _ cpu _)
  have hdone : ∀ n : Machine, n.KernelWork ((n.emit (.irqDone p.irq p.source)).irqExit cpu) :=
    fun n => (KernelWork.emit n rfl).trans (.setSlot _ cpu _)
  unfold handleClaimed
  refine hR.trans (hR.work hclaim) (hR.trans ?_ (hR.work (hdone _)))
  cases hh : k.irqs.handler? p.irq with
  | some h => exact hirqs p.irq h hh _
  | none => exact hR.work (.log _ _ _ _)

theorem closed_drainUpTo {k : Kernel} {cpu : CpuId}
    (hirqs : ∀ irq h, k.irqs.handler? irq = some h → ∀ m : Machine, R m (h irq cpu m)) :
    ∀ (fuel : Nat) (m : Machine), R m (drainUpTo k cpu fuel m).2
  | 0, m => hR.work (.refl m)
  | fuel + 1, m => by
    unfold drainUpTo
    split
    · exact hR.work (.refl m)
    · rename_i p rest _
      have hclaimed : m.KernelWork { m with pending := rest } := ⟨rfl, rfl, rfl, rfl, .refl _⟩
      refine hR.trans (hR.work hclaimed) (hR.trans (closed_handleClaimed hR hirqs _ p) ?_)
      exact closed_drainUpTo hirqs fuel _

theorem closed_drain {k : Kernel} {cpu : CpuId}
    (hirqs : ∀ irq h, k.irqs.handler? irq = some h → ∀ m : Machine, R m (h irq cpu m))
    (m : Machine) : R m (drain k m cpu).2 := closed_drainUpTo hR hirqs _ m

theorem closed_kernelTrap {k : Kernel} {cpu : CpuId} {f : ExceptionFrame} (hf : f.FromKernel)
    (hirqs : classify f.estat f.fromUser = .interrupt →
      ∀ irq h, k.irqs.handler? irq = some h → ∀ m : Machine, R m (h irq cpu m))
    (m : Machine) (frameAddr : UInt64) : R m (dispatch k m cpu frameAddr f).machine := by
  have huser : (f.setKind .irq).fromUser = false := hf
  unfold dispatch
  refine hR.trans (hR.work (.record m f)) ?_
  cases hc : classify f.estat f.fromUser with
  | syscall => exact absurd hc (classify_ne_syscall hf)
  | interrupt =>
    have hcapture : ∀ n : Machine, n.captureUserEntry (f.setKind .irq) = n := fun n => by
      unfold captureUserEntry
      rw [huser]
      rfl
    have hback : ∀ n : Machine, (n.returnToUser cpu (f.setKind .irq)).2 = n := fun n => by
      unfold returnToUser
      rw [huser]
      rfl
    unfold handleIrq
    dsimp only
    rw [hcapture, hback]
    refine hR.trans (hR.work (.enter _ cpu)) (hR.trans (closed_drain hR (hirqs hc) _) ?_)
    exact hR.work ((KernelWork.askSwitch _ cpu).trans (.leave _ cpu))
  | miss kind => exact hR.work (.handleMiss _ cpu f kind)
  | fatal fault => exact hR.work (.handleFault _ cpu f fault)

theorem Handles.closed {own : Machine → Machine → Prop} (hown : ∀ m n, own m n → R m n)
    {cpu : CpuId} {n : Nat} {m m' : Machine}
    (h : m.Handles own ExceptionFrame.FromKernel cpu n m') : R m m' := by
  induction h with
  | own h => exact hown _ _ h
  | append _ _ ih ih' => exact hR.trans ih ih'
  | trap frameAddr hf _ _ _ irqs => exact closed_kernelTrap hR hf irqs _ frameAddr

end

/-! ## Traps from any mode -/

/-- So can what a trap does to the task it was taken from: the copy of its registers on the way in,
the signal return, and the way back. -/
structure ClosedTrap (R : Machine → Machine → Prop) : Prop extends Closed R where
  capture : ∀ (m : Machine) (f : ExceptionFrame), R m (m.captureUserEntry f)
  sigreturn : ∀ (m : Machine) (f : ExceptionFrame), R m (m.sysSigreturn f).2
  back : ∀ (m : Machine) (cpu : CpuId) (f : ExceptionFrame), R m (m.returnToUser cpu f).2

section

variable {R : Machine → Machine → Prop} (hR : ClosedTrap R) {k : Kernel} {cpu : CpuId}
  {f : ExceptionFrame}

include hR

theorem closed_runSyscall
    (hcalls : ∀ h, k.syscalls.handler? f.syscallNumber = some h →
      ∀ args (m : Machine), R m (h args m).2)
    (m : Machine) (frameAddr : UInt64) : R m (runSyscall k m cpu frameAddr f).2 := by
  cases hh : k.syscalls.handler? f.syscallNumber with
  | some h =>
    rw [machine_runSyscall_of_handler hh]
    exact hR.trans (hR.work (.writeCsr m .crmd _))
      (hR.trans (hcalls h hh _ _) (hR.work (.writeCsr _ .crmd _)))
  | none =>
    rcases KernelWork.runSyscall_of_none hh m cpu frameAddr with heq | hwork
    · rw [heq]
      exact hR.sigreturn m f
    · exact hR.work hwork

/-- A trap does no more than its handlers, besides what it does to the task it was taken from. -/
theorem closed_dispatch
    (hcalls : classify f.estat f.fromUser = .syscall →
      ∀ h, k.syscalls.handler? f.syscallNumber = some h →
        ∀ args (m : Machine), R m (h args m).2)
    (hirqs : classify f.estat f.fromUser = .interrupt →
      ∀ irq h, k.irqs.handler? irq = some h → ∀ m : Machine, R m (h irq cpu m))
    (m : Machine) (frameAddr : UInt64) : R m (dispatch k m cpu frameAddr f).machine := by
  have hentry : ∀ (m : Machine) g, R m ((m.enter cpu).captureUserEntry g) := fun m g =>
    hR.trans (hR.work (.enter m cpu)) (hR.capture _ g)
  have hexit : ∀ (m : Machine) g, R m ((m.returnToUser cpu g).2.leave cpu) := fun m g =>
    hR.trans (hR.back m cpu g) (hR.work (.leave _ cpu))
  unfold dispatch
  refine hR.trans (hR.work (.record m f)) ?_
  cases hc : classify f.estat f.fromUser with
  | syscall =>
    have hrun : ∀ h, k.syscalls.handler? f.atSyscall.syscallNumber = some h →
      ∀ args (m : Machine), R m (h args m).2 := hcalls hc
    have hcall : ∀ m : Machine, R m (runSyscall k m cpu frameAddr f.atSyscall).2 := fun m =>
      closed_runSyscall hR hrun m frameAddr
    exact hR.trans (hentry _ f.atSyscall) (hR.trans (hcall _) (hexit _ _))
  | interrupt =>
    have hdrained := closed_drain hR.toClosed (hirqs hc)
    exact hR.trans (hentry _ (f.setKind .irq)) (hR.trans (hdrained _)
      (hR.trans (hR.work (.askSwitch _ cpu)) (hexit _ _)))
  | miss kind => exact hR.work (.handleMiss _ cpu f kind)
  | fatal fault => exact hR.work (.handleFault _ cpu f fault)

/-- Handlers do no more than their own steps, and what their traps do to tasks. -/
theorem Handles.closedTrap {own : Machine → Machine → Prop} {takes : ExceptionFrame → Prop}
    (hown : ∀ m n, own m n → R m n) {n : Nat} {m m' : Machine}
    (h : m.Handles own takes cpu n m') : R m m' := by
  induction h with
  | own h => exact hown _ _ h
  | append _ _ ih ih' => exact hR.trans ih ih'
  | trap frameAddr _ _ _ calls irqs => exact closed_dispatch hR calls irqs _ frameAddr

end

/-! ## What tasks notice -/

/-- A step that no task notices: none changes, no hook is called, and no user memory is written. -/
structure Spares (m n : Machine) : Prop where
  tasks : n.tasks = m.tasks
  memory : n.hw.memory = m.hw.memory
  emits : m.hw.Emits (·.isForTask = false) n.hw

theorem KernelWork.spares {m n : Machine} (h : m.KernelWork n) : m.Spares n :=
  ⟨h.tasks, h.memory, h.emits.mono fun _ => Effect.isForTask_of_isKernel⟩

theorem closed_spares : Closed Spares :=
  ⟨fun h h' => ⟨h'.tasks.trans h.tasks, h'.memory.trans h.memory, h.emits.trans h'.emits⟩,
    KernelWork.spares⟩

end Machine

end TrapLayer
