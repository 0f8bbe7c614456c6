import TrapLayer.Proofs.Trap.KernelMode

/-!
# Steps that leave the debugger's state alone

Two effects matter for what a task is debugged with: the debug registers are programmed, and the
scheduler is told that a task is about to run. A step is quiet when it does neither and changes no
task's debugger state. All of a trap is quiet but the end of its way back.

* `Hardware.Does.trans`: what two steps did is what the first did and then the second.
* `Hardware.Works.quiet`: work is quiet, and with it deliveries, returns, misses and signal passes.
* `Task.AfterSignals`: what deliveries, returns and passes can make of a task.
* `Machine.Quiet`: a quiet step of a machine; `KernelWork.quiet`: kernel work is.
-/
namespace TrapLayer

/-- The debug registers were programmed, or a task is about to run in user mode. -/
def Effect.isResume : Effect → Bool
  | .debugWrite _ | .enterUser _ => true
  | _ => false

theorem Effect.isResume_of_isWork {e : Effect} (h : e.isWork = true) : e.isResume = false := by
  cases e with
  | debugWrite regs => cases h
  | enterUser id => cases h
  | _ => rfl

theorem Effect.isResume_of_isKernel {e : Effect} (h : e.isKernel = true) :
    e.isResume = false := by
  cases e with
  | debugWrite regs => cases h
  | enterUser id => cases h
  | _ => rfl

/-! ## Hardware -/

namespace Hardware

/-- `es` is what happened to the debug registers and to the scheduler's hook, oldest first. -/
def Does (hw : Hardware) (es : List Effect) (hw' : Hardware) : Prop :=
  ∃ all : List Effect,
    hw'.history = all ++ hw.history ∧ all.reverse.filter Effect.isResume = es

theorem Does.trans {hw hw' hw'' : Hardware} {es fs : List Effect} (h : hw.Does es hw')
    (h' : hw'.Does fs hw'') : hw.Does (es ++ fs) hw'' := Shows.trans h h'

theorem Does.since {hw hw' : Hardware} {es : List Effect} (h : hw.Does es hw') :
    (hw'.since hw.mark).filter Effect.isResume = es := Shows.since h

/-- Neither effect happened, and the debug registers are as they were. -/
structure Quiet (hw hw' : Hardware) : Prop where
  debugRegs : hw'.debugRegs = hw.debugRegs
  does : hw.Does [] hw'

namespace Quiet

variable {hw hw' hw'' : Hardware}

theorem of_history (es : List Effect) (hregs : hw'.debugRegs = hw.debugRegs)
    (h : hw'.history = es ++ hw.history) (hes : ∀ e ∈ es, e.isResume = false) :
    Quiet hw hw' := by
  refine ⟨hregs, es, h, ?_⟩
  rw [List.filter_eq_nil_iff]
  intro e he
  rw [hes e (List.mem_reverse.1 he)]
  exact Bool.false_ne_true

theorem refl (hw : Hardware) : Quiet hw hw :=
  of_history [] rfl rfl fun _ he => absurd he List.not_mem_nil

theorem trans (h : Quiet hw hw') (h' : Quiet hw' hw'') : Quiet hw hw'' :=
  ⟨h'.debugRegs.trans h.debugRegs, h.does.trans h'.does⟩

theorem emit (hw : Hardware) {e : Effect} (h : e.isResume = false) : Quiet hw (hw.emit e) := by
  refine of_history [e] rfl rfl ?_
  intro d hd
  rw [List.mem_singleton.1 hd]
  exact h

end Quiet

theorem Works.quiet {hw hw' : Hardware} (h : hw.Works hw') : hw.Quiet hw' := by
  obtain ⟨hregs, es, hes, hh⟩ := h
  exact .of_history es hregs hh fun e he => Effect.isResume_of_isWork (hes e he)

end Hardware

/-! ## Returns and the signal pass -/

/-- What signals can make of a task: another state, other signals, and other saved registers of its
units. -/
def Task.AfterSignals (t t' : Task) : Prop :=
  ∃ (state : TaskState) (signals : SignalState) (fpu : FpState),
    t' = { t with state := state, signals := signals, switch := { t.switch with fpu := fpu } }

namespace Task.AfterSignals

variable {t t' t'' : Task}

theorem refl (t : Task) : t.AfterSignals t := ⟨_, _, _, rfl⟩

theorem trans (h : t.AfterSignals t') (h' : t'.AfterSignals t'') : t.AfterSignals t'' := by
  obtain ⟨_, _, _, rfl⟩ := h
  obtain ⟨_, _, _, rfl⟩ := h'
  exact ⟨_, _, _, rfl⟩

/-- No signal changes what the debugger set. -/
theorem trace (h : t.AfterSignals t') : t'.trace = t.trace := by
  obtain ⟨_, _, _, rfl⟩ := h
  rfl

end Task.AfterSignals

theorem afterSignals_deliver {hw hw' : Hardware} {task : Task} {sig : Signal} {info : SigInfo}
    {frame : ExceptionFrame} {d : Delivery}
    (h : deliver hw task sig info frame = (.ok d, hw')) : task.AfterSignals d.task := by
  obtain ⟨p, -, -, hb⟩ := deliver_ok h
  rw [(Prod.mk.inj hb).1]
  exact ⟨_, _, _, rfl⟩

theorem afterSignals_sigreturn {hw hw' : Hardware} {task : Task} {frame : ExceptionFrame}
    {back : Returned} (h : sigreturn hw task frame = (.ok back, hw')) :
    task.AfterSignals back.task := by
  rcases sigreturn_cases hw task frame with ⟨image, read, -, -, heq⟩ | ⟨e, read, -, -, heq⟩
  · rw [heq] at h
    rw [← Except.ok.inj (Prod.mk.inj h).1]
    dsimp only
    rw [restoreRecords_task]
    exact ⟨_, _, _, rfl⟩
  · rw [heq] at h
    cases h

theorem afterSignals_takeHandled (hw : Hardware) (id : TaskId) (task : Task) (inSyscall : Bool)
    (sig : Signal) (action : SigAction) (frame : ExceptionFrame) :
    task.AfterSignals (takeHandled hw id task inSyscall sig action frame).task := by
  have hclear : task.AfterSignals (task.clearSignal sig) := ⟨_, _, _, rfl⟩
  unfold takeHandled
  dsimp only
  split
  · rename_i d hd
    exact hclear.trans (afterSignals_deliver (Prod.ext hd rfl))
  · exact ⟨_, _, _, rfl⟩

theorem afterSignals_signalPass (hw : Hardware) (id : TaskId) (task : Task)
    (frame : ExceptionFrame) : task.AfterSignals (signalPass hw id task frame).task := by
  obtain ⟨pending, hends⟩ := signalPass_ends hw id task frame
  generalize signalPass hw id task frame = p at hends ⊢
  cases hends with
  | ignored | killed sig | stopped sig => exact ⟨_, _, _, rfl⟩
  | handled sig action =>
    have hpending : task.AfterSignals (task.withPending pending) := ⟨_, _, _, rfl⟩
    exact hpending.trans (afterSignals_takeHandled hw id _ _ sig action frame)

theorem Machine.afterSignals_wayBack (m : Machine) (id : TaskId) (task : Task)
    (f : ExceptionFrame) : task.AfterSignals (m.wayBack id task f).task := by
  unfold wayBack
  cases task.state with
  | killed sig | stopped sig => exact .refl task
  | ready | running => exact afterSignals_signalPass m.hw id task f

/-! ## Task tables -/

namespace TaskTable

/-- What the debugger set for a task; a task that does not exist has nothing set. -/
def traceOf (t : TaskTable) (id : TaskId) : TraceState :=
  ((t.find? id).map Task.trace).getD .untraced

theorem traceOf_of_find? {t : TaskTable} {id : TaskId} {task : Task}
    (h : t.find? id = some task) : t.traceOf id = task.trace := by
  unfold traceOf
  rw [h]
  rfl

theorem traceOf_put_of_ne (t : TaskTable) {id other : TaskId} (h : other ≠ id)
    (task : Task) : (t.put id task).traceOf other = t.traceOf other := by
  unfold traceOf
  rw [find?_put_of_ne t h task]

theorem traceOf_put {t : TaskTable} {id : TaskId} {old task : Task}
    (hold : t.find? id = some old) (h : task.trace = old.trace) :
    (t.put id task).traceOf = t.traceOf := by
  funext other
  by_cases he : other = id
  · subst he
    rw [traceOf_of_find? (find?_put_same hold task), traceOf_of_find? hold, h]
  · exact traceOf_put_of_ne t he task

end TaskTable

/-! ## The machine -/

namespace Machine

/-- A step that neither programs the debug registers nor starts a task, and that leaves every task
the debugger state it had. -/
structure Quiet (m n : Machine) : Prop where
  hw : m.hw.Quiet n.hw
  traces : n.tasks.traceOf = m.tasks.traceOf

namespace Quiet

variable {m n o : Machine}

theorem refl (m : Machine) : m.Quiet m := ⟨.refl _, rfl⟩

theorem trans (h : m.Quiet n) (h' : n.Quiet o) : m.Quiet o :=
  ⟨h.hw.trans h'.hw, h'.traces.trans h.traces⟩

theorem emit (m : Machine) {e : Effect} (h : e.isResume = false) : m.Quiet (m.emit e) :=
  ⟨.emit _ h, rfl⟩

end Quiet

theorem KernelWork.quiet {m n : Machine} (h : m.KernelWork n) : m.Quiet n :=
  ⟨⟨h.debugRegs, h.emits.shows fun _ => Effect.isResume_of_isKernel⟩, by rw [h.tasks]⟩

theorem quiet_beginReturn (m : Machine) (cpu : CpuId) : m.Quiet (m.beginReturn cpu) := by
  unfold beginReturn
  dsimp only
  split
  · exact (KernelWork.setSlot m cpu _).quiet.trans (.emit _ rfl)
  · exact .emit m rfl

theorem quiet_captureUserEntry (m : Machine) (f : ExceptionFrame) :
    m.Quiet (m.captureUserEntry f) := by
  unfold captureUserEntry
  split
  · split
    · exact .refl m
    · rename_i id _
      dsimp only
      split
      · rename_i task hfind
        exact ⟨.emit m.hw rfl, TaskTable.traceOf_put hfind rfl⟩
      · exact .emit m rfl
  · exact .refl m

theorem quiet_sysSigreturn (m : Machine) (f : ExceptionFrame) :
    m.Quiet (m.sysSigreturn f).2 := by
  unfold sysSigreturn
  cases hcur : m.currentTask? with
  | none => exact .refl m
  | some cur =>
    obtain ⟨id, task⟩ := cur
    have hfind := (currentTask?_eq_some_iff.1 hcur).2
    have hquiet := (works_sigreturn m.hw task f).quiet
    dsimp only
    cases hret : sigreturn m.hw task f with
    | mk result hw' =>
      rw [hret] at hquiet
      cases result with
      | ok back => exact ⟨hquiet, TaskTable.traceOf_put hfind (afterSignals_sigreturn hret).trace⟩
      | error e =>
        exact ⟨(hquiet.trans (.emit _ rfl)).trans (.emit _ rfl),
          TaskTable.traceOf_put hfind rfl⟩

end Machine

end TrapLayer
