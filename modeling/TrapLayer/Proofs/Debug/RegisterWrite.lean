import TrapLayer.Debugger
import TrapLayer.Proofs.UnhandledCall

/-!
# Register writes while the task is in a trap

A trap has two copies of the user registers: its frame, which is restored when the trap ends, and
the shadow in the task, which is filled from the frame on entry. A debugger writes the shadow.
Nothing on the way back reads it, so a write that falls into a trap misses the frame: the task
resumes with the registers it had, while the debugger reads back those that it wrote.

* `signalPass_captured`, `returnToUser_captured`: the way back hands the shadow on unread.
* `Machine.handled?`: the frame and the machine that a trap leaves for its way back.
* `writeRegs_of_trapped`: a write to a task that has trapped lands in the shadow.
* `register_write_misses_frame`: the frame is the same whatever was written.
* `register_write_lost`: a call that writes its caller's registers, without effect.
-/
namespace TrapLayer

/-! ## The way back does not read the shadow -/

def Delivery.captured (d : Delivery) (s : ExceptionFrame) : Delivery :=
  { d with task := d.task.captured s }

def Pass.captured (p : Pass) (s : ExceptionFrame) : Pass := { p with task := p.task.captured s }

section

variable (hw : Hardware) (id : TaskId) (s : ExceptionFrame)

theorem deliver_captured (task : Task) (sig : Signal) (info : SigInfo) (frame : ExceptionFrame) :
    deliver hw (task.captured s) sig info frame =
      ((deliver hw task sig info frame).1.map (·.captured s),
        (deliver hw task sig info frame).2) := by
  have hplan : planDelivery hw.features (task.captured s) sig frame =
      planDelivery hw.features task sig frame := rfl
  unfold deliver
  rw [hplan]
  cases planDelivery hw.features task sig frame with
  | error e => rfl
  | ok p =>
    dsimp only
    split <;> rfl

theorem takeHandled_captured (task : Task) (inSyscall : Bool) (sig : Signal)
    (action : SigAction) (frame : ExceptionFrame) :
    takeHandled hw id (task.captured s) inSyscall sig action frame =
      (takeHandled hw id task inSyscall sig action frame).captured s := by
  have hclear : (task.captured s).clearSignal sig = (task.clearSignal sig).captured s := rfl
  have hinfo : (task.captured s).signals.info sig = task.signals.info sig := rfl
  unfold takeHandled
  rw [hclear, hinfo]
  dsimp only
  rw [deliver_captured]
  cases deliver hw (task.clearSignal sig) sig (task.signals.info sig)
      (frame.restarted inSyscall (some action)) with
  | mk result hw' => cases result <;> rfl

theorem takeSignals_captured (inSyscall : Bool) (frame : ExceptionFrame) :
    ∀ (sigs : List Signal) (task : Task),
      takeSignals hw id (task.captured s) inSyscall frame sigs =
        (takeSignals hw id task inSyscall frame sigs).captured s
  | [], _ => rfl
  | sig :: rest, task => by
    have haction : (task.captured s).signals.action sig = task.signals.action sig := rfl
    rw [takeSignals, takeSignals, haction]
    cases (task.signals.action sig).disposition sig with
    | ignore => exact takeSignals_captured inSyscall frame rest (task.clearSignal sig)
    | terminate | stop => rfl
    | handler addr => exact takeHandled_captured hw id s task inSyscall sig _ frame

/-- Whatever signals it takes, a pass is blind to the shadow and hands it on. -/
theorem signalPass_captured (task : Task) (frame : ExceptionFrame) :
    signalPass hw id (task.captured s) frame = (signalPass hw id task frame).captured s :=
  takeSignals_captured hw id s _ frame _ task

end

theorem Task.captured_shadow {t : Task} (h : t.firstStart = false) : t.captured t.shadow = t := by
  unfold captured
  rw [← h]

namespace Machine

theorem wayBack_captured (m : Machine) (id : TaskId) (task : Task) (f s : ExceptionFrame) :
    m.wayBack id (task.captured s) f = (m.wayBack id task f).captured s := by
  have hstate : (task.captured s).state = task.state := rfl
  unfold wayBack
  rw [hstate]
  cases task.state with
  | killed sig | stopped sig => rfl
  | ready | running => exact signalPass_captured m.hw id s task f

/-- A task that has trapped comes out of its way back with the shadow it had. -/
theorem captured_wayBack (m : Machine) (id : TaskId) {task : Task} (f : ExceptionFrame)
    (h : task.firstStart = false) :
    (m.wayBack id task f).captured task.shadow = m.wayBack id task f := by
  rw [← wayBack_captured, Task.captured_shadow h]

theorem beginReturn_putTask (m : Machine) (cpu : CpuId) (id : TaskId) (task : Task) :
    (m.putTask id task).beginReturn cpu = (m.beginReturn cpu).putTask id task := by
  have hslot : (m.putTask id task).slot cpu = m.slot cpu := rfl
  unfold beginReturn
  rw [hslot]
  dsimp only
  split <;> rfl

/-- A frame that is no syscall frame, or that holds no restart code, resumes as it is if there is
nothing to deliver. -/
theorem returnToUser_of_quiet {m : Machine} {cpu : CpuId} {g : ExceptionFrame} {id : TaskId}
    {task : Task} (huser : g.fromUser = true) (hdepth : (m.slot cpu).depth = 1)
    (hcur : m.currentTask? = some (id, task)) (halive : task.isAlive = true)
    (hidle : task.signals.deliverable = [])
    (hno : g.kind = .syscall → ∀ code : RestartCode, g.a0 ≠ code.word) :
    (m.returnToUser cpu g).1 = g := by
  rw [returnToUser_of_idle huser hdepth hcur halive hidle]
  by_cases hk : g.kind = .syscall
  · exact ExceptionFrame.restarted_of_no_code (hno hk) _ none
  · have hb : (g.kind == FrameKind.syscall) = false := by simpa using hk
    rw [hb]
    rfl

/-- With other registers in the shadow, the outermost trap restores the same frame. -/
theorem returnToUser_captured {m : Machine} {cpu : CpuId} {g : ExceptionFrame} {id : TaskId}
    {task : Task} (huser : g.fromUser = true) (hdepth : (m.slot cpu).depth = 1)
    (hcur : m.currentTask? = some (id, task)) (s : ExceptionFrame) :
    ((m.putTask id (task.captured s)).returnToUser cpu g).1 = (m.returnToUser cpu g).1 := by
  obtain ⟨hid, hfind⟩ := currentTask?_eq_some_iff.1 hcur
  have hput : (m.putTask id (task.captured s)).currentTask? = some (id, task.captured s) :=
    currentTask?_eq_some_iff.2 ⟨hid, TaskTable.find?_put_same hfind _⟩
  rw [returnToUser_of_outermost huser hdepth hcur,
    returnToUser_of_outermost (m := m.putTask id (task.captured s)) huser hdepth hput,
    beginReturn_putTask]
  have hback : ((m.beginReturn cpu).putTask id (task.captured s)).wayBack id (task.captured s) g =
      ((m.beginReturn cpu).wayBack id task g).captured s := wayBack_captured _ id task g s
  rw [hback]
  rfl

end Machine

/-! ## The write -/

/-- The registers as a frame takes them: register zero stays zero. -/
def DebugFrame.stored (d : DebugFrame) : DebugFrame := { d with regs := d.regs.put Reg.zero 0 }

theorem TaskTable.traced_of_find? {t : TaskTable} {id : TaskId} {task : Task}
    (h : t.find? id = some task) : t.traced id = .ok task := by
  unfold traced TaskTable.task
  rw [h]
  rfl

/-- A write to a task that has trapped is refused over the mode, or it lands in the shadow. -/
theorem writeRegs_of_trapped {tasks : TaskTable} {id : TaskId} {old : Task}
    (hfind : tasks.find? id = some old) (htrapped : old.firstStart = false) (d : DebugFrame) :
    Debugger.writeRegs tasks id d =
      match d.validate with
      | .error e => .error (.frame e)
      | .ok _ => .ok (tasks.put id (old.captured (d.overwrite old.shadow))) := by
  unfold Debugger.writeRegs Task.writeDebugView DebugFrame.applyTo
  simp only [TaskTable.traced_of_find? hfind, htrapped, Bool.false_eq_true, if_false]
  cases d.validate with
  | error e => rfl
  | ok u =>
    unfold Task.captured
    rw [← htrapped]
    rfl

theorem find?_of_writeRegs {tasks after : TaskTable} {id : TaskId} {d : DebugFrame} {old : Task}
    (h : Debugger.writeRegs tasks id d = .ok after) (hfind : tasks.find? id = some old)
    (htrapped : old.firstStart = false) :
    after.find? id = some (old.captured (d.overwrite old.shadow)) := by
  rw [writeRegs_of_trapped hfind htrapped] at h
  cases hd : d.validate with
  | error e => rw [hd] at h; cases h
  | ok u =>
    rw [hd] at h
    rw [← Except.ok.inj h]
    exact TaskTable.find?_put_same hfind _

/-- The last register write of a task that has trapped: a debugger was allowed to write `d`, and the
shadow is still what it left. -/
def Task.Written (t : Task) (id : TaskId) (d : DebugFrame) : Prop :=
  t.firstStart = false ∧
    ∃ (tasks after : TaskTable) (old : Task), tasks.find? id = some old ∧ old.firstStart = false ∧
      Debugger.writeRegs tasks id d = .ok after ∧
      (after.find? id).map Task.shadow = some t.shadow

theorem Task.Written.ofFrame_shadow {t : Task} {id : TaskId} {d : DebugFrame}
    (h : t.Written id d) : DebugFrame.ofFrame t.shadow = d.stored := by
  obtain ⟨-, tasks, after, old, hfind, hold, hwrite, hshadow⟩ := h
  rw [find?_of_writeRegs hwrite hfind hold, Option.map_some, Option.some.injEq] at hshadow
  rw [← hshadow]
  rfl

/-! ## The trap -/

/-- `g` is the frame `f` of a trap on its way out: the kind of trap is marked, a syscall resumes
behind the instruction, and one that has a handler holds its result. -/
inductive ExceptionFrame.OnWayOut (f : ExceptionFrame) : ExceptionFrame → Prop
  | interrupt : OnWayOut f (f.setKind .irq)
  | unanswered : OnWayOut f f.atSyscall
  | answered (value : UInt64) : OnWayOut f (f.atSyscall.setA0 value)

namespace Machine

/-- The frame and the machine that the handlers of a trap leave for its way back. Misses and faults
have no way back. -/
def handled? (k : Kernel) (m : Machine) (cpu : CpuId) (frameAddr : UInt64) (f : ExceptionFrame) :
    Option (ExceptionFrame × Machine) :=
  match classify f.estat f.fromUser with
  | .syscall => some (runSyscall k (m.inSyscall cpu f) cpu frameAddr f.atSyscall)
  | .interrupt =>
    let drained := (drain k (((m.record f).enter cpu).captureUserEntry (f.setKind .irq)) cpu).2
    some (f.setKind .irq, (drained.setNeedResched cpu).emit .reschedule)
  | .miss _ | .fatal _ => none

section

variable {k : Kernel} {m n : Machine} {cpu : CpuId} {frameAddr : UInt64} {f g : ExceptionFrame}

theorem dispatch_of_handled? (h : handled? k m cpu frameAddr f = some (g, n)) :
    dispatch k m cpu frameAddr f =
      ⟨.resume, (n.returnToUser cpu g).1, (n.returnToUser cpu g).2.leave cpu⟩ := by
  unfold handled? at h
  cases hc : classify f.estat f.fromUser with
  | syscall =>
    simp only [hc, Option.some.injEq] at h
    rw [dispatch_of_syscall hc, h]
  | interrupt =>
    simp only [hc, Option.some.injEq, Prod.mk.injEq] at h
    obtain ⟨rfl, rfl⟩ := h
    unfold dispatch
    rw [hc]
    rfl
  | miss kind | fatal fault => simp [hc] at h

/-- Handlers never change the frame: apart from the signal return, which reloads it, all that is new
is the marks of the trap and the result. -/
theorem onWayOut_of_handled? (h : handled? k m cpu frameAddr f = some (g, n))
    (hne : f.syscallNumber ≠ sigReturnNumber) : f.OnWayOut g := by
  have hcomplete : ∀ (m : Machine) (result : Except SyscallError UInt64),
      f.OnWayOut (m.completeSyscall cpu f.atSyscall result).1 := by
    intro m result
    cases result with
    | ok value => exact .answered value
    | error e => exact .unanswered
  unfold handled? at h
  cases hc : classify f.estat f.fromUser with
  | interrupt =>
    simp only [hc, Option.some.injEq, Prod.mk.injEq] at h
    rw [← h.1]
    exact .interrupt
  | miss kind | fatal fault => simp [hc] at h
  | syscall =>
    simp only [hc, Option.some.injEq] at h
    have hg : (runSyscall k (m.inSyscall cpu f) cpu frameAddr f.atSyscall).1 = g := by rw [h]
    rw [← hg]
    have hnr : f.atSyscall.syscallNumber = f.syscallNumber := rfl
    unfold runSyscall
    rw [hnr]
    cases hr : SyscallRoute.ofNumber f.syscallNumber with
    | sigReturn => exact absurd hr (SyscallRoute.ofNumber_ne_sigReturn hne)
    | standard slot | extended slot | invalid nr => exact hcomplete _ _

/-- A register write that falls into the outermost trap of a task from user mode, after the entry
and before the way back. -/
structure WriteInTrap (k : Kernel) (m : Machine) (cpu : CpuId) (frameAddr : UInt64)
    (f : ExceptionFrame) (g : ExceptionFrame) (n : Machine) (id : TaskId) (task : Task)
    (d : DebugFrame) : Prop where
  handled : handled? k m cpu frameAddr f = some (g, n)
  user : g.fromUser = true
  outermost : (n.slot cpu).depth = 1
  current : n.currentTask? = some (id, task)
  written : task.Written id d

variable {id : TaskId} {task : Task} {d : DebugFrame}

/-- A register write that falls into a trap does not reach the frame: with other registers written,
or none, the trap restores the same one, whatever signals are taken on the way. With no signal and
no restart this is the frame that the handlers left, so the task resumes with what was written only
if it had those registers anyway. The debugger reads its own registers back all the same. -/
theorem register_write_misses_frame (h : WriteInTrap k m cpu frameAddr f g n id task d) :
    let done := dispatch k m cpu frameAddr f
    done.outcome = .resume ∧
      (∀ s, ((n.putTask id (task.captured s)).returnToUser cpu g).1 = done.frame) ∧
      Debugger.readRegs done.machine.tasks id = .ok d.stored ∧
      (f.syscallNumber ≠ sigReturnNumber → f.OnWayOut g) ∧
      (task.isAlive = true → task.signals.deliverable = [] →
        (g.kind = .syscall → ∀ code : RestartCode, g.a0 ≠ code.word) →
        done.frame = g ∧
          (DebugFrame.ofFrame done.frame = d.stored ↔ DebugFrame.ofFrame g = d.stored)) := by
  intro done
  have hdone : done = ⟨.resume, (n.returnToUser cpu g).1, (n.returnToUser cpu g).2.leave cpu⟩ :=
    dispatch_of_handled? h.handled
  refine ⟨by rw [hdone], fun s => ?_, ?_, onWayOut_of_handled? h.handled,
    fun halive hidle hno => ?_⟩
  · rw [hdone]
    exact returnToUser_captured h.user h.outermost h.current s
  · have hread : done.machine.tasks.find? id =
        some ((n.beginReturn cpu).wayBack id task g).task := by
      have hfind : (n.beginReturn cpu).tasks.find? id = some task :=
        (currentTask?_eq_some_iff.1 ((currentTask?_beginReturn n cpu).trans h.current)).2
      rw [hdone, returnToUser_of_outermost h.user h.outermost h.current, tasks_leave,
        tasks_afterBack]
      exact TaskTable.find?_put_same hfind _
    unfold Debugger.readRegs
    rw [TaskTable.traced_of_find? hread, ← captured_wayBack _ id g h.written.1]
    exact congrArg Except.ok h.written.ofFrame_shadow
  · have hframe : done.frame = g := by
      rw [hdone]
      exact returnToUser_of_quiet h.user h.outermost h.current halive hidle hno
    exact ⟨hframe, by rw [hframe]⟩

end

end Machine

/-! ## A call that writes its caller's registers -/

/-- A kernel in which every standard syscall writes the registers of the first task, and gives zero
if it was allowed to. -/
def Kernel.writing (d : DebugFrame) : Kernel where
  syscalls := ⟨⟨Vector.replicate _ (some fun _ m =>
    match Debugger.writeRegs m.tasks ⟨0⟩ d with
    | .ok tasks => (0, { m with tasks := tasks })
    | .error _ => (1, m))⟩, .empty⟩
  irqs := .empty
  raises := 0

/-- Registers of user code elsewhere. -/
def DebugFrame.elsewhere : DebugFrame := .ofFrame (.ofUser 0x20000 0x90000)

theorem writeInTrap_running :
    let f := ExceptionFrame.ofCall
    let ran := Machine.runSyscall (.writing .elsewhere)
      ((Machine.running .caller).inSyscall .boot f) .boot 0 f.atSyscall
    Machine.WriteInTrap (.writing .elsewhere) (.running .caller) .boot 0 f ran.1 ran.2 ⟨0⟩
      (Task.caller.captured (DebugFrame.elsewhere.overwrite f.atSyscall)) .elsewhere := by
  intro f ran
  have hfind : ((Machine.running .caller).inSyscall .boot f).tasks.find? ⟨0⟩ =
      some (Task.caller.captured f.atSyscall) :=
    (Machine.currentTask?_eq_some_iff.1 (Machine.currentTask?_inSyscall (by decide +kernel) rfl)).2
  have huser : DebugFrame.elsewhere.validate = .ok () := if_pos (by decide +kernel)
  have hwrite := writeRegs_of_trapped hfind rfl .elsewhere
  rw [huser] at hwrite
  refine ⟨?_, ?_, ?_, ?_, rfl, _, _, _, hfind, rfl, hwrite, ?_⟩
  · unfold Machine.handled?
    rw [show classify f.estat f.fromUser = .syscall by decide +kernel]
  · decide +kernel
  · decide +kernel
  · decide +kernel
  · rw [TaskTable.find?_put_same hfind]
    rfl

/-- The call was allowed to write, and a debugger reads the registers back, but the caller resumes
with those of its call. -/
theorem register_write_misses_frame_running :
    let f := ExceptionFrame.ofCall
    let done := Machine.dispatch (.writing .elsewhere) (.running .caller) .boot 0 f
    Debugger.readRegs done.machine.tasks ⟨0⟩ = .ok DebugFrame.elsewhere.stored ∧
      f.OnWayOut done.frame ∧ DebugFrame.ofFrame done.frame ≠ DebugFrame.elsewhere.stored := by
  intro f done
  have hdone : done = Machine.dispatch (.writing .elsewhere) (.running .caller) .boot 0
    ExceptionFrame.ofCall := rfl
  obtain ⟨-, -, hread, hway, hidle⟩ := Machine.register_write_misses_frame writeInTrap_running
  obtain ⟨hframe, htakes⟩ := hidle rfl (by decide +kernel) (fun _ code => by
    cases code <;> decide +kernel)
  rw [hdone]
  refine ⟨hread, ?_, ?_⟩
  · rw [hframe]
    exact hway (by decide +kernel)
  · rw [ne_eq, htakes]
    decide +kernel

/-- A write that was allowed is lost: the caller resumes behind its call, on its own stack. -/
theorem register_write_lost :
    let f := ExceptionFrame.ofCall
    let d := DebugFrame.elsewhere
    let done := Machine.dispatch (.writing d) (.running .caller) .boot 0 f
    done.frame.a0 = 0 ∧ done.frame.era = f.era + 4 ∧ done.frame.era ≠ d.era ∧
      done.frame.sp = f.sp ∧ done.frame.sp ≠ d.regs.read Reg.sp := by
  decide +kernel

end TrapLayer
