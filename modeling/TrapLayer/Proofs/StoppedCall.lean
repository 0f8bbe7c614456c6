import TrapLayer.Proofs.UnhandledCall

/-!
# A call that is stopped is left undecided

The signal pass decides what becomes of an interrupted call when it resumes the task, and when it
enters a handler. The exit that stops the task comes before either decision. Its trap resumes like
any other once the task is continued, and nothing looks at the frame again, so the caller finds the
restart code as its result.

* `MadeAgain`: what the decision without a handler makes of a frame.
* `wayBack_stopped_iff`: when the way back of a task ends with the task stopped.
* `stopped_call_left_undecided`: then the frame is as the handler of the call left it.
* `stopped_call_shows_code`: a caller that is stopped finds the code.
-/
namespace TrapLayer

/-- The frame of the call `f`, made again because no handler runs: with the registers that it had,
but through the restart call if there is a block to restart from. -/
def ExceptionFrame.MadeAgain (g f : ExceptionFrame) (code : RestartCode) : Prop :=
  g.regs = (if code = .restartBlock then f.regs.put Reg.a7 restartNumber else f.regs) ∧
    g.era = f.era

theorem madeAgain_of_resume {hw : Hardware} {id : TaskId} {task : Task} {f : ExceptionFrame}
    {code : RestartCode} (h : (signalPass hw id task (f.interrupted code)).outcome = .resume) :
    (signalPass hw id task (f.interrupted code)).frame.MadeAgain f code := by
  rw [signalPass_ignored hw id _ ((outcome_eq_resume_iff hw id _).1 h),
    ExceptionFrame.kind_interrupted]
  exact ExceptionFrame.restarted_without_handler f code

namespace Machine

section

variable {k : Kernel} {m ran : Machine} {cpu : CpuId} {frameAddr : UInt64} {f : ExceptionFrame}
  {code : RestartCode} {id : TaskId} {task : Task}

/-- The way back stops a task that was stopped before, or one whose first signal stops it. -/
theorem wayBack_stopped_iff (m : Machine) (id : TaskId) (task : Task) (g : ExceptionFrame)
    (sig : Signal) :
    (m.wayBack id task g).outcome = .stopped sig ↔
      task.state = .stopped sig ∨
        task.isAlive = true ∧ task.TakesFirst sig ∧
          (task.signals.action sig).disposition sig = .stop := by
  cases hs : task.state with
  | killed s => simp [wayBack, Task.isAlive, hs]
  | stopped s => simp [wayBack, Task.isAlive, hs]
  | ready | running =>
    have halive : task.isAlive = true := by unfold Task.isAlive; rw [hs]
    rw [wayBack_of_alive m id g halive, outcome_eq_stopped_iff, halive]
    simp

theorem wayBack_of_stopped {m : Machine} {g : ExceptionFrame} {sig : Signal}
    (h : (m.wayBack id task g).outcome = .stopped sig) :
    (m.wayBack id task g).frame = g ∧ (m.wayBack id task g).task.state = .stopped sig := by
  rcases (wayBack_stopped_iff m id task g sig).1 h with hs | ⟨halive, hfirst, hstop⟩
  · unfold wayBack
    rw [hs]
    exact ⟨rfl, hs⟩
  · rw [wayBack_of_alive m id g halive]
    obtain ⟨pending, hpass⟩ := signalPass_of_stop m.hw id g hfirst hstop
    rw [hpass]
    exact ⟨rfl, rfl⟩

theorem find?_after_call (hcur : ran.currentTask? = some (id, task)) (p : Pass) :
    (((m.wayOut cpu f ran).afterBack id p).leave cpu).tasks.find? id = some p.task := by
  have hback : (m.wayOut cpu f ran).currentTask? = some (id, task) :=
    (wayOut_of_outermost m cpu f ran).trans hcur
  rw [tasks_leave, tasks_afterBack]
  exact TaskTable.find?_put_same (currentTask?_eq_some_iff.1 hback).2 p.task

/-- A call that left a restart code and is stopped on its way back keeps the code: the trap resumes
behind the instruction with the code in `a0`. One more pass over the frame would decide it, but the
trap that is left is not revisited. A call whose way back resumes the task is decided there. -/
theorem stopped_call_left_undecided (h : HandledCall k m cpu frameAddr f code.word ran)
    (hcur : ran.currentTask? = some (id, task)) :
    let back := (m.wayOut cpu f ran).wayBack id task (f.interrupted code)
    let done := dispatch k m cpu frameAddr f
    (∀ sig, back.outcome = .stopped sig ↔
      task.state = .stopped sig ∨
        task.isAlive = true ∧ task.TakesFirst sig ∧
          (task.signals.action sig).disposition sig = .stop) ∧
    (∀ sig, back.outcome = .stopped sig →
      done.outcome = .resume ∧
      (done.machine.tasks.find? id).map Task.state = some (.stopped sig) ∧
      done.frame = f.interrupted code ∧ done.frame.a0 = code.word ∧ done.frame.era = f.era + 4 ∧
      ∀ (hw : Hardware) (later : Task), later.signals.deliverable = [] →
        (signalPass hw id later done.frame).frame.MadeAgain f code) ∧
    (back.outcome = .resume → done.frame.MadeAgain f code) := by
  intro back done
  have hdone : done = ⟨.resume, back.frame, ((m.wayOut cpu f ran).afterBack id back).leave cpu⟩ :=
    dispatch_of_handled h hcur
  refine ⟨fun sig => wayBack_stopped_iff _ id task _ sig, fun sig hout => ?_, fun hout => ?_⟩
  · obtain ⟨hframe, hstate⟩ := wayBack_of_stopped hout
    have hdoneframe : done.frame = f.interrupted code := by
      rw [hdone]
      exact hframe
    refine ⟨by rw [hdone], ?_, hdoneframe, ?_, ?_, fun hw later hidle => ?_⟩
    · rw [hdone]
      dsimp only
      rw [find?_after_call hcur]
      exact congrArg some hstate
    · rw [hdoneframe]
      exact RegFile.read_put_same _ _ _
    · rw [hdoneframe]
      rfl
    · rw [hdoneframe]
      refine madeAgain_of_resume ((outcome_eq_resume_iff hw id _).2 ?_)
      rw [hidle]
      exact nofun
  · have halive : task.isAlive = true := by
      cases hs : task.state with
      | killed s | stopped s => simp [back, wayBack, hs] at hout
      | ready | running => unfold Task.isAlive; rw [hs]
    have hpass : back = signalPass (m.wayOut cpu f ran).hw id task (f.interrupted code) :=
      wayBack_of_alive _ id _ halive
    rw [hpass] at hout
    rw [hdone, hpass]
    exact madeAgain_of_resume hout

end

end Machine

/-! ## A caller that is stopped -/

/-- A running task with a child signal and a stop pending. -/
def Task.stopping : Task :=
  let task := Task.handling Signal.stop .unset
  { task with signals := task.signals.queue Signal.chld (.ofKernel Signal.chld) }

/-- A running task whose calls leave a code makes the call of `f`. -/
theorem handledCall_running (code : RestartCode) (task : Task) (a0 : UInt64) :
    Machine.HandledCall (.interrupting code) (.running task) .boot 0 (.ofCallWith a0) code.word
      ((Machine.running task).atHandler .boot (.ofCallWith a0)) where
  cause := by
    show classify ExceptionFrame.ofCall.estat ExceptionFrame.ofCall.fromUser = .syscall
    decide +kernel
  outermost := rfl
  handler := by
    refine ⟨fun _ m => (code.word, m), ?_, rfl⟩
    have hnr : (ExceptionFrame.ofCallWith a0).syscallNumber =
        ExceptionFrame.ofCall.syscallNumber := RegFile.read_put_of_ne _ (by decide) _
    have hr : SyscallRoute.ofNumber ExceptionFrame.ofCall.syscallNumber = .standard 63 := by
      decide +kernel
    unfold SyscallTables.handler?
    rw [hnr, hr]
    rfl
  balanced := rfl

/-- The child signal is dropped, the stop ends the pass, and the block to restart from is lost. -/
theorem stopped_call_left_undecided_running :
    let f := ExceptionFrame.ofCallWith 0x77
    let done := Machine.dispatch (.interrupting .restartBlock) (.running .stopping) .boot 0 f
    done.outcome = .resume ∧
      (done.machine.tasks.find? ⟨0⟩).map Task.state = some (.stopped Signal.stop) ∧
      done.frame = f.interrupted .restartBlock := by
  intro f done
  have hstop : (((Machine.running .stopping).wayOut .boot f
      ((Machine.running .stopping).atHandler .boot f)).wayBack ⟨0⟩
        (Task.stopping.captured f.atSyscall) (f.interrupted .restartBlock)).outcome =
      .stopped Signal.stop := by
    decide +kernel
  have hdone : done = Machine.dispatch (.interrupting .restartBlock) (.running .stopping) .boot 0
    (ExceptionFrame.ofCallWith 0x77) := rfl
  obtain ⟨hout, hstate, hframe, -⟩ := (Machine.stopped_call_left_undecided
    (handledCall_running .restartBlock .stopping 0x77) rfl).2.1 Signal.stop hstop
  rw [hdone]
  exact ⟨hout, hstate, hframe⟩

/-- A caller that is stopped finds the code as its result, behind the instruction; the decision
without a handler would have put its argument back. -/
theorem stopped_call_shows_code :
    let f := ExceptionFrame.ofCallWith 0x77
    let done := Machine.dispatch (.interrupting .sys) (.running .stopping) .boot 0 f
    (done.machine.tasks.find? ⟨0⟩).map Task.state = some (.stopped Signal.stop) ∧
      done.outcome = .resume ∧ done.frame.a0 = -512 ∧ done.frame.a0 ≠ f.a0 ∧
      done.frame.era ≠ f.era := by
  decide +kernel

end TrapLayer
