import TrapLayer.Proofs.SyscallRestart

/-!
# A call without a handler

A number that nobody handles changes nothing: no handler writes a result, so the caller goes on
behind the instruction with every register as it was. The signal pass comes later and knows nothing
of the lookup. It takes what stands in `a0` of a syscall frame for a result, and here that is the
caller's own argument; one that happens to be a restart code is acted on.

* `runSyscall_of_unhandled`: the lookup leaves the frame alone, and of the machine all but the
  hardware.
* `returnToUser_of_idle`: the way back without a signal decides a restart and nothing else.
* `unhandled_call_ignored_iff`: the call is ignored exactly when `a0` holds no restart code.
* `unhandled_call_rewritten`: a code in `a0` turns the call into another one.
-/
namespace TrapLayer

/-! ## The frame -/

namespace ExceptionFrame

/-- A caller that passes a code as its first argument looks like a call that left the code. -/
theorem atSyscall_of_code {f : ExceptionFrame} {code : RestartCode} (h : f.a0 = code.word) :
    f.atSyscall = f.interrupted code := by
  unfold interrupted setA0
  rw [← h]
  show f.atSyscall = { f.atSyscall with regs := f.regs.put Reg.a0 (f.regs.read Reg.a0) }
  rw [RegFile.put_read]
  rfl

end ExceptionFrame

/-! ## The lookup -/

namespace Machine

/-- Without a handler nothing but the hardware is touched: the mode is switched and put back, and
the number is logged. -/
theorem runSyscall_of_unhandled {k : Kernel} (m : Machine) (cpu : CpuId) (frameAddr : UInt64)
    {f : ExceptionFrame} (hne : f.syscallNumber ≠ sigReturnNumber)
    (hh : k.syscalls.handler? f.syscallNumber = none) :
    ∃ hw : Hardware, runSyscall k m cpu frameAddr f = (f, { m with hw := hw }) := by
  rcases runSyscall_of_none hh m cpu frameAddr with ⟨he, -⟩ | ⟨-, n, hmode, heq⟩
  · exact absurd he hne
  · rcases hmode with rfl | ⟨v, v', rfl⟩
    · exact ⟨_, heq⟩
    · exact ⟨_, heq⟩

/-! ## The way back -/

theorem returnToUser_of_idle {m : Machine} {cpu : CpuId} {f : ExceptionFrame} {id : TaskId}
    {task : Task} (huser : f.fromUser = true) (hdepth : (m.slot cpu).depth = 1)
    (hcur : m.currentTask? = some (id, task)) (halive : task.isAlive = true)
    (hidle : task.signals.deliverable = []) :
    (m.returnToUser cpu f).1 = f.restarted (f.kind == .syscall) none := by
  have hpass : (m.beginReturn cpu).wayBack id task f =
      signalPass (m.beginReturn cpu).hw id task f := wayBack_of_alive _ id f halive
  have hign : ∀ s ∈ task.signals.deliverable, task.Ignores s := by
    rw [hidle]
    exact nofun
  rw [returnToUser_of_outermost huser hdepth hcur, hpass, signalPass_ignored _ id f hign]

/-! ## The call -/

theorem currentTask?_inSyscall {m : Machine} {cpu : CpuId} {f : ExceptionFrame} {id : TaskId}
    {task : Task} (huser : f.fromUser = true) (h : m.currentTask? = some (id, task)) :
    (m.inSyscall cpu f).currentTask? = some (id, task.captured f.atSyscall) := by
  have henter : ((m.record f).enter cpu).currentTask? = some (id, task) := h
  obtain ⟨hcur, hfind⟩ := currentTask?_eq_some_iff.1 henter
  have huser' : f.atSyscall.fromUser = true := huser
  unfold inSyscall
  rw [captureUserEntry_of_current huser' henter, currentTask?_eq_some_iff]
  exact ⟨hcur, TaskTable.find?_put_same hfind _⟩

/-- A call from user mode that nobody handles, made by a live task at the outermost level of its
core, with no signal to deliver. -/
structure UnhandledCall (k : Kernel) (m : Machine) (cpu : CpuId) (f : ExceptionFrame)
    (id : TaskId) (task : Task) : Prop where
  cause : classify f.estat f.fromUser = .syscall
  outermost : (m.slot cpu).depth = 0
  notReturn : f.syscallNumber ≠ sigReturnNumber
  unhandled : k.syscalls.handler? f.syscallNumber = none
  current : m.currentTask? = some (id, task)
  alive : task.isAlive = true
  idle : task.signals.deliverable = []

section

variable {k : Kernel} {m : Machine} {cpu : CpuId} {f : ExceptionFrame} {id : TaskId} {task : Task}

theorem dispatch_of_unhandled (h : UnhandledCall k m cpu f id task) (frameAddr : UInt64) :
    (dispatch k m cpu frameAddr f).outcome = .resume ∧
      (dispatch k m cpu frameAddr f).frame = f.atSyscall.restarted true none := by
  have huser := fromUser_of_classify h.cause
  obtain ⟨hw, hrun⟩ := runSyscall_of_unhandled (k := k) (m.inSyscall cpu f) cpu frameAddr
    (f := f.atSyscall) h.notReturn h.unhandled
  have hdepth : (({ m.inSyscall cpu f with hw := hw } : Machine).slot cpu).depth = 1 := by
    have hin : ((m.inSyscall cpu f).slot cpu).depth = (m.slot cpu).depth + 1 :=
      depth_inSyscall m cpu f
    rw [h.outermost] at hin
    exact hin
  have hcur : ({ m.inSyscall cpu f with hw := hw } : Machine).currentTask? =
      some (id, task.captured f.atSyscall) := currentTask?_inSyscall huser h.current
  have hback := returnToUser_of_idle (f := f.atSyscall) huser hdepth hcur h.alive h.idle
  have hkind : (f.atSyscall.kind == FrameKind.syscall) = true := by
    have hk : f.atSyscall.kind = .syscall := ExceptionFrame.kind_setKind _ _
    rw [hk]
    rfl
  rw [hkind] at hback
  rw [dispatch_of_syscall h.cause, hrun]
  exact ⟨rfl, hback⟩

/-- A call that nobody handles is ignored exactly when its first argument is no restart code: the
trap resumes behind the instruction, and of the frame only the marks of a syscall are new. An
argument that is a code is acted on as if a handler had left it there: the call is made again, and
a restart block also replaces its number. -/
theorem unhandled_call_ignored_iff (h : UnhandledCall k m cpu f id task) (frameAddr : UInt64) :
    let done := dispatch k m cpu frameAddr f
    done.outcome = .resume ∧
      ((done.frame.regs = f.regs ∧ done.frame.era = f.era + 4) ↔
        ∀ code : RestartCode, f.a0 ≠ code.word) ∧
      ((∀ code : RestartCode, f.a0 ≠ code.word) → done.frame = f.atSyscall) ∧
      ∀ code : RestartCode, f.a0 = code.word →
        done.frame.regs =
            (if code = .restartBlock then f.regs.put Reg.a7 restartNumber else f.regs) ∧
          done.frame.era = f.era := by
  intro done
  obtain ⟨hout, hframe⟩ := dispatch_of_unhandled h frameAddr
  have hquiet : (∀ code : RestartCode, f.a0 ≠ code.word) → done.frame = f.atSyscall := by
    intro hno
    exact hframe.trans (ExceptionFrame.restarted_of_no_code (f := f.atSyscall) hno true none)
  have hcode : ∀ code : RestartCode, f.a0 = code.word →
      done.frame.regs =
          (if code = .restartBlock then f.regs.put Reg.a7 restartNumber else f.regs) ∧
        done.frame.era = f.era := by
    intro code ha
    have hdone : done.frame = (f.interrupted code).restarted true none := by
      rw [← ExceptionFrame.atSyscall_of_code ha]
      exact hframe
    rw [hdone]
    exact ExceptionFrame.restarted_without_handler f code
  refine ⟨hout, ⟨?_, ?_⟩, hquiet, hcode⟩
  · -- the program counter tells the two apart
    rintro ⟨-, hera⟩ code ha
    rw [(hcode code ha).2] at hera
    have hmove : f.era ≠ f.era + 4 := by simp
    exact hmove hera
  · intro hno
    rw [hquiet hno]
    exact ⟨rfl, rfl⟩

end

end Machine

/-! ## Two unhandled calls -/

/-- A kernel without handlers. -/
def Kernel.bare : Kernel := ⟨.empty, .empty, 0⟩

/-- A call of number 63 whose first argument is `a0`. -/
def ExceptionFrame.ofCallWith (a0 : UInt64) : ExceptionFrame := ofCall.setA0 a0

/-- A task that is about to make a call. -/
def Task.caller : Task := Task.spawned ⟨0⟩ ⟨0x4000, 0x100000, 0, 0, ⟨0⟩⟩

theorem unhandledCall_running :
    Machine.UnhandledCall .bare (.running .caller) .boot (.ofCallWith 0x77) ⟨0⟩ .caller where
  cause := by decide +kernel
  outermost := rfl
  notReturn := by decide +kernel
  unhandled := by
    have hr : SyscallRoute.ofNumber (ExceptionFrame.ofCallWith 0x77).syscallNumber =
        .standard 63 := by decide +kernel
    unfold SyscallTables.handler?
    rw [hr]
    rfl
  current := rfl
  alive := rfl
  idle := by decide +kernel

/-- A call with an ordinary argument is ignored. -/
theorem unhandled_call_ignored_running :
    (Machine.dispatch .bare (.running .caller) .boot 0 (.ofCallWith 0x77)).frame =
      (ExceptionFrame.ofCallWith 0x77).atSyscall := by
  refine (Machine.unhandled_call_ignored_iff unhandledCall_running 0).2.2.1 ?_
  intro code
  cases code <;> decide +kernel

/-- A call whose argument is the code of a restart block is made again, as another call. -/
theorem unhandled_call_rewritten :
    let f := ExceptionFrame.ofCallWith RestartCode.restartBlock.word
    let done := Machine.dispatch .bare (.running .caller) .boot 0 f
    done.frame.era = f.era ∧ done.frame.era ≠ f.era + 4 ∧
      f.syscallNumber = 63 ∧ done.frame.syscallNumber = restartNumber := by
  decide +kernel

end TrapLayer
