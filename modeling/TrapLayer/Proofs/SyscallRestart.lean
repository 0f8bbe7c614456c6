import TrapLayer.Proofs.Machine
import TrapLayer.Proofs.Signal.Pass
import TrapLayer.Proofs.Signal.RoundTrip

/-!
# An interrupted call is settled once

A call that a signal interrupts leaves a restart code; the signal pass at the end of its own trap
decides what becomes of it, and marks the frame. From then on the registers say the whole: back on
the instruction with the arguments as they were, or behind it with a failure. A handler that runs in
between only delays that, since its return gives back the frame the pass had decided.

* `restarted_interrupted`: the decision, carried out on the frame.
* `sigreturn_after_interrupted`: the return of a handler gives the decided frame back.
* `runSyscall_of_handler`, `runSyscall_of_none`: a registered handler runs and its result lands in
  `a0`; a number without one is the signal return, or is logged.
* `dispatch_of_syscall`: the trap of a syscall, as what its number goes to and the way back.
* `dispatch_of_handled`: the trap of a call ends with the way back of the task that made it.
* `dispatch_of_call`: the trap of an interrupted call ends with one signal pass.
* `interrupted_call_settled_once`: the call restarts or fails, and later passes change nothing.
-/
namespace TrapLayer

/-! ## The decision on the frame -/

theorem RegFile.put_put (r : RegFile) (i : Fin 32) (v w : UInt64) :
    (r.put i v).put i w = r.put i w := by
  unfold put; exact Vector.set_set ..

namespace ExceptionFrame

/-- A syscall frame on the way back from a handler that left a code. -/
def interrupted (f : ExceptionFrame) (code : RestartCode) : ExceptionFrame :=
  f.atSyscall.setA0 code.word

theorem kind_setKind (f : ExceptionFrame) (k : FrameKind) : (f.setKind k).kind = k :=
  FrameKind.ofWord_word k

theorem kind_interrupted (f : ExceptionFrame) (code : RestartCode) :
    (f.interrupted code).kind = .syscall := FrameKind.ofWord_word .syscall

theorem restarted_interrupted (f : ExceptionFrame) (code : RestartCode)
    (handler : Option SigAction) :
    (f.interrupted code).restarted true handler =
      ((f.interrupted code).restartWith (code.decide handler)).setKind .exception := by
  have hcode : (f.interrupted code).restartCode? = some code := by
    unfold restartCode?
    rw [if_pos (kind_interrupted f code)]
    have ha0 : (f.interrupted code).a0 = code.word := RegFile.read_put_same _ _ _
    rw [ha0, RestartCode.ofReturn?_word]
  unfold restarted applyRestart
  rw [if_pos rfl, hcode]

/-- Rewinding an interrupted frame gives the registers and the address back that it had on entry. -/
theorem rewind_interrupted (f : ExceptionFrame) (code : RestartCode) :
    (f.interrupted code).rewind.regs = f.regs ∧ (f.interrupted code).rewind.era = f.era := by
  constructor
  · show (f.regs.put Reg.a0 code.word).put Reg.a0 (f.regs.read Reg.a0) = f.regs
    rw [RegFile.put_put, RegFile.put_read]
  · show f.era + syscallInsnSize - syscallInsnSize = f.era
    exact UInt64.add_sub_cancel _ _

/-- Without a handler the call is made again, through the restart call if it has a block. -/
theorem restarted_without_handler (f : ExceptionFrame) (code : RestartCode) :
    ((f.interrupted code).restarted true none).regs =
        (if code = .restartBlock then f.regs.put Reg.a7 restartNumber else f.regs) ∧
      ((f.interrupted code).restarted true none).era = f.era := by
  obtain ⟨hregs, hera⟩ := rewind_interrupted f code
  rw [restarted_interrupted]
  cases code with
  | restartBlock =>
    refine ⟨?_, hera⟩
    show (f.interrupted .restartBlock).rewind.regs.put Reg.a7 restartNumber = _
    rw [hregs]; rfl
  | noHand => exact ⟨hregs, hera⟩
  | sys => exact ⟨hregs, hera⟩
  | noIntr => exact ⟨hregs, hera⟩

/-- An action lets a call that left `code` be made again after its handler. -/
def Resumes (code : RestartCode) (action : SigAction) : Prop :=
  code = .noIntr ∨ code = .sys ∧ action.has SigFlag.restart = true

/-- With a handler the call is made again afterwards, or it fails behind the instruction. -/
theorem restarted_with_handler (f : ExceptionFrame) (code : RestartCode) (action : SigAction) :
    (Resumes code action → ((f.interrupted code).restarted true (some action)).regs = f.regs ∧
        ((f.interrupted code).restarted true (some action)).era = f.era) ∧
      (¬ Resumes code action →
        ((f.interrupted code).restarted true (some action)).regs = f.regs.put Reg.a0 (-4) ∧
        ((f.interrupted code).restarted true (some action)).era = f.era + 4) := by
  obtain ⟨hregs, hera⟩ := rewind_interrupted f code
  have hfail : ((f.interrupted code).setA0 interruptedResult).regs = f.regs.put Reg.a0 (-4) :=
    RegFile.put_put f.regs Reg.a0 code.word (-4)
  rw [restarted_interrupted]
  cases code with
  | noIntr => exact ⟨fun _ => ⟨hregs, hera⟩, fun hn => absurd (.inl rfl) hn⟩
  | sys =>
    by_cases ha : action.has SigFlag.restart = true
    · have hd : RestartCode.sys.decide (some action) = .rewind := if_pos ha
      rw [hd]
      exact ⟨fun _ => ⟨hregs, hera⟩, fun hn => absurd (.inr ⟨rfl, ha⟩) hn⟩
    · have hd : RestartCode.sys.decide (some action) = .interrupt := if_neg ha
      rw [hd]
      refine ⟨?_, fun _ => ⟨hfail, rfl⟩⟩
      rintro (hc | ⟨-, hr⟩)
      · cases hc
      · exact absurd hr ha
  | noHand =>
    refine ⟨?_, fun _ => ⟨hfail, rfl⟩⟩
    rintro (hc | ⟨hc, -⟩) <;> cases hc
  | restartBlock =>
    refine ⟨?_, fun _ => ⟨hfail, rfl⟩⟩
    rintro (hc | ⟨hc, -⟩) <;> cases hc

theorem read_restarted (f : ExceptionFrame) (code : RestartCode) (action : SigAction) {i : Fin 32}
    (hi : i ≠ Reg.a0) :
    ((f.interrupted code).restarted true (some action)).regs.read i = f.regs.read i := by
  obtain ⟨hagain, hfail⟩ := restarted_with_handler f code action
  by_cases hr : Resumes code action
  · rw [(hagain hr).1]
  · rw [(hfail hr).1, RegFile.read_put_of_ne _ hi]

theorem kind_restarted (f : ExceptionFrame) (code : RestartCode) (handler : Option SigAction) :
    ((f.interrupted code).restarted true handler).kind = .exception := by
  rw [restarted_interrupted]
  exact kind_setKind _ _

end ExceptionFrame

/-! ## The handler in between -/

section

variable {hw later : Hardware} {id : TaskId} {task : Task} {f laterFrame : ExceptionFrame}
  {code : RestartCode} {sig : Signal} {handler top : UInt64}

theorem signalPass_interrupted (hmem : sig ∈ task.signals.deliverable)
    (hlow : ∀ s ∈ task.signals.deliverable, s < sig → task.Ignores s)
    (hact : (task.signals.action sig).disposition sig = .handler handler)
    (hout : (signalPass hw id task (f.interrupted code)).outcome = .delivered sig) :
    ∃ (taken : Task) (d : Delivery), taken.signals.altstack = task.signals.altstack ∧
      taken.signals.actions = task.signals.actions ∧
      deliver hw taken sig (task.signals.info sig)
          ((f.interrupted code).restarted true (some (task.signals.action sig))) =
        (.ok d, (signalPass hw id task (f.interrupted code)).hw) ∧
      (signalPass hw id task (f.interrupted code)).frame = d.frame := by
  have hkind : ((f.interrupted code).kind == FrameKind.syscall) = true := by
    rw [ExceptionFrame.kind_interrupted]; rfl
  have hpass := signalPass_delivered hmem hlow hact hout
  rw [hkind] at hpass
  exact hpass

theorem kind_signalPass_interrupted (hmem : sig ∈ task.signals.deliverable)
    (hlow : ∀ s ∈ task.signals.deliverable, s < sig → task.Ignores s)
    (hact : (task.signals.action sig).disposition sig = .handler handler)
    (hout : (signalPass hw id task (f.interrupted code)).outcome = .delivered sig) :
    (signalPass hw id task (f.interrupted code)).frame.kind = .exception := by
  obtain ⟨taken, d, -, -, hd, hframe⟩ := signalPass_interrupted hmem hlow hact hout
  rw [hframe, kind_of_deliver hd]
  exact ExceptionFrame.kind_restarted f code _

/-- The matching return gives back the frame that the pass had decided. -/
theorem sigreturn_after_interrupted (laterTask : Task) (hmem : sig ∈ task.signals.deliverable)
    (hlow : ∀ s ∈ task.signals.deliverable, s < sig → task.Ignores s)
    (hact : (task.signals.action sig).disposition sig = .handler handler)
    (hout : (signalPass hw id task (f.interrupted code)).outcome = .delivered sig)
    (hz : f.regs.read Reg.zero = 0)
    (htop : signalStackTop task.signals.altstack (task.signals.action sig).flags f.sp = some top)
    (hkeep : (signalPass hw id task (f.interrupted code)).hw.Keeps later
      (signalPass hw id task (f.interrupted code)).frame.sp.toNat top.toNat)
    (hsp : laterFrame.sp = (signalPass hw id task (f.interrupted code)).frame.sp) :
    let decided := (f.interrupted code).restarted true (some (task.signals.action sig))
    ∃ (back : Returned) (hw' : Hardware),
      sigreturn later laterTask laterFrame = (.ok back, hw') ∧
      back.frame.regs = decided.regs ∧ back.frame.era = decided.era ∧
      back.frame.kind = .sigReturn := by
  intro decided
  obtain ⟨taken, d, halt, hactions, hd, hframe⟩ := signalPass_interrupted hmem hlow hact hout
  have haction : taken.signals.action sig = task.signals.action sig := by
    unfold SignalState.action; rw [hactions]
  have haddr : (signalPass hw id task (f.interrupted code)).frame.sp = d.addr :=
    (congrArg ExceptionFrame.sp hframe).trans (sp_of_deliver hd)
  -- the decision leaves the stack pointer alone, so the stack top is that of the call
  have hdecided : signalStackTop taken.signals.altstack (taken.signals.action sig).flags
      decided.sp = some top := by
    rw [halt, haction]
    exact (congrArg _ (ExceptionFrame.read_restarted f code _ (by decide))).trans htop
  have hzero : decided.regs.read Reg.zero = 0 :=
    (ExceptionFrame.read_restarted f code _ (by decide)).trans hz
  rw [haddr] at hkeep hsp
  obtain ⟨read, hret⟩ := sigreturn_of_deliver laterTask hd hdecided hkeep hsp
  rw [RegFile.put_zero hzero] at hret
  exact ⟨_, _, hret, rfl, rfl, FrameKind.ofWord_word .sigReturn⟩

end

/-! ## The trap of a call -/

/-- The handler registered for a number. -/
def SyscallTables.handler? {α : Type} (t : SyscallTables α) (nr : UInt64) : Option α :=
  match SyscallRoute.ofNumber nr with
  | .standard slot => t.standard.lookup slot
  | .extended slot => t.extended.lookup slot
  | .sigReturn | .invalid _ => none

theorem SyscallRoute.ofNumber_ne_sigReturn {nr : UInt64} (h : nr ≠ sigReturnNumber) :
    ofNumber nr ≠ .sigReturn := by
  unfold ofNumber
  rw [if_neg h]
  split
  · exact nofun
  · split <;> exact nofun

/-- The arguments that the handler of a frame's number is given. -/
def ExceptionFrame.syscallArgs (f : ExceptionFrame) (frameAddr : UInt64) : SyscallArgs :=
  match SyscallRoute.ofNumber f.syscallNumber with
  | .extended slot => .extended f slot frameAddr
  | .sigReturn | .standard _ | .invalid _ => .ofFrame f

namespace Machine

/-- The machine in which the trap of a syscall has entered the kernel. -/
def inSyscall (m : Machine) (cpu : CpuId) (f : ExceptionFrame) : Machine :=
  ((m.record f).enter cpu).captureUserEntry f.atSyscall

/-- The machine in which its handler starts, with interrupts enabled. -/
def atHandler (m : Machine) (cpu : CpuId) (f : ExceptionFrame) : Machine :=
  (m.inSyscall cpu f).writeCsr .crmd ((m.inSyscall cpu f).hw.readCsr .crmd ||| crmdIe)

/-- The machine on the way back to user mode, after the handler left `ran`. -/
def wayOut (m : Machine) (cpu : CpuId) (f : ExceptionFrame) (ran : Machine) : Machine :=
  (ran.writeCsr .crmd ((m.inSyscall cpu f).hw.readCsr .crmd)).beginReturn cpu

/-- A registered handler runs with interrupts enabled, and its result lands in `a0`. -/
theorem runSyscall_of_handler {k : Kernel} {m ran : Machine} {cpu : CpuId} {frameAddr : UInt64}
    {f : ExceptionFrame} {h : SyscallHandler} {value : UInt64}
    (hh : k.syscalls.handler? f.syscallNumber = some h)
    (hrun : h (f.syscallArgs frameAddr) (m.writeCsr .crmd (m.hw.readCsr .crmd ||| crmdIe)) =
      (value, ran)) :
    runSyscall k m cpu frameAddr f =
      (f.setA0 value, ran.writeCsr .crmd (m.hw.readCsr .crmd)) := by
  unfold SyscallTables.handler? at hh
  unfold ExceptionFrame.syscallArgs at hrun
  unfold runSyscall
  cases hr : SyscallRoute.ofNumber f.syscallNumber with
  | sigReturn => rw [hr] at hh; cases hh
  | invalid nr => rw [hr] at hh; cases hh
  | standard slot =>
    simp only [hr] at hh hrun ⊢
    simp only [SyscallTable.dispatch, hh, callSlot, withInterrupts, hrun, completeSyscall]
  | extended slot =>
    simp only [hr] at hh hrun ⊢
    simp only [SyscallTable.dispatch, hh, callSlot, withInterrupts, hrun, completeSyscall]

/-- A number without a handler is that of the signal return, or it is logged; one that has a slot
has the mode switched and put back before. -/
theorem runSyscall_of_none {k : Kernel} {f : ExceptionFrame}
    (hh : k.syscalls.handler? f.syscallNumber = none) (m : Machine) (cpu : CpuId)
    (frameAddr : UInt64) :
    (f.syscallNumber = sigReturnNumber ∧ runSyscall k m cpu frameAddr f = m.sysSigreturn f) ∨
    (f.syscallNumber ≠ sigReturnNumber ∧ ∃ n : Machine,
      (n = m ∨ ∃ v v', n = (m.writeCsr .crmd v).writeCsr .crmd v') ∧
      runSyscall k m cpu frameAddr f = (f, n.log .warn "syscall"
        (cpu.name ++ ": unknown syscall " ++ toString f.syscallNumber))) := by
  unfold SyscallTables.handler? at hh
  unfold runSyscall
  by_cases he : f.syscallNumber = sigReturnNumber
  · have hr : SyscallRoute.ofNumber f.syscallNumber = .sigReturn := if_pos he
    rw [hr]
    exact .inl ⟨he, rfl⟩
  · refine .inr ⟨he, ?_⟩
    cases hr : SyscallRoute.ofNumber f.syscallNumber with
    | sigReturn => exact absurd hr (SyscallRoute.ofNumber_ne_sigReturn he)
    | invalid nr => exact ⟨m, .inl rfl, rfl⟩
    | standard slot | extended slot =>
      simp only [hr] at hh
      simp only [SyscallTable.dispatch, hh]
      exact ⟨_, .inr ⟨_, _, rfl⟩, rfl⟩

theorem depth_inSyscall (m : Machine) (cpu : CpuId) (f : ExceptionFrame) :
    ((m.inSyscall cpu f).slot cpu).depth = (m.slot cpu).depth + 1 := by
  have henter : (((m.record f).enter cpu).slot cpu).depth = (m.slot cpu).depth + 1 := by
    unfold enter moveTo slot setSlot emit
    simp only [CpuRegistry.get_set_same]
    rfl
  unfold inSyscall captureUserEntry
  split
  · split
    · exact henter
    · dsimp only
      split
      · exact henter
      · exact henter
  · exact henter

/-- The trap of a syscall runs what its number goes to, and takes the way back. -/
theorem dispatch_of_syscall {k : Kernel} {m : Machine} {cpu : CpuId} {frameAddr : UInt64}
    {f : ExceptionFrame} (h : classify f.estat f.fromUser = .syscall) :
    dispatch k m cpu frameAddr f =
      let ran := runSyscall k (m.inSyscall cpu f) cpu frameAddr f.atSyscall
      let back := ran.2.returnToUser cpu ran.1
      ⟨.resume, back.1, back.2.leave cpu⟩ := by
  unfold dispatch
  rw [h]
  rfl

/-- A call that its handler returned from: the trap is the outermost of its core, and the handler is
registered, gave `value` and left its nested traps. -/
structure HandledCall (k : Kernel) (m : Machine) (cpu : CpuId) (frameAddr : UInt64)
    (f : ExceptionFrame) (value : UInt64) (ran : Machine) : Prop where
  cause : classify f.estat f.fromUser = .syscall
  outermost : (m.slot cpu).depth = 0
  handler : ∃ h, k.syscalls.handler? f.syscallNumber = some h ∧
    h (f.syscallArgs frameAddr) (m.atHandler cpu f) = (value, ran)
  balanced : (ran.slot cpu).depth = ((m.atHandler cpu f).slot cpu).depth

/-- A call that left a restart code, on the way back to the task that made it: the trap is the
outermost of its core, the handler is registered and left its nested traps, and the task is live. -/
structure InterruptedCall (k : Kernel) (m : Machine) (cpu : CpuId) (frameAddr : UInt64)
    (f : ExceptionFrame) (code : RestartCode) (ran : Machine) (id : TaskId) (task : Task) :
    Prop where
  cause : classify f.estat f.fromUser = .syscall
  outermost : (m.slot cpu).depth = 0
  handler : ∃ h, k.syscalls.handler? f.syscallNumber = some h ∧
    h (f.syscallArgs frameAddr) (m.atHandler cpu f) = (code.word, ran)
  balanced : (ran.slot cpu).depth = ((m.atHandler cpu f).slot cpu).depth
  current : ran.currentTask? = some (id, task)
  alive : task.isAlive = true

/-- The signal pass at the end of an interrupted call. -/
def callPass (m : Machine) (cpu : CpuId) (f : ExceptionFrame) (code : RestartCode) (ran : Machine)
    (id : TaskId) (task : Task) : Pass :=
  signalPass (m.wayOut cpu f ran).hw id task (f.interrupted code)

/-- What a trap does after its signal pass leaves memory and the page map alone. -/
theorem keeps_settle_leave (m : Machine) (id : TaskId) (task : Task) (outcome : PassOutcome)
    (cpu : CpuId) (lo hi : Nat) :
    m.hw.Keeps ((m.settle id task outcome).leave cpu).hw lo hi := by
  have hleave : ∀ n : Machine, n.hw.Keeps (n.leave cpu).hw lo hi := by
    intro n
    unfold leave
    dsimp only
    split
    · exact ⟨⟨rfl, rfl, rfl⟩, .refl _ lo hi⟩
    · exact ⟨⟨rfl, rfl, rfl⟩, .refl _ lo hi⟩
  have hsettle : m.hw.Keeps (m.settle id task outcome).hw lo hi := by
    unfold settle
    cases outcome with
    | killed sig => exact ⟨⟨rfl, rfl, rfl⟩, .refl _ lo hi⟩
    | stopped sig => exact ⟨⟨rfl, rfl, rfl⟩, .refl _ lo hi⟩
    | resume => dsimp only; split <;> exact ⟨⟨rfl, rfl, rfl⟩, .refl _ lo hi⟩
    | delivered sig => dsimp only; split <;> exact ⟨⟨rfl, rfl, rfl⟩, .refl _ lo hi⟩
  exact hsettle.trans (hleave _)

theorem fromUser_of_classify {estat : UInt64} {fromUser : Bool}
    (h : classify estat fromUser = .syscall) : fromUser = true := by
  unfold classify at h
  split at h
  · rename_i e _
    cases fromUser with
    | true => rfl
    | false => cases e <;> cases h
  · cases h

theorem wayOut_of_outermost (m : Machine) (cpu : CpuId) (f : ExceptionFrame) (ran : Machine) :
    (m.wayOut cpu f ran).currentTask? = ran.currentTask? :=
  currentTask?_beginReturn _ cpu

section

variable {k : Kernel} {m ran : Machine} {cpu : CpuId} {frameAddr : UInt64} {f : ExceptionFrame}
  {code : RestartCode} {id : TaskId} {task : Task}

/-- The trap of a call ends with the way back of the current task, over the frame that holds the
result. -/
theorem dispatch_of_handled {value : UInt64} (h : HandledCall k m cpu frameAddr f value ran)
    (hcur : ran.currentTask? = some (id, task)) :
    let back := (m.wayOut cpu f ran).wayBack id task (f.atSyscall.setA0 value)
    dispatch k m cpu frameAddr f =
      ⟨.resume, back.frame, ((m.wayOut cpu f ran).afterBack id back).leave cpu⟩ := by
  obtain ⟨handler, hh, hrun⟩ := h.handler
  have hsys : runSyscall k (m.inSyscall cpu f) cpu frameAddr f.atSyscall =
      (f.atSyscall.setA0 value, ran.writeCsr .crmd ((m.inSyscall cpu f).hw.readCsr .crmd)) :=
    runSyscall_of_handler hh hrun
  have huser : (f.atSyscall.setA0 value).fromUser = true := fromUser_of_classify h.cause
  have hdepth : ((ran.writeCsr .crmd ((m.inSyscall cpu f).hw.readCsr .crmd)).slot cpu).depth =
      1 := by
    have hin : ((m.atHandler cpu f).slot cpu).depth = (m.slot cpu).depth + 1 :=
      depth_inSyscall m cpu f
    rw [h.outermost] at hin
    exact h.balanced.trans hin
  have hcur' : (ran.writeCsr .crmd ((m.inSyscall cpu f).hw.readCsr .crmd)).currentTask? =
      some (id, task) := hcur
  rw [dispatch_of_syscall h.cause, hsys]
  dsimp only
  rw [returnToUser_of_outermost huser hdepth hcur']
  rfl

theorem InterruptedCall.handled (h : InterruptedCall k m cpu frameAddr f code ran id task) :
    HandledCall k m cpu frameAddr f code.word ran :=
  ⟨h.cause, h.outermost, h.handler, h.balanced⟩

/-- The trap of an interrupted call ends with one signal pass over its frame, and what comes after
the pass leaves memory and the page map alone. -/
theorem dispatch_of_call (h : InterruptedCall k m cpu frameAddr f code ran id task) :
    (dispatch k m cpu frameAddr f).frame = (callPass m cpu f code ran id task).frame ∧
      ∀ lo hi, (callPass m cpu f code ran id task).hw.Keeps
        (dispatch k m cpu frameAddr f).machine.hw lo hi := by
  -- the task is live, so its way back is the signal pass
  have hpass : (m.wayOut cpu f ran).wayBack id task (f.atSyscall.setA0 code.word) =
      callPass m cpu f code ran id task := wayBack_of_alive _ id _ h.alive
  rw [dispatch_of_handled h.handled h.current, hpass]
  refine ⟨rfl, fun lo hi => ?_⟩
  exact keeps_settle_leave ({ m.wayOut cpu f ran with
    hw := (callPass m cpu f code ran id task).hw }.putTask id
      (callPass m cpu f code ran id task).task) id _ _ cpu lo hi

/-- An interrupted call is settled exactly once. With every signal ignored, its trap resumes on the
instruction again, with the registers as they were but for the restart call's number. With a frame
built for the lowest signal that is not ignored, the matching return resumes there or behind the
instruction with a failure. Either way further passes with nothing to deliver change nothing. -/
theorem interrupted_call_settled_once (h : InterruptedCall k m cpu frameAddr f code ran id task)
    (hz : f.regs.read Reg.zero = 0) :
    ((∀ s ∈ task.signals.deliverable, task.Ignores s) →
      let done := dispatch k m cpu frameAddr f
      done.frame.regs =
          (if code = .restartBlock then f.regs.put Reg.a7 128 else f.regs) ∧
        done.frame.era = f.era ∧ done.frame.Settled) ∧
    ∀ (sig : Signal) (handler top : UInt64), sig ∈ task.signals.deliverable →
      (∀ s ∈ task.signals.deliverable, s < sig → task.Ignores s) →
      (task.signals.action sig).disposition sig = .handler handler →
      (callPass m cpu f code ran id task).outcome = .delivered sig →
      signalStackTop task.signals.altstack (task.signals.action sig).flags f.sp = some top →
      let done := dispatch k m cpu frameAddr f
      done.frame.Settled ∧
      ∀ (later : Hardware) (laterTask : Task) (laterFrame : ExceptionFrame),
        done.machine.hw.Keeps later done.frame.sp.toNat top.toNat →
        laterFrame.sp = done.frame.sp →
        ∃ (back : Returned) (hw' : Hardware),
          sigreturn later laterTask laterFrame = (.ok back, hw') ∧
          (if code = .noIntr ∨
              code = .sys ∧ (task.signals.action sig).has SigFlag.restart = true then
            back.frame.regs = f.regs ∧ back.frame.era = f.era
          else back.frame.regs = f.regs.put Reg.a0 (-4) ∧ back.frame.era = f.era + 4) ∧
          back.frame.Settled := by
  obtain ⟨hframe, hkeeps⟩ := dispatch_of_call h
  refine ⟨fun hign => ?_, fun sig handler top hmem hlow hact hout htop => ⟨?_, ?_⟩⟩
  · have hpass : (callPass m cpu f code ran id task).frame =
        (f.interrupted code).restarted true none := by
      unfold callPass
      rw [signalPass_ignored _ id _ hign, ExceptionFrame.kind_interrupted]
      rfl
    obtain ⟨hregs, hera⟩ := ExceptionFrame.restarted_without_handler f code
    dsimp only
    rw [hframe, hpass]
    refine ⟨hregs, hera, ExceptionFrame.settled_of_kind ?_⟩
    rw [ExceptionFrame.kind_restarted]; decide
  · refine ExceptionFrame.settled_of_kind ?_
    rw [hframe]
    have hk : (callPass m cpu f code ran id task).frame.kind = .exception :=
      kind_signalPass_interrupted hmem hlow hact hout
    rw [hk]; decide
  · intro later laterTask laterFrame hlater hsp
    rw [hframe] at hlater hsp
    obtain ⟨back, hw', hret, hregs, hera, hk⟩ := sigreturn_after_interrupted laterTask hmem hlow
      hact hout hz htop ((hkeeps _ _).trans hlater) hsp
    obtain ⟨hagain, hfail⟩ := ExceptionFrame.restarted_with_handler f code
      (task.signals.action sig)
    refine ⟨back, hw', hret, ?_, ExceptionFrame.settled_of_kind (by rw [hk]; decide)⟩
    rw [hregs, hera]
    split
    · rename_i hr; exact hagain hr
    · rename_i hr; exact hfail hr

end

end Machine

/-! ## Two interrupted calls -/

/-- A kernel in which every standard syscall leaves a code. -/
def Kernel.interrupting (code : RestartCode) : Kernel where
  syscalls := ⟨⟨Vector.replicate _ (some fun _ m => (code.word, m))⟩, .empty⟩
  irqs := .empty
  raises := 0

/-- A machine whose only task is the current one. -/
def Machine.running (task : Task) : Machine :=
  { Machine.ofHardware (.mapped ⟨true, true, true, true⟩) with
    tasks := ⟨[some task]⟩
    current := some ⟨0⟩ }

/-- A frame of syscall 63 from user code. -/
def ExceptionFrame.ofCall : ExceptionFrame :=
  let f := ofUser 0x4000 0x100000
  { f with regs := f.regs.put Reg.a7 63, estat := 0xb0000 }

theorem interruptedCall_running (code : RestartCode) (task : Task) (h : task.isAlive = true) :
    Machine.InterruptedCall (.interrupting code) (.running task) .boot 0 .ofCall code
      ((Machine.running task).atHandler .boot .ofCall) ⟨0⟩
      (task.captured ExceptionFrame.ofCall.atSyscall) where
  cause := by decide +kernel
  outermost := rfl
  handler := by
    refine ⟨fun _ m => (code.word, m), ?_, rfl⟩
    have hr : SyscallRoute.ofNumber ExceptionFrame.ofCall.syscallNumber = .standard 63 := by
      decide +kernel
    unfold SyscallTables.handler?
    rw [hr]
    rfl
  balanced := rfl
  current := rfl
  alive := h

/-- A child signal is dropped and the restart call is made; a handled signal whose action asks for
restart is taken in between. -/
theorem interrupted_call_settled_once_running :
    let f := ExceptionFrame.ofCall
    let action : SigAction := ⟨0x8000, SigFlag.restart, 0, .empty⟩
    let dropped := Machine.dispatch (.interrupting .restartBlock)
      (.running (.handling Signal.chld .unset)) .boot 0 f
    let handled := Machine.dispatch (.interrupting .sys)
      (.running (.handling Signal.usr1 action)) .boot 0 f
    (dropped.frame.regs = f.regs.put Reg.a7 128 ∧ dropped.frame.era = f.era ∧
        dropped.frame.Settled) ∧
      ∃ (back : Returned) (hw' : Hardware),
        sigreturn handled.machine.hw (.handling Signal.usr1 action) handled.frame =
          (.ok back, hw') ∧
        (back.frame.regs = f.regs ∧ back.frame.era = f.era) ∧ back.frame.Settled := by
  intro f action dropped handled
  have hdropped : dropped = Machine.dispatch (.interrupting .restartBlock)
    (.running (.handling Signal.chld .unset)) .boot 0 ExceptionFrame.ofCall := rfl
  have hhandled : handled = Machine.dispatch (.interrupting .sys)
    (.running (.handling Signal.usr1 action)) .boot 0 ExceptionFrame.ofCall := rfl
  rw [hdropped, hhandled]
  have hz : f.regs.read Reg.zero = 0 := by decide +kernel
  constructor
  · have hdel : ((Task.handling Signal.chld .unset).captured f.atSyscall).signals.deliverable =
        [Signal.chld] := by decide +kernel
    have hign : ∀ s ∈ ((Task.handling Signal.chld .unset).captured
        f.atSyscall).signals.deliverable,
        ((Task.handling Signal.chld .unset).captured f.atSyscall).Ignores s := by
      intro s hs
      rw [hdel] at hs
      rw [List.mem_singleton.1 hs]
      unfold Task.Ignores
      decide +kernel
    have hdrop := (Machine.interrupted_call_settled_once (interruptedCall_running .restartBlock
      (.handling Signal.chld .unset) rfl) hz).1 hign
    rw [if_pos rfl] at hdrop
    exact hdrop
  · have hdel : ((Task.handling Signal.usr1 action).captured f.atSyscall).signals.deliverable =
        [Signal.usr1] := by decide +kernel
    have hlow : ∀ s ∈ ((Task.handling Signal.usr1 action).captured
        f.atSyscall).signals.deliverable, s < Signal.usr1 →
        ((Task.handling Signal.usr1 action).captured f.atSyscall).Ignores s := by
      intro s hs hlt
      rw [hdel] at hs
      rw [List.mem_singleton.1 hs] at hlt
      exact absurd hlt (by decide)
    have hcall := (Machine.interrupted_call_settled_once (interruptedCall_running .sys
      (.handling Signal.usr1 action) rfl) hz).2 Signal.usr1 0x8000 0x100000
      (by rw [hdel]; exact List.mem_singleton.2 rfl) hlow (by decide +kernel) (by decide +kernel)
      (by decide +kernel)
    obtain ⟨back, hw', hret, hregs, hsettled⟩ :=
      hcall.2 _ (.handling Signal.usr1 action) _ (.refl _ _ _) rfl
    rw [if_pos (by decide +kernel)] at hregs
    exact ⟨back, hw', hret, hregs, hsettled⟩

end TrapLayer
