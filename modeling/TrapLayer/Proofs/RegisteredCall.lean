import Mathlib.Data.List.Induction
import TrapLayer.Proofs.UnhandledCall

/-!
# A call runs the handler that was registered first

Registering a handler and calling a number go through the same routing, and no two numbers share a
slot, so a number runs what the first registration to succeed for that number left there. The trap
around the handler is the same whatever else is in the tables: it gives the handler its arguments
with interrupts enabled, and takes its result back to the frame.

* `SyscallRoute.ofNumber_injective`: no two numbers share a slot.
* `SyscallTables.handler?_register`: what one registration changes.
* `SyscallTables.handler?_registered`: what a sequence of registrations comes to.
* `Machine.dispatch_congr`: a trap looks up one number.
* `Machine.dispatch_of_answered`: the trap of a call that meets no signal.
* `Machine.call_runs_first_registered`: registration and dispatch agree on every number.
-/
namespace TrapLayer

/-! ## Registration -/

theorem SyscallTable.lookup_empty {α : Type} {n : Nat} (slot : Nat) :
    (empty : SyscallTable α n).lookup slot = none := by
  unfold lookup empty
  by_cases h : slot < n
  · rw [Vector.getElem?_eq_getElem h, Vector.getElem_replicate]
    rfl
  · rw [Vector.getElem?_eq_none (Nat.not_lt.1 h)]
    rfl

theorem SyscallTable.lookup_of_register {α : Type} {n : Nat} {t t' : SyscallTable α n} {slot : Nat}
    {h : α} (e : t.register slot h = .ok t') : t.lookup slot = none := by
  unfold register at e
  split at e
  · split at e
    · cases e
    · rename_i hfree
      exact Option.not_isSome_iff_eq_none.1 hfree
  · cases e

namespace SyscallRoute

/-- The number that a route is for. -/
def number : SyscallRoute → Nat
  | sigReturn => sigReturnNumber.toNat
  | standard slot => slot
  | extended slot => extendedStart + slot
  | invalid nr => nr.toNat

theorem number_ofNumber (nr : UInt64) : (ofNumber nr).number = nr.toNat := by
  unfold ofNumber
  split
  case isTrue h => rw [h]; rfl
  case isFalse =>
    split
    case isTrue => rfl
    case isFalse =>
      split
      case isTrue hwindow => exact Nat.add_sub_of_le hwindow.1
      case isFalse => rfl

theorem ofNumber_injective : Function.Injective ofNumber := by
  intro nr other h
  rw [← UInt64.toNat_inj, ← number_ofNumber nr, ← number_ofNumber other, h]

theorem ofNumber_of_extendedStart {nr : UInt64} (h : nr.toNat = extendedStart) :
    ofNumber nr = .extended 0 := by
  have hnr : nr = 0x1000 := UInt64.toNat_inj.1 h
  rw [hnr]
  decide

theorem ofNumber_sigReturn : ofNumber sigReturnNumber = .sigReturn := if_pos rfl

end SyscallRoute

namespace SyscallTables

variable {α : Type}

/-- A registration that succeeds found the number free, and changes what this number runs and
nothing else. -/
theorem handler?_register {t t' : SyscallTables α} {nr : UInt64} {h : α}
    (e : t.register nr h = .ok t') :
    t.handler? nr = none ∧ t'.handler? nr = some h ∧
      ∀ other, other ≠ nr → t'.handler? other = t.handler? other := by
  unfold register at e
  unfold handler?
  cases hroute : SyscallRoute.ofNumber nr with
  | sigReturn | invalid _ => rw [hroute] at e; cases e
  | standard slot =>
    cases hs : t.standard.register slot h with
    | error _ => simp only [hroute, hs] at e; cases e
    | ok s =>
      simp only [hroute, hs] at e
      obtain rfl := Except.ok.inj e
      refine ⟨SyscallTable.lookup_of_register hs, SyscallTable.lookup_register_same hs, ?_⟩
      intro other hne
      cases hother : SyscallRoute.ofNumber other with
      | sigReturn | invalid _ | extended _ => rfl
      | standard place =>
        have hplace : place ≠ slot := by
          rintro rfl
          exact hne (SyscallRoute.ofNumber_injective (hother.trans hroute.symm))
        exact SyscallTable.lookup_register_of_ne hs hplace
  | extended slot =>
    cases hs : t.extended.register slot h with
    | error _ => simp only [hroute, hs] at e; cases e
    | ok s =>
      simp only [hroute, hs] at e
      obtain rfl := Except.ok.inj e
      refine ⟨SyscallTable.lookup_of_register hs, SyscallTable.lookup_register_same hs, ?_⟩
      intro other hne
      cases hother : SyscallRoute.ofNumber other with
      | sigReturn | invalid _ | standard _ => rfl
      | extended place =>
        have hplace : place ≠ slot := by
          rintro rfl
          exact hne (SyscallRoute.ofNumber_injective (hother.trans hroute.symm))
        exact SyscallTable.lookup_register_of_ne hs hplace

theorem handler?_empty (nr : UInt64) : (empty : SyscallTables α).handler? nr = none := by
  unfold handler? empty
  cases SyscallRoute.ofNumber nr with
  | sigReturn | invalid _ => rfl
  | standard slot | extended slot => exact SyscallTable.lookup_empty slot

/-- The tables after one more registration; one that is refused changes nothing. -/
def tryRegister (t : SyscallTables α) (r : UInt64 × α) : SyscallTables α :=
  match t.register r.1 r.2 with
  | .ok t' => t'
  | .error _ => t

/-- The tables after a sequence of registrations. -/
def registered (regs : List (UInt64 × α)) : SyscallTables α := regs.foldl tryRegister .empty

/-- The registration of `h` under `nr` succeeds after those of `pre`. -/
def Succeeds (pre : List (UInt64 × α)) (nr : UInt64) (h : α) : Prop :=
  ∃ t, (registered pre).register nr h = .ok t

/-- Of the registrations under `nr`, that of `h` is the first to succeed. -/
def FirstToSucceed (regs : List (UInt64 × α)) (nr : UInt64) (h : α) : Prop :=
  ∃ pre post, regs = pre ++ (nr, h) :: post ∧ Succeeds pre nr h ∧
    ∀ pre' h' post', pre = pre' ++ (nr, h') :: post' → ¬ Succeeds pre' nr h'

theorem registered_append (regs more : List (UInt64 × α)) :
    registered (regs ++ more) = more.foldl tryRegister (registered regs) := List.foldl_append

/-- A number that has a handler keeps it. -/
theorem handler?_tryRegister {t : SyscallTables α} {nr : UInt64} {h : α}
    (hh : t.handler? nr = some h) (r : UInt64 × α) : (t.tryRegister r).handler? nr = some h := by
  unfold tryRegister
  cases e : t.register r.1 r.2 with
  | error _ => exact hh
  | ok t' =>
    obtain ⟨hfree, -, hothers⟩ := handler?_register e
    have hne : nr ≠ r.1 := by
      rintro rfl
      rw [hh] at hfree
      cases hfree
    exact (hothers nr hne).trans hh

theorem handler?_foldl {t : SyscallTables α} {nr : UInt64} {h : α} (hh : t.handler? nr = some h)
    (regs : List (UInt64 × α)) : (regs.foldl tryRegister t).handler? nr = some h := by
  induction regs generalizing t with
  | nil => exact hh
  | cons r regs ih => exact ih (handler?_tryRegister hh r)

theorem handler?_of_succeeds {pre : List (UInt64 × α)} {nr : UInt64} {h : α}
    (hs : Succeeds pre nr h) (post : List (UInt64 × α)) :
    (registered (pre ++ (nr, h) :: post)).handler? nr = some h := by
  obtain ⟨t, e⟩ := hs
  have hstep : (registered pre).tryRegister (nr, h) = t := by
    unfold tryRegister
    rw [e]
  rw [registered_append, List.foldl_cons, hstep]
  exact handler?_foldl (handler?_register e).2.1 post

/-- A number runs what the first registration to succeed for it left there. -/
theorem handler?_registered (regs : List (UInt64 × α)) (nr : UInt64) (h : α) :
    (registered regs).handler? nr = some h ↔ FirstToSucceed regs nr h := by
  constructor
  · induction regs using List.reverseRecOn with
    | nil =>
      intro hh
      exact absurd (hh.symm.trans (handler?_empty nr)) (Option.some_ne_none h)
    | append_singleton regs r ih =>
      intro hh
      have hkept : (registered regs).handler? nr = some h → FirstToSucceed (regs ++ [r]) nr h := by
        intro hh
        obtain ⟨pre, post, rfl, hsuccess, hfirst⟩ := ih hh
        exact ⟨pre, post ++ [r], by simp, hsuccess, hfirst⟩
      rw [registered_append] at hh
      have hstep : ((registered regs).tryRegister r).handler? nr = some h := hh
      unfold tryRegister at hstep
      cases e : (registered regs).register r.1 r.2 with
      | error _ =>
        rw [e] at hstep
        exact hkept hstep
      | ok t =>
        rw [e] at hstep
        obtain ⟨hfree, hnew, hothers⟩ := handler?_register e
        by_cases hnr : nr = r.1
        · subst hnr
          obtain rfl := Option.some.inj (hnew.symm.trans hstep)
          refine ⟨regs, [], rfl, ⟨t, e⟩, ?_⟩
          -- an earlier success would have left a handler behind
          rintro pre' h' post' rfl hearlier
          rw [handler?_of_succeeds hearlier] at hfree
          cases hfree
        · exact hkept ((hothers nr hnr).symm.trans hstep)
  · rintro ⟨pre, post, rfl, hsuccess, -⟩
    exact handler?_of_succeeds hsuccess post

theorem register_sigReturn (t : SyscallTables α) (h : α) :
    t.register sigReturnNumber h = .error (.invalidSyscall sigReturnNumber) := by
  unfold register
  rw [SyscallRoute.ofNumber_sigReturn]

theorem handler?_sigReturn (t : SyscallTables α) : t.handler? sigReturnNumber = none := by
  unfold handler?
  rw [SyscallRoute.ofNumber_sigReturn]

end SyscallTables

/-! ## Dispatch -/

/-- Argument `i` is register `4 + i` of the caller, but for the handler of the first extended
number, which is given the address of the frame in place of `a0`. -/
theorem ExceptionFrame.getElem?_syscallArgs (f : ExceptionFrame) (frameAddr : UInt64) {i : Nat}
    (hi : i < 6) :
    (f.syscallArgs frameAddr).words[i]? =
      if i = 0 ∧ f.syscallNumber.toNat = extendedStart then some frameAddr
      else f.regs[4 + i]? := by
  have hplain : (SyscallArgs.ofFrame f).words[i]? = f.regs[4 + i]? := by
    unfold SyscallArgs.ofFrame
    rw [Vector.getElem?_eq_getElem hi, Vector.getElem_ofFn, Vector.getElem?_eq_getElem]
  unfold syscallArgs
  cases hroute : SyscallRoute.ofNumber f.syscallNumber with
  | extended slot =>
    have hnumber : extendedStart + slot = f.syscallNumber.toNat := by
      rw [← SyscallRoute.number_ofNumber, hroute]
      rfl
    dsimp only
    unfold SyscallArgs.extended SyscallArgs.frameSlot
    by_cases hslot : slot = 0
    · rw [if_pos hslot]
      by_cases hfirst : i = 0
      · rw [if_pos ⟨hfirst, by omega⟩, hfirst]
        exact Vector.getElem?_set_self (by decide)
      · rw [if_neg (fun h => hfirst h.1), ← hplain]
        exact Vector.getElem?_set_ne (by decide) (Ne.symm hfirst)
    · rw [if_neg hslot, if_neg (fun h => hslot (by omega))]
      exact hplain
  | sigReturn | invalid _ | standard _ =>
    have hnumber : f.syscallNumber.toNat ≠ extendedStart := by
      intro h
      rw [SyscallRoute.ofNumber_of_extendedStart h] at hroute
      cases hroute
    rw [if_neg (fun h => hnumber h.2)]
    exact hplain

/-- A syscall handler started. -/
def Effect.isCall : Effect → Bool
  | .syscallRun .. => true
  | _ => false

namespace Machine

/-- A trap looks up one number, and no other handler matters to it. -/
theorem runSyscall_congr {k other : Kernel} (m : Machine) (cpu : CpuId) (frameAddr : UInt64)
    {f : ExceptionFrame}
    (h : other.syscalls.handler? f.syscallNumber = k.syscalls.handler? f.syscallNumber) :
    runSyscall other m cpu frameAddr f = runSyscall k m cpu frameAddr f := by
  unfold SyscallTables.handler? at h
  unfold runSyscall
  cases hroute : SyscallRoute.ofNumber f.syscallNumber with
  | sigReturn | invalid _ => rfl
  | standard slot | extended slot =>
    simp only [hroute] at h
    simp only [SyscallTable.dispatch, h]

theorem dispatch_congr {k other : Kernel} (m : Machine) (cpu : CpuId) (frameAddr : UInt64)
    {f : ExceptionFrame} (hcause : classify f.estat f.fromUser = .syscall)
    (h : other.syscalls.handler? f.syscallNumber = k.syscalls.handler? f.syscallNumber) :
    dispatch other m cpu frameAddr f = dispatch k m cpu frameAddr f := by
  rw [dispatch_of_syscall hcause, dispatch_of_syscall hcause]
  rw [runSyscall_congr (f := f.atSyscall) (m.inSyscall cpu f) cpu frameAddr h]

/-- A call that meets no signal: the trap is the outermost of its core, the handler `h` of its
number starts for the task `task` and leaves its nested traps, and the task that is current when it
is done is live and has nothing to deliver. -/
structure AnsweredCall (k : Kernel) (m : Machine) (cpu : CpuId) (frameAddr : UInt64)
    (f : ExceptionFrame) (h : SyscallHandler) (id : TaskId) (task : Task) (next : TaskId)
    (left : Task) : Prop where
  cause : classify f.estat f.fromUser = .syscall
  outermost : (m.slot cpu).depth = 0
  current : m.currentTask? = some (id, task)
  handler : k.syscalls.handler? f.syscallNumber = some h
  balanced : ((h (f.syscallArgs frameAddr) (m.atHandler cpu f)).2.slot cpu).depth =
    ((m.atHandler cpu f).slot cpu).depth
  back : (h (f.syscallArgs frameAddr) (m.atHandler cpu f)).2.currentTask? = some (next, left)
  alive : left.isAlive = true
  idle : left.signals.deliverable = []

section

variable {k : Kernel} {m : Machine} {cpu : CpuId} {frameAddr : UInt64} {f : ExceptionFrame}
  {h : SyscallHandler} {id next : TaskId} {task left : Task}

/-- The machine after a trap whose handler left `ran` and the task `left`. -/
def afterCall (m : Machine) (cpu : CpuId) (f : ExceptionFrame) (ran : Machine) (id : TaskId)
    (left : Task) : Machine :=
  (((m.wayOut cpu f ran).putTask id left).settle id left .resume).leave cpu

theorem dispatch_of_answered (hc : AnsweredCall k m cpu frameAddr f h id task next left) :
    let ran := h (f.syscallArgs frameAddr) (m.atHandler cpu f)
    dispatch k m cpu frameAddr f =
      ⟨.resume, (f.atSyscall.setA0 ran.1).restarted true none,
        m.afterCall cpu f ran.2 next left⟩ := by
  intro ran
  have hhandled : HandledCall k m cpu frameAddr f ran.1 ran.2 :=
    ⟨hc.cause, hc.outermost, ⟨h, hc.handler, rfl⟩, hc.balanced⟩
  have hign : ∀ s ∈ left.signals.deliverable, left.Ignores s := by
    rw [hc.idle]
    exact nofun
  have hkind : (f.atSyscall.setA0 ran.1).kind = .syscall := FrameKind.ofWord_word .syscall
  -- nothing is delivered, so the way back decides a restart and leaves the task alone
  have hback : (m.wayOut cpu f ran.2).wayBack next left (f.atSyscall.setA0 ran.1) =
      ⟨.resume, left, (f.atSyscall.setA0 ran.1).restarted true none,
        (m.wayOut cpu f ran.2).hw⟩ := by
    rw [wayBack_of_alive _ next _ hc.alive, signalPass_ignored _ next _ hign, hc.idle, hkind]
    rfl
  rw [dispatch_of_handled hhandled hc.back, hback]
  rfl

theorem inSyscall_of_current (huser : f.fromUser = true) (hcur : m.currentTask? = some (id, task))
    (cpu : CpuId) :
    m.inSyscall cpu f =
      (((m.record f).enter cpu).putTask id (task.captured f.atSyscall)).emit (.enterKernel id) := by
  have huser' : f.atSyscall.fromUser = true := huser
  have henter : ((m.record f).enter cpu).currentTask? = some (id, task) := hcur
  exact captureUserEntry_of_current huser' henter

theorem csrs_afterCall (m : Machine) (cpu : CpuId) (f : ExceptionFrame) (ran : Machine)
    (id : TaskId) (left : Task) :
    (m.afterCall cpu f ran id left).hw.csrs =
      ran.hw.csrs.write .crmd ((m.inSyscall cpu f).hw.readCsr .crmd) := by
  unfold afterCall wayOut
  rw [csrs_leave, csrs_settle]
  exact csrs_beginReturn _ cpu

theorem currentTask?_afterCall {ran : Machine} (hcur : ran.currentTask? = some (id, left)) :
    (m.afterCall cpu f ran id left).currentTask? = some (id, left) := by
  have hback : (m.wayOut cpu f ran).currentTask? = some (id, left) :=
    (wayOut_of_outermost m cpu f ran).trans hcur
  obtain ⟨hcurrent, hfind⟩ := currentTask?_eq_some_iff.1 hback
  unfold afterCall
  rw [currentTask?_leave, currentTask?_settle]
  exact currentTask?_eq_some_iff.2 ⟨hcurrent, TaskTable.find?_put_same hfind left⟩

/-- On its way to the handler a trap starts no other. -/
theorem shows_atHandler (huser : f.fromUser = true) (hcur : m.currentTask? = some (id, task)) :
    m.hw.Shows Effect.isCall [] (m.atHandler cpu f).hw := by
  unfold atHandler
  rw [inSyscall_of_current huser hcur]
  exact ⟨[_, _, _], rfl, rfl⟩

theorem shows_leave (m : Machine) (cpu : CpuId) :
    m.hw.Shows Effect.isCall [] (m.leave cpu).hw := by
  unfold leave
  dsimp only
  split <;> exact ⟨[_], rfl, rfl⟩

theorem shows_beginReturn (m : Machine) (cpu : CpuId) :
    m.hw.Shows Effect.isCall [] (m.beginReturn cpu).hw := by
  unfold beginReturn
  dsimp only
  split <;> exact ⟨[_], rfl, rfl⟩

theorem shows_afterCall (m : Machine) (cpu : CpuId) (f : ExceptionFrame) (ran : Machine)
    (id : TaskId) (left : Task) :
    ran.hw.Shows Effect.isCall [] (m.afterCall cpu f ran id left).hw := by
  have hmode : ran.hw.Shows Effect.isCall []
      (ran.writeCsr .crmd ((m.inSyscall cpu f).hw.readCsr .crmd)).hw := ⟨[_], rfl, rfl⟩
  have hsettle : (m.wayOut cpu f ran).hw.Shows Effect.isCall []
      (((m.wayOut cpu f ran).putTask id left).settle id left .resume).hw := by
    unfold settle
    dsimp only
    split
    · exact ⟨[_, _], rfl, rfl⟩
    · exact ⟨[_], rfl, rfl⟩
  exact ((hmode.trans (shows_beginReturn _ cpu)).trans hsettle).trans (shows_leave _ cpu)

/-! ## Every number -/

/-- Registration and dispatch agree on every number. The handler of a number is that of the first
registration for it to succeed, the number of the signal return has none in any table, and the trap
of a call is the same whatever is registered under other numbers.

The handler runs once, between the way in and the way back, on the six argument registers (the first
extended number is given the address of the frame for the first), with interrupts enabled and with
the caller's registers in the shadow of its task, where they already resume behind the instruction.
The way back puts the mode back and leaves the task as the handler left it. If the result is no
restart code, the frame is that of the caller with the result in `a0` and the marks of a syscall. -/
theorem call_runs_first_registered (regs : List (UInt64 × SyscallHandler))
    (irqs : IrqTable IrqHandler) (raises : Nat) :
    let k : Kernel := ⟨.registered regs, irqs, raises⟩
    (∀ nr h, k.syscalls.handler? nr = some h ↔ SyscallTables.FirstToSucceed regs nr h) ∧
    (∀ t : SyscallTables SyscallHandler, t.handler? sigReturnNumber = none ∧
      ∀ h, t.register sigReturnNumber h = .error (.invalidSyscall sigReturnNumber)) ∧
    (∀ (other : Kernel) (m : Machine) (cpu : CpuId) (frameAddr : UInt64) (f : ExceptionFrame),
      classify f.estat f.fromUser = .syscall →
      other.syscalls.handler? f.syscallNumber = k.syscalls.handler? f.syscallNumber →
      dispatch other m cpu frameAddr f = dispatch k m cpu frameAddr f) ∧
    ∀ (m : Machine) (cpu : CpuId) (frameAddr : UInt64) (f : ExceptionFrame) (h : SyscallHandler)
      (id : TaskId) (task : Task) (next : TaskId) (left : Task),
      AnsweredCall k m cpu frameAddr f h id task next left →
      let entered := { f with
        origA0 := f.a0, era := f.era + 4, frameType := FrameKind.syscall.word }
      let start := m.atHandler cpu f
      let ran := h (f.syscallArgs frameAddr) start
      let done := dispatch k m cpu frameAddr f
      (∀ i < 6, (f.syscallArgs frameAddr).words[i]? =
        if i = 0 ∧ f.syscallNumber.toNat = extendedStart then some frameAddr
        else f.regs[4 + i]?) ∧
      start.hw.readCsr .crmd = m.hw.readCsr .crmd ||| crmdIe ∧
      start.currentTask? = some (id, { task with shadow := entered, firstStart := false }) ∧
      m.hw.Shows Effect.isCall [] start.hw ∧ ran.2.hw.Shows Effect.isCall [] done.machine.hw ∧
      done.machine.hw.readCsr .crmd = m.hw.readCsr .crmd ∧
      done.machine.currentTask? = some (next, left) ∧
      done.outcome = .resume ∧
      ((∀ code : RestartCode, ran.1 ≠ code.word) →
        done.frame = { entered with regs := f.regs.put Reg.a0 ran.1 }) := by
  intro k
  refine ⟨SyscallTables.handler?_registered regs,
    fun t => ⟨t.handler?_sigReturn, t.register_sigReturn⟩,
    fun other m cpu frameAddr f hcause h => dispatch_congr m cpu frameAddr hcause h, ?_⟩
  intro m cpu frameAddr f h id task next left hc entered start ran done
  have huser := fromUser_of_classify hc.cause
  have hdone : done = ⟨.resume, (f.atSyscall.setA0 ran.1).restarted true none,
      m.afterCall cpu f ran.2 next left⟩ := dispatch_of_answered hc
  have ha0 : (f.atSyscall.setA0 ran.1).a0 = ran.1 := RegFile.read_put_same _ _ _
  have hmode : (m.inSyscall cpu f).hw.readCsr .crmd = m.hw.readCsr .crmd := by
    rw [inSyscall_of_current huser hc.current]
    rfl
  rw [hdone]
  refine ⟨fun i => f.getElem?_syscallArgs frameAddr, ?_, currentTask?_inSyscall huser hc.current,
    shows_atHandler huser hc.current, shows_afterCall m cpu f ran.2 next left, ?_,
    currentTask?_afterCall hc.back, rfl, fun hcode => ?_⟩
  · rw [← hmode]
    rfl
  · rw [← hmode, Hardware.readCsr, csrs_afterCall, CsrFile.read_write, if_pos rfl]
  · rw [← ha0] at hcode
    exact ExceptionFrame.restarted_of_no_code hcode true none

end

end Machine

/-! ## A number that is registered twice -/

/-- A handler that adds `n` to its first argument. -/
def SyscallHandler.adding (n : UInt64) : SyscallHandler :=
  fun args m => (args.words[0]?.getD 0 + n, m)

/-- Number 63 is registered twice, and the signal return in vain. -/
def registeredTwice : List (UInt64 × SyscallHandler) :=
  [(63, .adding 1), (sigReturnNumber, .adding 2), (63, .adding 3)]

theorem answeredCall_running :
    Machine.AnsweredCall ⟨.registered registeredTwice, .empty, 0⟩ (.running .caller) .boot 0
      (.ofCallWith 0x77) (.adding 1) ⟨0⟩ .caller ⟨0⟩
      (Task.caller.captured (ExceptionFrame.ofCallWith 0x77).atSyscall) where
  cause := by decide +kernel
  outermost := rfl
  current := rfl
  handler := by
    have hroute : SyscallRoute.ofNumber 63 = .standard 63 := by decide
    have hnumber : (ExceptionFrame.ofCallWith 0x77).syscallNumber = 63 := by decide +kernel
    rw [hnumber]
    refine (SyscallTables.handler?_registered _ _ _).2
      ⟨[], [(sigReturnNumber, .adding 2), (63, .adding 3)], rfl, ?_, by simp⟩
    unfold SyscallTables.Succeeds SyscallTables.register
    rw [hroute]
    exact ⟨_, rfl⟩
  balanced := rfl
  back := rfl
  alive := rfl
  idle := by decide +kernel

/-- The first of the two handlers runs, and its result is the only register that changes. -/
theorem call_runs_first_registered_running :
    let k : Kernel := ⟨.registered registeredTwice, .empty, 0⟩
    let f := ExceptionFrame.ofCallWith 0x77
    let done := Machine.dispatch k (.running .caller) .boot 0 f
    done.frame.regs = f.regs.put Reg.a0 0x78 ∧ done.frame.era = f.era + 4 ∧
      done.machine.hw.readCsr .crmd = 0 := by
  intro k f done
  obtain ⟨-, -, -, hcall⟩ := Machine.call_runs_first_registered registeredTwice .empty 0
  obtain ⟨hargs, -, -, -, -, hmode, -, -, hframe⟩ := hcall _ _ _ _ _ _ _ _ _ answeredCall_running
  have harg : (f.syscallArgs 0).words[0]? = some 0x77 := by
    rw [hargs 0 (by decide), if_neg (by decide +kernel)]
    decide +kernel
  have hvalue : (SyscallHandler.adding 1 (f.syscallArgs 0)
      ((Machine.running .caller).atHandler .boot f)).1 = 0x78 := by
    unfold SyscallHandler.adding
    rw [harg]
    rfl
  have hplain := hframe (by rw [hvalue]; intro code; cases code <;> decide)
  rw [hvalue] at hplain
  have hdone : done = Machine.dispatch ⟨.registered registeredTwice, .empty, 0⟩
    (.running .caller) .boot 0 (.ofCallWith 0x77) := rfl
  rw [hdone, hmode, hplain]
  exact ⟨rfl, rfl, rfl⟩

end TrapLayer
