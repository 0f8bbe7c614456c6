import TrapLayer.Proofs.RegisteredCall
import TrapLayer.Proofs.Signal.LowestFirst
import TrapLayer.Proofs.Trap.Claims
import TrapLayer.Proofs.Trap.Verdict

/-!
# Diagnostics

A trap that goes well says nothing. Each line that the trap layer logs stands for something that did
not: an error for a halt, for a signal frame that is rejected or cannot be built; a warning for an
interrupt or a syscall that nobody handles; information for a task that does not come back. The
lines about illegal transitions are never reached.

* `diagnoses_drainUpTo`, `diagnoses_runSyscall`, `diagnoses_signalPass`, `diagnoses_returnToUser`:
  what is logged by each part of a trap, and why.
* `diagnostics_exactly_when_wrong`: what a whole trap logs.
-/
namespace TrapLayer

/-! ## Warnings -/

/-- The warning about an interrupt that has no handler. -/
def PendingIrq.warning (cpu : CpuId) (p : PendingIrq) : LogLine :=
  ⟨.warn, "irq", cpu.name ++ ": spurious irq " ++ toString p.irq.val⟩

/-- The warning about a syscall that has no handler. -/
def ExceptionFrame.warning (cpu : CpuId) (f : ExceptionFrame) : LogLine :=
  ⟨.warn, "syscall", cpu.name ++ ": unknown syscall " ++ toString f.syscallNumber⟩

/-! ## The signal pass -/

/-- The signal that ends a pass over a task has a handler, and its frame cannot be built. -/
def Task.FrameFails (hw : Hardware) (task : Task) (g : ExceptionFrame) : Prop :=
  ∃ (sig : Signal) (handler : UInt64) (rest : SigSet), task.TakesFirst sig ∧
    (task.signals.action sig).disposition sig = .handler handler ∧
    task.Leaves (· ≤ sig) rest ∧
    (deliver hw (task.withPending rest) sig (task.signals.info sig)
      (g.restarted (g.kind == .syscall) (some (task.signals.action sig)))).1.isOk = false

theorem silent_of_deliver {hw hw' : Hardware} {task : Task} {sig : Signal} {info : SigInfo}
    {frame : ExceptionFrame} {result : Except DeliverError Delivery}
    (h : deliver hw task sig info frame = (result, hw')) : hw.Silent hw' := by
  have hworks := worksSilently_deliver hw task sig info frame
  rw [h] at hworks
  exact hworks.silent

theorem diagnoses_signalPass (hw : Hardware) (id : TaskId) (task : Task) (g : ExceptionFrame) :
    Hardware.Diagnoses (task.FrameFails hw g) [] False [] hw (signalPass hw id task g).hw := by
  obtain ⟨p, hp⟩ := Pass.exists_specified hw id task g
  -- the signal that ends the pass settles all that is asked
  have hfails : ∀ {s : Signal} {r : SigSet}, task.TakesFirst s → task.Leaves (· ≤ s) r →
      (task.FrameFails hw g ↔ (∃ handler,
        (task.signals.action s).disposition s = .handler handler) ∧
        (deliver hw (task.withPending r) s (task.signals.info s)
          (g.restarted (g.kind == .syscall) (some (task.signals.action s)))).1.isOk = false) := by
    intro s r hfirst hleaves
    constructor
    · rintro ⟨s', handler, r', hfirst', hhandler, hleaves', hfail⟩
      obtain rfl := hfirst.unique hfirst'
      obtain rfl := hleaves.unique hleaves'
      exact ⟨⟨handler, hhandler⟩, hfail⟩
    · rintro ⟨⟨handler, hhandler⟩, hfail⟩
      exact ⟨s, handler, r, hfirst, hhandler, hleaves, hfail⟩
  rw [← hp.eq]
  cases hp with
  | resumed ignored leaves _ =>
    refine (Hardware.Diagnoses.of_silent (.refl hw)).congr ⟨False.elim, ?_⟩ .rfl
    rintro ⟨s, -, -, hfirst, -⟩
    exact hfirst.taken (ignored s (Task.open_iff.2 hfirst.deliverable)).eq
  | ended decides leaves ends =>
    obtain ⟨first, disposition⟩ := Task.decides_iff.1 decides
    cases ends with
    | killed | stopped =>
      refine (Hardware.Diagnoses.of_silent (.of_emit hw rfl)).congr ⟨False.elim, fun h => ?_⟩ .rfl
      obtain ⟨⟨handler, hhandler⟩, -⟩ := (hfails first leaves).1 h
      rw [disposition] at hhandler
      cases hhandler
    | delivered restart built =>
      refine (Hardware.Diagnoses.of_silent (silent_of_deliver built)).congr
        ⟨False.elim, fun h => ?_⟩ .rfl
      obtain rfl := restart.eq
      have hfail := ((hfails first leaves).1 h).2
      have hok : true = false := (congrArg (·.1.isOk) built).symm.trans hfail
      cases hok
    | refused restart refused =>
      refine .congr (.silent_trans (silent_of_deliver refused)
        ((Hardware.Diagnoses.error_line _ _ _).trans_silent (.of_emit _ rfl)))
        ⟨fun _ => ?_, fun _ => trivial⟩ .rfl
      obtain rfl := restart.eq
      exact (hfails first leaves).2 ⟨⟨_, disposition⟩, congrArg (·.1.isOk) refused⟩

/-! ## The parts of a trap -/

namespace Machine

open Hardware (Diagnoses)

/-- A step of a handler that logs nothing, and leaves its core as deep in traps as it was. -/
structure SilentStep (cpu : CpuId) (m n : Machine) : Prop where
  silent : m.hw.Silent n.hw
  depth : (n.slot cpu).depth = (m.slot cpu).depth
  state : (n.slot cpu).state = (m.slot cpu).state

namespace SilentStep

variable {cpu : CpuId} {m n o : Machine}

theorem trans (h : m.SilentStep cpu n) (h' : n.SilentStep cpu o) : m.SilentStep cpu o :=
  ⟨h.silent.trans h'.silent, h'.depth.trans h.depth, h'.state.trans h.state⟩

theorem isOpen {d : Nat} (h : m.SilentStep cpu n) (hs : (m.slot cpu).Open d) :
    (n.slot cpu).Open d :=
  ⟨h.depth ▸ hs.depth, h.state.trans hs.state⟩

theorem of_handles {takes : ExceptionFrame → Prop}
    (h : m.Handles (SilentStep cpu) takes cpu 0 n) : m.SilentStep cpu n :=
  h.untrapped .trans fun _ _ h => h

end SilentStep

theorem silent_writeCsr (m : Machine) (c : Csr) (v : UInt64) : m.hw.Silent (m.writeCsr c v).hw :=
  .of_emit _ rfl

theorem silent_captureUserEntry (m : Machine) (f : ExceptionFrame) :
    m.hw.Silent (m.captureUserEntry f).hw := by
  unfold captureUserEntry
  split
  · split
    · exact .refl _
    · dsimp only
      split
      · exact .of_emit _ rfl
      · exact .of_emit _ rfl
  · exact .refl _

/-- The signal frame of the current task is rejected. -/
def RejectsReturn (m : Machine) (f : ExceptionFrame) : Prop :=
  ∃ (id : TaskId) (task : Task), m.currentTask? = some (id, task) ∧
    (sigreturn m.hw task f).1.isOk = false

theorem diagnoses_sysSigreturn (m : Machine) (f : ExceptionFrame) :
    Diagnoses (m.RejectsReturn f) [] False [] m.hw (m.sysSigreturn f).2.hw := by
  unfold sysSigreturn
  cases hcur : m.currentTask? with
  | none =>
    refine (Diagnoses.of_silent (.refl _)).congr ⟨False.elim, ?_⟩ .rfl
    rintro ⟨_, _, hsome, -⟩
    rw [hcur] at hsome
    cases hsome
  | some current =>
    obtain ⟨id, task⟩ := current
    have hrejects : m.RejectsReturn f ↔ (sigreturn m.hw task f).1.isOk = false := by
      constructor
      · rintro ⟨_, _, hsome, hfail⟩
        rw [hcur] at hsome
        cases hsome
        exact hfail
      · exact fun hfail => ⟨id, task, hcur, hfail⟩
    have hsilent := (worksSilently_sigreturn m.hw task f).silent
    rw [hrejects]
    dsimp only
    split
    · rename_i back hback
      rw [hback]
      exact (Diagnoses.of_silent hsilent).congr (by simp [Except.isOk, Except.toBool]) .rfl
    · rename_i e he
      rw [he]
      exact .congr (.silent_trans hsilent ((Diagnoses.error_line _ _ _).trans_silent
        (.of_emit _ rfl))) (by simp [Except.isOk, Except.toBool]) .rfl

end Machine

/-- No handler is registered for the syscall of a frame, and it is not the signal return. -/
def Kernel.leavesUnknown (k : Kernel) (f : ExceptionFrame) : Bool :=
  (k.syscalls.handler? f.syscallNumber).isNone && f.syscallNumber != sigReturnNumber

/-- No handler is registered for an interrupt. -/
def Kernel.leavesSpurious (k : Kernel) (p : PendingIrq) : Bool := (k.irqs.handler? p.irq).isNone

namespace Machine

open Hardware (Diagnoses)

section

variable {k : Kernel} {cpu : CpuId} {f : ExceptionFrame}

theorem diagnoses_runSyscall
    (hcalls : ∀ h, k.syscalls.handler? f.syscallNumber = some h → ∀ args (m : Machine),
      m.hw.Silent (h args m).2.hw) (m : Machine) (frameAddr : UInt64) :
    Diagnoses (f.syscallNumber = sigReturnNumber ∧ m.RejectsReturn f)
      (if k.leavesUnknown f then [f.warning cpu] else []) False [] m.hw
      (runSyscall k m cpu frameAddr f).2.hw := by
  unfold Kernel.leavesUnknown
  cases hh : k.syscalls.handler? f.syscallNumber with
  | some h =>
    have hne : f.syscallNumber ≠ sigReturnNumber := by
      intro he
      rw [he, SyscallTables.handler?_sigReturn] at hh
      cases hh
    rw [machine_runSyscall_of_handler hh]
    refine (Diagnoses.of_silent ?_).congr ⟨False.elim, fun h => hne h.1⟩ .rfl
    exact (silent_writeCsr m .crmd _).trans ((hcalls h hh _ _).trans (silent_writeCsr _ .crmd _))
  | none =>
    rcases runSyscall_of_none hh m cpu frameAddr with ⟨he, heq⟩ | ⟨hne, n, hmode, heq⟩
    · rw [heq, he]
      exact (diagnoses_sysSigreturn m f).congr (by simp) .rfl
    · have hsilent : m.hw.Silent n.hw := by
        rcases hmode with rfl | ⟨v, v', rfl⟩
        · exact .refl _
        · exact (silent_writeCsr m .crmd v).trans (silent_writeCsr _ .crmd v')
      rw [heq, bne_iff_ne.2 hne]
      exact (Diagnoses.silent_trans hsilent (.warning_line _ _ _)).congr (by simp [hne]) .rfl

theorem diagnoses_handleClaimed
    (hirqs : ∀ irq h, k.irqs.handler? irq = some h → ∀ m : Machine, m.hw.Silent (h irq cpu m).hw)
    (m : Machine) (p : PendingIrq) :
    Diagnoses False (([p].filter k.leavesSpurious).map (·.warning cpu)) False [p] m.hw
      (handleClaimed k m cpu p).hw := by
  show Diagnoses _ _ _ _ m.hw ((k.answer cpu p (m.claimed cpu p m.pending)).givenBack cpu p).hw
  have hclaimed : Diagnoses False [] False [p] m.hw (m.claimed cpu p m.pending).hw :=
    .claim m.hw p
  refine .trans_silent ?_ (.of_emit _ rfl)
  unfold Kernel.answer
  cases hh : k.irqs.handler? p.irq with
  | some h =>
    have hnone : [p].filter k.leavesSpurious = [] := by simp [Kernel.leavesSpurious, hh]
    rw [hnone]
    exact hclaimed.trans_silent (hirqs p.irq h hh _)
  | none =>
    have hself : [p].filter k.leavesSpurious = [p] := by simp [Kernel.leavesSpurious, hh]
    rw [hself]
    exact (hclaimed.trans (.warning_line _ _ _)).congr (iff_of_eq (or_self _))
      (iff_of_eq (or_self _))

/-- Each interrupt that a drain claims without a handler is logged once, and nothing else is. -/
theorem diagnoses_drainUpTo
    (hirqs : ∀ irq h, k.irqs.handler? irq = some h → ∀ m : Machine, m.hw.Silent (h irq cpu m).hw)
    (fuel : Nat) (m : Machine) :
    let claims := claimsUpTo k cpu fuel m
    Diagnoses False ((claims.filter k.leavesSpurious).map (·.warning cpu)) False claims m.hw
      (drainUpTo k cpu fuel m).2.hw := by
  induction fuel generalizing m with
  | zero => exact .of_silent (.refl _)
  | succ fuel ih =>
    unfold drainUpTo claimsUpTo
    cases m.pending with
    | nil => exact .of_silent (.refl _)
    | cons p rest =>
      have hfirst := diagnoses_handleClaimed hirqs { m with pending := rest } p
      have hall := (hfirst.trans (ih (handleClaimed k { m with pending := rest } cpu p))).congr
        (iff_of_eq (or_self _)) (iff_of_eq (or_self _))
      rwa [← List.map_append, ← List.filter_append] at hall

end

/-! ## The way back -/

theorem diagnoses_wayBack (m : Machine) (id : TaskId) (task : Task) (g : ExceptionFrame) :
    Diagnoses (task.isAlive = true ∧ task.FrameFails m.hw g) [] False [] m.hw
      (m.wayBack id task g).hw := by
  unfold wayBack Task.isAlive
  cases task.state with
  | killed sig | stopped sig => exact (Diagnoses.of_silent (.refl _)).congr (by simp) .rfl
  | ready | running => exact (diagnoses_signalPass m.hw id task g).congr (by simp) .rfl

theorem diagnoses_settle (m : Machine) (id : TaskId) (task : Task) (outcome : PassOutcome) :
    Diagnoses False [] (∃ sig, outcome = .killed sig) [] m.hw
      (m.settle id task outcome).hw := by
  unfold settle
  cases outcome with
  | killed sig =>
    exact ((Diagnoses.info_line _ _ _).trans_silent (.of_emit _ rfl)).congr .rfl (by simp)
  | stopped sig => exact (Diagnoses.of_silent (.refl _)).congr .rfl (by simp)
  | resume | delivered sig =>
    refine (Diagnoses.of_silent ?_).congr .rfl (by simp)
    dsimp only
    split
    · exact ⟨[.enterUser id, .debugWrite task.trace.hw], by simp [Effect.line?], rfl⟩
    · exact .of_emit _ rfl

/-- A way back kills a task, or finds it killed, exactly if it leaves it so. -/
theorem killed_wayBack_iff (m : Machine) (id : TaskId) (task : Task) (g : ExceptionFrame) :
    (∃ sig, (m.wayBack id task g).outcome = .killed sig) ↔
      ∃ sig, (m.wayBack id task g).task.state = .killed sig := by
  have halive : ∀ before, task.state = before → (∀ sig, before ≠ .killed sig) →
      ((∃ sig, (signalPass m.hw id task g).outcome = .killed sig) ↔
        ∃ sig, (signalPass m.hw id task g).task.state = .killed sig) := by
    intro before hbefore hne
    rw [state_signalPass m.hw id task g, hbefore]
    cases (signalPass m.hw id task g).outcome <;> simp [PassOutcome.stateAfter, hne]
  unfold wayBack
  cases hs : task.state with
  | killed sig | stopped sig => simp [hs]
  | ready | running => exact halive _ hs nofun

/-- The task that is taken back to user mode at the end of a trap, if one is: that is the end of the
outermost trap, from user mode. -/
def returning? (m : Machine) (cpu : CpuId) (g : ExceptionFrame) : Option (TaskId × Task) :=
  if g.fromUser && (m.slot cpu).depth == 1 then m.currentTask? else none

/-- The signal frame for the task that is taken back cannot be built. -/
def FrameFails (m : Machine) (cpu : CpuId) (g : ExceptionFrame) : Prop :=
  ∃ (id : TaskId) (task : Task), m.returning? cpu g = some (id, task) ∧ task.isAlive = true ∧
    task.FrameFails (m.beginReturn cpu).hw g

/-- The task that is taken back is killed in `done`. -/
def EndsKilled (m : Machine) (cpu : CpuId) (g : ExceptionFrame) (done : Machine) : Prop :=
  ∃ (id : TaskId) (task after : Task) (sig : Signal), m.returning? cpu g = some (id, task) ∧
    done.tasks.find? id = some after ∧ after.state = .killed sig

section

variable {m : Machine} {cpu : CpuId} {d : Nat} {g : ExceptionFrame}

theorem silent_beginReturn (hopen : (m.slot cpu).Open (d + 1))
    (hdepth : (m.slot cpu).depth = 1) : m.hw.Silent (m.beginReturn cpu).hw := by
  have hmay : (m.slot cpu).mayReturn = true := by
    unfold CpuSlot.mayReturn
    rw [hdepth, hopen.state]
    rfl
  unfold beginReturn
  dsimp only
  rw [if_pos hmay]
  exact .of_emit _ rfl

theorem silent_leave (hdepth : (m.slot cpu).depth ≠ 0) : m.hw.Silent (m.leave cpu).hw := by
  unfold leave
  dsimp only
  rw [if_neg hdepth]
  exact .of_emit _ rfl

theorem depth_returnToUser (m : Machine) (cpu : CpuId) (g : ExceptionFrame) :
    ((m.returnToUser cpu g).2.slot cpu).depth = (m.slot cpu).depth := by
  have hbegin : ((m.beginReturn cpu).slot cpu).depth = (m.slot cpu).depth := by
    unfold beginReturn
    dsimp only
    split
    · rw [slot_moveTo_same]
      rfl
    · rfl
  unfold returnToUser
  split
  · have hback := (beside_resumeCurrent (m.beginReturn cpu) g).cpus
    unfold slot at hbegin ⊢
    rw [hback, hbegin]
  · rfl

/-- The end of a trap logs that it cannot build a signal frame, and that the task is killed. -/
theorem diagnoses_returnToUser (hopen : (m.slot cpu).Open (d + 1)) :
    let done := (m.returnToUser cpu g).2.leave cpu
    Diagnoses (m.FrameFails cpu g) [] (m.EndsKilled cpu g done) [] m.hw done.hw := by
  intro done
  have hleft : (m.returnToUser cpu g).2.hw.Silent done.hw := by
    apply silent_leave
    rw [depth_returnToUser]
    intro hzero
    have hdepth := hopen.depth
    rw [hzero] at hdepth
    cases hdepth
  -- without a task to take back there is nothing to log
  have hnone : m.returning? cpu g = none → m.hw.Silent (m.returnToUser cpu g).2.hw →
      Diagnoses (m.FrameFails cpu g) [] (m.EndsKilled cpu g done) [] m.hw done.hw := by
    intro hret hsilent
    refine (Diagnoses.of_silent (hsilent.trans hleft)).congr ?_ ?_
    · simp [FrameFails, hret]
    · simp [EndsKilled, hret]
  by_cases hback : (g.fromUser && (m.slot cpu).depth == 1) = true
  · have huser : g.fromUser = true := (Bool.and_eq_true_iff.1 hback).1
    have hdepth : (m.slot cpu).depth = 1 := beq_iff_eq.1 (Bool.and_eq_true_iff.1 hback).2
    have hbegin := silent_beginReturn hopen hdepth
    have hret : m.returning? cpu g = m.currentTask? := if_pos hback
    cases hcur : m.currentTask? with
    | none =>
      refine hnone (hret.trans hcur) ?_
      have hsame : m.returnToUser cpu g = (g, m.beginReturn cpu) := by
        unfold returnToUser resumeCurrent
        rw [if_pos hback, currentTask?_beginReturn, hcur]
      rw [hsame]
      exact hbegin
    | some current =>
      obtain ⟨id, task⟩ := current
      rw [hcur] at hret
      have hreturn := returnToUser_of_outermost huser hdepth hcur
      have hway := diagnoses_wayBack (m.beginReturn cpu) id task g
      have hkilled := killed_wayBack_iff (m.beginReturn cpu) id task g
      generalize hp : (m.beginReturn cpu).wayBack id task g = p at hreturn hway hkilled
      have hsettle : Diagnoses False [] (∃ sig, p.outcome = .killed sig) [] p.hw
          ((m.beginReturn cpu).afterBack id p).hw :=
        diagnoses_settle ({ m.beginReturn cpu with hw := p.hw }.putTask id p.task) id p.task
          p.outcome
      have hfind : done.tasks.find? id = some p.task := by
        have hold : (m.beginReturn cpu).tasks.find? id = some task :=
          (currentTask?_eq_some_iff.1 ((currentTask?_beginReturn m cpu).trans hcur)).2
        show ((m.returnToUser cpu g).2.leave cpu).tasks.find? id = _
        rw [tasks_leave, hreturn, tasks_afterBack]
        exact TaskTable.find?_put_same hold p.task
      rw [hreturn] at hleft
      refine ((Diagnoses.silent_trans hbegin (hway.trans hsettle)).trans_silent hleft).congr ?_ ?_
      · simp [FrameFails, hret]
      · rw [hkilled]
        simp [EndsKilled, hret, hfind]
  · refine hnone (if_neg hback) ?_
    unfold returnToUser
    rw [if_neg hback]
    exact .refl _

end

/-! ## Misses and faults -/

theorem diagnoses_haltReport (m : Machine) (cpu : CpuId) (f : ExceptionFrame)
    (fault : FaultClass) :
    Diagnoses True [] False [] m.hw (m.haltReport cpu f fault).2.hw := by
  have herror : ∀ line ∈ (⟨cpu, fault, f⟩ : FatalReport).lines, line.level = .error := by
    intro line hline
    obtain ⟨row, -, rfl⟩ := List.mem_map.1 hline
    rfl
  have hlines : Diagnoses _ _ _ [] m.hw (m.haltReport cpu f fault).2.hw :=
    .of_lines (⟨cpu, fault, f⟩ : FatalReport).lines (by rw [machine_haltReport])
      fun line hline => .inl (herror line hline)
  have hwarnings : (⟨cpu, fault, f⟩ : FatalReport).lines.filter (·.level == .warn) = [] :=
    List.filter_eq_nil_iff.2 fun line hline => by rw [herror line hline]; decide
  rw [hwarnings] at hlines
  refine hlines.congr ⟨fun _ => trivial, fun _ => ?_⟩ ⟨?_, False.elim⟩
  · exact ⟨_, List.mem_cons_self, rfl⟩
  · rintro ⟨line, hline, hinfo⟩
    rw [herror line hline] at hinfo
    cases hinfo

section

variable {m : Machine} {cpu : CpuId}

theorem open_enter (hdepth : (m.slot cpu).depth + 1 ≠ 0) :
    ((m.enter cpu).slot cpu).Open ((m.slot cpu).depth.toNat + 1) := by
  have hlt : (m.slot cpu).depth.toNat + 1 < 2 ^ 32 := by
    by_contra hge
    have hmax := (m.slot cpu).depth.toNat_lt
    apply hdepth
    rw [← UInt32.toNat_inj, UInt32.toNat_add]
    show ((m.slot cpu).depth.toNat + 1) % 2 ^ 32 = 0
    omega
  rw [enter, slot_moveTo_same]
  refine ⟨?_, rfl⟩
  show ((m.slot cpu).depth + 1).toNat = _
  rw [UInt32.toNat_add]
  exact Nat.mod_eq_of_lt hlt

theorem silent_enter (m : Machine) (cpu : CpuId) : m.hw.Silent (m.enter cpu).hw := .of_emit _ rfl

/-- A trap that has entered is left in silence. -/
theorem silent_leave_of_slot {n : Machine} (hdepth : (m.slot cpu).depth + 1 ≠ 0)
    (hslot : n.slot cpu = (m.enter cpu).slot cpu) : n.hw.Silent (n.leave cpu).hw := by
  apply silent_leave
  rw [hslot, enter, slot_moveTo_same]
  exact hdepth

theorem diagnoses_handleMiss (hdepth : (m.slot cpu).depth + 1 ≠ 0) (f : ExceptionFrame)
    (kind : MissKind) :
    Diagnoses (∃ report, (m.handleMiss cpu f kind).outcome = .halt report) [] False [] m.hw
      (m.handleMiss cpu f kind).machine.hw := by
  have hmiss := (silent_enter m cpu).trans (worksSilently_resolveMiss (m.enter cpu).hw
    (f.setKind .tlbRefill).badv (f.setKind .tlbRefill).fromUser kind).silent
  unfold handleMiss
  dsimp only
  generalize (m.enter cpu).hw.resolveMiss _ _ kind = r at hmiss ⊢
  have hleft := silent_leave_of_slot (n := { m.enter cpu with hw := r.2 }) hdepth rfl
  split
  · exact (Diagnoses.of_silent (hmiss.trans hleft)).congr (by simp) .rfl
  · rename_i e _
    let text := cpu.name ++ ": unresolved " ++ kind.text ++ " miss at " ++
      Text.hex (f.setKind .tlbRefill).badv ++ ": " ++ e.message
    have hline : Diagnoses True [] False [] r.2 (r.2.log .error "tlb" text) := .error_line ..
    have hreport := diagnoses_haltReport ({ m.enter cpu with hw := r.2 }.log .error "tlb" text) cpu
      (f.setKind .tlbRefill) .unresolvedMiss
    refine (Diagnoses.silent_trans hmiss ((hline.trans hreport).trans_silent
      (silent_leave_of_slot hdepth ?_))).congr (by simp [haltReport]) (by simp)
    rw [machine_haltReport]
    rfl

theorem diagnoses_handleFault (hdepth : (m.slot cpu).depth + 1 ≠ 0) (f : ExceptionFrame)
    (fault : FaultClass) :
    Diagnoses True [] False [] m.hw (m.handleFault cpu f fault).machine.hw := by
  refine Diagnoses.silent_trans (silent_enter m cpu)
    ((diagnoses_haltReport (m.enter cpu) cpu (f.setKind .exception) fault).trans_silent
      (silent_leave_of_slot hdepth ?_))
  rw [machine_haltReport]
  rfl

end

/-! ## The whole trap -/

section

variable {k : Kernel} {m n : Machine} {cpu : CpuId} {frameAddr : UInt64} {f g : ExceptionFrame}

/-- The way in of a trap that is handled: nothing is logged. -/
theorem silent_wayIn (m : Machine) (cpu : CpuId) (f g : ExceptionFrame) :
    m.hw.Silent (((m.record f).enter cpu).captureUserEntry g).hw :=
  (silent_enter (m.record f) cpu).trans (silent_captureUserEntry _ g)

theorem open_wayIn (hdepth : (m.slot cpu).depth + 1 ≠ 0) (f g : ExceptionFrame) :
    ((((m.record f).enter cpu).captureUserEntry g).slot cpu).Open
      ((m.slot cpu).depth.toNat + 1) := by
  rw [(aside_of_isBeside (beside_captureUserEntry _ g)).slot]
  exact open_enter (m := m.record f) hdepth

theorem open_runSyscall {d : Nat}
    (hcalls : ∀ h, k.syscalls.handler? f.syscallNumber = some h → ∀ args (m : Machine),
      m.SilentStep cpu (h args m).2) (hs : (m.slot cpu).Open d) (frameAddr : UInt64) :
    ((runSyscall k m cpu frameAddr f).2.slot cpu).Open d := by
  cases hh : k.syscalls.handler? f.syscallNumber with
  | none =>
    rw [(aside_of_isWork (beside_runSyscall_of_unhandled hh _ _ _)).slot]
    exact hs
  | some h =>
    rw [machine_runSyscall_of_handler hh]
    exact (hcalls h hh _ _).isOpen hs

theorem open_drainUpTo {d : Nat}
    (hirqs : ∀ irq h, k.irqs.handler? irq = some h → ∀ m : Machine,
      m.SilentStep cpu (h irq cpu m)) (fuel : Nat) (hs : (m.slot cpu).Open d) :
    ((drainUpTo k cpu fuel m).2.slot cpu).Open d := by
  induction fuel generalizing m with
  | zero => exact hs
  | succ fuel ih =>
    unfold drainUpTo
    cases m.pending with
    | nil => exact hs
    | cons p rest =>
      have hclaimed : ((m.claimed cpu p rest).slot cpu).Open d := by
        rw [slot_claimed_same]
        exact ⟨hs.depth, hs.state⟩
      have hanswered : ((k.answer cpu p (m.claimed cpu p rest)).slot cpu).Open d := by
        unfold Kernel.answer
        split
        · rename_i h hh
          exact (hirqs p.irq h hh _).isOpen hclaimed
        · exact hclaimed
      have hback : (((k.answer cpu p (m.claimed cpu p rest)).givenBack cpu p).slot cpu).Open d := by
        rw [slot_givenBack_same]
        exact ⟨hanswered.depth, hanswered.state⟩
      exact ih hback

theorem open_handled (h : handled? k m cpu frameAddr f = some (g, n))
    (hk : k.Serves (SilentStep cpu) (fun _ => True) cpu 0 f)
    (hdepth : (m.slot cpu).depth + 1 ≠ 0) :
    (n.slot cpu).Open ((m.slot cpu).depth.toNat + 1) := by
  unfold handled? at h
  cases hc : classify f.estat f.fromUser with
  | syscall =>
    simp only [hc, Option.some.injEq] at h
    have hleft := open_runSyscall (k := k) (f := f.atSyscall)
      (fun nr hh args m => .of_handles (hk.calls hc nr hh args m))
      (open_wayIn hdepth f f.atSyscall) frameAddr
    unfold inSyscall at h
    rwa [h] at hleft
  | interrupt =>
    simp only [hc, Option.some.injEq, Prod.mk.injEq] at h
    obtain ⟨-, rfl⟩ := h
    let start := ((m.record f).enter cpu).captureUserEntry (f.setKind .irq)
    have hdrained := open_drainUpTo (fun irq h hh m => .of_handles (hk.irqs hc irq h hh m))
      (start.pending.length + k.raises) (open_wayIn hdepth f (f.setKind .irq))
    exact (TakesTraps.reschedule _ cpu).isOpen hdrained
  | miss kind | fatal fault => simp [hc] at h

/-- The trap is a signal return whose frame is rejected. -/
def RefusesReturn (m : Machine) (cpu : CpuId) (f : ExceptionFrame) : Prop :=
  classify f.estat f.fromUser = .syscall ∧ f.syscallNumber = sigReturnNumber ∧
    (m.inSyscall cpu f).RejectsReturn f.atSyscall

/-- The warnings of a trap: one for each interrupt that it claims and that has no handler, and one
for a syscall that has none. -/
def warningsIn (k : Kernel) (m : Machine) (cpu : CpuId) (f : ExceptionFrame) : List LogLine :=
  ((claimsIn k m cpu f).filter k.leavesSpurious).map (·.warning cpu) ++
    if classify f.estat f.fromUser = .syscall ∧ k.leavesUnknown f = true then [f.warning cpu]
    else []

theorem diagnoses_handled (h : handled? k m cpu frameAddr f = some (g, n))
    (hk : k.Serves (SilentStep cpu) (fun _ => True) cpu 0 f) :
    Diagnoses (m.RefusesReturn cpu f) (warningsIn k m cpu f) False (claimsIn k m cpu f)
      m.hw n.hw := by
  unfold handled? at h
  unfold warningsIn RefusesReturn claimsIn
  cases hc : classify f.estat f.fromUser with
  | syscall =>
    simp only [hc, Option.some.injEq] at h
    have hsteps := fun nr hh args m => SilentStep.of_handles (hk.calls hc nr hh args m)
    have hcall : Diagnoses _ _ _ _ (m.inSyscall cpu f).hw
        (runSyscall k (m.inSyscall cpu f) cpu frameAddr f.atSyscall).2.hw :=
      diagnoses_runSyscall (f := f.atSyscall) (fun nr hh args m => (hsteps nr hh args m).silent)
        (m.inSyscall cpu f) frameAddr
    rw [h] at hcall
    have hall := Diagnoses.silent_trans (silent_wayIn m cpu f f.atSyscall) hcall
    have hsame : k.leavesUnknown f.atSyscall = k.leavesUnknown f := rfl
    have hnumber : f.atSyscall.syscallNumber = f.syscallNumber := rfl
    have hwarning : f.atSyscall.warning cpu = f.warning cpu := rfl
    rw [hsame, hnumber, hwarning] at hall
    simpa using hall
  | interrupt =>
    simp only [hc, Option.some.injEq, Prod.mk.injEq] at h
    obtain ⟨-, rfl⟩ := h
    have hsteps := fun irq h hh m => SilentStep.of_handles (hk.irqs hc irq h hh m)
    let start := ((m.record f).enter cpu).captureUserEntry (f.setKind .irq)
    have hdrained := diagnoses_drainUpTo (fun irq h hh m => (hsteps irq h hh m).silent)
      (start.pending.length + k.raises) start
    have hall := Diagnoses.silent_trans (silent_wayIn m cpu f (f.setKind .irq)) hdrained
    have hcall : ∀ P : Prop, ¬ (TrapCause.interrupt = .syscall ∧ P) := fun P h => by cases h.1
    rw [if_neg (hcall _), List.append_nil]
    exact (hall.congr ⟨False.elim, hcall _⟩ .rfl).trans_silent (.of_emit _ rfl)
  | miss kind | fatal fault => simp [hc] at h

/-- What went wrong in a trap: it halts, it is a signal return that is refused, or its way back
cannot build a signal frame. -/
def GoesWrong (k : Kernel) (m : Machine) (cpu : CpuId) (frameAddr : UInt64) (f : ExceptionFrame) :
    Prop :=
  (∃ report, (dispatch k m cpu frameAddr f).outcome = .halt report) ∨ m.RefusesReturn cpu f ∨
    ∃ g n, handled? k m cpu frameAddr f = some (g, n) ∧ n.FrameFails cpu g

/-- The way back of a trap finds its task killed, or kills it. -/
def LosesTask (k : Kernel) (m : Machine) (cpu : CpuId) (frameAddr : UInt64) (f : ExceptionFrame) :
    Prop :=
  ∃ g n, handled? k m cpu frameAddr f = some (g, n) ∧
    n.EndsKilled cpu g (dispatch k m cpu frameAddr f).machine

theorem diagnoses_dispatch (hk : k.Serves (SilentStep cpu) (fun _ => True) cpu 0 f)
    (hdepth : (m.slot cpu).depth + 1 ≠ 0) :
    Diagnoses (GoesWrong k m cpu frameAddr f) (warningsIn k m cpu f)
      (LosesTask k m cpu frameAddr f) (claimsIn k m cpu f) m.hw
      (dispatch k m cpu frameAddr f).machine.hw := by
  unfold GoesWrong LosesTask
  cases hh : handled? k m cpu frameAddr f with
  | some left =>
    obtain ⟨g, n⟩ := left
    have hdone := dispatch_of_handled? hh
    have hall := (diagnoses_handled hh hk).trans
      (diagnoses_returnToUser (g := g) (open_handled hh hk hdepth))
    rw [List.append_nil, List.append_nil] at hall
    rw [hdone]
    exact hall.congr (by simp) (by simp)
  | none =>
    -- neither a miss nor a fault claims an interrupt or makes a call
    have hquiet : classify f.estat f.fromUser ≠ .syscall →
        classify f.estat f.fromUser ≠ .interrupt →
        claimsIn k m cpu f = [] ∧ warningsIn k m cpu f = [] ∧ ¬ m.RefusesReturn cpu f := by
      intro hcall hirq
      have hclaims : claimsIn k m cpu f = [] := by
        unfold claimsIn
        split
        · rename_i hc
          exact absurd hc hirq
        all_goals rfl
      refine ⟨hclaims, ?_, fun h => hcall h.1⟩
      unfold warningsIn
      rw [hclaims, if_neg fun h => hcall h.1]
      rfl
    cases hc : classify f.estat f.fromUser with
    | syscall | interrupt => simp [handled?, hc] at hh
    | miss kind =>
      obtain ⟨hclaims, hwarnings, hreturn⟩ := hquiet (by simp [hc]) (by simp [hc])
      rw [hclaims, hwarnings, dispatch_of_miss hc]
      exact (diagnoses_handleMiss (m := m.record f) hdepth f kind).congr (by simp [hreturn])
        (by simp)
    | fatal fault =>
      obtain ⟨hclaims, hwarnings, hreturn⟩ := hquiet (by simp [hc]) (by simp [hc])
      rw [hclaims, hwarnings, dispatch_of_fatal hc]
      exact (diagnoses_handleFault (m := m.record f) hdepth f fault).congr
        (by simp [handleFault, haltReport]) (by simp)

/-- A trap logs what went wrong, and nothing else. Take any trap, on a core that can count it, whose
handlers take no traps and log nothing themselves. It logs an error exactly if it halts, if it is a
signal return that is refused, or if its way back cannot build a signal frame. It warns once of each
interrupt that it claims and that nobody handles, in that order, and once of a call that nobody
handles; the signal return is none of those. The interrupts are claims that the trace shows, and all
of them unless handlers claim some themselves. It logs information exactly if its way back is one to
user mode and finds the current task killed or kills it. There are no other lines, and so the checks
for illegal transitions say nothing. -/
theorem diagnostics_exactly_when_wrong (k : Kernel) (m : Machine) (cpu : CpuId)
    (frameAddr : UInt64) (f : ExceptionFrame)
    (hk : k.Serves (SilentStep cpu) (fun _ => True) cpu 0 f)
    (hdepth : (m.slot cpu).depth + 1 ≠ 0) :
    let after := (dispatch k m cpu frameAddr f).machine.hw
    let lines := m.hw.linesTo after
    ((∃ line ∈ lines, line.level = .error) ↔ GoesWrong k m cpu frameAddr f) ∧
    lines.filter (·.level == .warn) = warningsIn k m cpu f ∧
    (claimsIn k m cpu f).Sublist (m.hw.claimsTo after) ∧
    (k.Serves LeavesIrqs (fun _ => True) cpu 0 f → m.hw.claimsTo after = claimsIn k m cpu f) ∧
    ((∃ line ∈ lines, line.level = .info) ↔ LosesTask k m cpu frameAddr f) ∧
    (lines = [] ↔ ¬ GoesWrong k m cpu frameAddr f ∧ warningsIn k m cpu f = [] ∧
      ¬ LosesTask k m cpu frameAddr f) := by
  intro after lines
  have h : Diagnoses _ _ (LosesTask k m cpu frameAddr f) _ m.hw after :=
    diagnoses_dispatch hk hdepth
  exact ⟨h.error, h.warnings, h.claims, claimsTo_dispatch, h.info, h.linesTo_eq_nil_iff⟩

end

end Machine

/-! ## A refused return and two spurious interrupts -/

theorem Kernel.serves_bare (own : Machine → Machine → Prop) (takes : ExceptionFrame → Prop)
    (cpu : CpuId) (n : Nat) (f : ExceptionFrame) : Kernel.bare.Serves own takes cpu n f := by
  constructor
  · intro _ h hh
    rw [Kernel.bare, SyscallTables.handler?_empty] at hh
    cases hh
  · intro _ irq h hh
    rw [Kernel.irqHandler?_bare] at hh
    cases hh

/-- A signal return that is refused is an error, and the end of its task is information. Interrupts
that nobody handles are warned of in the order they are claimed. -/
theorem diagnostics_exactly_when_wrong_refused :
    let linesOf (m : Machine) (f : ExceptionFrame) :=
      m.hw.linesTo (Machine.dispatch .bare m .boot 0 f).machine.hw
    (∃ line ∈ linesOf (.running .caller) .ofBadReturn, line.level = .error) ∧
    (∃ line ∈ linesOf (.running .caller) .ofBadReturn, line.level = .info) ∧
    (linesOf .twoPending .cleared).filter (·.level == .warn) =
      [PendingIrq.warning .boot ⟨⟨1⟩, ⟨3⟩⟩, PendingIrq.warning .boot ⟨.boot, ⟨5⟩⟩] ∧
    Machine.twoPending.hw.claimsTo
      (Machine.dispatch .bare .twoPending .boot 0 .cleared).machine.hw =
        [⟨⟨1⟩, ⟨3⟩⟩, ⟨.boot, ⟨5⟩⟩] := by
  intro linesOf
  have hrun := fun (m : Machine) (f : ExceptionFrame)
      (hdepth : (m.slot .boot).depth + 1 ≠ 0) =>
    Machine.diagnostics_exactly_when_wrong .bare m .boot 0 f (Kernel.serves_bare _ _ _ _ _) hdepth
  obtain ⟨herror, -, -, -, hinfo, -⟩ := hrun (.running .caller) .ofBadReturn (by decide +kernel)
  obtain ⟨-, hwarnings, -, hshown, -⟩ := hrun .twoPending .cleared (by decide +kernel)
  have hcause : classify ExceptionFrame.ofBadReturn.estat ExceptionFrame.ofBadReturn.fromUser =
      .syscall := by decide +kernel
  have hclaims : Machine.claimsIn .bare .twoPending .boot .cleared =
      [⟨⟨1⟩, ⟨3⟩⟩, ⟨.boot, ⟨5⟩⟩] := by decide +kernel
  refine ⟨herror.2 (.inr (.inl ⟨hcause, by decide +kernel, ⟨0⟩, _, rfl, by decide +kernel⟩)),
    hinfo.2 ?_, hwarnings.trans ?_, (hshown (Kernel.serves_bare _ _ _ _ _)).trans hclaims⟩
  · refine ⟨_, _, by unfold Machine.handled?; rw [hcause], ⟨0⟩, _, _, 11, rfl, rfl, ?_⟩
    decide +kernel
  · unfold Machine.warningsIn
    rw [hclaims]
    rfl

end TrapLayer
