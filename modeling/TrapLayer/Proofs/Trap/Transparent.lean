import TrapLayer.Proofs.Debug.RegisterWrite
import TrapLayer.Proofs.Paging.Misses
import TrapLayer.Proofs.Trap.KernelMode

/-!
# Interrupts, misses and faults are transparent

Whoever is interrupted, or misses a page, does not know. A fault and a miss mark the kind of the
trap in the frame and leave the rest, and no task notices them. So does an interrupt, but its way
back may deliver a signal, which is built from the frame as the interrupt found it: a word in `a0`
that would be a restart code in a syscall is a word of the program.

* `outcome_handleMiss`: a miss that is not resolved stops the system, and no other does.
* `wayBack_deliversAtMost`: a way back from an interrupt delivers a signal, or leaves the frame.
* `halts_from_cause_and_transparent`: what becomes of the frame, by the cause of the trap.
-/
namespace TrapLayer

/-! ## The way back from an interrupt -/

/-- The signal that was delivered, if one was. -/
def PassOutcome.delivered? : PassOutcome → Option Signal
  | .delivered sig => some sig
  | _ => none

/-- The frame `g` becomes `after`: it is left as it is, unless a signal was delivered, and then it
is what the delivery makes of it. -/
def ExceptionFrame.DeliversAtMost (g : ExceptionFrame) (hw : Hardware) :
    Option Signal → ExceptionFrame → Prop
  | none, after => after = g
  | some sig, after => ∃ (taken : Task) (info : SigInfo) (d : Delivery) (hw' : Hardware),
      deliver hw taken sig info g = (.ok d, hw') ∧ after = d.frame

section

variable (hw : Hardware) (id : TaskId) (g : ExceptionFrame)

theorem takeHandled_deliversAtMost (task : Task) (sig : Signal) (action : SigAction) :
    let p := takeHandled hw id task false sig action g
    g.DeliversAtMost hw p.outcome.delivered? p.frame := by
  unfold takeHandled
  dsimp only
  split
  · rename_i d hd
    exact ⟨_, _, d, _, Prod.ext hd rfl, rfl⟩
  · rfl

/-- A frame that is no syscall frame is not restarted by a pass. -/
theorem signalPass_deliversAtMost (task : Task) (hk : g.kind ≠ .syscall) :
    let p := signalPass hw id task g
    g.DeliversAtMost hw p.outcome.delivered? p.frame := by
  have hno : (g.kind == .syscall) = false := beq_eq_false_iff_ne.2 hk
  obtain ⟨pending, hends⟩ := signalPass_ends hw id task g
  rw [hno] at hends
  dsimp only
  generalize signalPass hw id task g = p at hends ⊢
  cases hends with
  | ignored | killed sig | stopped sig => rfl
  | handled sig action => exact takeHandled_deliversAtMost hw id g _ sig action

end

namespace Machine

theorem wayBack_deliversAtMost (m : Machine) (id : TaskId) (task : Task) {g : ExceptionFrame}
    (hk : g.kind ≠ .syscall) :
    let p := m.wayBack id task g
    g.DeliversAtMost m.hw p.outcome.delivered? p.frame := by
  unfold wayBack
  cases task.state with
  | killed sig | stopped sig => rfl
  | ready | running => exact signalPass_deliversAtMost m.hw id g task hk

/-- The pass at the end of a trap, if it leads back to user mode. -/
def lastPass? (m : Machine) (cpu : CpuId) (g : ExceptionFrame) : Option Pass :=
  if g.fromUser && (m.slot cpu).depth == 1 then
    m.currentTask?.map fun t => (m.beginReturn cpu).wayBack t.1 t.2 g
  else none

/-- The signal that the end of a trap delivers, if it does. -/
def delivers? (m : Machine) (cpu : CpuId) (g : ExceptionFrame) : Option Signal :=
  (m.lastPass? cpu g).bind (·.outcome.delivered?)

theorem frame_returnToUser (m : Machine) (cpu : CpuId) (g : ExceptionFrame) :
    (m.returnToUser cpu g).1 = ((m.lastPass? cpu g).map (·.frame)).getD g := by
  unfold returnToUser lastPass?
  split
  · unfold resumeCurrent
    rw [currentTask?_beginReturn]
    cases m.currentTask? <;> rfl
  · rfl

theorem returnToUser_deliversAtMost (m : Machine) (cpu : CpuId) {g : ExceptionFrame}
    (hk : g.kind ≠ .syscall) :
    g.DeliversAtMost (m.beginReturn cpu).hw (m.delivers? cpu g) (m.returnToUser cpu g).1 := by
  rw [frame_returnToUser]
  unfold delivers? lastPass?
  split
  · cases m.currentTask? with
    | none => rfl
    | some t => exact wayBack_deliversAtMost (m.beginReturn cpu) t.1 t.2 hk
  · rfl

/-! ## Misses and faults -/

theorem frame_handleMiss (m : Machine) (cpu : CpuId) (f : ExceptionFrame) (kind : MissKind) :
    (m.handleMiss cpu f kind).frame = f.setKind .tlbRefill := by
  unfold handleMiss
  dsimp only
  split <;> rfl

theorem outcome_handleMiss (m : Machine) (cpu : CpuId) (f : ExceptionFrame) (kind : MissKind) :
    (m.handleMiss cpu f kind).outcome =
      if (m.hw.resolveMiss f.badv f.fromUser kind).1.isOk then .resume
      else .halt ⟨cpu, .unresolvedMiss, f.setKind .tlbRefill⟩ := by
  have hresume := m.handleMiss_resume_iff cpu f kind
  have hends : (m.handleMiss cpu f kind).outcome = .resume ∨
      (m.handleMiss cpu f kind).outcome =
        .halt ⟨cpu, .unresolvedMiss, f.setKind .tlbRefill⟩ := by
    unfold handleMiss
    dsimp only
    split
    · exact .inl rfl
    · exact .inr rfl
  split
  · rename_i hok
    exact hresume.2 hok
  · rename_i hfail
    exact hends.resolve_left (mt hresume.1 hfail)

/-! ## By the cause of the trap -/

theorem dispatch_of_miss {k : Kernel} {m : Machine} {cpu : CpuId} {frameAddr : UInt64}
    {f : ExceptionFrame} {kind : MissKind} (h : classify f.estat f.fromUser = .miss kind) :
    dispatch k m cpu frameAddr f = (m.record f).handleMiss cpu f kind := by
  unfold dispatch
  rw [h]

theorem dispatch_of_fatal {k : Kernel} {m : Machine} {cpu : CpuId} {frameAddr : UInt64}
    {f : ExceptionFrame} {fault : FaultClass} (h : classify f.estat f.fromUser = .fatal fault) :
    dispatch k m cpu frameAddr f = (m.record f).handleFault cpu f fault := by
  unfold dispatch
  rw [h]

section

variable (k : Kernel) (m : Machine) (cpu : CpuId) (frameAddr : UInt64) (f : ExceptionFrame)

theorem outcome_dispatch : (dispatch k m cpu frameAddr f).outcome =
    match classify f.estat f.fromUser with
    | .fatal fault => .halt ⟨cpu, fault, f.setKind .exception⟩
    | .miss kind =>
      if (m.hw.resolveMiss f.badv f.fromUser kind).1.isOk then .resume
      else .halt ⟨cpu, .unresolvedMiss, f.setKind .tlbRefill⟩
    | .interrupt | .syscall => .resume := by
  unfold dispatch
  cases classify f.estat f.fromUser with
  | miss kind => exact outcome_handleMiss (m.record f) cpu f kind
  | fatal fault | interrupt | syscall => rfl

/-- A trap halts with a report exactly when its cause says so. -/
theorem dispatch_halt_iff (report : FatalReport) :
    (dispatch k m cpu frameAddr f).outcome = .halt report ↔
      (∃ fault, classify f.estat f.fromUser = .fatal fault ∧
        report = ⟨cpu, fault, f.setKind .exception⟩) ∨
      ∃ kind, classify f.estat f.fromUser = .miss kind ∧
        (m.hw.resolveMiss f.badv f.fromUser kind).1.isOk = false ∧
        report = ⟨cpu, .unresolvedMiss, f.setKind .tlbRefill⟩ := by
  rw [outcome_dispatch]
  cases classify f.estat f.fromUser with
  | syscall | interrupt => simp
  | fatal fault =>
    constructor
    · exact fun h => .inl ⟨fault, rfl, (TrapOutcome.halt.inj h).symm⟩
    · rintro (⟨_, hfault, rfl⟩ | ⟨_, hmiss, -⟩)
      · rw [TrapCause.fatal.inj hfault]
      · cases hmiss
  | miss kind =>
    dsimp only
    constructor
    · intro h
      split at h
      · cases h
      · rename_i hfail
        exact .inr ⟨kind, rfl, Bool.eq_false_iff.2 hfail, (TrapOutcome.halt.inj h).symm⟩
    · rintro (⟨_, hfault, -⟩ | ⟨_, hmiss, hfail, rfl⟩)
      · cases hfault
      · rw [TrapCause.miss.inj hmiss, hfail]
        rfl

end

/-- A halt follows exactly from the cause of a trap, and interrupts, misses and faults are
transparent. A trap stops the system if and only if it is classified as fatal, or it is a miss that
the live table does not resolve; the report names the core, the class of the fault and the frame. A
fault and a miss change nothing in the frame but the kind of the trap, and no task notices them. An
interrupt changes no more, whatever its handlers do and whatever is in `a0`, unless its way back
delivers a signal; the delivery then starts from the same frame. -/
theorem halts_from_cause_and_transparent (k : Kernel) (m : Machine) (cpu : CpuId)
    (frameAddr : UInt64) (f : ExceptionFrame) :
    let done := dispatch k m cpu frameAddr f
    (∀ report : FatalReport, done.outcome = .halt report ↔
      (∃ fault, classify f.estat f.fromUser = .fatal fault ∧
        report = ⟨cpu, fault, f.setKind .exception⟩) ∨
      ∃ kind, classify f.estat f.fromUser = .miss kind ∧
        (m.hw.resolveMiss f.badv f.fromUser kind).1.isOk = false ∧
        report = ⟨cpu, .unresolvedMiss, f.setKind .tlbRefill⟩) ∧
    match classify f.estat f.fromUser with
    | .fatal _ => done.frame = f.setKind .exception ∧ m.Spares done.machine
    | .miss _ => done.frame = f.setKind .tlbRefill ∧ m.Spares done.machine
    | .interrupt => ∃ n : Machine, handled? k m cpu frameAddr f = some (f.setKind .irq, n) ∧
        (f.setKind .irq).DeliversAtMost (n.beginReturn cpu).hw
          (n.delivers? cpu (f.setKind .irq)) done.frame
    | .syscall => done.outcome = .resume := by
  intro done
  refine ⟨dispatch_halt_iff k m cpu frameAddr f, ?_⟩
  have hrecord := KernelWork.record m f
  cases hc : classify f.estat f.fromUser with
  | fatal fault =>
    have hdone : done = (m.record f).handleFault cpu f fault := dispatch_of_fatal hc
    rw [hdone]
    exact ⟨rfl, (hrecord.trans (.handleFault _ cpu f fault)).spares⟩
  | miss kind =>
    have hdone : done = (m.record f).handleMiss cpu f kind := dispatch_of_miss hc
    rw [hdone]
    exact ⟨frame_handleMiss _ cpu f kind, (hrecord.trans (.handleMiss _ cpu f kind)).spares⟩
  | interrupt =>
    obtain ⟨n, hn⟩ : ∃ n, handled? k m cpu frameAddr f = some (f.setKind .irq, n) := by
      unfold handled?
      rw [hc]
      exact ⟨_, rfl⟩
    have hkind : (f.setKind .irq).kind ≠ .syscall := by
      rw [ExceptionFrame.kind_setKind]
      decide
    have hdone : done = _ := dispatch_of_handled? hn
    rw [hdone]
    exact ⟨n, hn, returnToUser_deliversAtMost n cpu hkind⟩
  | syscall =>
    have hdone : done = _ := dispatch_of_syscall hc
    rw [hdone]

/-- An interrupt hands back a word that would be a restart code in a syscall. -/
example :
    let f := (ExceptionFrame.ofUser 0x4000 0x100000).setA0 RestartCode.restartBlock.word
    (dispatch .bare (.running .caller) .boot 0 f).frame = f.setKind .irq := by
  decide +kernel

end Machine

end TrapLayer
