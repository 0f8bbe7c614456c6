import TrapLayer.Proofs.Trap.LogLines
import TrapLayer.Proofs.Trap.Transparent

/-!
# The interrupts that a trap claims

A drain claims what waits in front of the queue until nothing waits. As long as handlers leave the
controller alone, the trace of a trap shows these claims and no others.

* `claimsUpTo`, `claimsIn`: the interrupts that a drain claims, and a trap.
* `shows_drainUpTo`: what a drain does at the controller.
* `claimsTo_dispatch`: the claims in the trace of a trap are those of its drain.
-/
namespace TrapLayer

namespace Machine

/-- The interrupts that a drain claims, in order. -/
def claimsUpTo (k : Kernel) (cpu : CpuId) : Nat → Machine → List PendingIrq
  | 0, _ => []
  | fuel + 1, m =>
    match m.pending with
    | [] => []
    | p :: rest =>
      p :: claimsUpTo k cpu fuel (handleClaimed k { m with pending := rest } cpu p)

/-- The interrupts that a trap claims, in order. -/
def claimsIn (k : Kernel) (m : Machine) (cpu : CpuId) (f : ExceptionFrame) : List PendingIrq :=
  match classify f.estat f.fromUser with
  | .interrupt =>
    let start := ((m.record f).enter cpu).captureUserEntry (f.setKind .irq)
    claimsUpTo k cpu (start.pending.length + k.raises) start
  | .syscall | .miss _ | .fatal _ => []

/-! ## The trace -/

section

variable {k : Kernel} {m : Machine} {cpu : CpuId} {frameAddr : UInt64} {f : ExceptionFrame}

/-- A step that leaves the controller alone. -/
def LeavesIrqs (m n : Machine) : Prop := m.hw.Emits (·.isIrq = false) n.hw

theorem leavesIrqs_of_isWork {m n : Machine} (h : m.Beside (·.isWork = true) n) :
    m.LeavesIrqs n :=
  h.emits.mono fun _ he => Effect.isIrq_of_isBeside (Effect.isBeside_of_isWork he)

theorem shows_handleClaimed
    (hirqs : ∀ irq h, k.irqs.handler? irq = some h → ∀ m : Machine, m.LeavesIrqs (h irq cpu m))
    (m : Machine) (p : PendingIrq) :
    m.hw.Shows Effect.isIrq (Effect.bracket p []) (handleClaimed k m cpu p).hw := by
  have hanswer : (m.claimed cpu p m.pending).LeavesIrqs
      (k.answer cpu p (m.claimed cpu p m.pending)) := by
    unfold Kernel.answer
    split
    · rename_i h hh
      exact hirqs p.irq h hh _
    · exact .of_emit _ rfl
  have hclaim : m.hw.Shows Effect.isIrq [.irqClaim p.source p.irq]
      (m.claimed cpu p m.pending).hw := .of_emit _ rfl
  exact hclaim.trans ((hanswer.shows fun _ he => he).trans (.of_emit _ rfl))

/-- If handlers leave the controller alone, a drain claims and gives back, in turn. -/
theorem shows_drainUpTo
    (hirqs : ∀ irq h, k.irqs.handler? irq = some h → ∀ m : Machine, m.LeavesIrqs (h irq cpu m))
    (fuel : Nat) (m : Machine) :
    m.hw.Shows Effect.isIrq ((claimsUpTo k cpu fuel m).flatMap (Effect.bracket · []))
      (drainUpTo k cpu fuel m).2.hw := by
  induction fuel generalizing m with
  | zero => exact .refl _
  | succ fuel ih =>
    unfold drainUpTo claimsUpTo
    cases m.pending with
    | nil => exact .refl _
    | cons p rest =>
      have hfirst := shows_handleClaimed hirqs { m with pending := rest } p
      exact hfirst.trans (ih (handleClaimed k { m with pending := rest } cpu p))

theorem filterMap_claimed_brackets (claims : List PendingIrq) :
    (claims.flatMap (Effect.bracket · [])).filterMap Effect.claimed? = claims := by
  induction claims with
  | nil => rfl
  | cons p claims ih =>
    rw [List.flatMap_cons, List.filterMap_append, Effect.filterMap_claimed_bracket, ih]
    rfl

theorem leavesIrqs_runSyscall
    (hcalls : ∀ h, k.syscalls.handler? f.syscallNumber = some h → ∀ args (m : Machine),
      m.LeavesIrqs (h args m).2) (m : Machine) (cpu : CpuId) (frameAddr : UInt64) :
    m.LeavesIrqs (runSyscall k m cpu frameAddr f).2 := by
  cases hh : k.syscalls.handler? f.syscallNumber with
  | none => exact leavesIrqs_of_isWork (beside_runSyscall_of_unhandled hh _ _ _)
  | some h =>
    rw [machine_runSyscall_of_handler hh]
    exact (leavesIrqs_of_isWork (beside_writeCsr m .crmd _)).trans
      ((hcalls h hh _ _).trans (leavesIrqs_of_isWork (beside_writeCsr _ .crmd _)))

theorem leavesIrqs_wayOut (m : Machine) (cpu : CpuId) (g : ExceptionFrame) :
    m.LeavesIrqs ((m.returnToUser cpu g).2.leave cpu) :=
  ((Raises.returnToUser m cpu g).trans (.leave _ cpu)).emits

theorem leavesIrqs_haltReport (m : Machine) (cpu : CpuId) (f : ExceptionFrame)
    (fault : FaultClass) : m.LeavesIrqs ((m.haltReport cpu f fault).2.leave cpu) := by
  have hreport : m.LeavesIrqs (m.haltReport cpu f fault).2 :=
    (beside_haltReport m cpu f fault).emits.mono fun e he => by
      obtain ⟨line, -, rfl⟩ := he
      rfl
  exact hreport.trans (Raises.leave _ cpu).emits

/-- If handlers leave the controller alone, the claims in the trace of a trap are those of its
drain. -/
theorem claimsTo_dispatch (hk : k.Serves LeavesIrqs (fun _ => True) cpu 0 f) :
    m.hw.claimsTo (dispatch k m cpu frameAddr f).machine.hw = claimsIn k m cpu f := by
  have hcalls := fun hc nr hh args m =>
    (hk.calls hc nr hh args m).untrapped (R := LeavesIrqs) .trans fun _ _ h => h
  have hirqs := fun hc irq h hh m =>
    (hk.irqs hc irq h hh m).untrapped (R := LeavesIrqs) .trans fun _ _ h => h
  have hnone : ∀ n : Machine, m.LeavesIrqs n → m.hw.claimsTo n.hw = [] := fun n h =>
    (h.shows fun _ he => he).claimsTo_eq
  unfold claimsIn
  cases hc : classify f.estat f.fromUser with
  | syscall =>
    have hentry : m.LeavesIrqs (m.inSyscall cpu f) := (Raises.userEntry m cpu f f.atSyscall).emits
    have hrun := leavesIrqs_runSyscall (f := f.atSyscall) (hcalls hc) (m.inSyscall cpu f) cpu
      frameAddr
    rw [dispatch_of_syscall hc]
    exact hnone _ (hentry.trans (hrun.trans (leavesIrqs_wayOut _ cpu _)))
  | interrupt =>
    have hentry := Raises.userEntry m cpu f (f.setKind .irq)
    let start := ((m.record f).enter cpu).captureUserEntry (f.setKind .irq)
    have hdrained := shows_drainUpTo (hirqs hc) (start.pending.length + k.raises) start
    have hout := (Raises.askSwitch (drain k start cpu).2 cpu).emits.trans
      (leavesIrqs_wayOut _ cpu (f.setKind .irq))
    have hall := (hentry.emits.shows fun _ he => he).trans
      (hdrained.trans (hout.shows fun _ he => he))
    rw [List.nil_append, List.append_nil] at hall
    unfold dispatch
    rw [hc]
    exact hall.claimsTo_eq.trans (filterMap_claimed_brackets _)
  | miss kind =>
    rw [dispatch_of_miss hc]
    refine hnone _ ?_
    have hmiss : m.LeavesIrqs { (m.record f).enter cpu with hw :=
        (((m.record f).enter cpu).hw.resolveMiss f.badv f.fromUser kind).2 } :=
      .trans (.of_emit _ rfl) ((works_resolveMiss _ f.badv f.fromUser kind).emits.mono fun _ he =>
        Effect.isIrq_of_isBeside (Effect.isBeside_of_isWork he))
    unfold handleMiss
    dsimp only
    split
    · exact hmiss.trans (Raises.leave _ cpu).emits
    · exact hmiss.trans (.trans (.of_emit _ rfl) (leavesIrqs_haltReport _ cpu _ _))
  | fatal fault =>
    rw [dispatch_of_fatal hc]
    exact hnone _ (.trans (.of_emit _ rfl) (leavesIrqs_haltReport ((m.record f).enter cpu) cpu
      (f.setKind .exception) fault))

end

end Machine

end TrapLayer
