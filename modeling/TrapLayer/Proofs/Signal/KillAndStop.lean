import TrapLayer.Proofs.Signal.Pass
import TrapLayer.Proofs.Signal.RoundTrip

/-!
# Kill and stop reach every task

A task chooses the mask that it registers with an action and the mask in the frame that it returns
from, and it may register an action for almost any signal. Both masks go through the one setter that
strips the signals that cannot be blocked, and the table of actions has no entry for those. So over
any history of its signals a task can be killed and stopped: a pass never gets past either signal,
and only a handler of a lower signal comes before kill.

* `Obedient`: neither signal is blocked, and both have their default action.
* `obedient_signalStep`: every call on the signal state, every delivery, return and pass keeps that.
* `kill_and_stop_prevail`: over any history, with what a pass then does.
-/
namespace TrapLayer

/-! ## Signals that keep their default -/

theorem SigSet.contains_unblockable_iff (sig : Signal) :
    unblockable.contains sig = true ↔ sig = Signal.kill ∨ sig = Signal.stop := by
  have hkill : (Signal.slot? Signal.kill).isSome = true := by decide
  have hstop : (Signal.slot? Signal.stop).isSome = true := by decide
  have hnone : empty.contains sig = false := by simp [empty, contains, bitOf]
  unfold unblockable
  simp [contains_insert, hkill, hstop, hnone]

theorem Signal.slot?_inj {x y : Signal} {i : Fin 64} (hx : slot? x = some i)
    (hy : slot? y = some i) : x = y := by
  unfold slot? at hx hy
  split at hx
  · split at hy
    · cases hx
      have hval := congrArg Fin.val (Option.some.inj hy)
      rw [← UInt32.toNat_inj]
      dsimp only at hval
      omega
    · cases hy
  · cases hx

namespace SignalState

theorem action_congr {s t : SignalState} (h : t.actions = s.actions) (sig : Signal) :
    t.action sig = s.action sig := by
  unfold action
  rw [h]

theorem action_set_of_ne (s : SignalState) {sig other : Signal} {i : Fin 64}
    (hi : Signal.slot? sig = some i) (hne : other ≠ sig) (a : SigAction) :
    ({ s with actions := s.actions.set i.val a i.isLt } : SignalState).action other =
      s.action other := by
  unfold action
  cases hj : Signal.slot? other with
  | none => rfl
  | some j =>
    have hij : i.val ≠ j.val := fun h => hne (Signal.slot?_inj hj (Fin.ext h ▸ hi))
    exact Vector.getElem_set_ne i.isLt j.isLt hij

/-- Kill and stop get through: they are not blocked, and nothing is registered for them. -/
structure Obedient (s : SignalState) : Prop where
  unblocked : ∀ sig, SigSet.unblockable.contains sig = true → s.blocked.contains sig = false
  unset : ∀ sig, SigSet.unblockable.contains sig = true → s.action sig = .unset

theorem obedient_fresh : fresh.Obedient := by
  constructor
  · intro sig _
    simp [fresh, SigSet.empty, SigSet.contains, bitOf]
  · intro sig _
    unfold fresh action
    cases Signal.slot? sig with
    | none => rfl
    | some i => exact Vector.getElem_replicate _

namespace Obedient

variable {s t : SignalState}

/-- What is pending, and the alternate stack, do not matter. -/
theorem congr (h : s.Obedient) (hblocked : t.blocked = s.blocked)
    (hactions : t.actions = s.actions) : t.Obedient :=
  ⟨fun sig hs => hblocked ▸ h.unblocked sig hs,
    fun sig hs => (action_congr hactions sig).trans (h.unset sig hs)⟩

theorem setBlocked (h : s.Obedient) (mask : SigSet) : (s.setBlocked mask).Obedient := by
  refine ⟨fun sig hs => ?_, h.unset⟩
  show (mask.without .unblockable).contains sig = false
  rw [SigSet.contains_without, hs, Bool.not_true, Bool.and_false]

theorem setAction (h : s.Obedient) {sig : Signal} {a : SigAction}
    (hset : s.setAction sig a = .ok t) : t.Obedient := by
  unfold SignalState.setAction at hset
  split at hset
  · cases hset
  · rename_i i hi
    split at hset
    · cases hset
    · rename_i hfree
      cases hset
      refine ⟨h.unblocked, fun other hother => ?_⟩
      have hne : other ≠ sig := by
        rintro rfl
        exact hfree hother
      rw [action_set_of_ne s hi hne]
      exact h.unset other hother

theorem resetAction (h : s.Obedient) (sig : Signal) : (s.resetAction sig).Obedient := by
  unfold SignalState.resetAction
  split
  · rename_i t hset
    exact h.setAction hset
  · exact h

theorem queue (h : s.Obedient) (sig : Signal) (info : SigInfo) : (s.queue sig info).Obedient := by
  unfold SignalState.queue
  split
  · exact h
  · exact h.congr rfl rfl

/-- The mask of a handler is as free as its action, and goes through the setter. -/
theorem duringHandler (h : s.Obedient) (action : SigAction) (sig : Signal) :
    (s.duringHandler action sig).Obedient := by
  unfold SignalState.duringHandler
  dsimp only
  split
  · exact (h.setBlocked _).resetAction sig
  · exact h.setBlocked _

/-- So is the mask of a signal frame. -/
theorem restoreSignals (h : s.Obedient) (image : SigFrame) : (restoreSignals image s).Obedient :=
  (h.setBlocked image.mask).congr rfl rfl

end Obedient

end SignalState

/-! ## Histories of signals -/

/-- What happens to the signals of a task. Each step that looks at user memory has hardware of its
own, so that a return may find any bytes at all. -/
inductive SignalStep
  | setAction (sig : Signal) (action : SigAction)
  | setBlocked (mask : SigSet)
  | send (sig : Signal) (info : SigInfo)
  | take (sig : Signal)
  | deliver (hw : Hardware) (sig : Signal) (info : SigInfo) (frame : ExceptionFrame)
  | sigreturn (hw : Hardware) (frame : ExceptionFrame)
  | pass (hw : Hardware) (id : TaskId) (frame : ExceptionFrame)

namespace Task

/-- The task after a step. A step that is refused leaves it as it was. -/
def signalStep (t : Task) : SignalStep → Task
  | .setAction sig action =>
    match t.signals.setAction sig action with
    | .ok signals => { t with signals := signals }
    | .error _ => t
  | .setBlocked mask => { t with signals := t.signals.setBlocked mask }
  | .send sig info =>
    match t.signals.send sig info with
    | .ok signals => { t with signals := signals }
    | .error _ => t
  | .take sig => t.clearSignal sig
  | .deliver hw sig info frame =>
    match (TrapLayer.deliver hw t sig info frame).1 with
    | .ok d => d.task
    | .error _ => t
  | .sigreturn hw frame =>
    match (TrapLayer.sigreturn hw t frame).1 with
    | .ok back => back.task
    | .error _ => t
  | .pass hw id frame => (signalPass hw id t frame).task

def signalSteps (t : Task) (steps : List SignalStep) : Task := steps.foldl signalStep t

end Task

theorem obedient_deliver {hw hw' : Hardware} {task : Task} {sig : Signal} {info : SigInfo}
    {frame : ExceptionFrame} {d : Delivery} (h : task.signals.Obedient)
    (hd : deliver hw task sig info frame = (.ok d, hw')) : d.task.signals.Obedient := by
  obtain ⟨p, -, -, hbuild⟩ := deliver_ok hd
  rw [(Prod.mk.inj hbuild).1]
  exact h.duringHandler p.action sig

theorem obedient_sigreturn {hw hw' : Hardware} {task : Task} {frame : ExceptionFrame}
    {back : Returned} (h : task.signals.Obedient)
    (hr : sigreturn hw task frame = (.ok back, hw')) : back.task.signals.Obedient := by
  rcases sigreturn_cases hw task frame with ⟨image, read, -, -, heq⟩ | ⟨e, read, -, -, heq⟩
  · rw [heq] at hr
    cases hr
    rw [restoreRecords_task]
    exact (h.restoreSignals image.frame).congr (SignalState.blocked_queueFpe _ _ _)
      (SignalState.actions_queueFpe _ _ _)
  · rw [heq] at hr
    cases hr

theorem obedient_takeHandled (hw : Hardware) (id : TaskId) {task : Task} (inSyscall : Bool)
    (sig : Signal) (action : SigAction) (frame : ExceptionFrame) (h : task.signals.Obedient) :
    (takeHandled hw id task inSyscall sig action frame).task.signals.Obedient := by
  have hclear : (task.clearSignal sig).signals.Obedient := h.congr rfl rfl
  unfold takeHandled
  dsimp only
  cases hd : deliver hw (task.clearSignal sig) sig (task.signals.info sig)
    (frame.restarted inSyscall (some action)) with
  | mk result hw' =>
    cases result with
    | error e => exact hclear
    | ok d => exact obedient_deliver hclear hd

theorem obedient_takeSignals (hw : Hardware) (id : TaskId) (inSyscall : Bool)
    (frame : ExceptionFrame) : ∀ (sigs : List Signal) {task : Task}, task.signals.Obedient →
    (takeSignals hw id task inSyscall frame sigs).task.signals.Obedient
  | [], _, h => h
  | sig :: sigs, task, h => by
    have hclear : (task.clearSignal sig).signals.Obedient := h.congr rfl rfl
    unfold takeSignals
    dsimp only
    split
    · exact obedient_takeSignals hw id inSyscall frame sigs hclear
    · exact hclear
    · exact hclear
    · exact obedient_takeHandled hw id inSyscall sig _ frame h

theorem obedient_signalStep {task : Task} (h : task.signals.Obedient) (s : SignalStep) :
    (task.signalStep s).signals.Obedient := by
  cases s with
  | setAction sig action =>
    unfold Task.signalStep
    dsimp only
    split
    · rename_i signals hset
      exact h.setAction hset
    · exact h
  | setBlocked mask => exact h.setBlocked mask
  | send sig info =>
    unfold Task.signalStep SignalState.send
    dsimp only
    split
    · rename_i signals hsend
      split at hsend
      · cases hsend
        exact h.queue sig info
      · cases hsend
    · exact h
  | take sig => exact h.congr rfl rfl
  | deliver hw sig info frame =>
    unfold Task.signalStep
    dsimp only
    split
    · rename_i d hd
      exact obedient_deliver h (Prod.ext hd rfl)
    · exact h
  | sigreturn hw frame =>
    unfold Task.signalStep
    dsimp only
    split
    · rename_i back hback
      exact obedient_sigreturn h (Prod.ext hback rfl)
    · exact h
  | pass hw id frame => exact obedient_takeSignals hw id _ frame _ h

theorem obedient_signalSteps : ∀ (steps : List SignalStep) {task : Task},
    task.signals.Obedient → (task.signalSteps steps).signals.Obedient
  | [], _, h => h
  | s :: steps, _, h => obedient_signalSteps steps (obedient_signalStep h s)

/-! ## What a pass does with them -/

theorem Disposition.ofDefault_of_lt_kill {sig : Signal} (h : sig < Signal.kill) :
    ofDefault sig = .terminate := by
  have hlt : sig.toNat < 9 := UInt32.lt_iff_toNat_lt.1 h
  have hne : ∀ other : Signal, 9 ≤ other.toNat → sig ≠ other := by
    rintro other hge rfl
    omega
  unfold ofDefault
  rw [if_neg, if_neg]
  · simp [hne Signal.stop (by decide), hne Signal.tstp (by decide), hne Signal.ttin (by decide),
      hne Signal.ttou (by decide)]
  · simp [hne Signal.chld (by decide), hne Signal.cont (by decide), hne Signal.urg (by decide),
      hne Signal.winch (by decide)]

/-- No action makes a signal below kill stop a task. -/
theorem SigAction.disposition_ne_stop (action : SigAction) {sig : Signal} (h : sig < Signal.kill) :
    action.disposition sig ≠ .stop := by
  unfold disposition
  rw [Disposition.ofDefault_of_lt_kill h]
  split
  · exact nofun
  · split <;> exact nofun

section

variable {task : Task} (h : task.signals.Obedient)

include h

theorem SignalState.Obedient.disposition_kill :
    (task.signals.action Signal.kill).disposition Signal.kill = .terminate := by
  rw [h.unset _ (by decide)]
  decide

theorem SignalState.Obedient.disposition_stop :
    (task.signals.action Signal.stop).disposition Signal.stop = .stop := by
  rw [h.unset _ (by decide)]
  decide

/-- With kill pending a pass kills the task, or it first enters a handler of a lower signal. -/
theorem signalPass_of_kill (hpending : task.signals.pending.contains Signal.kill = true)
    (hw : Hardware) (id : TaskId) (frame : ExceptionFrame) :
    let pass := signalPass hw id task frame
    (∃ sig, pass.outcome = .killed sig ∧ pass.task.state = .killed sig) ∨
      ∃ sig, sig < Signal.kill ∧ pass.outcome = .delivered sig := by
  have hkill := h.disposition_kill
  have hmem : Signal.kill ∈ task.signals.deliverable :=
    (task.signals.mem_deliverable_iff _).2 ⟨hpending, h.unblocked _ (by decide)⟩
  have htaken : ¬ task.Ignores Signal.kill := by
    unfold Task.Ignores
    rw [hkill]
    exact nofun
  intro pass
  rcases task.ignores_or_takesFirst with hall | ⟨sig, hfirst⟩
  · exact absurd (hall _ hmem) htaken
  · -- the signal that ends the pass is kill or one below it
    have hlow : sig = Signal.kill ∨ sig < Signal.kill := by
      rcases UInt32.lt_or_eq_of_le (UInt32.not_lt.1 fun hgt => htaken (hfirst.lowest _ hmem hgt))
        with hlt | heq
      · exact .inr hlt
      · exact .inl heq
    cases hd : (task.signals.action sig).disposition sig with
    | ignore => exact absurd hd hfirst.taken
    | terminate =>
      obtain ⟨pending, hpass⟩ := signalPass_of_terminate hw id frame hfirst hd
      exact .inl ⟨sig, by unfold pass; rw [hpass], by unfold pass; rw [hpass]; rfl⟩
    | stop =>
      rcases hlow with rfl | hlt
      · rw [hkill] at hd
        cases hd
      · exact absurd hd (SigAction.disposition_ne_stop _ hlt)
    | handler addr =>
      rcases hlow with rfl | hlt
      · rw [hkill] at hd
        cases hd
      · obtain ⟨pending, hpass⟩ := signalPass_of_handler hw id frame hfirst hd
        unfold pass
        rw [hpass]
        rcases outcome_takeHandled hw id (task.withPending pending) (frame.kind == .syscall) sig
          (task.signals.action sig) frame with hout | hout
        · exact .inr ⟨sig, hlt, hout⟩
        · exact .inl ⟨Signal.segv, hout⟩

/-- With stop pending a pass does not resume the task. -/
theorem signalPass_of_stop_pending (hpending : task.signals.pending.contains Signal.stop = true)
    (hw : Hardware) (id : TaskId) (frame : ExceptionFrame) :
    (signalPass hw id task frame).outcome ≠ .resume := by
  have hmem : Signal.stop ∈ task.signals.deliverable :=
    (task.signals.mem_deliverable_iff _).2 ⟨hpending, h.unblocked _ (by decide)⟩
  intro hout
  have hign : task.Ignores Signal.stop := (outcome_eq_resume_iff hw id frame).1 hout _ hmem
  unfold Task.Ignores at hign
  rw [h.disposition_stop] at hign
  cases hign

end

/-- Kill and stop can be neither blocked nor caught nor ignored. Whatever a task registers, masks,
receives and returns from, neither is ever in its mask and both keep their default action. While
kill is pending a pass ends with the task killed, or with the handler of a lower signal; while stop
is pending it does not end with the task resumed. -/
theorem kill_and_stop_prevail (id : TaskId) (p : SpawnParams) (steps : List SignalStep) :
    let task := (Task.spawned id p).signalSteps steps
    (∀ sig, sig = Signal.kill ∨ sig = Signal.stop →
      task.signals.blocked.contains sig = false ∧ task.signals.action sig = .unset) ∧
    ∀ (hw : Hardware) (current : TaskId) (frame : ExceptionFrame),
      let pass := signalPass hw current task frame
      (task.signals.pending.contains Signal.kill = true →
        (∃ sig, pass.outcome = .killed sig ∧ pass.task.state = .killed sig) ∨
          ∃ sig, sig < Signal.kill ∧ pass.outcome = .delivered sig) ∧
      (task.signals.pending.contains Signal.stop = true → pass.outcome ≠ .resume) := by
  intro task
  have hfresh : (Task.spawned id p).signals.Obedient := SignalState.obedient_fresh
  have h : task.signals.Obedient := obedient_signalSteps steps hfresh
  refine ⟨fun sig hsig => ?_, fun hw current frame => ⟨?_, ?_⟩⟩
  · have hs := (SigSet.contains_unblockable_iff sig).2 hsig
    exact ⟨h.unblocked sig hs, h.unset sig hs⟩
  · exact fun hpending => signalPass_of_kill h hpending hw current frame
  · exact fun hpending => signalPass_of_stop_pending h hpending hw current frame

/-- A task that ignores hangups, tries to ignore kill and blocks all it can is killed all the same,
although a stop is pending as well. -/
theorem kill_prevails_over_full_mask :
    let steps : List SignalStep :=
      [.setAction 1 ⟨handlerIgnore, 0, 0, .empty⟩,
        .setAction Signal.kill ⟨handlerIgnore, 0, 0, .empty⟩, .send 1 (.ofKernel 1),
        .send Signal.stop .blank, .send Signal.kill .blank, .setBlocked ⟨0xfffffffffffffffe⟩]
    let task := (Task.spawned ⟨0⟩ ⟨0, 0, 0, 0, ⟨0⟩⟩).signalSteps steps
    let pass := signalPass (.mapped ⟨true, true, true, true⟩) ⟨0⟩ task (.ofUser 0x4000 0x100000)
    task.signals.pending.contains Signal.kill = true ∧
      task.signals.pending.contains Signal.stop = true ∧ pass.outcome ≠ .resume ∧
      (∃ sig, pass.outcome = .killed sig ∧ pass.task.state = .killed sig) := by
  intro steps task pass
  have hkill : task.signals.pending.contains Signal.kill = true := by decide +kernel
  have hstop : task.signals.pending.contains Signal.stop = true := by decide +kernel
  obtain ⟨-, hpass⟩ := kill_and_stop_prevail ⟨0⟩ ⟨0, 0, 0, 0, ⟨0⟩⟩ steps
  obtain ⟨hends, hnot⟩ := hpass (.mapped ⟨true, true, true, true⟩) ⟨0⟩ (.ofUser 0x4000 0x100000)
  have hkilled : pass.outcome = .killed Signal.kill := by decide +kernel
  refine ⟨hkill, hstop, hnot hstop, (hends hkill).resolve_right ?_⟩
  rintro ⟨sig, -, hdelivered⟩
  exact absurd (hkilled.symm.trans hdelivered) nofun

end TrapLayer
