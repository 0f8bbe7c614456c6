import TrapLayer.Debugger
import TrapLayer.Proofs.Debug.Quiet

/-!
# What a task resumes with

A task that is about to run in user mode finds the debug registers as they are. The way back
programs them for a traced task and leaves them alone for any other.

* `returnToUser_cases`: a way back is quiet, or it ends in one resumption.
* `Machine.Run`: what happens between two machines, with the resumptions in order.
* `Run.does`: the resumptions of a run are those its trace shows.
* `Run.chained`: each of them finds what the ones before it left.
* `Run.sound`: an untraced task has nothing set.
-/
namespace TrapLayer

/-! ## Resumptions -/

/-- A task about to run in user mode: the debug registers it finds, and what its debugger set. -/
structure Resumption where
  task : TaskId
  live : DebugRegs
  own : TraceState
  deriving DecidableEq

namespace Resumption

/-- The debug registers after a resumption that found `regs` in them. -/
def reprogram (r : Resumption) (regs : DebugRegs) : DebugRegs :=
  if r.own.traced then r.own.hw else regs

/-- What is left programmed by some resumptions, oldest first, after `start`. -/
def programmed (start : DebugRegs) (rs : List Resumption) : DebugRegs :=
  rs.foldl (fun regs r => r.reprogram regs) start

/-- Each of some resumptions, oldest first, finds what is left of the ones before it; the first
finds `start`, and `last` is left in the end. -/
def Chained (start : DebugRegs) : List Resumption → DebugRegs → Prop
  | [], last => last = start
  | r :: rs, last => r.live = r.reprogram start ∧ Chained r.live rs last

theorem Chained.append {start mid last : DebugRegs} : ∀ {rs ss : List Resumption},
    Chained start rs mid → Chained mid ss last → Chained start (rs ++ ss) last
  | [], _, h, h' => by
    have hmid : mid = start := h
    exact hmid ▸ h'
  | _ :: _, _, h, h' => ⟨h.1, h.2.append h'⟩

theorem Chained.live {start last : DebugRegs} {r : Resumption} {after : List Resumption} :
    ∀ {before : List Resumption}, Chained start (before ++ r :: after) last →
      r.live = r.reprogram (programmed start before)
  | [], h => h.1
  | s :: before, h => by
    have hrest := Chained.live h.2
    rw [h.1] at hrest
    exact hrest

/-- What a resumption asks of the hardware and the scheduler, oldest first. -/
def effects (r : Resumption) : List Effect :=
  (if r.own.traced then [.debugWrite r.own.hw] else []) ++ [.enterUser r.task]

end Resumption

/-- The task that an effect announces. -/
def Effect.resumed? : Effect → Option TaskId
  | .enterUser id => some id
  | _ => none

theorem findSome?_resumed (es : List Effect) :
    es.findSome? Effect.resumed? = (es.filter Effect.isResume).findSome? Effect.resumed? := by
  induction es with
  | nil => rfl
  | cons e es ih =>
    cases e with
    | enterUser id => rfl
    | _ => exact ih

namespace Machine

/-- The resumption at the end of a way back, if it leads to user mode. -/
def resumption? (m : Machine) (cpu : CpuId) (f : ExceptionFrame) : Option Resumption :=
  let n := (m.returnToUser cpu f).2
  ((n.hw.since m.hw.mark).findSome? Effect.resumed?).bind fun id =>
    (n.tasks.find? id).map fun task => ⟨id, n.hw.debugRegs, task.trace⟩

/-- The step from `m` to `n` ends in the resumption `r`, and does nothing else to the debugger's
state. -/
structure Resumes (m : Machine) (r : Resumption) (n : Machine) : Prop where
  found : ∃ task, n.tasks.find? r.task = some task ∧ task.trace = r.own
  own : r.own = m.tasks.traceOf r.task
  live : r.live = r.reprogram m.hw.debugRegs
  debugRegs : n.hw.debugRegs = r.live
  does : m.hw.Does r.effects n.hw
  traces : n.tasks.traceOf = m.tasks.traceOf

/-! ## The way back -/

/-- A way back that ends in user mode programs the registers of a traced task and then starts it. -/
theorem resumes_settle {m : Machine} {id : TaskId} {task : Task}
    (hfind : m.tasks.find? id = some task) :
    m.Resumes ⟨id, if task.trace.traced then task.trace.hw else m.hw.debugRegs, task.trace⟩
      (m.settle id task .resume) := by
  have htasks : (m.settle id task .resume).tasks = m.tasks := by
    unfold settle
    dsimp only
    split <;> rfl
  have hregs : (m.settle id task .resume).hw.debugRegs =
      if task.trace.traced then task.trace.hw else m.hw.debugRegs := by
    unfold settle
    dsimp only
    split <;> rfl
  have hdoes : m.hw.Does
      ((if task.trace.traced then [.debugWrite task.trace.hw] else []) ++ [.enterUser id])
      (m.settle id task .resume).hw := by
    unfold settle
    dsimp only
    split
    · exact ⟨[.enterUser id, .debugWrite task.trace.hw], rfl, rfl⟩
    · exact ⟨[.enterUser id], rfl, rfl⟩
  exact
    { found := ⟨task, by rw [htasks]; exact hfind, rfl⟩
      own := (TaskTable.traceOf_of_find? hfind).symm
      live := rfl
      debugRegs := hregs
      does := hdoes
      traces := by rw [htasks] }

theorem settle_cases {m : Machine} {id : TaskId} {task : Task}
    (hfind : m.tasks.find? id = some task) (outcome : PassOutcome) :
    m.Quiet (m.settle id task outcome) ∨
      ∃ r : Resumption, m.Resumes r (m.settle id task outcome) := by
  cases outcome with
  | killed sig => exact .inl ((Quiet.emit m rfl).trans (.emit _ rfl))
  | stopped sig => exact .inl (.refl m)
  | resume => exact .inr ⟨_, resumes_settle hfind⟩
  | delivered sig => exact .inr ⟨_, resumes_settle hfind⟩

theorem Quiet.then_resumes {m n o : Machine} (h : m.Quiet n)
    (h' : n.Quiet o ∨ ∃ r : Resumption, n.Resumes r o) :
    m.Quiet o ∨ ∃ r : Resumption, m.Resumes r o := by
  rcases h' with h' | ⟨r, h'⟩
  · exact .inl (h.trans h')
  · refine .inr ⟨r, ?_⟩
    exact
      { found := h'.found
        own := by rw [h'.own, h.traces]
        live := by rw [h'.live, h.hw.debugRegs]
        debugRegs := h'.debugRegs
        does := h.hw.does.trans h'.does
        traces := h'.traces.trans h.traces }

/-- A way back is quiet, or it ends in one resumption. -/
theorem returnToUser_cases (m : Machine) (cpu : CpuId) (f : ExceptionFrame) :
    m.Quiet (m.returnToUser cpu f).2 ∨
      ∃ r : Resumption, m.Resumes r (m.returnToUser cpu f).2 := by
  unfold returnToUser
  split
  · refine (quiet_beginReturn m cpu).then_resumes ?_
    generalize m.beginReturn cpu = b
    unfold resumeCurrent
    cases hcur : b.currentTask? with
    | none => exact .inl (.refl b)
    | some cur =>
      obtain ⟨id, task⟩ := cur
      have hfind : b.tasks.find? id = some task := (currentTask?_eq_some_iff.1 hcur).2
      have hquiet := (works_wayBack b id task f).quiet
      have htrace := (afterSignals_wayBack b id task f).trace
      dsimp only
      generalize b.wayBack id task f = p at hquiet htrace
      have hput : b.Quiet ({ b with hw := p.hw }.putTask id p.task) :=
        ⟨hquiet, TaskTable.traceOf_put hfind htrace⟩
      exact hput.then_resumes (settle_cases (TaskTable.find?_put_same hfind p.task) p.outcome)
  · exact .inl (.refl m)

theorem resumption?_of_quiet {m : Machine} {cpu : CpuId} {f : ExceptionFrame}
    (h : m.Quiet (m.returnToUser cpu f).2) : m.resumption? cpu f = none := by
  unfold resumption?
  dsimp only
  rw [findSome?_resumed, h.hw.does.since]
  rfl

theorem resumption?_of_resumes {m : Machine} {cpu : CpuId} {f : ExceptionFrame} {r : Resumption}
    (h : m.Resumes r (m.returnToUser cpu f).2) : m.resumption? cpu f = some r := by
  obtain ⟨task, hfind, htrace⟩ := h.found
  have hid : r.effects.findSome? Effect.resumed? = some r.task := by
    unfold Resumption.effects
    split <;> rfl
  unfold resumption?
  dsimp only
  rw [findSome?_resumed, h.does.since, hid, Option.bind_some, hfind, Option.map_some, h.debugRegs,
    htrace]

theorem resumes_of_resumption? {m : Machine} {cpu : CpuId} {f : ExceptionFrame} {r : Resumption}
    (h : m.resumption? cpu f = some r) : m.Resumes r (m.returnToUser cpu f).2 := by
  rcases m.returnToUser_cases cpu f with hq | ⟨s, hs⟩
  · rw [resumption?_of_quiet hq] at h
    cases h
  · rw [resumption?_of_resumes hs] at h
    exact Option.some.inj h ▸ hs

end Machine

/-! ## Calls of the debugger -/

/-- A call that changes the debug hardware of a task. -/
inductive DebugCall
  | watch (id : TaskId) (kind : WatchKind) (slot : Nat) (w : Watchpoint)
  | clear (id : TaskId) (kind : WatchKind) (slot : Nat)
  | singleStep (id : TaskId) (on : Bool)
  | detach (id : TaskId)

/-- The task table after a call that was not refused. -/
def DebugCall.run (tasks : TaskTable) : DebugCall → Except DebugError TaskTable
  | watch id kind slot w => Debugger.setWatchpoint tasks id kind slot w
  | clear id kind slot => Debugger.clearWatchpoint tasks id kind slot
  | singleStep id on => Debugger.setSingleStep tasks id on
  | detach id => Debugger.detach tasks id

/-- A task that is not traced has nothing set. -/
def TraceState.Sound (t : TraceState) : Prop := t.traced = false → t.hw = .off

/-- No task has debugger state without being traced. -/
def TaskTable.Sound (t : TaskTable) : Prop := ∀ id, (t.traceOf id).Sound

theorem TaskTable.modify_ok {t t' : TaskTable} {id : TaskId} {f : Task → Task}
    (h : (t.modify id f).mapError DebugError.task = .ok t') :
    ∃ task, t.find? id = some task ∧ t' = t.put id (f task) := by
  unfold modify TaskTable.task at h
  cases hfind : t.find? id with
  | none => rw [hfind] at h; cases h
  | some task =>
    rw [hfind] at h
    exact ⟨task, rfl, (Except.ok.inj h).symm⟩

/-- A call traces one task, or leaves it without anything set. -/
theorem DebugCall.run_ok {t t' : TaskTable} {call : DebugCall} (h : call.run t = .ok t') :
    ∃ (id : TaskId) (old task : Task),
      t.find? id = some old ∧ t' = t.put id task ∧ task.trace.Sound := by
  have hwatch : ∀ id kind slot w, Debugger.setWatchpoint t id kind slot w = .ok t' →
      ∃ (id : TaskId) (old task : Task),
        t.find? id = some old ∧ t' = t.put id task ∧ task.trace.Sound := by
    intro id kind slot w hset
    unfold Debugger.setWatchpoint at hset
    split at hset
    · obtain ⟨task, hfind, rfl⟩ := TaskTable.modify_ok hset
      exact ⟨id, task, _, hfind, rfl, nofun⟩
    · cases hset
  cases call with
  | watch id kind slot w => exact hwatch id kind slot w h
  | clear id kind slot => exact hwatch id kind slot .off h
  | singleStep id on =>
    obtain ⟨task, hfind, rfl⟩ := TaskTable.modify_ok h
    exact ⟨id, task, _, hfind, rfl, nofun⟩
  | detach id =>
    obtain ⟨task, hfind, rfl⟩ := TaskTable.modify_ok h
    exact ⟨id, task, _, hfind, rfl, fun _ => rfl⟩

theorem DebugCall.sound_run {t t' : TaskTable} {call : DebugCall} (h : call.run t = .ok t')
    (ht : t.Sound) : t'.Sound := by
  obtain ⟨id, old, task, hfind, rfl, htask⟩ := run_ok h
  intro other
  by_cases he : other = id
  · rw [he, TaskTable.traceOf_of_find? (TaskTable.find?_put_same hfind task)]
    exact htask
  · rw [TaskTable.traceOf_put_of_ne t he task]
    exact ht other

/-! ## Runs -/

namespace Machine

/-- From one machine to another, with the resumptions on the way, oldest first: quiet steps, calls
of the debugger, and ways back that end in user mode, in any order and number. -/
inductive Run : Machine → List Resumption → Machine → Prop
  | quiet {m n : Machine} (h : m.Quiet n) : Run m [] n
  | debug {m : Machine} {tasks : TaskTable} (call : DebugCall) (h : call.run m.tasks = .ok tasks) :
    Run m [] { m with tasks := tasks }
  | resume {m : Machine} {cpu : CpuId} {f : ExceptionFrame} {r : Resumption}
    (h : m.resumption? cpu f = some r) : Run m [r] (m.returnToUser cpu f).2
  | append {m n o : Machine} {rs ss : List Resumption} (h : Run m rs n) (h' : Run n ss o) :
    Run m (rs ++ ss) o

namespace Run

/-- The resumptions of a run account for all that it did to the debug registers and the hook. -/
theorem does {m n : Machine} {rs : List Resumption} (h : Run m rs n) :
    m.hw.Does (rs.flatMap Resumption.effects) n.hw := by
  induction h with
  | quiet h => exact h.hw.does
  | debug call h => exact (Hardware.Quiet.refl _).does
  | resume h =>
    rw [List.flatMap_singleton]
    exact (resumes_of_resumption? h).does
  | append _ _ ih ih' =>
    rw [List.flatMap_append]
    exact ih.trans ih'

/-- Each task resumes with what its own resumption programs, and else with what is left of the
resumptions before it; the last leaves its registers behind. -/
theorem chained {m n : Machine} {rs : List Resumption} (h : Run m rs n) :
    Resumption.Chained m.hw.debugRegs rs n.hw.debugRegs := by
  induction h with
  | quiet h => exact h.hw.debugRegs
  | debug call h => rfl
  | resume h =>
    have hr := resumes_of_resumption? h
    exact ⟨hr.live, hr.debugRegs⟩
  | append _ _ ih ih' => exact ih.append ih'

/-- A task that resumes untraced has nothing set. -/
theorem sound {m n : Machine} {rs : List Resumption} (h : Run m rs n) (hm : m.tasks.Sound) :
    n.tasks.Sound ∧ ∀ r ∈ rs, r.own.Sound := by
  induction h with
  | quiet h => exact ⟨fun id => h.traces ▸ hm id, nofun⟩
  | debug call h => exact ⟨DebugCall.sound_run h hm, nofun⟩
  | resume h =>
    have hr := resumes_of_resumption? h
    refine ⟨fun id => hr.traces ▸ hm id, fun r hmem => ?_⟩
    rw [List.mem_singleton.1 hmem, hr.own]
    exact hm _
  | append _ _ ih ih' =>
    obtain ⟨hn, hrs⟩ := ih hm
    obtain ⟨ho, hss⟩ := ih' hn
    exact ⟨ho, fun r hr => (List.mem_append.1 hr).elim (hrs r) (hss r)⟩

end Run

/-- Some run leads from one machine to the other. -/
def Runs (m n : Machine) : Prop := ∃ rs : List Resumption, Run m rs n

theorem Quiet.runs {m n : Machine} (h : m.Quiet n) : m.Runs n := ⟨[], .quiet h⟩

theorem Runs.refl (m : Machine) : m.Runs m := (Quiet.refl m).runs

theorem Runs.trans {m n o : Machine} : m.Runs n → n.Runs o → m.Runs o
  | ⟨_, h⟩, ⟨_, h'⟩ => ⟨_, .append h h'⟩

theorem closed_runs : Closed Runs := ⟨Runs.trans, fun h => h.quiet.runs⟩

theorem runs_returnToUser (m : Machine) (cpu : CpuId) (f : ExceptionFrame) :
    m.Runs (m.returnToUser cpu f).2 := by
  rcases m.returnToUser_cases cpu f with h | ⟨r, h⟩
  · exact h.runs
  · exact ⟨[r], .resume (resumption?_of_resumes h)⟩

end Machine

end TrapLayer
