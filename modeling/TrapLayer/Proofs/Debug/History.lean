import TrapLayer.Proofs.Debug.Resumption
import TrapLayer.Proofs.UnhandledCall
import TrapLayer.Testbed.Script

/-!
# Debug registers over whole runs

A trap is a run of quiet steps, calls of the debugger and ways back, and so is what its handlers do,
traps of their own included. Since the way back programs the debug registers for traced tasks
alone, an untraced task runs with whatever was programmed last, for itself or for another task.

* `runs_dispatch`: a trap is a run if its handlers are.
* `ScriptTables.confined_kernel`: scripted handlers are, however deeply they nest.
* `resumed_with_own_registers_iff`: over any run of traps, switches and debugger calls, a task
  resumes with its own registers if it is traced, or if nothing is left programmed.
* `stale_registers_at_resumption`: a detached task, and another task, run with a stale watchpoint.
-/
namespace TrapLayer

/-! ## Traps -/

/-- Handlers touch the debugger's state only by calling the debugger, and start tasks only by
taking traps. -/
structure Kernel.Confined (k : Kernel) : Prop where
  syscalls : ∀ nr h, k.syscalls.handler? nr = some h → ∀ args (m : Machine), m.Runs (h args m).2
  irqs : ∀ irq h, k.irqs.handler? irq = some h → ∀ cpu (m : Machine), m.Runs (h irq cpu m)

namespace Machine

theorem closedTrap_runs : ClosedTrap Runs where
  toClosed := closed_runs
  capture m f := (quiet_captureUserEntry m f).runs
  sigreturn m f := (quiet_sysSigreturn m f).runs
  back := runs_returnToUser

theorem runs_dispatch {k : Kernel} (hk : k.Confined) (m : Machine) (cpu : CpuId)
    (frameAddr : UInt64) (f : ExceptionFrame) :
    m.Runs (dispatch k m cpu frameAddr f).machine :=
  closed_dispatch closedTrap_runs (fun _ => hk.syscalls f.syscallNumber)
    (fun _ irq h hh => hk.irqs irq h hh cpu) m frameAddr

end Machine

/-! ## Scripted handlers -/

theorem SyscallTable.lookup_map {α β : Type} {n : Nat} (f : α → β) (t : SyscallTable α n)
    (slot : Nat) : (t.map f).lookup slot = (t.lookup slot).map f := by
  unfold lookup map
  rw [Vector.getElem?_map]
  cases t.slots[slot]? <;> rfl

theorem SyscallTable.lookup_mapIdx {α β : Type} {n : Nat} (f : Nat → α → β)
    (t : SyscallTable α n) (slot : Nat) :
    (t.mapIdx f).lookup slot = (t.lookup slot).map (f slot) := by
  unfold lookup mapIdx
  rw [Vector.getElem?_mapIdx]
  cases t.slots[slot]? <;> rfl

theorem IrqTable.handler?_map {α β : Type} (f : α → β) (t : IrqTable α) (irq : IrqId) :
    (t.map f).handler? irq = (t.handler? irq).map f := by
  unfold handler? map
  rw [Vector.getElem?_map]
  cases t.slots[irq.index]? <;> rfl

theorem SyscallTables.handler?_map {α β : Type} {f : Bool → α → β} {t : SyscallTables α}
    {nr : UInt64} {h : β} (hh : (t.map f).handler? nr = some h) :
    ∃ framed a, h = f framed a := by
  unfold handler? map at hh
  split at hh
  · rw [SyscallTable.lookup_map] at hh
    obtain ⟨a, -, rfl⟩ := Option.map_eq_some_iff.1 hh
    exact ⟨_, a, rfl⟩
  · rw [SyscallTable.lookup_mapIdx] at hh
    obtain ⟨a, -, rfl⟩ := Option.map_eq_some_iff.1 hh
    exact ⟨_, a, rfl⟩
  · cases hh
  · cases hh

namespace Machine

theorem quiet_signalCurrent (m : Machine) (sig : Signal) : m.Quiet (m.signalCurrent sig) := by
  unfold signalCurrent
  cases hcur : m.currentTask? with
  | none => exact .refl m
  | some cur =>
    obtain ⟨id, task⟩ := cur
    exact ⟨.refl _, TaskTable.traceOf_put (currentTask?_eq_some_iff.1 hcur).2 rfl⟩

end Machine

namespace ScriptTables

theorem runs_takeNested {k : Kernel} (hk : k.Confined) (cpu : CpuId) (m : Machine) :
    m.Runs (takeNested k cpu m) := by
  unfold takeNested
  split
  · exact .refl m
  · rename_i f rest _
    have hbegin : m.Quiet ({ m with nested := rest }.emit .nestedBegin) := ⟨.emit _ rfl, rfl⟩
    refine hbegin.runs.trans ?_
    exact (Machine.runs_dispatch hk _ cpu frameAddr f).trans (Machine.Quiet.emit _ rfl).runs

/-- Scripts are confined if the traps they take are. -/
theorem confined_kernelWith (t : ScriptTables) {nested : CpuId → Machine → Machine}
    (hn : ∀ cpu (m : Machine), m.Runs (nested cpu m)) : (t.kernelWith nested).Confined := by
  constructor
  · intro nr h hh args m
    obtain ⟨framed, s, rfl⟩ := SyscallTables.handler?_map hh
    unfold CallScript.handler
    have hrun := Machine.Quiet.emit m (e := .syscallRun s.name framed args (m.hw.readCsr .crmd)) rfl
    refine hrun.runs.trans ?_
    cases s with
    | alarm => exact (Machine.quiet_signalCurrent _ _).runs
    | kill => exact (Machine.quiet_signalCurrent _ _).runs
    | nest => exact hn .boot _
    | _ => exact .refl _
  · intro irq h hh cpu m
    unfold kernelWith at hh
    rw [IrqTable.handler?_map] at hh
    obtain ⟨s, -, rfl⟩ := Option.map_eq_some_iff.1 hh
    unfold IrqScript.handler
    have hrun := Machine.Quiet.emit m (e := .irqRun irq cpu (m.slot cpu)) rfl
    refine hrun.runs.trans ?_
    cases s with
    | note => exact .refl _
    | nest => exact hn cpu _
    | signal => exact (Machine.quiet_signalCurrent _ _).runs

/-- A kernel of scripts is confined, however deeply its handlers nest. -/
theorem confined_kernel (t : ScriptTables) : ∀ n : Nat, (t.kernel n).Confined
  | 0 => t.confined_kernelWith fun _ m => .refl m
  | n + 1 => t.confined_kernelWith (runs_takeNested (t.confined_kernel n))

end ScriptTables

/-! ## Whole runs -/

/-- What happens to a machine: a trap, a switch of the current task, a call of the debugger. -/
inductive SystemStep
  | trap (cpu : CpuId) (frameAddr : UInt64) (f : ExceptionFrame)
  | switch (task : Option TaskId)
  | debug (call : DebugCall)

namespace Machine

/-- The machine after a step. A call that is refused changes nothing. -/
def step (k : Kernel) (m : Machine) : SystemStep → Machine
  | .trap cpu frameAddr f => (dispatch k m cpu frameAddr f).machine
  | .switch task => { m with current := task }
  | .debug call =>
    match call.run m.tasks with
    | .ok tasks => { m with tasks := tasks }
    | .error _ => m

def steps (k : Kernel) (m : Machine) (l : List SystemStep) : Machine := l.foldl (step k) m

theorem runs_step {k : Kernel} (hk : k.Confined) (m : Machine) (s : SystemStep) :
    m.Runs (m.step k s) := by
  cases s with
  | trap cpu frameAddr f => exact runs_dispatch hk m cpu frameAddr f
  | switch task =>
    have hquiet : m.Quiet { m with current := task } := ⟨.refl _, rfl⟩
    exact hquiet.runs
  | debug call =>
    unfold step
    dsimp only
    split
    · rename_i tasks h
      exact ⟨[], .debug call h⟩
    · exact .refl m

theorem runs_steps {k : Kernel} (hk : k.Confined) : ∀ (l : List SystemStep) (m : Machine),
    m.Runs (m.steps k l)
  | [], m => .refl m
  | s :: l, m => (runs_step hk m s).trans (runs_steps hk l (m.step k s))

/-- Over any run, the tasks that resume are those the trace shows. A traced task finds its own
registers. An untraced one finds what was programmed last, and that is its own only while nothing
is left of the tasks that were traced before it. -/
theorem resumed_with_own_registers_iff {k : Kernel} (hk : k.Confined) (m : Machine)
    (l : List SystemStep) :
    ∃ rs : List Resumption, Run m rs (m.steps k l) ∧
      ((m.steps k l).hw.since m.hw.mark).filter Effect.isResume =
        rs.flatMap Resumption.effects ∧
      ∀ before r after, rs = before ++ r :: after →
        r.live = (if r.own.traced then r.own.hw
          else Resumption.programmed m.hw.debugRegs before) ∧
        (m.tasks.Sound → (r.live = r.own.hw ↔
          r.own.traced = true ∨ Resumption.programmed m.hw.debugRegs before = .off)) := by
  obtain ⟨rs, h⟩ := runs_steps hk l m
  refine ⟨rs, h, h.does.since, ?_⟩
  rintro before r after rfl
  have hlive : r.live = if r.own.traced then r.own.hw
      else Resumption.programmed m.hw.debugRegs before := h.chained.live
  refine ⟨hlive, fun hsound => ?_⟩
  by_cases ht : r.own.traced = true
  · rw [if_pos ht] at hlive
    exact ⟨fun _ => .inl ht, fun _ => hlive⟩
  · -- untraced, its own registers are off, and it finds what was there
    have hoff : r.own.hw = .off := (h.sound hsound).2 r (by simp) (Bool.not_eq_true _ ▸ ht)
    rw [if_neg ht] at hlive
    rw [hlive, hoff]
    exact ⟨.inr, fun ho => ho.resolve_left ht⟩

end Machine

/-! ## Two tasks -/

/-- A machine with two tasks, the first of them current, on which a handler may take one trap. -/
def Machine.pair : Machine :=
  { Machine.running .caller with
    tasks := ⟨[some .caller, some (Task.spawned ⟨1⟩ ⟨0x4000, 0x200000, 0, 0, ⟨0⟩⟩)]⟩
    nested := [.ofCall] }

/-- Scripts in which every standard syscall takes a trap. -/
def ScriptTables.nesting : ScriptTables := ⟨⟨⟨Vector.replicate _ (some .nest)⟩, .empty⟩, .empty⟩

/-- The first task is given a data watchpoint. -/
def SystemStep.watchFirst : SystemStep := .debug (.watch ⟨0⟩ .data 2 ⟨0x5000, 0x7, 0x1⟩)

/-- A call from user code on the boot core. -/
def SystemStep.call : SystemStep := .trap .boot 0 .ofCall

/-- A watched task resumes once from a call whose handler takes another trap, with its own
registers. -/
theorem resumed_with_own_registers_nested :
    let n := Machine.pair.steps (ScriptTables.nesting.kernel 1) [.watchFirst, .call]
    (ScriptTables.nesting.kernel 1).Confined ∧
      ∃ rs : List Resumption, Machine.pair.Run rs n ∧
        rs.flatMap Resumption.effects = [.debugWrite n.hw.debugRegs, .enterUser ⟨0⟩] ∧
        ∀ before r after, rs = before ++ r :: after → r.own.traced = true →
          r.live = r.own.hw := by
  intro n
  have hk := ScriptTables.nesting.confined_kernel 1
  have htrace : (n.hw.since Machine.pair.hw.mark).filter Effect.isResume =
      [.debugWrite n.hw.debugRegs, .enterUser ⟨0⟩] := by decide +kernel
  obtain ⟨rs, hrun, heffects, hall⟩ :=
    Machine.resumed_with_own_registers_iff hk Machine.pair [.watchFirst, .call]
  refine ⟨hk, rs, hrun, heffects.symm.trans htrace, fun before r after hrs ht => ?_⟩
  rw [(hall before r after hrs).1, if_pos ht]

/-- A watchpoint outlives the debugger that set it, and reaches a task that nobody traces. -/
theorem stale_registers_at_resumption :
    let detached := Machine.pair.steps .bare
      [.watchFirst, .call, .debug (.detach ⟨0⟩), .call]
    let switched := Machine.pair.steps .bare [.watchFirst, .call, .switch (some ⟨1⟩), .call]
    Machine.pair.hw.debugRegs = .off ∧
      ((detached.hw.since Machine.pair.hw.mark).filter Effect.isResume).getLast? =
          some (.enterUser ⟨0⟩) ∧
        detached.tasks.traceOf ⟨0⟩ = .untraced ∧
        detached.hw.debugRegs ≠ (detached.tasks.traceOf ⟨0⟩).hw ∧
      ((switched.hw.since Machine.pair.hw.mark).filter Effect.isResume).getLast? =
          some (.enterUser ⟨1⟩) ∧
        switched.hw.debugRegs = (switched.tasks.traceOf ⟨0⟩).hw ∧
        switched.hw.debugRegs ≠ (switched.tasks.traceOf ⟨1⟩).hw := by
  decide +kernel

end TrapLayer
