import TrapLayer.Dispatch

/-!
# The current task and its way back

* `currentTask?_eq_some_iff`: the current task is looked up in the table.
* `beginReturn_eq`, `leave_eq`, `settle_eq`: what goes on around the way back leaves the tasks and
  the registers of the core alone.
* `captureUserEntry_of_current`: it is given the registers on entry.
* `wayBack_of_alive`: a live task takes its signals on the way back.
* `returnToUser_of_outermost`: the outermost trap from user mode takes the way back of the current
  task.
-/
namespace TrapLayer

namespace Machine

theorem currentTask?_eq_some_iff {m : Machine} {id : TaskId} {task : Task} :
    m.currentTask? = some (id, task) ↔ m.current = some id ∧ m.tasks.find? id = some task := by
  unfold currentTask?
  constructor
  · intro h
    obtain ⟨cur, hcur, hmap⟩ := Option.bind_eq_some_iff.1 h
    obtain ⟨found, hfind, heq⟩ := Option.map_eq_some_iff.1 hmap
    obtain ⟨rfl, rfl⟩ := Prod.mk.inj heq
    exact ⟨hcur, hfind⟩
  · rintro ⟨hcur, hfind⟩
    rw [hcur, Option.bind_some, hfind, Option.map_some]

/-! ## What is beside the task -/

theorem beginReturn_eq (m : Machine) (cpu : CpuId) : ∃ hw cpus,
    m.beginReturn cpu = { m with hw := hw, cpus := cpus } ∧ hw.csrs = m.hw.csrs := by
  unfold beginReturn
  dsimp only
  split <;> exact ⟨_, _, rfl, rfl⟩

theorem leave_eq (m : Machine) (cpu : CpuId) : ∃ hw cpus,
    m.leave cpu = { m with hw := hw, cpus := cpus } ∧ hw.csrs = m.hw.csrs := by
  unfold leave
  dsimp only
  split <;> exact ⟨_, _, rfl, rfl⟩

theorem settle_eq (m : Machine) (id : TaskId) (task : Task) (outcome : PassOutcome) :
    ∃ hw, m.settle id task outcome = { m with hw := hw } ∧ hw.csrs = m.hw.csrs := by
  unfold settle
  cases outcome with
  | killed sig | stopped sig => exact ⟨_, rfl, rfl⟩
  | resume | delivered sig => dsimp only; split <;> exact ⟨_, rfl, rfl⟩

@[simp] theorem currentTask?_beginReturn (m : Machine) (cpu : CpuId) :
    (m.beginReturn cpu).currentTask? = m.currentTask? := by
  obtain ⟨_, _, heq, -⟩ := m.beginReturn_eq cpu
  rw [heq]
  rfl

theorem currentTask?_leave (m : Machine) (cpu : CpuId) :
    (m.leave cpu).currentTask? = m.currentTask? := by
  obtain ⟨_, _, heq, -⟩ := m.leave_eq cpu
  rw [heq]
  rfl

theorem currentTask?_settle (m : Machine) (id : TaskId) (task : Task) (outcome : PassOutcome) :
    (m.settle id task outcome).currentTask? = m.currentTask? := by
  obtain ⟨_, heq, -⟩ := m.settle_eq id task outcome
  rw [heq]
  rfl

theorem tasks_leave (m : Machine) (cpu : CpuId) : (m.leave cpu).tasks = m.tasks := by
  obtain ⟨_, _, heq, -⟩ := m.leave_eq cpu
  rw [heq]

theorem tasks_settle (m : Machine) (id : TaskId) (task : Task) (outcome : PassOutcome) :
    (m.settle id task outcome).tasks = m.tasks := by
  obtain ⟨_, heq, -⟩ := m.settle_eq id task outcome
  rw [heq]

theorem csrs_beginReturn (m : Machine) (cpu : CpuId) :
    (m.beginReturn cpu).hw.csrs = m.hw.csrs := by
  obtain ⟨_, _, heq, hcsrs⟩ := m.beginReturn_eq cpu
  rw [heq, hcsrs]

theorem csrs_leave (m : Machine) (cpu : CpuId) : (m.leave cpu).hw.csrs = m.hw.csrs := by
  obtain ⟨_, _, heq, hcsrs⟩ := m.leave_eq cpu
  rw [heq, hcsrs]

theorem csrs_settle (m : Machine) (id : TaskId) (task : Task) (outcome : PassOutcome) :
    (m.settle id task outcome).hw.csrs = m.hw.csrs := by
  obtain ⟨_, heq, hcsrs⟩ := m.settle_eq id task outcome
  rw [heq, hcsrs]

/-! ## The way in and the way back -/

/-- On entry from user mode the registers are copied to the current task, and the scheduler is
told. -/
theorem captureUserEntry_of_current {m : Machine} {f : ExceptionFrame} {id : TaskId} {task : Task}
    (huser : f.fromUser = true) (hcur : m.currentTask? = some (id, task)) :
    m.captureUserEntry f = (m.putTask id (task.captured f)).emit (.enterKernel id) := by
  obtain ⟨hcurrent, hfind⟩ := currentTask?_eq_some_iff.1 hcur
  unfold captureUserEntry
  rw [if_pos huser, hcurrent]
  simp only [hfind]

theorem wayBack_of_alive (m : Machine) (id : TaskId) {task : Task} (f : ExceptionFrame)
    (h : task.isAlive = true) : m.wayBack id task f = signalPass m.hw id task f := by
  unfold Task.isAlive at h
  unfold wayBack
  cases hs : task.state with
  | killed sig => rw [hs] at h; cases h
  | stopped sig => rw [hs] at h; cases h
  | ready => rfl
  | running => rfl

/-- The machine after a way back, with the task stored back and the outcome told. -/
def afterBack (m : Machine) (id : TaskId) (p : Pass) : Machine :=
  ({ m with hw := p.hw }.putTask id p.task).settle id p.task p.outcome

theorem returnToUser_of_outermost {m : Machine} {cpu : CpuId} {f : ExceptionFrame} {id : TaskId}
    {task : Task} (huser : f.fromUser = true) (hdepth : (m.slot cpu).depth = 1)
    (hcur : m.currentTask? = some (id, task)) :
    m.returnToUser cpu f =
      (((m.beginReturn cpu).wayBack id task f).frame,
        (m.beginReturn cpu).afterBack id ((m.beginReturn cpu).wayBack id task f)) := by
  have hback : (m.beginReturn cpu).currentTask? = some (id, task) :=
    (currentTask?_beginReturn m cpu).trans hcur
  unfold returnToUser
  rw [huser, hdepth]
  show (m.beginReturn cpu).resumeCurrent f = _
  unfold resumeCurrent
  rw [hback]
  rfl

theorem tasks_afterBack (m : Machine) (id : TaskId) (p : Pass) :
    (m.afterBack id p).tasks = m.tasks.put id p.task :=
  tasks_settle _ id p.task p.outcome

end Machine

end TrapLayer
