import TrapLayer.Machine
import TrapLayer.Paging.Refill
import TrapLayer.Signal.Pass
import TrapLayer.Signal.Return

/-!
# Trap dispatch

A trap is recorded, classified by its cause and handled: a syscall runs its handler and gets its
result, an interrupt drains the controller, a miss is refilled from the live table, and a fault is
reported and stops the core. The user registers are copied to the current task before any handler
runs; only the outermost trap from user mode runs the signal pass on its way out.

Handlers are functions on the machine, so a handler may take traps of its own, which are dispatched
on the same core before it returns.

* `drainUpTo_of_empty`: more rounds do not matter once the controller is empty.
* `drain_of_raises_le`, `dispatch_of_raises_le`: neither does a larger bound on the interrupts that
  handlers raise.
-/
namespace TrapLayer

/-- A syscall handler: the word for `a0`, and what it did. -/
abbrev SyscallHandler := SyscallArgs → Machine → UInt64 × Machine

/-- An interrupt handler, given its source and the core it runs on. -/
abbrev IrqHandler := IrqId → CpuId → Machine → Machine

/-- The code that traps run. -/
structure Kernel where
  syscalls : SyscallTables SyscallHandler
  irqs : IrqTable IrqHandler
  /-- Bound on the interrupts that handlers raise while a controller is drained. -/
  raises : Nat

/-- A trap that was dispatched. -/
structure Dispatched where
  outcome : TrapOutcome
  frame : ExceptionFrame
  machine : Machine

/-! ## Into the kernel -/

/-- The current task with the user registers of a frame as its shadow. -/
def Task.captured (t : Task) (f : ExceptionFrame) : Task :=
  { t with shadow := f, firstStart := false }

namespace Machine

/-- Copies a frame pushed from user mode to the current task, and tells the scheduler. -/
def captureUserEntry (m : Machine) (f : ExceptionFrame) : Machine :=
  if f.fromUser then
    match m.current with
    | none => m
    | some id =>
      let m := match m.tasks.find? id with
        | some task => m.putTask id (task.captured f)
        | none => m
      m.emit (.enterKernel id)
  else m

/-! ## Back to user mode -/

/-- How the way back of a task ends: as it already is, or as its signal pass decides. -/
def wayBack (m : Machine) (id : TaskId) (task : Task) (f : ExceptionFrame) : Pass :=
  match task.state with
  | .killed sig => ⟨.killed sig, task, f, m.hw⟩
  | .stopped sig => ⟨.stopped sig, task, f, m.hw⟩
  | .ready | .running => signalPass m.hw id task f

/-- Tells the scheduler, and the debug hardware, how the way back ended. -/
def settle (m : Machine) (id : TaskId) (task : Task) : PassOutcome → Machine
  | .killed sig =>
    (m.log .info "signal" (id.name ++ " terminated by signal " ++ toString sig)).emit
      (.taskExited id)
  | .stopped _ => m
  | .resume | .delivered _ =>
    let m := if task.trace.traced then { m with hw := m.hw.writeDebugRegs task.trace.hw } else m
    m.emit (.enterUser id)

/-- The way back of the current task. -/
def resumeCurrent (m : Machine) (f : ExceptionFrame) : ExceptionFrame × Machine :=
  match m.currentTask? with
  | none => (f, m)
  | some (id, task) =>
    let p := m.wayBack id task f
    (p.frame, ({ m with hw := p.hw }.putTask id p.task).settle id p.task p.outcome)

/-- The last step of a trap: a frame of the outermost trap from user mode takes the way back, any
other is left as it is. -/
def returnToUser (m : Machine) (cpu : CpuId) (f : ExceptionFrame) : ExceptionFrame × Machine :=
  if f.fromUser && (m.slot cpu).depth == 1 then (m.beginReturn cpu).resumeCurrent f else (f, m)

/-! ## Syscalls -/

/-- Runs code with interrupts enabled and puts the mode back afterwards. -/
def withInterrupts {α : Type} (m : Machine) (run : Machine → α × Machine) : α × Machine :=
  let crmd := m.hw.readCsr .crmd
  let r := run (m.writeCsr .crmd (crmd ||| crmdIe))
  (r.1, r.2.writeCsr .crmd crmd)

/-- Calls what a slot of a table holds. -/
def callSlot (m : Machine) (args : SyscallArgs) (handler : Except SyscallError SyscallHandler) :
    Except SyscallError UInt64 × Machine :=
  m.withInterrupts fun m =>
    match handler with
    | .ok h =>
      let r := h args m
      (.ok r.1, r.2)
    | .error e => (.error e, m)

/-- Restores the registers a signal frame holds; a frame that is refused kills the task. -/
def sysSigreturn (m : Machine) (f : ExceptionFrame) : ExceptionFrame × Machine :=
  match m.currentTask? with
  | none => (f, m)
  | some (id, task) =>
    let r := sigreturn m.hw task f
    match r.1 with
    | .ok back => (back.frame, { m with hw := r.2 }.putTask id back.task)
    | .error e =>
      let hw := r.2.log .error "signal"
        (id.name ++ ": bad signal frame at " ++ Text.hex f.sp ++ ": " ++ e.message)
      let forced := forceSegv hw task
      (f, { m with hw := forced.2 }.putTask id forced.1)

/-- Puts the result of a syscall into `a0`; a number without a handler leaves it alone. -/
def completeSyscall (m : Machine) (cpu : CpuId) (f : ExceptionFrame)
    (result : Except SyscallError UInt64) : ExceptionFrame × Machine :=
  match result with
  | .ok value => (f.setA0 value, m)
  | .error _ =>
    (f, m.log .warn "syscall" (cpu.name ++ ": unknown syscall " ++ toString f.syscallNumber))

/-- Runs what a syscall number goes to. -/
def runSyscall (k : Kernel) (m : Machine) (cpu : CpuId) (frameAddr : UInt64)
    (f : ExceptionFrame) : ExceptionFrame × Machine :=
  match SyscallRoute.ofNumber f.syscallNumber with
  | .sigReturn => m.sysSigreturn f
  | .standard slot =>
    let r := m.callSlot (.ofFrame f) (k.syscalls.standard.dispatch slot)
    r.2.completeSyscall cpu f r.1
  | .extended slot =>
    let r := m.callSlot (.extended f slot frameAddr) (k.syscalls.extended.dispatch slot)
    r.2.completeSyscall cpu f r.1
  | .invalid nr => m.completeSyscall cpu f (.error (.invalidSyscall nr))

end Machine

/-- A frame on entry to a syscall: its first argument is kept, and it resumes behind the
instruction. -/
def ExceptionFrame.atSyscall (f : ExceptionFrame) : ExceptionFrame :=
  { f with origA0 := f.a0, era := f.era + syscallInsnSize }.setKind .syscall

namespace Machine

def handleSyscall (k : Kernel) (m : Machine) (cpu : CpuId) (frameAddr : UInt64)
    (f : ExceptionFrame) : Dispatched :=
  let f := f.atSyscall
  let m := (m.enter cpu).captureUserEntry f
  let r := runSyscall k m cpu frameAddr f
  let r := r.2.returnToUser cpu r.1
  ⟨.resume, r.1, r.2.leave cpu⟩

/-! ## Interrupts -/

/-- Handles one interrupt that was claimed; it is given back whether it has a handler or not. -/
def handleClaimed (k : Kernel) (m : Machine) (cpu : CpuId) (p : PendingIrq) : Machine :=
  let m := (m.emit (.irqClaim p.source p.irq)).irqEnter cpu
  let m := match k.irqs.handler? p.irq with
    | some h => h p.irq cpu m
    | none => m.log .warn "irq" (cpu.name ++ ": spurious irq " ++ toString p.irq.val)
  (m.emit (.irqDone p.irq p.source)).irqExit cpu

/-- Claims and handles interrupts until none is left, at most `fuel` of them; gives how many. -/
def drainUpTo (k : Kernel) (cpu : CpuId) : Nat → Machine → Nat × Machine
  | 0, m => (0, m)
  | fuel + 1, m =>
    match m.pending with
    | [] => (0, m)
    | p :: rest =>
      let r := drainUpTo k cpu fuel (handleClaimed k { m with pending := rest } cpu p)
      (r.1 + 1, r.2)

/-- Once the controller is empty, more rounds change nothing. -/
theorem drainUpTo_of_empty {k : Kernel} {cpu : CpuId} : ∀ {fuel : Nat} {m : Machine},
    (drainUpTo k cpu fuel m).2.pending = [] → ∀ more,
      drainUpTo k cpu (fuel + more) m = drainUpTo k cpu fuel m
  | 0, m, h, more => by
    cases more with
    | zero => rfl
    | succ more =>
      have hp : m.pending = [] := h
      rw [Nat.zero_add]
      unfold drainUpTo
      rw [hp]
  | fuel + 1, m, h, more => by
    rw [Nat.add_right_comm]
    unfold drainUpTo at h ⊢
    split
    · rfl
    · rename_i p rest hp
      rw [hp] at h
      rw [drainUpTo_of_empty h more]

/-- Handles every interrupt that waits at the controller, and those that handlers raise. -/
def drain (k : Kernel) (m : Machine) (cpu : CpuId) : Nat × Machine :=
  drainUpTo k cpu (m.pending.length + k.raises) m

theorem drainUpTo_raises (k : Kernel) (n : Nat) (cpu : CpuId) : ∀ (fuel : Nat) (m : Machine),
    drainUpTo { k with raises := n } cpu fuel m = drainUpTo k cpu fuel m
  | 0, _ => rfl
  | fuel + 1, m => by
    unfold drainUpTo
    split
    · rfl
    · rw [drainUpTo_raises k n cpu fuel]
      rfl

/-- The bound is not part of what a drain does: with any larger one, a drain that leaves the
controller empty is the same. -/
theorem drain_of_raises_le {k : Kernel} {m : Machine} {cpu : CpuId} {n : Nat}
    (h : (drain k m cpu).2.pending = []) (hn : k.raises ≤ n) :
    drain { k with raises := n } m cpu = drain k m cpu := by
  have hsum : m.pending.length + n = m.pending.length + k.raises + (n - k.raises) := by omega
  unfold drain at h ⊢
  rw [drainUpTo_raises]
  dsimp only
  rw [hsum, drainUpTo_of_empty h]

def handleIrq (k : Kernel) (m : Machine) (cpu : CpuId) (f : ExceptionFrame) : Dispatched :=
  let f := f.setKind .irq
  let m := (m.enter cpu).captureUserEntry f
  let m := (drain k m cpu).2
  let m := (m.setNeedResched cpu).emit .reschedule
  let r := m.returnToUser cpu f
  ⟨.resume, r.1, r.2.leave cpu⟩

/-! ## Misses and faults -/

/-- Reports a trap that stops the core. -/
def haltReport (m : Machine) (cpu : CpuId) (f : ExceptionFrame) (fault : FaultClass) :
    TrapOutcome × Machine :=
  let report : FatalReport := ⟨cpu, fault, f⟩
  (.halt report, report.lines.foldl (fun m line => m.emit (.logged line)) m)

def handleMiss (m : Machine) (cpu : CpuId) (f : ExceptionFrame) (kind : MissKind) : Dispatched :=
  let m := m.enter cpu
  let f := f.setKind .tlbRefill
  let r := m.hw.resolveMiss f.badv f.fromUser kind
  let m := { m with hw := r.2 }
  match r.1 with
  | .ok _ => ⟨.resume, f, m.leave cpu⟩
  | .error e =>
    let m := m.log .error "tlb"
      (cpu.name ++ ": unresolved " ++ kind.text ++ " miss at " ++ Text.hex f.badv ++ ": " ++
        e.message)
    let h := m.haltReport cpu f .unresolvedMiss
    ⟨h.1, f, h.2.leave cpu⟩

def handleFault (m : Machine) (cpu : CpuId) (f : ExceptionFrame) (fault : FaultClass) :
    Dispatched :=
  let f := f.setKind .exception
  let h := (m.enter cpu).haltReport cpu f fault
  ⟨h.1, f, h.2.leave cpu⟩

/-! ## Dispatch -/

/-- Records a trap and handles it by its cause; `frameAddr` is where the frame lies. -/
def dispatch (k : Kernel) (m : Machine) (cpu : CpuId) (frameAddr : UInt64) (f : ExceptionFrame) :
    Dispatched :=
  let m := m.record f
  match classify f.estat f.fromUser with
  | .syscall => handleSyscall k m cpu frameAddr f
  | .interrupt => handleIrq k m cpu f
  | .miss kind => m.handleMiss cpu f kind
  | .fatal fault => m.handleFault cpu f fault

/-- Nor is it part of what a dispatch does. -/
theorem dispatch_of_raises_le {k : Kernel} {m : Machine} {cpu : CpuId} {f : ExceptionFrame}
    {n : Nat} (hn : k.raises ≤ n)
    (h : (drain k (((m.record f).enter cpu).captureUserEntry (f.setKind .irq)) cpu).2.pending = [])
    (frameAddr : UInt64) :
    dispatch { k with raises := n } m cpu frameAddr f = dispatch k m cpu frameAddr f := by
  have hdrain := drain_of_raises_le h hn
  unfold dispatch
  dsimp only
  split
  · rfl
  · unfold handleIrq
    dsimp only
    rw [hdrain]
  · rfl
  · rfl

end Machine

end TrapLayer
