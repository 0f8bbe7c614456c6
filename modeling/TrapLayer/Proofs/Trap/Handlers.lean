import TrapLayer.Proofs.Signal.Work
import TrapLayer.Proofs.SyscallRestart

/-!
# What handlers do, and the parts of a trap around them

A handler is any function on the machine. What is asked of it is that all it does are steps of its
own, of a kind that is fixed in advance, and traps that it takes on its core, whose handlers are
again like that. The parts of a trap around its handlers change no slot, leave the controller alone
and show neither a transition nor a claim.

* `Machine.Handles`: what such a handler does; `Kernel.Serves`: the handlers of a trap are such.
* `Handles.mono`: with more steps, more traps or a larger depth it still is; `Handles.untrapped`:
  without traps it is its own steps.
* `beside_captureUserEntry`, `beside_runSyscall_of_unhandled`, `beside_resumeCurrent`,
  `beside_haltReport`: the parts around the handlers.
* `machine_runSyscall_of_handler`: a syscall runs its handler between two writes of the mode.
-/
namespace TrapLayer

/-! ## Handlers -/

/-- A handler on a core does steps of its own, and takes traps nested at most `n` deep, each with a
kernel whose handlers do the same with one level less. -/
inductive Machine.Handles (own : Machine → Machine → Prop) (takes : ExceptionFrame → Prop)
    (cpu : CpuId) : Nat → Machine → Machine → Prop
  | own {n : Nat} {m m' : Machine} (h : own m m') : Handles own takes cpu n m m'
  | append {n : Nat} {m m' m'' : Machine} (h : Handles own takes cpu n m m')
    (h' : Handles own takes cpu n m' m'') : Handles own takes cpu n m m''
  | trap {n : Nat} {k : Kernel} {m : Machine} {f : ExceptionFrame} (frameAddr : UInt64)
    (ht : takes f)
    (calls : classify f.estat f.fromUser = .syscall →
      ∀ h, k.syscalls.handler? f.syscallNumber = some h →
        ∀ args (m : Machine), Handles own takes cpu n m (h args m).2)
    (irqs : classify f.estat f.fromUser = .interrupt →
      ∀ irq h, k.irqs.handler? irq = some h →
        ∀ m : Machine, Handles own takes cpu n m (h irq cpu m)) :
    Handles own takes cpu (n + 1) m (Machine.dispatch k m cpu frameAddr f).machine

/-- The handlers that a trap may run on a core do steps of their own, and take traps nested at most
`n` deep. -/
structure Kernel.Serves (own : Machine → Machine → Prop) (takes : ExceptionFrame → Prop)
    (cpu : CpuId) (n : Nat) (k : Kernel) (f : ExceptionFrame) : Prop where
  calls : classify f.estat f.fromUser = .syscall →
    ∀ h, k.syscalls.handler? f.syscallNumber = some h →
      ∀ args (m : Machine), m.Handles own takes cpu n (h args m).2
  irqs : classify f.estat f.fromUser = .interrupt →
    ∀ irq h, k.irqs.handler? irq = some h → ∀ m : Machine, m.Handles own takes cpu n (h irq cpu m)

section

variable {own own' : Machine → Machine → Prop} {takes takes' : ExceptionFrame → Prop}
  {cpu : CpuId} {n : Nat} {k : Kernel} {f : ExceptionFrame} {m m' : Machine}
  (hown : ∀ m m', own m m' → own' m m') (htakes : ∀ f, takes f → takes' f)

include hown htakes

theorem Machine.Handles.mono (h : m.Handles own takes cpu n m') :
    m.Handles own' takes' cpu n m' := by
  induction h with
  | own h => exact .own (hown _ _ h)
  | append _ _ ih ih' => exact .append ih ih'
  | trap frameAddr ht _ _ calls irqs => exact .trap frameAddr (htakes _ ht) calls irqs

theorem Kernel.Serves.mono (h : k.Serves own takes cpu n f) : k.Serves own' takes' cpu n f :=
  ⟨fun hc nr hh args m => (h.calls hc nr hh args m).mono hown htakes,
    fun hc irq hh hi m => (h.irqs hc irq hh hi m).mono hown htakes⟩

end

theorem Machine.Handles.untrapped {R own : Machine → Machine → Prop}
    {takes : ExceptionFrame → Prop} {cpu : CpuId} {m m' : Machine}
    (htrans : ∀ {m n o : Machine}, R m n → R n o → R m o) (hown : ∀ m n, own m n → R m n) :
    m.Handles own takes cpu 0 m' → R m m' := by
  generalize hdepth : 0 = depth
  intro h
  induction h with
  | own h => exact hown _ _ h
  | append _ _ ih ih' => exact htrans (ih hdepth) (ih' hdepth)
  | trap => cases hdepth

/-! ## The parts around them -/

/-- Neither the controller nor the dispatcher, with its reports. -/
def Effect.isBeside : Effect → Bool
  | .irqClaim .. | .irqDone .. | .transition .. => false
  | .logged line => line.target != "trap"
  | _ => true

theorem Effect.isBeside_of_isWork {e : Effect} (h : e.isWork = true) : e.isBeside = true := by
  cases e with
  | logged line => exact h
  | irqClaim source irq | irqDone irq source | transition cpu slot => cases h
  | _ => rfl

namespace Machine

/-- A step beside the dispatcher and the controller, with effects of one sort. -/
structure Beside (sort : Effect → Prop) (m n : Machine) : Prop where
  cpus : n.cpus = m.cpus
  traps : n.traps = m.traps
  pending : n.pending = m.pending
  current : n.current = m.current
  emits : m.hw.Emits sort n.hw

namespace Beside

variable {sort : Effect → Prop} {m n o : Machine}

theorem refl (m : Machine) : m.Beside sort m := ⟨rfl, rfl, rfl, rfl, .refl _⟩

theorem trans (h : m.Beside sort n) (h' : n.Beside sort o) : m.Beside sort o :=
  ⟨h'.cpus.trans h.cpus, h'.traps.trans h.traps, h'.pending.trans h.pending,
    h'.current.trans h.current, h.emits.trans h'.emits⟩

theorem emit (m : Machine) {e : Effect} (h : sort e) : m.Beside sort (m.emit e) :=
  ⟨rfl, rfl, rfl, rfl, .of_emit _ h⟩

theorem mono {weaker : Effect → Prop} (h : m.Beside sort n) (hs : ∀ e, sort e → weaker e) :
    m.Beside weaker n := ⟨h.cpus, h.traps, h.pending, h.current, h.emits.mono hs⟩

/-- Work is beside the dispatcher, whatever becomes of the tasks. -/
theorem of_works {hw : Hardware} (m : Machine) (tasks : TaskTable) (h : m.hw.Works hw) :
    m.Beside (·.isWork = true) { m with hw := hw, tasks := tasks } :=
  ⟨rfl, rfl, rfl, rfl, h.emits⟩

end Beside

theorem beside_writeCsr (m : Machine) (c : Csr) (v : UInt64) :
    m.Beside (·.isWork = true) (m.writeCsr c v) :=
  ⟨rfl, rfl, rfl, rfl, [.csrWrite c v], by simp [Effect.isWork], rfl⟩

theorem beside_captureUserEntry (m : Machine) (f : ExceptionFrame) :
    m.Beside (·.isBeside = true) (m.captureUserEntry f) := by
  unfold captureUserEntry
  split
  · split
    · exact .refl m
    · dsimp only
      split
      · exact ⟨rfl, rfl, rfl, rfl, .of_emit m.hw rfl⟩
      · exact .emit m rfl
  · exact .refl m

theorem beside_sysSigreturn (m : Machine) (f : ExceptionFrame) :
    m.Beside (·.isWork = true) (m.sysSigreturn f).2 := by
  unfold sysSigreturn
  split
  · exact .refl m
  · rename_i id task _
    have hworks := works_sigreturn m.hw task f
    dsimp only
    split
    · exact .of_works m _ hworks
    · exact .of_works m _ ((hworks.trans (.emit _ rfl)).trans (.emit _ rfl))

theorem beside_settle (m : Machine) (id : TaskId) (task : Task) (outcome : PassOutcome) :
    m.Beside (·.isBeside = true) (m.settle id task outcome) := by
  unfold settle
  split
  · rename_i sig
    have hlog : m.Beside (·.isBeside = true)
        (m.log .info "signal" (id.name ++ " terminated by signal " ++ toString sig)) :=
      .emit m rfl
    exact hlog.trans (.emit _ rfl)
  · exact .refl m
  all_goals
    have hregs : m.Beside (·.isBeside = true)
        { m with hw := m.hw.writeDebugRegs task.trace.hw } :=
      ⟨rfl, rfl, rfl, rfl, [.debugWrite task.trace.hw], by simp [Effect.isBeside], rfl⟩
    dsimp only
    split
    · exact hregs.trans (.emit _ rfl)
    · exact .emit m rfl

theorem beside_resumeCurrent (m : Machine) (f : ExceptionFrame) :
    m.Beside (·.isBeside = true) (m.resumeCurrent f).2 := by
  unfold resumeCurrent
  split
  · exact .refl m
  · rename_i id task _
    have hback := Beside.of_works m (m.tasks.put id (m.wayBack id task f).task)
      (works_wayBack m id task f)
    exact (hback.mono fun _ => Effect.isBeside_of_isWork).trans (beside_settle _ id _ _)

theorem machine_haltReport (m : Machine) (cpu : CpuId) (f : ExceptionFrame) (fault : FaultClass) :
    (m.haltReport cpu f fault).2 = { m with hw := { m.hw with
      history := ((⟨cpu, fault, f⟩ : FatalReport).lines.map Effect.logged).reverse ++
        m.hw.history } } := by
  unfold haltReport
  dsimp only
  generalize FatalReport.lines _ = lines
  induction lines generalizing m with
  | nil => rfl
  | cons line lines ih =>
    rw [List.foldl_cons, ih, List.map_cons, List.reverse_cons, List.append_assoc]
    rfl

theorem beside_haltReport (m : Machine) (cpu : CpuId) (f : ExceptionFrame) (fault : FaultClass) :
    m.Beside (fun e => ∃ line ∈ (⟨cpu, fault, f⟩ : FatalReport).lines, e = .logged line)
      (m.haltReport cpu f fault).2 := by
  rw [machine_haltReport]
  refine ⟨rfl, rfl, rfl, rfl, _, fun e he => ?_, rfl⟩
  obtain ⟨line, hmem, rfl⟩ := List.mem_map.1 (List.mem_reverse.1 he)
  exact ⟨line, hmem, rfl⟩

/-! ## The call of a handler -/

theorem machine_runSyscall_of_handler {k : Kernel} {f : ExceptionFrame} {h : SyscallHandler}
    (hh : k.syscalls.handler? f.syscallNumber = some h) (m : Machine) (cpu : CpuId)
    (frameAddr : UInt64) :
    (runSyscall k m cpu frameAddr f).2 =
      (h (f.syscallArgs frameAddr)
        (m.writeCsr .crmd (m.hw.readCsr .crmd ||| crmdIe))).2.writeCsr .crmd
          (m.hw.readCsr .crmd) := by
  rw [runSyscall_of_handler hh rfl]

/-- Without a handler a syscall is a signal return, or it is logged. -/
theorem beside_runSyscall_of_unhandled {k : Kernel} {f : ExceptionFrame}
    (hh : k.syscalls.handler? f.syscallNumber = none) (m : Machine) (cpu : CpuId)
    (frameAddr : UInt64) :
    m.Beside (·.isWork = true) (runSyscall k m cpu frameAddr f).2 := by
  rcases runSyscall_of_none hh m cpu frameAddr with ⟨-, heq⟩ | ⟨-, n, hmode, heq⟩
  · rw [heq]
    exact beside_sysSigreturn m f
  · rw [heq]
    have hn : m.Beside (·.isWork = true) n := by
      rcases hmode with rfl | ⟨v, v', rfl⟩
      · exact .refl n
      · exact (beside_writeCsr m .crmd v).trans (beside_writeCsr _ .crmd v')
    exact hn.trans (.emit n rfl)

end Machine

end TrapLayer
