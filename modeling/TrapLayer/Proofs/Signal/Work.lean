import TrapLayer.Proofs.Machine
import TrapLayer.Proofs.Paging.Refill
import TrapLayer.Proofs.Signal.Pass
import TrapLayer.Proofs.Signal.Return

/-!
# The work of deliveries, returns and misses

Most of what a trap asks of the hardware is work: reads and writes of memory and tables, register
banks, refills, and diagnostics about them. The other effects are kept apart, since each has an
order that matters: the debug registers, the scheduler's hooks, the interrupt controller, and the
transitions of the dispatcher with its reports.

* `Hardware.Works`: a step that only works, and leaves the debug registers alone.
* `worksSilently_deliver`, `worksSilently_sigreturn`, `worksSilently_resolveMiss`: deliveries,
  returns and misses work, and log nothing by themselves.
* `works_signalPass`, `works_wayBack`: a signal pass and the way back of a task work too.
-/
namespace TrapLayer

/-- Not the debug registers, a hook of the scheduler, the controller, or the dispatcher. -/
def Effect.isWork : Effect → Bool
  | .debugWrite _ | .enterKernel _ | .enterUser _ | .taskExited _ => false
  | .irqClaim .. | .irqDone .. | .transition .. => false
  | .logged line => line.target != "trap"
  | _ => true

/-- Work of which nothing is logged. -/
def Effect.isSilentWork : Effect → Bool
  | .logged _ => false
  | e => e.isWork

theorem Effect.isWork_of_isSilentWork {e : Effect} (h : e.isSilentWork = true) :
    e.isWork = true := by
  cases e with
  | logged line => cases h
  | _ => exact h

theorem Effect.isSilentWork_of_isRead {e : Effect} (h : e.isRead = true) :
    e.isSilentWork = true := by
  rcases Effect.eq_of_isRead h with ⟨read, rfl⟩ | ⟨addr, len, rfl⟩ <;> rfl

/-! ## Hardware -/

namespace Hardware

/-- A step that works, with the debug registers as they were. -/
structure Works (hw hw' : Hardware) : Prop where
  debugRegs : hw'.debugRegs = hw.debugRegs
  emits : hw.Emits (·.isWork = true) hw'

/-- The same, and nothing is logged. -/
structure WorksSilently (hw hw' : Hardware) : Prop where
  debugRegs : hw'.debugRegs = hw.debugRegs
  emits : hw.Emits (·.isSilentWork = true) hw'

namespace Works

variable {hw hw' hw'' : Hardware}

theorem refl (hw : Hardware) : Works hw hw := ⟨rfl, .refl hw⟩

theorem trans (h : Works hw hw') (h' : Works hw' hw'') : Works hw hw'' :=
  ⟨h'.debugRegs.trans h.debugRegs, h.emits.trans h'.emits⟩

theorem emit (hw : Hardware) {e : Effect} (h : e.isWork = true) : Works hw (hw.emit e) :=
  ⟨rfl, .of_emit hw h⟩

end Works

namespace WorksSilently

variable {hw hw' hw'' : Hardware}

theorem of_history (es : List Effect) (hregs : hw'.debugRegs = hw.debugRegs)
    (h : hw'.history = es ++ hw.history) (hes : ∀ e ∈ es, e.isSilentWork = true) :
    WorksSilently hw hw' := ⟨hregs, es, hes, h⟩

theorem trans (h : WorksSilently hw hw') (h' : WorksSilently hw' hw'') :
    WorksSilently hw hw'' := ⟨h'.debugRegs.trans h.debugRegs, h.emits.trans h'.emits⟩

theorem emit (hw : Hardware) {e : Effect} (h : e.isSilentWork = true) :
    WorksSilently hw (hw.emit e) := ⟨rfl, .of_emit hw h⟩

theorem works (h : WorksSilently hw hw') : Works hw hw' :=
  ⟨h.debugRegs, h.emits.mono fun _ => Effect.isWork_of_isSilentWork⟩

end WorksSilently

theorem OnlyReads.worksSilently {hw hw' : Hardware} (h : hw.OnlyReads hw') :
    hw.WorksSilently hw' := by
  obtain ⟨es, hes, rfl⟩ := h
  exact .of_history es rfl rfl fun e he => Effect.isSilentWork_of_isRead (hes e he)

end Hardware

/-! ## Deliveries, returns and misses -/

theorem worksSilently_build (hw : Hardware) (task : Task) (sig : Signal) (info : SigInfo)
    (frame : ExceptionFrame) (p : DeliveryPlan) :
    hw.WorksSilently (build hw task sig info frame p).2 := by
  have heq := build_hardware hw task sig info frame p
  refine .of_history (.icacheFlush (p.addr + UInt64.ofNat SigFrame.trampOff) 16 ::
    ((p.layout.blocks.map (ChainLayout.writeEffect
      (captureRecords hw frame.euen task.switch.fpu p.kinds).records)).reverse ++
      .userWrite p.addr (signalImage task info frame p.kinds).toBytes ::
      (RecordKind.saves frame.euen p.kinds).reverse)) (by rw [heq]) ?_ ?_
  · rw [heq]
    simp only [List.cons_append, List.append_assoc]
  · intro e he
    simp only [List.mem_cons, List.mem_append, List.mem_reverse, List.mem_map,
      RecordKind.saves] at he
    rcases he with rfl | ⟨b, -, rfl⟩ | rfl | ⟨k, -, rfl⟩
    · rfl
    · rfl
    · rfl
    · cases k <;> rfl

theorem worksSilently_deliver (hw : Hardware) (task : Task) (sig : Signal) (info : SigInfo)
    (frame : ExceptionFrame) : hw.WorksSilently (deliver hw task sig info frame).2 := by
  rcases deliver_cases hw task sig info frame with ⟨p, -, -, heq⟩ | ⟨e, reads, heq⟩
  · rw [heq]
    exact (hw.onlyReads_checkUser _ _ _).worksSilently.trans
      (worksSilently_build _ task sig info frame p)
  · rw [heq]
    exact (hw.onlyReads_noteReads reads).worksSilently

theorem worksSilently_restoreRecords (euen era : UInt64) (task : Task) (hw : Hardware)
    (rs : List Record) : hw.WorksSilently (restoreRecords euen era task hw rs).2 := by
  obtain ⟨fp, heq⟩ := restoreRecords_hardware euen era rs task hw
  rw [heq]
  refine .of_history _ rfl rfl fun e he => ?_
  obtain ⟨r, -, rfl⟩ := List.mem_map.1 (List.mem_reverse.1 he)
  cases r.kind <;> rfl

theorem worksSilently_sigreturn (hw : Hardware) (task : Task) (frame : ExceptionFrame) :
    hw.WorksSilently (sigreturn hw task frame).2 := by
  rcases sigreturn_cases hw task frame with
    ⟨image, read, hread, -, heq⟩ | ⟨e, read, hread, -, heq⟩
  · rw [heq]
    exact hread.worksSilently.trans (worksSilently_restoreRecords _ _ _ read image.records)
  · rw [heq]
    exact hread.worksSilently

theorem worksSilently_resolveMiss (hw : Hardware) (badv : UInt64) (fromUser : Bool)
    (kind : MissKind) : hw.WorksSilently (hw.resolveMiss badv fromUser kind).2 := by
  rcases hw.resolveMiss_cases badv fromUser kind with
    ⟨leaf, reads, -, -, heq⟩ | ⟨e, reads, -, heq⟩
  · rw [heq]
    exact (hw.onlyReads_noteReads reads).worksSilently.trans (.emit _ rfl)
  · rw [heq]
    exact (hw.onlyReads_noteReads reads).worksSilently

theorem works_sigreturn (hw : Hardware) (task : Task) (frame : ExceptionFrame) :
    hw.Works (sigreturn hw task frame).2 := (worksSilently_sigreturn hw task frame).works

theorem works_resolveMiss (hw : Hardware) (badv : UInt64) (fromUser : Bool) (kind : MissKind) :
    hw.Works (hw.resolveMiss badv fromUser kind).2 :=
  (worksSilently_resolveMiss hw badv fromUser kind).works

/-! ## The signal pass and the way back -/

theorem works_takeHandled (hw : Hardware) (id : TaskId) (task : Task) (inSyscall : Bool)
    (sig : Signal) (action : SigAction) (frame : ExceptionFrame) :
    hw.Works (takeHandled hw id task inSyscall sig action frame).hw := by
  have hworks := (worksSilently_deliver hw (task.clearSignal sig) sig (task.signals.info sig)
    (frame.restarted inSyscall (some action))).works
  unfold takeHandled
  dsimp only
  split
  · exact hworks
  · exact (hworks.trans (.emit _ rfl)).trans (.emit _ rfl)

theorem works_signalPass (hw : Hardware) (id : TaskId) (task : Task) (frame : ExceptionFrame) :
    hw.Works (signalPass hw id task frame).hw := by
  obtain ⟨pending, hends⟩ := signalPass_ends hw id task frame
  generalize signalPass hw id task frame = p at hends ⊢
  cases hends with
  | ignored => exact .refl hw
  | killed sig | stopped sig => exact .emit hw rfl
  | handled sig action => exact works_takeHandled hw id _ _ sig action frame

theorem works_wayBack (m : Machine) (id : TaskId) (task : Task) (f : ExceptionFrame) :
    m.hw.Works (m.wayBack id task f).hw := by
  unfold Machine.wayBack
  cases task.state with
  | killed sig | stopped sig => exact .refl _
  | ready | running => exact works_signalPass m.hw id task f

end TrapLayer
