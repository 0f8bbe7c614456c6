import TrapLayer.Proofs.Word
import TrapLayer.Signal.Pass

/-!
# Which signal a pass takes

The deliverable signals come lowest number first. A pass drops the ignored ones in front of the
first signal that is not ignored; that one ends it, and a frame is built for it alone. A frame that
is no syscall frame is not looked at for a restart, so passes without a signal leave it as it is.

* `SigAction.disposes_iff`, `ExceptionFrame.restarts_iff`: what becomes of a signal, and of an
  interrupted call, as tables.
* `deliverable_sorted`, `mem_deliverable_iff`: the signals of a pass, in order.
* `signalPass_ignored`: with every signal ignored, the restart is decided without a handler.
* `Task.ignores_or_takesFirst`: else there is a lowest signal that is not ignored.
* `signalPass_of_terminate`, `signalPass_of_stop`, `signalPass_of_handler`: it ends the pass as its
  disposition says.
* `signalPass_ends`: all that a pass can come to.
* `outcome_eq_resume_iff`, `outcome_eq_stopped_iff`: when a pass resumes a task, and when it stops
  one.
* `signalPass_delivered`: a frame is built for the lowest signal that is not ignored.
* `ExceptionFrame.settled_of_kind`: idle passes over a consumed frame change nothing.
-/
namespace TrapLayer

/-! ## The tables of a pass -/

/-- What becomes of a signal that is taken, by what a task registered for it. Address 0 stands for
the default of the signal, and address 1 ignores it. -/
inductive SigAction.Disposes (a : SigAction) (sig : Signal) : Disposition → Prop
  | ignored (address : a.handler = 1) : Disposes a sig .ignore
  | ignoredByDefault (address : a.handler = 0)
      (number : sig = 17 ∨ sig = 18 ∨ sig = 23 ∨ sig = 28) : Disposes a sig .ignore
  | stopped (address : a.handler = 0) (number : sig = 19 ∨ sig = 20 ∨ sig = 21 ∨ sig = 22) :
      Disposes a sig .stop
  | terminated (address : a.handler = 0) (kept : ¬ (sig = 17 ∨ sig = 18 ∨ sig = 23 ∨ sig = 28))
      (runs : ¬ (sig = 19 ∨ sig = 20 ∨ sig = 21 ∨ sig = 22)) : Disposes a sig .terminate
  | handled (set : a.handler ≠ 0) (entered : a.handler ≠ 1) :
      Disposes a sig (.handler a.handler)

theorem SigAction.Disposes.eq {a : SigAction} {sig : Signal} {d : Disposition}
    (h : a.Disposes sig d) : a.disposition sig = d := by
  unfold disposition handlerDefault handlerIgnore
  cases h with
  | ignored address => simp [address]
  | ignoredByDefault address number => rw [if_pos address]; exact if_pos number
  | stopped address number =>
    rw [if_pos address]
    rcases number with rfl | rfl | rfl | rfl <;> rfl
  | terminated address kept runs =>
    rw [if_pos address]
    exact (if_neg kept).trans (if_neg runs)
  | handled set entered => rw [if_neg set, if_neg entered]

theorem SigAction.Disposes.handler_eq {a : SigAction} {sig : Signal} {handler : UInt64}
    (h : a.Disposes sig (.handler handler)) : handler = a.handler := by
  cases h
  rfl

theorem SigAction.disposes_disposition (a : SigAction) (sig : Signal) :
    a.Disposes sig (a.disposition sig) := by
  unfold disposition Disposition.ofDefault
  split
  case isTrue address =>
    split
    case isTrue number => exact .ignoredByDefault address number
    case isFalse kept =>
      split
      case isTrue number => exact .stopped address number
      case isFalse runs => exact .terminated address kept runs
  case isFalse set =>
    split
    case isTrue address => exact .ignored address
    case isFalse entered => exact .handled set entered

theorem SigAction.disposes_iff (a : SigAction) (sig : Signal) (d : Disposition) :
    a.Disposes sig d ↔ a.disposition sig = d :=
  ⟨Disposes.eq, fun h => h ▸ a.disposes_disposition sig⟩

theorem RestartCode.ofReturn?_eq_none_iff (a0 : UInt64) :
    ofReturn? a0 = none ↔ ∀ code : RestartCode, a0 ≠ code.word := by
  unfold ofReturn?
  rw [List.find?_eq_none]
  constructor
  · intro h code ha
    have hmem : code ∈ all := by cases code <;> decide
    exact h code hmem (beq_iff_eq.2 ha.symm)
  · intro h code _ hc
    exact h code (beq_iff_eq.1 hc).symm

theorem RestartCode.eq_of_ofReturn? {a0 : UInt64} {code : RestartCode}
    (h : ofReturn? a0 = some code) : a0 = code.word := by
  unfold ofReturn? at h
  have hfound := List.find?_some h
  exact (beq_iff_eq.1 hfound).symm

theorem RestartCode.ofReturn?_word (code : RestartCode) : ofReturn? code.word = some code := by
  cases code <;> decide

/-- The flag that asks for a restart is bit 28. -/
theorem SigAction.has_restart (a : SigAction) : a.has SigFlag.restart = bitOf a.flags 28 := by
  have hbit : SigFlag.restart = oneBit 28 := by decide
  rw [has, hbit, hasBits_oneBit a.flags (by decide)]

namespace ExceptionFrame

theorem restarted_of_no_code {f : ExceptionFrame} (h : ∀ code : RestartCode, f.a0 ≠ code.word)
    (inSyscall : Bool) (handler : Option SigAction) : f.restarted inSyscall handler = f := by
  have hnone : f.restartCode? = none := by
    unfold restartCode?
    rw [(RestartCode.ofReturn?_eq_none_iff f.a0).2 h, ite_self]
  unfold restarted applyRestart
  rw [hnone]
  exact ite_self f

/-- How a frame leaves the decision about an interrupted call, with the action of the handler that
is about to run or with none. Type 1 is the frame of a call, and its register 4 holds the result:
-512 asks for the call to be made again, unless a handler runs that does not ask for it with bit 28
of its flags; -513 asks for it always, and -514 and -516 unless a handler runs. Register 4 then gets
back what it held on entry. For -516 the call that is made is number 128, in register 11. What is
decided is never decided again, since the type becomes 0. -/
inductive Restarts (f : ExceptionFrame) : Option SigAction → ExceptionFrame → Prop
  | untouched {handler : Option SigAction}
      (other : f.frameType ≠ 1 ∨
        f.regs[4] ≠ -512 ∧ f.regs[4] ≠ -513 ∧ f.regs[4] ≠ -514 ∧ f.regs[4] ≠ -516) :
      Restarts f handler f
  | again (call : f.frameType = 1)
      (code : f.regs[4] = -512 ∨ f.regs[4] = -513 ∨ f.regs[4] = -514) :
      Restarts f none { f with regs := f.regs.set 4 f.origA0, era := f.era - 4, frameType := 0 }
  | fromBlock (call : f.frameType = 1) (code : f.regs[4] = -516) :
      Restarts f none
        { f with
          regs := (f.regs.set 4 f.origA0).set 11 128
          era := f.era - 4
          frameType := 0 }
  | againAfter {act : SigAction} (call : f.frameType = 1)
      (code : f.regs[4] = -513 ∨ f.regs[4] = -512 ∧ bitOf act.flags 28 = true) :
      Restarts f (some act)
        { f with regs := f.regs.set 4 f.origA0, era := f.era - 4, frameType := 0 }
  | failed {act : SigAction} (call : f.frameType = 1)
      (code : f.regs[4] = -514 ∨ f.regs[4] = -516 ∨
        f.regs[4] = -512 ∧ bitOf act.flags 28 = false) :
      Restarts f (some act) { f with regs := f.regs.set 4 (-4), frameType := 0 }

theorem kind_eq_syscall_iff (f : ExceptionFrame) : f.kind = .syscall ↔ f.frameType = 1 := by
  unfold kind FrameKind.ofWord
  split
  · simp [*]
  · grind

/-- A call that left a code is decided by it. -/
theorem restarted_of_code {f : ExceptionFrame} (hcall : f.frameType = 1) (code : RestartCode)
    (ha : f.a0 = code.word) (handler : Option SigAction) :
    f.restarted (f.kind == .syscall) handler =
      { f.restartWith (code.decide handler) with frameType := 0 } := by
  have hkind : f.kind = .syscall := f.kind_eq_syscall_iff.2 hcall
  unfold restarted applyRestart restartCode?
  rw [if_pos hkind, ha, RestartCode.ofReturn?_word]
  simp [hkind, setKind, FrameKind.word]

theorem Restarts.eq {f g : ExceptionFrame} {handler : Option SigAction}
    (h : f.Restarts handler g) : g = f.restarted (f.kind == .syscall) handler := by
  cases h with
  | untouched other =>
    by_cases hcall : f.frameType = 1
    · have hnone : ∀ code : RestartCode, f.a0 ≠ code.word := by
        obtain ⟨hsys, hnoIntr, hnoHand, hblock⟩ := other.resolve_left (not_not_intro hcall)
        intro code
        cases code with
        | sys => exact hsys
        | noIntr => exact hnoIntr
        | noHand => exact hnoHand
        | restartBlock => exact hblock
      exact (restarted_of_no_code hnone _ handler).symm
    · have hkind : (f.kind == FrameKind.syscall) = false := by
        simpa [kind_eq_syscall_iff] using hcall
      rw [hkind]
      rfl
  | again call code =>
    rcases code with ha | ha | ha
    · exact (restarted_of_code call .sys ha none).symm
    · exact (restarted_of_code call .noIntr ha none).symm
    · exact (restarted_of_code call .noHand ha none).symm
  | fromBlock call code => exact (restarted_of_code call .restartBlock code none).symm
  | @againAfter act call code =>
    rcases code with ha | ⟨ha, hflag⟩
    · exact (restarted_of_code call .noIntr ha (some act)).symm
    · have hagain : RestartCode.sys.decide (some act) = .rewind :=
        if_pos (act.has_restart.trans hflag)
      rw [restarted_of_code call .sys ha, hagain]
      rfl
  | @failed act call code =>
    rcases code with ha | ha | ⟨ha, hflag⟩
    · exact (restarted_of_code call .noHand ha (some act)).symm
    · exact (restarted_of_code call .restartBlock ha (some act)).symm
    · have hfails : RestartCode.sys.decide (some act) = .interrupt :=
        if_neg (by rw [act.has_restart, hflag]; exact Bool.false_ne_true)
      rw [restarted_of_code call .sys ha, hfails]
      rfl

theorem exists_restarts (f : ExceptionFrame) (handler : Option SigAction) :
    ∃ g, f.Restarts handler g := by
  by_cases hcall : f.frameType = 1
  · cases hcode : RestartCode.ofReturn? f.a0 with
    | none =>
      have hnone := (RestartCode.ofReturn?_eq_none_iff f.a0).1 hcode
      exact ⟨f, .untouched (.inr ⟨hnone .sys, hnone .noIntr, hnone .noHand, hnone .restartBlock⟩)⟩
    | some code =>
      have ha : f.a0 = code.word := RestartCode.eq_of_ofReturn? hcode
      cases handler with
      | none =>
        cases code with
        | sys => exact ⟨_, .again hcall (.inl ha)⟩
        | noIntr => exact ⟨_, .again hcall (.inr (.inl ha))⟩
        | noHand => exact ⟨_, .again hcall (.inr (.inr ha))⟩
        | restartBlock => exact ⟨_, .fromBlock hcall ha⟩
      | some act =>
        cases code with
        | sys =>
          cases hflag : bitOf act.flags 28 with
          | true => exact ⟨_, .againAfter hcall (.inr ⟨ha, hflag⟩)⟩
          | false => exact ⟨_, .failed hcall (.inr (.inr ⟨ha, hflag⟩))⟩
        | noIntr => exact ⟨_, .againAfter hcall (.inl ha)⟩
        | noHand => exact ⟨_, .failed hcall (.inl ha)⟩
        | restartBlock => exact ⟨_, .failed hcall (.inr (.inl ha))⟩
  · exact ⟨f, .untouched (.inl hcall)⟩

/-- The table is what the pass does. -/
theorem restarts_iff (f : ExceptionFrame) (handler : Option SigAction) (g : ExceptionFrame) :
    f.Restarts handler g ↔ g = f.restarted (f.kind == .syscall) handler := by
  refine ⟨Restarts.eq, ?_⟩
  rintro rfl
  obtain ⟨g, h⟩ := f.exists_restarts handler
  rw [← h.eq]
  exact h

end ExceptionFrame

/-! ## Deliverable signals -/

theorem SigSet.toList_sorted (s : SigSet) : s.toList.Pairwise (· < ·) := by
  unfold toList
  rw [List.pairwise_map]
  refine ((List.pairwise_lt_range (n := 64)).filter (bitOf s.bits)).imp_of_mem ?_
  intro i j hi hj hlt
  have hi' := List.mem_range.1 (List.mem_filter.1 hi).1
  have hj' := List.mem_range.1 (List.mem_filter.1 hj).1
  rw [UInt32.lt_iff_toNat_lt, UInt32.toNat_ofNat_of_lt' (by show i + 1 < 2 ^ 32; omega),
    UInt32.toNat_ofNat_of_lt' (by show j + 1 < 2 ^ 32; omega)]
  omega

theorem SigSet.mem_toList (s : SigSet) (sig : Signal) : sig ∈ s.toList ↔ s.contains sig = true := by
  have hzero : sig = 0 ↔ sig.toNat = 0 := by rw [← UInt32.toNat_inj]; rfl
  unfold toList contains
  rw [List.mem_map, Bool.and_eq_true, bne_iff_ne, ne_eq, hzero]
  constructor
  · rintro ⟨i, hi, rfl⟩
    obtain ⟨hlt, hbit⟩ := List.mem_filter.1 hi
    rw [List.mem_range] at hlt
    rw [UInt32.toNat_ofNat_of_lt' (by show i + 1 < 2 ^ 32; omega)]
    exact ⟨Nat.succ_ne_zero i, hbit⟩
  · rintro ⟨hne, hbit⟩
    have hlt : sig.toNat - 1 < 64 := by
      apply Nat.lt_of_not_le
      intro hge
      have hclear : bitOf s.bits (sig.toNat - 1) = false := BitVec.getLsbD_of_ge _ _ hge
      rw [hclear] at hbit
      cases hbit
    refine ⟨sig.toNat - 1, List.mem_filter.2 ⟨List.mem_range.2 hlt, hbit⟩, ?_⟩
    rw [Nat.sub_add_cancel (Nat.pos_of_ne_zero hne), UInt32.ofNat_toNat]

theorem SignalState.deliverable_sorted (s : SignalState) : s.deliverable.Pairwise (· < ·) :=
  SigSet.toList_sorted _

theorem SignalState.mem_deliverable_iff (s : SignalState) (sig : Signal) :
    sig ∈ s.deliverable ↔ s.pending.contains sig = true ∧ s.blocked.contains sig = false := by
  unfold deliverable
  rw [SigSet.mem_toList, SigSet.contains_without, Bool.and_eq_true, Bool.not_eq_true']

theorem exists_split_of_sorted {l : List Signal} (hs : l.Pairwise (· < ·)) {sig : Signal}
    (h : sig ∈ l) : ∃ pre post, l = pre ++ sig :: post ∧ ∀ s ∈ pre, s < sig := by
  obtain ⟨pre, post, rfl⟩ := List.append_of_mem h
  refine ⟨pre, post, rfl, fun s hmem => ?_⟩
  exact (List.pairwise_append.1 hs).2.2 s hmem sig List.mem_cons_self

namespace Task

/-- The action of a task for a signal is to ignore it. -/
def Ignores (t : Task) (sig : Signal) : Prop :=
  (t.signals.action sig).disposition sig = .ignore

instance (t : Task) (sig : Signal) : Decidable (t.Ignores sig) :=
  inferInstanceAs (Decidable (_ = _))

/-- The signal that ends a pass: the lowest deliverable one that is not ignored. -/
structure TakesFirst (t : Task) (sig : Signal) : Prop where
  deliverable : sig ∈ t.signals.deliverable
  taken : ¬ t.Ignores sig
  lowest : ∀ s ∈ t.signals.deliverable, s < sig → t.Ignores s

/-- A pass either drops all that is deliverable, or there is a signal that ends it. -/
theorem ignores_or_takesFirst (t : Task) :
    (∀ s ∈ t.signals.deliverable, t.Ignores s) ∨ ∃ sig, t.TakesFirst sig := by
  cases hf : t.signals.deliverable.find? fun s => decide (¬ t.Ignores s) with
  | none =>
    left
    intro s hs
    have := List.find?_eq_none.1 hf s hs
    simpa using this
  | some sig =>
    right
    obtain ⟨htaken, pre, post, hsplit, hpre⟩ := List.find?_eq_some_iff_append.1 hf
    refine ⟨sig, by rw [hsplit]; simp, by simpa using htaken, ?_⟩
    intro s hs hlt
    have hsorted := t.signals.deliverable_sorted
    rw [hsplit] at hs hsorted
    -- what stands behind the signal in the list is above it
    rcases List.mem_append.1 hs with hmem | hmem
    · simpa using hpre s hmem
    · have hle : sig ≤ s := by
        rcases List.mem_cons.1 hmem with rfl | hmem
        · exact UInt32.le_refl _
        · have habove := (List.pairwise_cons.1 (List.pairwise_append.1 hsorted).2.1).1 s hmem
          exact UInt32.le_of_lt habove
      exact absurd hlt (UInt32.not_lt.2 hle)

/-- The task in which none of the signals is pending any longer. -/
def clearSignals (t : Task) (sigs : List Signal) : Task := sigs.foldl clearSignal t

/-- The task with another set of pending signals. -/
def withPending (t : Task) (pending : SigSet) : Task :=
  { t with signals := { t.signals with pending := pending } }

theorem clearSignals_eq : ∀ (sigs : List Signal) (t : Task), ∃ pending : SigSet,
    t.clearSignals sigs = t.withPending pending
  | [], t => ⟨t.signals.pending, rfl⟩
  | s :: sigs, t => by
    obtain ⟨pending, h⟩ := clearSignals_eq sigs (t.clearSignal s)
    exact ⟨pending, h⟩

end Task

/-! ## Passes -/

/-- Ignored signals in front are cleared, and the pass goes on behind them. -/
theorem takeSignals_append (hw : Hardware) (id : TaskId) (inSyscall : Bool)
    (frame : ExceptionFrame) (rest : List Signal) : ∀ (pre : List Signal) (task : Task),
    (∀ s ∈ pre, task.Ignores s) →
    takeSignals hw id task inSyscall frame (pre ++ rest) =
      takeSignals hw id (task.clearSignals pre) inSyscall frame rest
  | [], _, _ => rfl
  | s :: pre, task, h => by
    have hs : (task.signals.action s).disposition s = .ignore := h s List.mem_cons_self
    have hrest : ∀ r ∈ pre, (task.clearSignal s).Ignores r :=
      fun r hr => h r (List.mem_cons_of_mem s hr)
    rw [List.cons_append, takeSignals]
    simp only [hs]
    exact takeSignals_append hw id inSyscall frame rest pre (task.clearSignal s) hrest

theorem signalPass_ignored (hw : Hardware) (id : TaskId) {task : Task} (frame : ExceptionFrame)
    (h : ∀ s ∈ task.signals.deliverable, task.Ignores s) :
    signalPass hw id task frame =
      ⟨.resume, task.clearSignals task.signals.deliverable,
        frame.restarted (frame.kind == .syscall) none, hw⟩ := by
  have := takeSignals_append hw id (frame.kind == .syscall) frame [] task.signals.deliverable
    task h
  rw [List.append_nil] at this
  exact this

theorem SignalState.deliverable_split {s : SignalState} {sig : Signal}
    (h : sig ∈ s.deliverable) :
    ∃ post, s.deliverable = s.deliverable.filter (· < sig) ++ sig :: post := by
  have hsorted := s.deliverable_sorted
  obtain ⟨pre, post, hsplit, hpre⟩ := exists_split_of_sorted hsorted h
  rw [hsplit] at hsorted
  have habove := (List.pairwise_cons.1 (List.pairwise_append.1 hsorted).2.1).1
  have hfilter : s.deliverable.filter (· < sig) = pre := by
    rw [hsplit, List.filter_append, List.filter_eq_self.2 fun x hx => decide_eq_true (hpre x hx),
      List.filter_eq_nil_iff.2, List.append_nil]
    intro x hx
    rw [decide_eq_true_eq]
    rcases List.mem_cons.1 hx with rfl | hx
    · exact UInt32.lt_irrefl _
    · exact UInt32.not_lt.2 (UInt32.le_of_lt (habove x hx))
  exact ⟨post, by rw [hfilter]; exact hsplit⟩

/-- A pass clears what is below the signal that ends it, and takes that signal. -/
theorem signalPass_eq_takeSignals (hw : Hardware) (id : TaskId) {task : Task}
    (frame : ExceptionFrame) {sig : Signal} (h : task.TakesFirst sig) :
    signalPass hw id task frame =
      takeSignals hw id (task.clearSignals (task.signals.deliverable.filter (· < sig)))
        (frame.kind == .syscall) frame [sig] := by
  obtain ⟨post, hsplit⟩ := SignalState.deliverable_split h.deliverable
  have hign : ∀ s ∈ task.signals.deliverable.filter (· < sig), task.Ignores s := by
    intro s hs
    obtain ⟨hmem, hlt⟩ := List.mem_filter.1 hs
    exact h.lowest s hmem (of_decide_eq_true hlt)
  have hrest := takeSignals_append hw id (frame.kind == .syscall) frame (sig :: post) _ task hign
  rw [← hsplit] at hrest
  obtain ⟨pending, hclear⟩ :=
    Task.clearSignals_eq (task.signals.deliverable.filter (· < sig)) task
  unfold signalPass
  rw [hrest, hclear, takeSignals, takeSignals]
  have htaken : ¬ (task.withPending pending).Ignores sig := h.taken
  unfold Task.Ignores at htaken
  cases hd : ((task.withPending pending).signals.action sig).disposition sig with
  | ignore => exact absurd hd htaken
  | terminate | stop | handler addr => rfl

/-- Ahead of the signal that ends it, a pass changes only which signals are pending. -/
theorem signalPass_of_takesFirst (hw : Hardware) (id : TaskId) {task : Task}
    (frame : ExceptionFrame) {sig : Signal} (h : task.TakesFirst sig) : ∃ pending : SigSet,
    signalPass hw id task frame =
      takeSignals hw id (task.withPending pending) (frame.kind == .syscall) frame [sig] := by
  obtain ⟨pending, hclear⟩ :=
    Task.clearSignals_eq (task.signals.deliverable.filter (· < sig)) task
  exact ⟨pending, by rw [signalPass_eq_takeSignals hw id frame h, hclear]⟩

section

variable (hw : Hardware) (id : TaskId) {task : Task} (frame : ExceptionFrame) {sig : Signal}

theorem signalPass_of_terminate (h : task.TakesFirst sig)
    (hact : (task.signals.action sig).disposition sig = .terminate) : ∃ pending : SigSet,
    signalPass hw id task frame =
      ⟨.killed sig, (task.withPending pending).terminate sig, frame, hw.emit .reschedule⟩ := by
  obtain ⟨pending, hpass⟩ := signalPass_of_takesFirst hw id frame h
  have hact' : ((task.withPending pending).signals.action sig).disposition sig = .terminate := hact
  refine ⟨pending.remove sig, ?_⟩
  rw [hpass, takeSignals]
  simp only [hact']
  rfl

theorem signalPass_of_stop (h : task.TakesFirst sig)
    (hact : (task.signals.action sig).disposition sig = .stop) : ∃ pending : SigSet,
    signalPass hw id task frame =
      ⟨.stopped sig, (task.withPending pending).stop sig, frame, hw.emit .reschedule⟩ := by
  obtain ⟨pending, hpass⟩ := signalPass_of_takesFirst hw id frame h
  have hact' : ((task.withPending pending).signals.action sig).disposition sig = .stop := hact
  refine ⟨pending.remove sig, ?_⟩
  rw [hpass, takeSignals]
  simp only [hact']
  rfl

theorem signalPass_of_handler {handler : UInt64} (h : task.TakesFirst sig)
    (hact : (task.signals.action sig).disposition sig = .handler handler) : ∃ pending : SigSet,
    signalPass hw id task frame =
      takeHandled hw id (task.withPending pending) (frame.kind == .syscall) sig
        (task.signals.action sig) frame := by
  obtain ⟨pending, hpass⟩ := signalPass_of_takesFirst hw id frame h
  have hact' : ((task.withPending pending).signals.action sig).disposition sig =
      .handler handler := hact
  refine ⟨pending, ?_⟩
  rw [hpass, takeSignals]
  simp only [hact']
  rfl

end

theorem takeHandled_of_ok {hw hw' : Hardware} {id : TaskId} {task : Task} {inSyscall : Bool}
    {sig : Signal} {action : SigAction} {frame : ExceptionFrame} {d : Delivery}
    (h : deliver hw (task.clearSignal sig) sig (task.signals.info sig)
      (frame.restarted inSyscall (some action)) = (.ok d, hw')) :
    takeHandled hw id task inSyscall sig action frame = ⟨.delivered sig, d.task, d.frame, hw'⟩ := by
  unfold takeHandled
  simp only [h]

theorem takeHandled_of_error {hw hw' : Hardware} {id : TaskId} {task : Task} {inSyscall : Bool}
    {sig : Signal} {action : SigAction} {frame : ExceptionFrame} {e : DeliverError}
    (h : deliver hw (task.clearSignal sig) sig (task.signals.info sig)
      (frame.restarted inSyscall (some action)) = (.error e, hw')) :
    takeHandled hw id task inSyscall sig action frame =
      ⟨.killed Signal.segv, (task.clearSignal sig).terminate Signal.segv,
        frame.restarted inSyscall (some action),
        (hw'.log .error "signal" (id.name ++ ": cannot build frame for signal " ++ toString sig ++
          ": " ++ e.message)).emit .reschedule⟩ := by
  unfold takeHandled
  simp only [h, forceSegv]

/-- A handler is entered, or its frame cannot be built and the task is killed. -/
theorem outcome_takeHandled (hw : Hardware) (id : TaskId) (task : Task) (inSyscall : Bool)
    (sig : Signal) (action : SigAction) (frame : ExceptionFrame) :
    let pass := takeHandled hw id task inSyscall sig action frame
    pass.outcome = .delivered sig ∨
      pass.outcome = .killed Signal.segv ∧ pass.task.state = .killed Signal.segv := by
  intro pass
  unfold pass takeHandled
  dsimp only
  split
  · exact .inl rfl
  · exact .inr ⟨rfl, rfl⟩

theorem takeHandled_delivered {hw : Hardware} {id : TaskId} {task : Task} {inSyscall : Bool}
    {sig taken : Signal} {action : SigAction} {frame : ExceptionFrame}
    (h : (takeHandled hw id task inSyscall sig action frame).outcome = .delivered taken) :
    ∃ d : Delivery,
      deliver hw (task.clearSignal sig) sig (task.signals.info sig)
          (frame.restarted inSyscall (some action)) =
        (.ok d, (takeHandled hw id task inSyscall sig action frame).hw) ∧
      (takeHandled hw id task inSyscall sig action frame).frame = d.frame := by
  unfold takeHandled at h ⊢
  cases hd : deliver hw (task.clearSignal sig) sig (task.signals.info sig)
    (frame.restarted inSyscall (some action)) with
  | mk result hw' =>
    simp only [hd] at h ⊢
    cases result with
    | error e => cases h
    | ok d => exact ⟨d, rfl, rfl⟩

/-- The frame is built for the lowest signal that is not ignored, on the stack and with the action
that the task has for it. -/
theorem signalPass_delivered {hw : Hardware} {id : TaskId} {task : Task} {frame : ExceptionFrame}
    {sig : Signal} {handler : UInt64} (hmem : sig ∈ task.signals.deliverable)
    (hlow : ∀ s ∈ task.signals.deliverable, s < sig → task.Ignores s)
    (hact : (task.signals.action sig).disposition sig = .handler handler)
    (hout : (signalPass hw id task frame).outcome = .delivered sig) :
    ∃ (taken : Task) (d : Delivery), taken.signals.altstack = task.signals.altstack ∧
      taken.signals.actions = task.signals.actions ∧
      deliver hw taken sig (task.signals.info sig)
          (frame.restarted (frame.kind == .syscall) (some (task.signals.action sig))) =
        (.ok d, (signalPass hw id task frame).hw) ∧
      (signalPass hw id task frame).frame = d.frame := by
  have htaken : ¬ task.Ignores sig := by
    unfold Task.Ignores
    rw [hact]
    exact nofun
  obtain ⟨pending, hpass⟩ := signalPass_of_handler hw id frame ⟨hmem, htaken, hlow⟩ hact
  rw [hpass] at hout ⊢
  obtain ⟨d, hd, hframe⟩ := takeHandled_delivered hout
  exact ⟨(task.withPending pending).clearSignal sig, d, rfl, rfl, hd, hframe⟩

/-! ## How passes end -/

/-- All that a pass can come to: every signal is ignored, or one is terminal or has a handler. -/
inductive Pass.Ends (hw : Hardware) (id : TaskId) (task : Task) (inSyscall : Bool)
    (frame : ExceptionFrame) : Pass → Prop
  | ignored : Ends hw id task inSyscall frame
    ⟨.resume, task, frame.restarted inSyscall none, hw⟩
  | killed (sig : Signal) : Ends hw id task inSyscall frame
    ⟨.killed sig, task.terminate sig, frame, hw.emit .reschedule⟩
  | stopped (sig : Signal) : Ends hw id task inSyscall frame
    ⟨.stopped sig, task.stop sig, frame, hw.emit .reschedule⟩
  | handled (sig : Signal) (action : SigAction) : Ends hw id task inSyscall frame
    (takeHandled hw id task inSyscall sig action frame)

/-- Ahead of its end a pass changes only which signals are pending. -/
theorem signalPass_ends (hw : Hardware) (id : TaskId) (task : Task) (frame : ExceptionFrame) :
    ∃ pending : SigSet, (signalPass hw id task frame).Ends hw id (task.withPending pending)
      (frame.kind == .syscall) frame := by
  rcases task.ignores_or_takesFirst with hall | ⟨sig, hfirst⟩
  · obtain ⟨pending, hclear⟩ := Task.clearSignals_eq task.signals.deliverable task
    rw [signalPass_ignored hw id frame hall, hclear]
    exact ⟨pending, .ignored⟩
  · cases hd : (task.signals.action sig).disposition sig with
    | ignore => exact absurd hd hfirst.taken
    | terminate =>
      obtain ⟨pending, hpass⟩ := signalPass_of_terminate hw id frame hfirst hd
      exact ⟨pending, hpass ▸ .killed sig⟩
    | stop =>
      obtain ⟨pending, hpass⟩ := signalPass_of_stop hw id frame hfirst hd
      exact ⟨pending, hpass ▸ .stopped sig⟩
    | handler addr =>
      obtain ⟨pending, hpass⟩ := signalPass_of_handler hw id frame hfirst hd
      exact ⟨pending, hpass ▸ .handled sig _⟩

section

variable (hw : Hardware) (id : TaskId) {task : Task} (frame : ExceptionFrame) {sig : Signal}

theorem outcome_of_takesFirst (h : task.TakesFirst sig) :
    let outcome := (signalPass hw id task frame).outcome
    match (task.signals.action sig).disposition sig with
    | .ignore => False
    | .terminate => outcome = .killed sig
    | .stop => outcome = .stopped sig
    | .handler _ => outcome = .delivered sig ∨ outcome = .killed Signal.segv := by
  intro outcome
  unfold outcome
  cases hd : (task.signals.action sig).disposition sig with
  | ignore => exact h.taken hd
  | terminate =>
    obtain ⟨pending, hpass⟩ := signalPass_of_terminate hw id frame h hd
    rw [hpass]
  | stop =>
    obtain ⟨pending, hpass⟩ := signalPass_of_stop hw id frame h hd
    rw [hpass]
  | handler addr =>
    obtain ⟨pending, hpass⟩ := signalPass_of_handler hw id frame h hd
    rw [hpass]
    exact (outcome_takeHandled hw id _ _ sig _ frame).imp_right And.left

theorem outcome_eq_resume_iff :
    (signalPass hw id task frame).outcome = .resume ↔
      ∀ s ∈ task.signals.deliverable, task.Ignores s := by
  constructor
  · intro hout
    rcases task.ignores_or_takesFirst with hall | ⟨sig, hfirst⟩
    · exact hall
    · have hends := outcome_of_takesFirst hw id frame hfirst
      cases hd : (task.signals.action sig).disposition sig <;> simp [hd, hout] at hends
  · intro hall
    rw [signalPass_ignored hw id frame hall]

theorem outcome_eq_stopped_iff :
    (signalPass hw id task frame).outcome = .stopped sig ↔
      task.TakesFirst sig ∧ (task.signals.action sig).disposition sig = .stop := by
  constructor
  · intro hout
    rcases task.ignores_or_takesFirst with hall | ⟨s, hfirst⟩
    · rw [signalPass_ignored hw id frame hall] at hout
      cases hout
    · have hends := outcome_of_takesFirst hw id frame hfirst
      cases hd : (task.signals.action s).disposition s with
      | stop =>
        simp only [hd, hout, PassOutcome.stopped.injEq] at hends
        rw [hends]
        exact ⟨hfirst, hd⟩
      | ignore | terminate | handler addr => simp [hd, hout] at hends
  · rintro ⟨hfirst, hstop⟩
    obtain ⟨pending, hpass⟩ := signalPass_of_stop hw id frame hfirst hstop
    rw [hpass]

end

/-! ## Idle passes -/

/-- `n` passes, one after the other. -/
def signalPasses (hw : Hardware) (id : TaskId) (task : Task) (frame : ExceptionFrame) : Nat → Pass
  | 0 => ⟨.resume, task, frame, hw⟩
  | n + 1 =>
    let p := signalPass hw id task frame
    signalPasses p.hw id p.task p.frame n

theorem signalPass_idle (hw : Hardware) (id : TaskId) {task : Task} {frame : ExceptionFrame}
    (hk : frame.kind ≠ .syscall) (h : task.signals.deliverable = []) :
    signalPass hw id task frame = ⟨.resume, task, frame, hw⟩ := by
  have hb : (frame.kind == FrameKind.syscall) = false := by simpa using hk
  unfold signalPass
  rw [h, takeSignals, hb]
  rfl

theorem signalPasses_idle (hw : Hardware) (id : TaskId) {task : Task} {frame : ExceptionFrame}
    (hk : frame.kind ≠ .syscall) (h : task.signals.deliverable = []) (n : Nat) :
    signalPasses hw id task frame n = ⟨.resume, task, frame, hw⟩ := by
  induction n with
  | zero => rfl
  | succ n ih =>
    rw [signalPasses, signalPass_idle hw id hk h]
    exact ih

/-- Passes with nothing to deliver leave the frame and everything else alone, however many. -/
def ExceptionFrame.Settled (f : ExceptionFrame) : Prop :=
  ∀ (hw : Hardware) (id : TaskId) (task : Task), task.signals.deliverable = [] →
    ∀ n, signalPasses hw id task f n = ⟨.resume, task, f, hw⟩

theorem ExceptionFrame.settled_of_kind {f : ExceptionFrame} (hk : f.kind ≠ .syscall) :
    f.Settled := fun hw id _ h n => signalPasses_idle hw id hk h n

end TrapLayer
