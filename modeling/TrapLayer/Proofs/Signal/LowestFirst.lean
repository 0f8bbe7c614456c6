import TrapLayer.Proofs.Signal.Pending

/-!
# A pass, said without its loop

The loop of a pass asks for the lowest deliverable signal over and over, and each of its exits
leaves the task, the frame and the hardware in another way. `Pass.Specified` says once what a pass
comes to, by the lowest signal that is not ignored and by the tables of dispositions and restarts;
the loop gives that and nothing else, in as many rounds as there are deliverable signals at most.

* `Pass.EndsAt`: how a signal that is taken ends a pass.
* `PassRounds`: the loop of a pass, round by round.
* `passRounds_iff`: it ends, and with the pass.
* `Pass.specified_iff`: so does the specification.
* `shows_deliver`: what a delivery does, besides reads, saves and flushes, is the writes of its
  frame.
* `signalPass_exact`: the pass equals its specification, and what follows for the signals left
  pending, the switches asked for and the frames written.
-/
namespace TrapLayer

/-! ## Open signals -/

theorem SigSet.ext {s t : SigSet} (h : ∀ x, s.contains x = t.contains x) : s = t := by
  obtain ⟨s⟩ := s
  obtain ⟨t⟩ := t
  refine congrArg SigSet.mk (eq_of_bitOf fun i => ?_)
  by_cases hi : i < 64
  · have hnum : (UInt32.ofNat (i + 1)).toNat = i + 1 :=
      UInt32.toNat_ofNat_of_lt' (by show i + 1 < 2 ^ 32; omega)
    have hne : UInt32.ofNat (i + 1) ≠ 0 := by
      intro h0
      rw [h0] at hnum
      exact Nat.succ_ne_zero i hnum.symm
    have hx := h (UInt32.ofNat (i + 1))
    unfold contains at hx
    rw [hnum, bne_iff_ne.2 hne, Bool.true_and, Bool.true_and, Nat.add_sub_cancel] at hx
    exact hx
  · have hclear : ∀ w : UInt64, bitOf w i = false := fun w =>
      BitVec.getLsbD_of_ge _ _ (Nat.le_of_not_lt hi)
    rw [hclear, hclear]

theorem SignalState.length_deliverable_le (s : SignalState) : s.deliverable.length ≤ 64 := by
  unfold deliverable SigSet.toList
  rw [List.length_map]
  exact Nat.le_trans (List.length_filter_le _ _) (Nat.le_of_eq List.length_range)

namespace Task

/-- A signal that is pending and not blocked. -/
def Open (t : Task) (sig : Signal) : Prop :=
  t.signals.pending.contains sig = true ∧ t.signals.blocked.contains sig = false

/-- The lowest signal that is pending and not blocked. -/
structure Lowest (t : Task) (sig : Signal) : Prop where
  isOpen : t.Open sig
  least : ∀ s, t.Open s → sig ≤ s

/-- The lowest of them that is not ignored, and what becomes of it. -/
structure Decides (t : Task) (sig : Signal) (d : Disposition) : Prop where
  isOpen : t.Open sig
  disposes : (t.signals.action sig).Disposes sig d
  taken : d ≠ .ignore
  least : ∀ s, t.Open s → s < sig → (t.signals.action s).Disposes s .ignore

/-- `rest` is what is pending once the open signals that `removed` picks are taken. -/
def Leaves (t : Task) (removed : Signal → Prop) (rest : SigSet) : Prop :=
  ∀ x, rest.contains x = true ↔ t.signals.pending.contains x = true ∧ ¬ (t.Open x ∧ removed x)

variable {t : Task} {sig : Signal} {d : Disposition}

theorem open_iff : t.Open sig ↔ sig ∈ t.signals.deliverable :=
  (t.signals.mem_deliverable_iff sig).symm

theorem decides_iff :
    t.Decides sig d ↔ t.TakesFirst sig ∧ (t.signals.action sig).disposition sig = d := by
  constructor
  · intro h
    have hd := h.disposes.eq
    refine ⟨⟨open_iff.1 h.isOpen, ?_, fun s hs hlt => ?_⟩, hd⟩
    · exact fun hign => h.taken (hd.symm.trans hign)
    · exact (h.least s (open_iff.2 hs) hlt).eq
  · intro ⟨hfirst, hd⟩
    refine ⟨open_iff.2 hfirst.deliverable, (SigAction.disposes_iff _ _ _).2 hd, ?_, ?_⟩
    · exact fun hign => hfirst.taken (hd.trans hign)
    · exact fun s hs hlt =>
        (SigAction.disposes_iff _ _ _).2 (hfirst.lowest s (open_iff.1 hs) hlt)

theorem TakesFirst.unique {s s' : Signal} (h : t.TakesFirst s) (h' : t.TakesFirst s') :
    s = s' := by
  refine UInt32.le_antisymm (UInt32.not_lt.1 fun hlt => ?_) (UInt32.not_lt.1 fun hlt => ?_)
  · exact h'.taken (h.lowest s' h'.deliverable hlt)
  · exact h.taken (h'.lowest s h.deliverable hlt)

theorem lowest_iff : t.Lowest sig ↔ t.signals.nextDeliverable? = some sig := by
  have hsorted := t.signals.deliverable_sorted
  have hnext : t.signals.nextDeliverable? = t.signals.deliverable.head? := SigSet.first?_eq _
  rw [hnext]
  cases hlist : t.signals.deliverable with
  | nil =>
    have hnone : ¬ t.Lowest sig := fun h => by simpa [hlist] using open_iff.1 h.isOpen
    simpa using hnone
  | cons s rest =>
    rw [hlist] at hsorted
    have hs : t.Open s := open_iff.2 (by simp [hlist])
    have habove : ∀ x, t.Open x → s ≤ x := by
      intro x hx
      have hmem := open_iff.1 hx
      rw [hlist] at hmem
      rcases List.mem_cons.1 hmem with rfl | hmem
      · exact UInt32.le_refl _
      · exact UInt32.le_of_lt ((List.pairwise_cons.1 hsorted).1 x hmem)
    simp only [List.head?_cons, Option.some.injEq]
    constructor
    · exact fun h => UInt32.le_antisymm (habove sig h.isOpen) (h.least s hs)
    · intro h
      exact h ▸ ⟨hs, habove⟩

theorem Leaves.unique {removed : Signal → Prop} {r r' : SigSet} (h : t.Leaves removed r)
    (h' : t.Leaves removed r') : r = r' :=
  SigSet.ext fun x => Bool.eq_iff_iff.2 ((h x).trans (h' x).symm)

theorem leaves_remove (h : t.Open sig) :
    t.Leaves (· = sig) (t.signals.pending.remove sig) := by
  intro x
  rw [SigSet.contains_remove_iff]
  refine and_congr_right fun _ => not_congr ⟨?_, And.right⟩
  exact fun heq => ⟨heq ▸ h, heq⟩

theorem contains_clearSignals : ∀ (sigs : List Signal) (t : Task) (x : Signal),
    (t.clearSignals sigs).signals.pending.contains x = true ↔
      t.signals.pending.contains x = true ∧ x ∉ sigs
  | [], t, x => by simp [clearSignals]
  | s :: sigs, t, x => by
    have hrest := contains_clearSignals sigs (t.clearSignal s) x
    have hone : (t.clearSignal s).signals.pending.contains x = true ↔
        t.signals.pending.contains x = true ∧ x ≠ s := SigSet.contains_remove_iff _ _ _
    show ((t.clearSignal s).clearSignals sigs).signals.pending.contains x = true ↔ _
    rw [hrest, hone, List.mem_cons, not_or, and_assoc]

theorem clearSignals_eq_withPending (t : Task) (sigs : List Signal) :
    t.clearSignals sigs = t.withPending (t.clearSignals sigs).signals.pending := by
  obtain ⟨pending, h⟩ := clearSignals_eq sigs t
  rw [h]
  rfl

/-- Clearing all that is deliverable, as one step. -/
theorem exists_leaves_all (t : Task) : ∃ rest, t.Leaves (fun _ => True) rest ∧
    t.clearSignals t.signals.deliverable = t.withPending rest := by
  refine ⟨_, fun x => ?_, t.clearSignals_eq_withPending _⟩
  rw [contains_clearSignals, and_true, open_iff]

/-- Clearing what is below a deliverable signal, and the signal, as one step. -/
theorem exists_leaves_le (t : Task) {sig : Signal} (h : sig ∈ t.signals.deliverable) :
    ∃ rest, t.Leaves (· ≤ sig) rest ∧
      (t.clearSignals (t.signals.deliverable.filter (· < sig))).clearSignal sig =
        t.withPending rest := by
  generalize hbelow : t.signals.deliverable.filter (· < sig) = below
  have hmem : ∀ x, x ∈ below ↔ x ∈ t.signals.deliverable ∧ x < sig := by
    intro x
    rw [← hbelow, List.mem_filter, decide_eq_true_eq]
  refine ⟨(t.clearSignals below).signals.pending.remove sig, fun x => ?_, ?_⟩
  · rw [SigSet.contains_remove_iff, contains_clearSignals, hmem, and_assoc, open_iff]
    refine and_congr_right fun _ => ?_
    rw [← not_or]
    refine not_congr ⟨?_, fun ⟨hx, hle⟩ => ?_⟩
    · rintro (⟨hx, hlt⟩ | rfl)
      · exact ⟨hx, UInt32.le_of_lt hlt⟩
      · exact ⟨h, UInt32.le_refl _⟩
    · rcases UInt32.lt_or_eq_of_le hle with hlt | heq
      · exact .inl ⟨hx, hlt⟩
      · exact .inr heq
  · rw [t.clearSignals_eq_withPending]
    rfl

end Task

/-! ## The end of a pass -/

/-- How a signal that is taken ends the pass over a task, in which it is pending no longer. It
terminates the task or stops it; or the restart is decided with its action and a frame is built, and
without that frame the task is killed. -/
inductive Pass.EndsAt (hw : Hardware) (id : TaskId) (task : Task) (frame : ExceptionFrame)
    (sig : Signal) : Disposition → Pass → Prop
  | killed : EndsAt hw id task frame sig .terminate
      ⟨.killed sig, { task with state := .killed sig }, frame, hw.emit .reschedule⟩
  | stopped : EndsAt hw id task frame sig .stop
      ⟨.stopped sig, { task with state := .stopped sig }, frame, hw.emit .reschedule⟩
  | delivered {handler : UInt64} {g : ExceptionFrame} {d : Delivery} {hw' : Hardware}
      (restart : frame.Restarts (some (task.signals.action sig)) g)
      (built : deliver hw task sig (task.signals.info sig) g = (.ok d, hw')) :
      EndsAt hw id task frame sig (.handler handler) ⟨.delivered sig, d.task, d.frame, hw'⟩
  | refused {handler : UInt64} {g : ExceptionFrame} {e : DeliverError} {hw' : Hardware}
      (restart : frame.Restarts (some (task.signals.action sig)) g)
      (refused : deliver hw task sig (task.signals.info sig) g = (.error e, hw')) :
      EndsAt hw id task frame sig (.handler handler)
        ⟨.killed 11, { task with state := .killed 11 }, g,
          (hw'.emit (.logged ⟨.error, "signal", id.name ++ ": cannot build frame for signal " ++
            toString sig ++ ": " ++ e.message⟩)).emit .reschedule⟩

/-- The loop of a pass over a task, with the number of signals it takes. It asks for the lowest open
signal; an ignored one is dropped, and any other ends the loop. -/
inductive PassRounds (hw : Hardware) (id : TaskId) (frame : ExceptionFrame) :
    Nat → Task → Pass → Prop
  | none {task : Task} {g : ExceptionFrame} (idle : ∀ s, ¬ task.Open s)
      (restart : frame.Restarts none g) :
      PassRounds hw id frame 0 task ⟨.resume, task, g, hw⟩
  | ignored {task : Task} {sig : Signal} {rest : SigSet} {n : Nat} {p : Pass}
      (lowest : task.Lowest sig) (disposes : (task.signals.action sig).Disposes sig .ignore)
      (leaves : task.Leaves (· = sig) rest)
      (later : PassRounds hw id frame n (task.withPending rest) p) :
      PassRounds hw id frame (n + 1) task p
  | ended {task : Task} {sig : Signal} {d : Disposition} {rest : SigSet} {p : Pass}
      (lowest : task.Lowest sig) (disposes : (task.signals.action sig).Disposes sig d)
      (leaves : task.Leaves (· = sig) rest)
      (ends : p.EndsAt hw id (task.withPending rest) frame sig d) :
      PassRounds hw id frame 1 task p

/-- What a pass comes to. With every open signal ignored, all of them are dropped, a restart is
decided without a handler, and nothing else changes in the frame. Else the lowest one that is not
ignored is taken, and those below it with it, and it ends the pass. -/
inductive Pass.Specified (hw : Hardware) (id : TaskId) (task : Task) (frame : ExceptionFrame) :
    Pass → Prop
  | resumed {rest : SigSet} {g : ExceptionFrame}
      (ignored : ∀ s, task.Open s → (task.signals.action s).Disposes s .ignore)
      (leaves : task.Leaves (fun _ => True) rest) (restart : frame.Restarts none g) :
      Specified hw id task frame ⟨.resume, task.withPending rest, g, hw⟩
  | ended {sig : Signal} {d : Disposition} {rest : SigSet} {p : Pass}
      (decides : task.Decides sig d) (leaves : task.Leaves (· ≤ sig) rest)
      (ends : p.EndsAt hw id (task.withPending rest) frame sig d) :
      Specified hw id task frame p

section

variable {hw : Hardware} {id : TaskId} {task : Task} {frame : ExceptionFrame} {sig : Signal}
  {d : Disposition} {p : Pass}

/-- A signal that is taken ends a pass in one way. -/
theorem Pass.EndsAt.eq (h : p.EndsAt hw id (task.clearSignal sig) frame sig d)
    (hd : (task.signals.action sig).disposition sig = d) :
    p = takeSignals hw id task (frame.kind == .syscall) frame [sig] := by
  rw [takeSignals]
  cases h with
  | killed | stopped =>
    simp only [hd]
    rfl
  | delivered restart built =>
    obtain rfl := restart.eq
    simp only [hd]
    exact (takeHandled_of_ok built).symm
  | refused restart refused =>
    obtain rfl := restart.eq
    simp only [hd]
    exact (takeHandled_of_error refused).symm

theorem Pass.exists_endsAt (hw : Hardware) (id : TaskId) (task : Task) (frame : ExceptionFrame)
    (sig : Signal) (hd : d ≠ .ignore) : ∃ p : Pass, p.EndsAt hw id task frame sig d := by
  cases d with
  | ignore => exact absurd rfl hd
  | terminate => exact ⟨_, .killed⟩
  | stop => exact ⟨_, .stopped⟩
  | handler addr =>
    have hg := (frame.restarts_iff (some (task.signals.action sig)) _).2 rfl
    cases hr : deliver hw task sig (task.signals.info sig)
      (frame.restarted (frame.kind == .syscall) (some (task.signals.action sig))) with
    | mk result hw' =>
      cases result with
      | ok d => exact ⟨_, .delivered hg hr⟩
      | error e => exact ⟨_, .refused hg hr⟩

/-! ## Rounds -/

/-- The lowest open signal, if it is not ignored, is all that a pass takes. -/
theorem signalPass_of_lowest (hw : Hardware) (id : TaskId) (frame : ExceptionFrame)
    (h : task.Lowest sig) (htaken : ¬ task.Ignores sig) :
    signalPass hw id task frame =
      takeSignals hw id task (frame.kind == .syscall) frame [sig] := by
  have hleast : ∀ s ∈ task.signals.deliverable, ¬ s < sig := fun s hs =>
    UInt32.not_lt.2 (h.least s (Task.open_iff.2 hs))
  have hfirst : task.TakesFirst sig :=
    ⟨Task.open_iff.1 h.isOpen, htaken, fun s hs hlt => absurd hlt (hleast s hs)⟩
  have hbelow : task.signals.deliverable.filter (· < sig) = [] := by
    simpa using hleast
  rw [signalPass_eq_takeSignals hw id frame hfirst, hbelow]
  rfl

/-- However many rounds the loop takes, it ends with the pass. -/
theorem PassRounds.eq {n : Nat} (h : PassRounds hw id frame n task p) :
    p = signalPass hw id task frame := by
  induction h with
  | none idle restart =>
    rename_i task g
    have hnone : task.signals.deliverable = [] :=
      List.eq_nil_iff_forall_not_mem.2 fun s hs => idle s (Task.open_iff.2 hs)
    unfold signalPass
    rw [restart.eq, hnone]
    rfl
  | ignored lowest disposes leaves later ih =>
    rename_i task sig rest n p
    obtain rfl := leaves.unique (Task.leaves_remove lowest.isOpen)
    rw [ih, signalPass_eq_next hw id task frame, Task.lowest_iff.1 lowest]
    simp only [disposes.eq]
    rfl
  | ended lowest disposes leaves ends =>
    rename_i task sig d rest p
    obtain rfl := leaves.unique (Task.leaves_remove lowest.isOpen)
    have htaken : ¬ task.Ignores sig := by
      intro hign
      obtain rfl := disposes.eq.symm.trans hign
      cases ends
    rw [signalPass_of_lowest hw id frame lowest htaken]
    exact ends.eq disposes.eq

/-- The loop takes each deliverable signal once at most: what it takes is deliverable no longer. -/
theorem passRounds_signalPass (hw : Hardware) (id : TaskId) (frame : ExceptionFrame)
    (task : Task) :
    ∃ n ≤ task.signals.deliverable.length,
      PassRounds hw id frame n task (signalPass hw id task frame) := by
  generalize hlist : task.signals.deliverable = sigs
  induction sigs generalizing task with
  | nil =>
    have hidle : ∀ s, ¬ task.Open s := fun s hs => by simpa [hlist] using Task.open_iff.1 hs
    have hround : PassRounds hw id frame 0 task ⟨.resume, task, _, hw⟩ :=
      .none hidle ((frame.restarts_iff none _).2 rfl)
    rw [hround.eq] at hround
    exact ⟨0, Nat.le_refl 0, hround⟩
  | cons sig rest ih =>
    have hnext : task.signals.nextDeliverable? = some sig := by
      rw [SignalState.nextDeliverable?, SigSet.first?_eq]
      exact congrArg List.head? hlist
    have hlow := Task.lowest_iff.2 hnext
    have hleaves := Task.leaves_remove hlow.isOpen
    have hdisposes := (task.signals.action sig).disposes_disposition sig
    by_cases hign : task.Ignores sig
    · obtain ⟨n, hn, hlater⟩ := ih (task.clearSignal sig) (SignalState.deliverable_cons hlist)
      have hround := PassRounds.ignored hlow (hign ▸ hdisposes) hleaves hlater
      rw [hround.eq] at hround
      exact ⟨n + 1, Nat.succ_le_succ hn, hround⟩
    · obtain ⟨p, hp⟩ := Pass.exists_endsAt hw id
        (task.withPending (task.signals.pending.remove sig)) frame sig hign
      have hround := PassRounds.ended hlow hdisposes hleaves hp
      rw [hround.eq] at hround
      exact ⟨1, Nat.le_add_left 1 _, hround⟩

/-- The loop ends within 64 rounds, and with the pass. -/
theorem passRounds_iff (task : Task) (p : Pass) :
    (∃ n ≤ 64, PassRounds hw id frame n task p) ↔ p = signalPass hw id task frame := by
  constructor
  · rintro ⟨n, -, h⟩
    exact h.eq
  · rintro rfl
    obtain ⟨n, hn, h⟩ := passRounds_signalPass hw id frame task
    exact ⟨n, Nat.le_trans hn task.signals.length_deliverable_le, h⟩

/-! ## Without the loop -/

/-- The last round of a pass: what is below the signal is cleared, and the signal is taken. -/
theorem signalPass_of_leaves (hw : Hardware) (id : TaskId) (frame : ExceptionFrame)
    {rest : SigSet} (h : task.TakesFirst sig) (hl : task.Leaves (· ≤ sig) rest) :
    ∃ before : Task, before.clearSignal sig = task.withPending rest ∧
      before.signals.action sig = task.signals.action sig ∧
      signalPass hw id task frame =
        takeSignals hw id before (frame.kind == .syscall) frame [sig] := by
  obtain ⟨rest', hl', hclear⟩ := task.exists_leaves_le h.deliverable
  refine ⟨_, hl'.unique hl ▸ hclear, ?_, signalPass_eq_takeSignals hw id frame h⟩
  rw [task.clearSignals_eq_withPending]
  rfl

/-- The specification leaves a pass no choice. -/
theorem Pass.Specified.eq (h : p.Specified hw id task frame) :
    p = signalPass hw id task frame := by
  cases h with
  | resumed ignored leaves restart =>
    have hign : ∀ s ∈ task.signals.deliverable, task.Ignores s := fun s hs =>
      (ignored s (Task.open_iff.2 hs)).eq
    obtain ⟨rest', hl, hclear⟩ := task.exists_leaves_all
    rw [signalPass_ignored hw id frame hign, hclear, hl.unique leaves, restart.eq]
  | ended decides leaves ends =>
    obtain ⟨hfirst, hd⟩ := Task.decides_iff.1 decides
    obtain ⟨before, hclear, hact, hpass⟩ := signalPass_of_leaves hw id frame hfirst leaves
    rw [← hclear] at ends
    rw [hpass]
    exact ends.eq (hact.symm ▸ hd)

theorem Pass.exists_specified (hw : Hardware) (id : TaskId) (task : Task)
    (frame : ExceptionFrame) : ∃ p : Pass, p.Specified hw id task frame := by
  rcases task.ignores_or_takesFirst with hall | ⟨sig, hfirst⟩
  · obtain ⟨rest, hl, -⟩ := task.exists_leaves_all
    refine ⟨_, .resumed (fun s hs => ?_) hl ((frame.restarts_iff none _).2 rfl)⟩
    exact (SigAction.disposes_iff _ _ _).2 (hall s (Task.open_iff.1 hs))
  · obtain ⟨rest, hl, -⟩ := task.exists_leaves_le hfirst.deliverable
    have hdecides := Task.decides_iff.2 ⟨hfirst, rfl⟩
    obtain ⟨p, hp⟩ := exists_endsAt hw id (task.withPending rest) frame sig hdecides.taken
    exact ⟨p, .ended hdecides hl hp⟩

theorem Pass.specified_iff (hw : Hardware) (id : TaskId) (task : Task) (frame : ExceptionFrame)
    (p : Pass) : p.Specified hw id task frame ↔ p = signalPass hw id task frame := by
  refine ⟨fun h => h.eq, ?_⟩
  rintro rfl
  obtain ⟨p, h⟩ := Pass.exists_specified hw id task frame
  rw [← h.eq]
  exact h

end

/-! ## Signals left pending -/

theorem contains_pending_deliver {hw hw' : Hardware} {task : Task} {sig : Signal} {info : SigInfo}
    {frame : ExceptionFrame} {d : Delivery}
    (h : deliver hw task sig info frame = (.ok d, hw')) (x : Signal) :
    d.task.signals.pending.contains x = true ↔ task.signals.pending.contains x = true := by
  have hnone : ¬ SentUntaken [] x := not_since (by simp)
  have hpending := (leads_deliver h).pending x
  rwa [or_iff_right hnone, and_iff_left (by simp)] at hpending

section

variable {hw : Hardware} {id : TaskId} {task : Task} {frame : ExceptionFrame} {sig : Signal}
  {d : Disposition} {p : Pass}

theorem Pass.EndsAt.pending (h : p.EndsAt hw id task frame sig d) (x : Signal) :
    p.task.signals.pending.contains x = true ↔ task.signals.pending.contains x = true := by
  cases h with
  | killed | stopped | refused => exact Iff.rfl
  | delivered _ built => exact contains_pending_deliver built x

/-- A pass takes the open signals that are not above the one it ends with. -/
theorem Pass.Specified.pending (h : p.Specified hw id task frame) (x : Signal) :
    p.task.signals.pending.contains x = true ↔ task.signals.pending.contains x = true ∧
      ¬ (task.Open x ∧ ∀ sig d, task.Decides sig d → x ≤ sig) := by
  cases h with
  | resumed ignored leaves _ =>
    refine (leaves x).trans (and_congr_right fun _ => not_congr (and_congr_right fun _ => ?_))
    refine ⟨fun _ s d hs => ?_, fun _ => trivial⟩
    exact absurd (hs.disposes.eq.symm.trans (ignored s hs.isOpen).eq) hs.taken
  | @ended sig d rest _ decides leaves ends =>
    refine (ends.pending x).trans ((leaves x).trans ?_)
    refine and_congr_right fun _ => not_congr (and_congr_right fun _ => ⟨fun hle s d hs => ?_, ?_⟩)
    · exact (Task.decides_iff.1 hs).1.unique (Task.decides_iff.1 decides).1 ▸ hle
    · exact fun hall => hall sig d decides

end

/-! ## What a pass does -/

/-- User memory was written. -/
def Effect.isUserWrite : Effect → Bool
  | .userWrite .. => true
  | _ => false

/-- The scheduler was asked for a switch. -/
def Effect.isReschedule : Effect → Bool
  | .reschedule => true
  | _ => false

namespace DeliveryPlan

/-- The writes of one signal frame: the image, and behind it the blocks of the chain. -/
def frameWrites (p : DeliveryPlan) (image : SigFrame) (records : List Record) : List Effect :=
  .userWrite p.addr image.toBytes :: p.layout.blocks.map (ChainLayout.writeEffect records)

theorem exists_of_mem {p : DeliveryPlan} {image : SigFrame} {records : List Record} {e : Effect}
    (h : e ∈ p.frameWrites image records) : ∃ addr bytes, e = .userWrite addr bytes := by
  rcases List.mem_cons.1 h with rfl | h
  · exact ⟨_, _, rfl⟩
  · obtain ⟨b, -, rfl⟩ := List.mem_map.1 h
    exact ⟨_, _, rfl⟩

/-- The frame of a handler that is entered from `g`: its plan, its image, the records behind it, and
the frame in which the handler starts. -/
structure Starts (p : DeliveryPlan) (hw : Hardware) (task : Task) (sig : Signal)
    (g : ExceptionFrame) (image : SigFrame) (records : List Record) (entered : ExceptionFrame) :
    Prop where
  action : p.action = task.signals.action sig
  handler : p.handler = (task.signals.action sig).handler
  top : signalStackTop task.signals.altstack p.action.flags g.sp = some p.top
  kinds : p.kinds = recordKinds hw.features g.euen task.switch.fpu
  image : image =
    { info := task.signals.info sig
      ucFlags := 0
      ucLink := 0
      stack :=
        { task.signals.altstack with
          flags := if task.signals.altstack.contains g.sp then 1 else task.signals.altstack.flags }
      mask := task.signals.blocked
      context := ⟨g.era, g.regs, if p.kinds.any RecordKind.isBank then 1 else 0⟩ }
  records : records = p.kinds.map fun k => .capture k (k.source g.euen hw.fp task.switch.fpu)
  /-- The frame differs in its registers and in the address of the handler. -/
  resumes : entered = { g with regs := entered.regs, era := p.handler }
  /-- The handler runs on the signal frame, and by register 1 it returns to the restorer of flag 26
  or to the code at the start of the frame. -/
  back : entered.regs[1]? = some
    (if bitOf p.action.flags 26 && p.action.restorer != 0 then p.action.restorer else p.addr)
  stack : entered.regs[3]? = some p.addr
  /-- Its three arguments are the number of the signal and the addresses of the information and of
  the context. -/
  number : entered.regs[4]? = some sig.toUInt64
  info : entered.regs[5]? = some (p.addr + 16)
  context : entered.regs[6]? = some (p.addr + 144)
  kept : ∀ i, i ∉ [1, 3, 4, 5, 6] → entered.regs[i]? = g.regs[i]?

theorem getElem?_enterHandler (p : DeliveryPlan) (sig : Signal) (g : ExceptionFrame) (i : Nat) :
    (enterHandler p sig g).regs[i]? =
      if i = 1 then
        some (if bitOf p.action.flags 26 && p.action.restorer != 0 then p.action.restorer
          else p.addr)
      else if i = 6 then some (p.addr + 144)
      else if i = 5 then some (p.addr + 16)
      else if i = 4 then some sig.toUInt64
      else if i = 3 then some p.addr
      else g.regs[i]? := by
  have hrestorer : p.action.has SigFlag.restorer = bitOf p.action.flags 26 := by
    have hbit : SigFlag.restorer = oneBit 26 := by decide
    rw [SigAction.has, hbit, hasBits_oneBit _ (by decide)]
  have htramp : p.addr + UInt64.ofNat SigFrame.trampOff = p.addr := by
    simp [SigFrame.trampOff]
  unfold enterHandler
  rw [hrestorer, htramp]
  simp only [RegFile.getElem?_put]
  rfl

/-- A delivery that took place started its handler. -/
theorem starts_of_delivered {p : DeliveryPlan} {hw hw' : Hardware} {task : Task} {sig : Signal}
    {g : ExceptionFrame} {d : Delivery}
    (h : Delivered p hw hw' task sig (task.signals.info sig) g d) :
    p.Starts hw task sig g (signalImage task (task.signals.info sig) g p.kinds)
      (p.kinds.map fun k => .capture k (k.source g.euen hw.fp task.switch.fpu)) d.frame := by
  have hdisposes := (SigAction.disposes_iff _ _ _).2 h.accepted.handler
  constructor
  case action => exact h.accepted.action
  case handler =>
    rw [← h.accepted.action]
    exact hdisposes.handler_eq
  case top => exact h.accepted.top
  case kinds => exact h.accepted.kinds
  case image | records => rfl
  all_goals rw [h.entered]
  case resumes => rfl
  case kept =>
    intro i hi
    simp at hi
    rw [getElem?_enterHandler]
    simp [hi]
  all_goals
    rw [getElem?_enterHandler]
    simp

end DeliveryPlan

/-- Of the effects of a delivery, those that are no reads, saves or flushes are the writes of its
frame. -/
theorem shows_deliver {q : Effect → Bool} {hw hw' : Hardware} {task : Task} {sig : Signal}
    {g : ExceptionFrame} {d : Delivery} (hread : ∀ e : Effect, e.isRead = true → q e = false)
    (hsave : ∀ k : RecordKind, q k.saveEffect = false)
    (hflush : ∀ addr len, q (.icacheFlush addr len) = false)
    (h : deliver hw task sig (task.signals.info sig) g = (.ok d, hw')) :
    ∃ (plan : DeliveryPlan) (image : SigFrame) (records : List Record),
      plan.Starts hw task sig g image records d.frame ∧
      hw.Shows q ((plan.frameWrites image records).filter q) hw' := by
  obtain ⟨plan, hplan, hgranted, hbuild⟩ := deliver_ok h
  have hstarts := DeliveryPlan.starts_of_delivered (delivered_of_build hplan hgranted hbuild)
  obtain ⟨looked, hlooked, hhw⟩ := hardware_of_build hplan hbuild
  refine ⟨plan, _, _, hstarts, ?_⟩
  generalize signalImage task (task.signals.info sig) g plan.kinds = image at hhw
  generalize (plan.kinds.map fun k =>
    Record.capture k (k.source g.euen hw.fp task.switch.fpu)) = records at hhw
  have hquiet : looked.reverse.filter q = [] := by
    rw [List.filter_eq_nil_iff]
    intro e he
    rw [hread e (hlooked e (List.mem_reverse.1 he))]
    exact Bool.false_ne_true
  have hsaves : (RecordKind.saves g.euen plan.kinds).filter q = [] := by
    rw [List.filter_eq_nil_iff]
    intro e he
    obtain ⟨k, -, rfl⟩ := List.mem_map.1 he
    rw [hsave]
    exact Bool.false_ne_true
  refine ⟨.icacheFlush (plan.addr + UInt64.ofNat SigFrame.trampOff) 16 ::
    ((plan.frameWrites image records).reverse ++
      ((RecordKind.saves g.euen plan.kinds).reverse ++ looked)), ?_, ?_⟩
  · rw [hhw]
    simp [DeliveryPlan.frameWrites]
  · simp [List.filter_append, hquiet, hsaves, hflush]

/-- The pass ended without the task going back to user mode. -/
def PassOutcome.ends : PassOutcome → Bool
  | .resume | .delivered _ => false
  | .killed _ | .stopped _ => true

section

variable {hw : Hardware} {id : TaskId} {task : Task} {frame : ExceptionFrame} {sig : Signal}
  {d : Disposition} {p : Pass}

/-- The end of a pass asks for a switch once if it ends the task's run, and else not at all. -/
theorem Pass.EndsAt.reschedules (h : p.EndsAt hw id task frame sig d) :
    hw.Shows Effect.isReschedule (if p.outcome.ends then [.reschedule] else []) p.hw := by
  have hread : ∀ e : Effect, e.isRead = true → e.isReschedule = false := by
    intro e he
    rcases Effect.eq_of_isRead he with ⟨read, rfl⟩ | ⟨addr, len, rfl⟩ <;> rfl
  cases h with
  | killed | stopped => exact .of_emit hw rfl
  | delivered _ built =>
    obtain ⟨plan, image, records, -, hshows⟩ :=
      shows_deliver hread (by intro k; cases k <;> rfl) (fun _ _ => rfl) built
    have hnone : (plan.frameWrites image records).filter Effect.isReschedule = [] := by
      rw [List.filter_eq_nil_iff]
      intro e he
      obtain ⟨addr, bytes, rfl⟩ := DeliveryPlan.exists_of_mem he
      exact Bool.false_ne_true
    rwa [hnone] at hshows
  | refused _ refused =>
    obtain ⟨reads, rfl⟩ := deliver_error refused
    have hlook := (hw.onlyReads_noteReads reads).emits.shows hread
    exact hlook.trans ⟨[.reschedule, _], rfl, rfl⟩

/-- What a pass over a task writes to user memory: the frame of the handler that it enters, and
nothing if it enters none. -/
def Pass.Writes (hw : Hardware) (task : Task) (frame : ExceptionFrame) (p : Pass)
    (writes : List Effect) : Prop :=
  match p.outcome with
  | .delivered sig =>
    ∃ (g : ExceptionFrame) (plan : DeliveryPlan) (image : SigFrame) (records : List Record),
      frame.Restarts (some (task.signals.action sig)) g ∧
      plan.Starts hw task sig g image records p.frame ∧ writes = plan.frameWrites image records
  | .resume | .killed _ | .stopped _ => writes = []

theorem Pass.EndsAt.writes (h : p.EndsAt hw id task frame sig d) :
    ∃ writes, hw.Shows Effect.isUserWrite writes p.hw ∧ p.Writes hw task frame writes := by
  have hread : ∀ e : Effect, e.isRead = true → e.isUserWrite = false := by
    intro e he
    rcases Effect.eq_of_isRead he with ⟨read, rfl⟩ | ⟨addr, len, rfl⟩ <;> rfl
  cases h with
  | killed | stopped => exact ⟨[], ⟨[.reschedule], rfl, rfl⟩, rfl⟩
  | delivered restart built =>
    obtain ⟨plan, image, records, hstarts, hshows⟩ :=
      shows_deliver hread (by intro k; cases k <;> rfl) (fun _ _ => rfl) built
    have hall : (plan.frameWrites image records).filter Effect.isUserWrite =
        plan.frameWrites image records := by
      rw [List.filter_eq_self]
      intro e he
      obtain ⟨addr, bytes, rfl⟩ := DeliveryPlan.exists_of_mem he
      rfl
    rw [hall] at hshows
    exact ⟨_, hshows, _, plan, image, records, restart, hstarts, rfl⟩
  | refused _ refused =>
    obtain ⟨reads, rfl⟩ := deliver_error refused
    have hlook := (hw.onlyReads_noteReads reads).emits.shows hread
    exact ⟨[], hlook.trans ⟨[.reschedule, _], rfl, rfl⟩, rfl⟩

/-- Which signals are pending is no matter of the frame that is written. -/
theorem Pass.Writes.of_withPending {rest : SigSet} {writes : List Effect}
    (h : p.Writes hw (task.withPending rest) frame writes) : p.Writes hw task frame writes := by
  unfold Pass.Writes at h ⊢
  cases ho : p.outcome with
  | resume | killed | stopped => rwa [ho] at h
  | delivered sig =>
    rw [ho] at h
    obtain ⟨g, plan, image, records, hrestart, hstarts, hwrites⟩ := h
    exact ⟨g, plan, image, records, hrestart, { hstarts with }, hwrites⟩

theorem Pass.Specified.reschedules (h : p.Specified hw id task frame) :
    hw.Shows Effect.isReschedule (if p.outcome.ends then [.reschedule] else []) p.hw := by
  cases h with
  | resumed => exact .refl hw
  | ended _ _ ends => exact ends.reschedules

theorem Pass.Specified.writes (h : p.Specified hw id task frame) :
    ∃ writes, hw.Shows Effect.isUserWrite writes p.hw ∧ p.Writes hw task frame writes := by
  cases h with
  | resumed => exact ⟨[], .refl hw, rfl⟩
  | ended _ _ ends =>
    obtain ⟨writes, hshows, hwrites⟩ := ends.writes
    exact ⟨writes, hshows, hwrites.of_withPending⟩

end

/-- A pass equals its specification, and its loop ends, for every signal state, frame and hardware.
The loop takes at most 64 signals and comes to what `Pass.Specified` says, by the lowest open signal
that is not ignored. What is pending afterwards is what was, without the open signals up to that
one; so a blocked signal stays pending. A switch is asked for once if the task is killed or stopped,
and else not at all. User memory is written for one frame, the one that an entered handler starts
on, and else not at all. -/
theorem signalPass_exact (hw : Hardware) (id : TaskId) (task : Task) (frame : ExceptionFrame) :
    let pass := signalPass hw id task frame
    (∀ p, (∃ n ≤ 64, PassRounds hw id frame n task p) ↔ p = pass) ∧
    (∀ p : Pass, p.Specified hw id task frame ↔ p = pass) ∧
    (∀ x, pass.task.signals.pending.contains x = true ↔
      task.signals.pending.contains x = true ∧
        ¬ (task.Open x ∧ ∀ sig d, task.Decides sig d → x ≤ sig)) ∧
    (∀ x, task.signals.pending.contains x = true → task.signals.blocked.contains x = true →
      pass.task.signals.pending.contains x = true) ∧
    (pass.hw.since hw.mark).filter Effect.isReschedule =
      (if pass.outcome.ends then [.reschedule] else []) ∧
    pass.Writes hw task frame ((pass.hw.since hw.mark).filter Effect.isUserWrite) := by
  intro pass
  have hspec : pass.Specified hw id task frame := (Pass.specified_iff hw id task frame pass).2 rfl
  refine ⟨passRounds_iff task, Pass.specified_iff hw id task frame, hspec.pending, ?_,
    hspec.reschedules.since, ?_⟩
  · intro x hx hblocked
    refine (hspec.pending x).2 ⟨hx, fun h => ?_⟩
    have hfree := h.1.2
    rw [hblocked] at hfree
    cases hfree
  · obtain ⟨writes, hshows, hwrites⟩ := hspec.writes
    rwa [hshows.since]

end TrapLayer
