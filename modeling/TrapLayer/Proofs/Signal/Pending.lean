import TrapLayer.Proofs.Signal.KillAndStop

/-!
# What is pending was sent

The set of pending signals and the table of their information are kept apart: a send writes to both,
a pass clears bits of the set and never touches the table, and masks, actions and deliveries leave
both alone. One history of what was sent and taken describes them together. A signal is pending
while its last send is more recent than the last time it was taken, and its entry of the table is
that of its last send, so a handler is told what was sent to it.

* `Since`: something happened and something else has not happened since; `since_append`.
* `SignalState.Leads`: what events do to the set and the table; `Leads.trans`.
* `signalPass_eq_next`: a pass takes the lowest deliverable signal, again and again.
* `leads_signalStep`, `leads_signalSteps`: one step, and a run.
* `SigInfo.encoded_iff`: the bytes of an information, field by field.
* `info_of_deliver`: the information that a delivery leaves for the handler.
* `pending_signals_were_sent`: over any run, with what a pass then takes and delivers.
-/
namespace TrapLayer

/-! ## Histories -/

/-- A signal was queued with its information, or it was taken from the pending ones. -/
inductive SignalEvent
  | sent (sig : Signal) (info : SigInfo)
  | taken (sig : Signal)
  deriving DecidableEq

/-- In a history, oldest event first, a `p` happened and no `q` has happened since. -/
def Since (p q : SignalEvent → Prop) (history : List SignalEvent) : Prop :=
  ∃ pre e post, history = pre ++ e :: post ∧ p e ∧ ∀ d ∈ post, ¬ q d

section

variable {p q : SignalEvent → Prop}

theorem not_since {es : List SignalEvent} (h : ∀ e ∈ es, ¬ p e) : ¬ Since p q es := by
  rintro ⟨pre, e, post, rfl, he, -⟩
  exact h e (List.mem_append_right _ List.mem_cons_self) he

theorem since_singleton (e : SignalEvent) : Since p q [e] ↔ p e := by
  constructor
  · intro h
    exact Classical.byContradiction fun hne =>
      not_since (fun d hd => List.mem_singleton.1 hd ▸ hne) h
  · exact fun he => ⟨[], e, [], rfl, he, nofun⟩

/-- What is since happened in the last part of a history, or before it and the part leaves it. -/
theorem since_append (h es : List SignalEvent) :
    Since p q (h ++ es) ↔ Since p q es ∨ Since p q h ∧ ∀ d ∈ es, ¬ q d := by
  constructor
  · rintro ⟨pre, e, post, heq, he, hpost⟩
    rcases List.append_eq_append_iff.1 heq with ⟨mid, rfl, rfl⟩ | ⟨mid, rfl, hcut⟩
    · exact .inl ⟨mid, e, post, rfl, he, hpost⟩
    · cases mid with
      | nil => exact .inl ⟨[], e, post, hcut.symm, he, hpost⟩
      | cons d mid =>
        obtain ⟨rfl, rfl⟩ := List.cons.inj hcut
        exact .inr ⟨⟨pre, e, mid, rfl, he, fun d hd => hpost d (List.mem_append_left _ hd)⟩,
          fun d hd => hpost d (List.mem_append_right _ hd)⟩
  · rintro (⟨pre, e, post, rfl, he, hpost⟩ | ⟨⟨pre, e, post, rfl, he, hpost⟩, hes⟩)
    · exact ⟨h ++ pre, e, post, (List.append_assoc ..).symm, he, hpost⟩
    · refine ⟨pre, e, post ++ es, by rw [List.append_assoc, List.cons_append], he, fun d hd => ?_⟩
      exact (List.mem_append.1 hd).elim (hpost d) (hes d)

theorem since_self : ∀ {h : List SignalEvent} {e : SignalEvent}, e ∈ h → p e → Since p p h
  | d :: h, e, hmem, he => by
    rw [← List.singleton_append, since_append, since_singleton]
    by_cases hlater : ∃ c ∈ h, p c
    · obtain ⟨c, hc, hpc⟩ := hlater
      exact .inl (since_self hc hpc)
    · have hnone : ∀ c ∈ h, ¬ p c := fun c hc hpc => hlater ⟨c, hc, hpc⟩
      rcases List.mem_cons.1 hmem with rfl | hmem
      · exact .inr ⟨he, hnone⟩
      · exact absurd he (hnone e hmem)

end

/-- The signal was sent after it was last taken. -/
def SentUntaken (history : List SignalEvent) (sig : Signal) : Prop :=
  Since (fun e => ∃ info, e = .sent sig info) (· = .taken sig) history

/-- The last send of the signal came with `info`. -/
def LastSent (history : List SignalEvent) (sig : Signal) (info : SigInfo) : Prop :=
  Since (· = .sent sig info) (fun e => ∃ other, e = .sent sig other) history

theorem sentUntaken_singleton (e : SignalEvent) (sig : Signal) :
    SentUntaken [e] sig ↔ ∃ info, e = .sent sig info := since_singleton e

theorem lastSent_singleton (e : SignalEvent) (sig : Signal) (info : SigInfo) :
    LastSent [e] sig info ↔ e = .sent sig info := since_singleton e

theorem SentUntaken.lastSent {history : List SignalEvent} {sig : Signal}
    (h : SentUntaken history sig) : ∃ info, LastSent history sig info := by
  obtain ⟨pre, e, post, rfl, he, -⟩ := h
  obtain ⟨before, d, after, heq, ⟨info, rfl⟩, hafter⟩ :=
    since_self (p := fun e => ∃ other, e = .sent sig other)
      (List.mem_append_right pre (List.mem_cons_self (a := e) (l := post))) he
  exact ⟨info, before, _, after, heq, rfl, hafter⟩

theorem LastSent.unique {history : List SignalEvent} {sig : Signal} {info other : SigInfo}
    (h : LastSent history sig info) (h' : LastSent history sig other) : info = other := by
  obtain ⟨pre, e, post, rfl, rfl, hpost⟩ := h
  have hlate : ¬ Since (· = .sent sig other) (fun e => ∃ other, e = .sent sig other) post :=
    not_since fun d hd heq => hpost d hd ⟨other, heq⟩
  have hnow := (since_append (pre ++ [.sent sig info]) post).1 (by
    rw [List.append_assoc]
    exact h')
  have hlast := (since_append pre [.sent sig info]).1 (hnow.resolve_left hlate).1
  rw [since_singleton] at hlast
  rcases hlast with heq | ⟨-, hnone⟩
  · exact (SignalEvent.sent.inj heq).2
  · exact absurd ⟨info, rfl⟩ (hnone _ (List.mem_singleton.2 rfl))

/-! ## The set and the table -/

theorem SigSet.slot?_of_contains {s : SigSet} {sig : Signal} (h : s.contains sig = true) :
    (Signal.slot? sig).isSome = true := by
  unfold contains at h
  rw [Bool.and_eq_true, bne_iff_ne, ne_eq, ← UInt32.toNat_inj] at h
  have hpos : sig.toNat ≠ 0 := h.1
  have hlt : sig.toNat - 1 < 64 := by
    apply Nat.lt_of_not_le
    intro hge
    have hclear : bitOf s.bits (sig.toNat - 1) = false := BitVec.getLsbD_of_ge _ _ hge
    rw [hclear] at h
    exact Bool.false_ne_true h.2
  unfold Signal.slot?
  rw [dif_pos (by omega)]
  rfl

/-- A number outside the range of signals is in no set, so removing it needs no exception. -/
theorem SigSet.contains_remove_iff (s : SigSet) (sig x : Signal) :
    (s.remove sig).contains x = true ↔ s.contains x = true ∧ x ≠ sig := by
  rw [contains_remove, Bool.and_eq_true, Bool.not_eq_true', Bool.and_eq_false_iff,
    decide_eq_false_iff_not]
  refine and_congr_right fun hx => ⟨fun h => ?_, .inl⟩
  rintro rfl
  rw [slot?_of_contains hx] at h
  exact h.elim (fun hne => hne rfl) Bool.noConfusion

namespace SignalState

variable {s t u : SignalState}

/-- The events `es` say what becomes of the pending signals and of their information on the way
from `s` to `t`. -/
structure Leads (s : SignalState) (es : List SignalEvent) (t : SignalState) : Prop where
  pending : ∀ sig, t.pending.contains sig = true ↔
    SentUntaken es sig ∨ s.pending.contains sig = true ∧ ∀ e ∈ es, e ≠ .taken sig
  sent : ∀ sig info, LastSent es sig info → t.info sig = info
  kept : ∀ sig, (∀ e ∈ es, ¬ ∃ info, e = .sent sig info) → t.info sig = s.info sig

theorem info_congr (h : t.infos = s.infos) (sig : Signal) : t.info sig = s.info sig := by
  unfold info
  rw [h]

theorem Leads.of_same (hpending : t.pending = s.pending) (hinfos : t.infos = s.infos) :
    s.Leads [] t where
  pending sig := by
    rw [hpending]
    constructor
    · exact fun h => .inr ⟨h, nofun⟩
    · rintro (h | h)
      · exact absurd h (not_since nofun)
      · exact h.1
  sent _ _ h := absurd h (not_since nofun)
  kept sig _ := info_congr hinfos sig

theorem Leads.trans {es fs : List SignalEvent} (h : s.Leads es t) (h' : t.Leads fs u) :
    s.Leads (es ++ fs) u where
  pending sig := by
    have hsplit : SentUntaken (es ++ fs) sig ↔
      SentUntaken fs sig ∨ SentUntaken es sig ∧ ∀ e ∈ fs, e ≠ .taken sig := since_append es fs
    rw [h'.pending, h.pending, hsplit, List.forall_mem_append, or_and_right, and_assoc, or_assoc]
  sent sig info hlast := by
    rcases (since_append es fs).1 hlast with hfs | ⟨hes, hnone⟩
    · exact h'.sent sig info hfs
    · exact (h'.kept sig hnone).trans (h.sent sig info hes)
  kept sig hnone := by
    rw [List.forall_mem_append] at hnone
    exact (h'.kept sig hnone.2).trans (h.kept sig hnone.1)

theorem leads_queue (s : SignalState) {sig : Signal} (hslot : (Signal.slot? sig).isSome = true)
    (info : SigInfo) : s.Leads [.sent sig info] (s.queue sig info) := by
  obtain ⟨i, hi⟩ := Option.isSome_iff_exists.1 hslot
  have hqueue : s.queue sig info =
      { s with pending := s.pending.insert sig, infos := s.infos.set i.val info } := by
    unfold queue
    rw [hi]
  rw [hqueue]
  constructor
  · intro x
    have hsent : SentUntaken [.sent sig info] x ↔ x = sig := by
      rw [sentUntaken_singleton]
      simp [eq_comm]
    rw [hsent, SigSet.contains_insert, hslot]
    simp [or_comm]
  · intro x other hlast
    obtain ⟨rfl, rfl⟩ := SignalEvent.sent.inj ((lastSent_singleton _ _ _).1 hlast)
    unfold SignalState.info
    rw [hi]
    exact Vector.getElem_set_self _
  · intro x hnone
    have hne : x ≠ sig := by
      rintro rfl
      exact hnone _ (List.mem_singleton.2 rfl) ⟨info, rfl⟩
    unfold SignalState.info
    cases hj : Signal.slot? x with
    | none => rfl
    | some j =>
      have hij : i.val ≠ j.val := fun h => hne (Signal.slot?_inj hj (Fin.ext h ▸ hi))
      exact Vector.getElem_set_ne i.isLt j.isLt hij

theorem leads_clear (s : SignalState) (sig : Signal) : s.Leads [.taken sig] (s.clear sig) where
  pending x := by
    have hsent : ¬ SentUntaken [.taken sig] x := by
      rw [sentUntaken_singleton]
      exact nofun
    show (s.pending.remove sig).contains x = true ↔ _
    rw [SigSet.contains_remove_iff, or_iff_right hsent, List.forall_mem_singleton, ne_eq, ne_eq,
      SignalEvent.taken.injEq, eq_comm (a := x)]
  sent x info hlast := nomatch (lastSent_singleton _ _ _).1 hlast
  kept x _ := rfl

/-! ### What leaves both alone -/

theorem leads_setAction {sig : Signal} {a : SigAction} (h : s.setAction sig a = .ok t) :
    s.Leads [] t := by
  unfold setAction at h
  split at h
  · cases h
  · split at h
    · cases h
    · cases h
      exact .of_same rfl rfl

theorem leads_duringHandler (s : SignalState) (action : SigAction) (sig : Signal) :
    s.Leads [] (s.duringHandler action sig) := by
  have hmask : ∀ mask, s.Leads [] (s.setBlocked mask) := fun _ => .of_same rfl rfl
  unfold duringHandler
  dsimp only
  split
  · unfold resetAction
    split
    · rename_i t hset
      exact (hmask _).trans (leads_setAction hset)
    · exact hmask _
  · exact hmask _

end SignalState

theorem leads_deliver {hw hw' : Hardware} {task : Task} {sig : Signal} {info : SigInfo}
    {frame : ExceptionFrame} {d : Delivery}
    (h : deliver hw task sig info frame = (.ok d, hw')) :
    task.signals.Leads [] d.task.signals := by
  obtain ⟨p, -, -, hbuild⟩ := deliver_ok h
  rw [(Prod.mk.inj hbuild).1]
  exact task.signals.leads_duringHandler p.action sig

/-! ## Passes -/

theorem SigSet.first?_eq (s : SigSet) : s.first? = s.toList.head? := by
  unfold first? toList lowestBit?
  rw [List.head?_map, List.head?_filter]

theorem SigSet.toList_remove (s : SigSet) (sig : Signal) :
    (s.remove sig).toList = s.toList.filter (· ≠ sig) := by
  unfold toList
  rw [List.filter_map, List.filter_filter]
  congr 1
  apply List.filter_congr
  intro i hi
  rw [List.mem_range] at hi
  have hback : (UInt32.ofNat (i + 1)).toNat - 1 = i := by
    rw [UInt32.toNat_ofNat_of_lt' (by show i + 1 < 2 ^ 32; omega), Nat.add_sub_cancel]
  have hbit : ∀ t : SigSet, t.contains (UInt32.ofNat (i + 1)) = bitOf t.bits i := by
    intro t
    have hne : (UInt32.ofNat (i + 1)) ≠ 0 := by
      intro h
      have := congrArg UInt32.toNat h
      rw [UInt32.toNat_ofNat_of_lt' (by show i + 1 < 2 ^ 32; omega)] at this
      exact Nat.succ_ne_zero i this
    unfold contains
    rw [hback, bne_iff_ne.2 hne, Bool.true_and]
  rw [← hbit, ← hbit, Bool.eq_iff_iff, contains_remove_iff]
  simp [and_comm]

theorem SignalState.deliverable_clear (s : SignalState) (sig : Signal) :
    (s.clear sig).deliverable = s.deliverable.filter (· ≠ sig) := by
  have hcomm : (s.clear sig).pending.without (s.clear sig).blocked =
      (s.pending.without s.blocked).remove sig := by
    unfold clear SigSet.remove SigSet.without
    rw [UInt64.and_assoc, UInt64.and_comm (~~~ _), ← UInt64.and_assoc]
  unfold deliverable
  rw [hcomm, SigSet.toList_remove]

/-- Once the lowest deliverable signal is cleared, the others are what is left to deliver. -/
theorem SignalState.deliverable_cons {s : SignalState} {sig : Signal} {rest : List Signal}
    (h : s.deliverable = sig :: rest) : (s.clear sig).deliverable = rest := by
  have hsorted := s.deliverable_sorted
  rw [h] at hsorted
  have habove := (List.pairwise_cons.1 hsorted).1
  rw [deliverable_clear, h, List.filter_cons_of_neg (by simp)]
  refine List.filter_eq_self.2 fun x hx => decide_eq_true fun heq => ?_
  exact UInt32.lt_irrefl _ (heq ▸ habove x hx)

/-- A pass is a loop: it takes the lowest deliverable signal, and goes on for as long as what it
took is ignored. -/
theorem signalPass_eq_next (hw : Hardware) (id : TaskId) (task : Task) (frame : ExceptionFrame) :
    signalPass hw id task frame =
      match task.signals.nextDeliverable? with
      | none => ⟨.resume, task, frame.restarted (frame.kind == .syscall) none, hw⟩
      | some sig =>
        match (task.signals.action sig).disposition sig with
        | .ignore => signalPass hw id (task.clearSignal sig) frame
        | .terminate =>
          ⟨.killed sig, (task.clearSignal sig).terminate sig, frame, hw.emit .reschedule⟩
        | .stop => ⟨.stopped sig, (task.clearSignal sig).stop sig, frame, hw.emit .reschedule⟩
        | .handler _ =>
          takeHandled hw id task (frame.kind == .syscall) sig (task.signals.action sig) frame := by
  have hnext : task.signals.nextDeliverable? = task.signals.deliverable.head? :=
    SigSet.first?_eq _
  unfold signalPass
  rw [hnext]
  cases hlist : task.signals.deliverable with
  | nil => rfl
  | cons sig rest =>
    have hrest : (task.clearSignal sig).signals.deliverable = rest :=
      SignalState.deliverable_cons hlist
    dsimp only [List.head?_cons]
    rw [hrest]
    rfl

/-- Of some signals in order, those that a pass takes: it drops the ignored ones in front, and ends
with the first other. -/
def Task.takes (t : Task) : List Signal → List Signal
  | [] => []
  | sig :: sigs => sig :: if t.Ignores sig then t.takes sigs else []

/-- The signals that a pass over the task takes. -/
def Task.taken (t : Task) : List Signal := t.takes t.signals.deliverable

theorem Task.takes_of_ignores {t : Task} {sig : Signal} (h : t.Ignores sig) (sigs : List Signal) :
    t.takes (sig :: sigs) = sig :: t.takes sigs := by
  rw [takes, if_pos h]

theorem Task.takes_of_not_ignores {t : Task} {sig : Signal} (h : ¬ t.Ignores sig)
    (sigs : List Signal) : t.takes (sig :: sigs) = [sig] := by
  rw [takes, if_neg h]

theorem Task.takes_clearSignal (t : Task) (sig : Signal) : ∀ sigs : List Signal,
    (t.clearSignal sig).takes sigs = t.takes sigs
  | [] => rfl
  | s :: sigs => by
    have hsame : (t.clearSignal sig).Ignores s ↔ t.Ignores s := Iff.rfl
    unfold takes
    rw [takes_clearSignal t sig sigs]
    simp only [hsame]

theorem Task.takes_subset (t : Task) : ∀ sigs : List Signal, ∀ sig ∈ t.takes sigs, sig ∈ sigs
  | [], _, h => h
  | s :: sigs, sig, h => by
    unfold takes at h
    rcases List.mem_cons.1 h with rfl | h
    · exact List.mem_cons_self
    · split at h
      · exact List.mem_cons_of_mem _ (takes_subset t sigs sig h)
      · cases h

theorem leads_takeHandled (hw : Hardware) (id : TaskId) (task : Task) (inSyscall : Bool)
    (sig : Signal) (action : SigAction) (frame : ExceptionFrame) :
    task.signals.Leads [.taken sig]
      (takeHandled hw id task inSyscall sig action frame).task.signals := by
  have hclear := task.signals.leads_clear sig
  unfold takeHandled
  dsimp only
  cases hd : deliver hw (task.clearSignal sig) sig (task.signals.info sig)
    (frame.restarted inSyscall (some action)) with
  | mk result hw' =>
    cases result with
    | error e => exact hclear
    | ok d => exact hclear.trans (leads_deliver hd)

theorem leads_takeSignals (hw : Hardware) (id : TaskId) (inSyscall : Bool)
    (frame : ExceptionFrame) (sigs : List Signal) (task : Task) :
    task.signals.Leads ((task.takes sigs).map .taken)
      (takeSignals hw id task inSyscall frame sigs).task.signals := by
  induction sigs generalizing task with
  | nil => exact .of_same rfl rfl
  | cons sig sigs ih =>
    have hclear := task.signals.leads_clear sig
    have hign : task.Ignores sig ↔ (task.signals.action sig).disposition sig = .ignore := Iff.rfl
    unfold takeSignals
    dsimp only
    cases hd : (task.signals.action sig).disposition sig with
    | ignore =>
      have hrest := ih (task.clearSignal sig)
      rw [task.takes_clearSignal] at hrest
      rw [Task.takes_of_ignores (hign.2 hd)]
      exact hclear.trans hrest
    | terminate | stop =>
      rw [Task.takes_of_not_ignores (by simp [hign, hd])]
      exact hclear
    | handler addr =>
      rw [Task.takes_of_not_ignores (by simp [hign, hd])]
      exact leads_takeHandled hw id task inSyscall sig _ frame

theorem leads_signalPass (hw : Hardware) (id : TaskId) (task : Task) (frame : ExceptionFrame) :
    task.signals.Leads (task.taken.map .taken) (signalPass hw id task frame).task.signals :=
  leads_takeSignals hw id _ frame _ task

/-! ## Returns -/

/-- What a record sends when it is put back for code at `era`. -/
def Record.sends (era : UInt64) (r : Record) : List SignalEvent :=
  if r.raises then [.sent Signal.fpe (fpSignalInfo era)] else []

theorem leads_restoreRecords (euen era : UInt64) : ∀ (rs : List Record) (task : Task)
    (hw : Hardware),
    task.signals.Leads (rs.flatMap (Record.sends era))
      (restoreRecords euen era task hw rs).1.signals
  | [], _, _ => .of_same rfl rfl
  | r :: rs, task, hw => by
    have hrest := leads_restoreRecords euen era rs (restoreRecord euen era task hw r).1
      (restoreRecord euen era task hw r).2
    have hfirst : task.signals.Leads (r.sends era)
        (restoreRecord euen era task hw r).1.signals := by
      rw [restoreRecord_eq]
      unfold Record.sends SignalState.queueFpe
      dsimp only
      split
      · exact task.signals.leads_queue (by decide) _
      · exact .of_same rfl rfl
    rw [List.flatMap_cons]
    exact hfirst.trans hrest

/-! ## Runs -/

namespace Task

/-- What a step does to the pending signals of a task. A return sends what its records raise. -/
def eventsOf (t : Task) : SignalStep → List SignalEvent
  | .setAction .. | .setBlocked _ | .deliver .. => []
  | .send sig info => if (Signal.slot? sig).isSome then [.sent sig info] else []
  | .take sig => [.taken sig]
  | .sigreturn hw frame =>
    match (readReturnImage hw frame.sp).1 with
    | .ok image => image.records.flatMap (Record.sends image.frame.context.pc)
    | .error _ => []
  | .pass .. => t.taken.map .taken

/-- The history of a run, oldest event first. -/
def historyOf (t : Task) : List SignalStep → List SignalEvent
  | [] => []
  | s :: steps => t.eventsOf s ++ (t.signalStep s).historyOf steps

end Task

theorem leads_signalStep (task : Task) (s : SignalStep) :
    task.signals.Leads (task.eventsOf s) (task.signalStep s).signals := by
  have hsame : task.signals.Leads [] task.signals := .of_same rfl rfl
  cases s with
  | setAction sig action =>
    unfold Task.signalStep
    dsimp only
    split
    · rename_i signals hset
      exact SignalState.leads_setAction hset
    · exact hsame
  | setBlocked mask => exact .of_same rfl rfl
  | send sig info =>
    unfold Task.signalStep Task.eventsOf SignalState.send
    dsimp only
    by_cases hslot : (Signal.slot? sig).isSome = true
    · rw [if_pos hslot, if_pos hslot]
      exact task.signals.leads_queue hslot info
    · rw [if_neg hslot, if_neg hslot]
      exact hsame
  | take sig => exact task.signals.leads_clear sig
  | deliver hw sig info frame =>
    unfold Task.signalStep
    dsimp only
    split
    · rename_i d hd
      exact leads_deliver (Prod.ext hd rfl)
    · exact hsame
  | sigreturn hw frame =>
    unfold Task.signalStep Task.eventsOf
    dsimp only
    rcases sigreturn_cases hw task frame with
      ⟨image, read, -, himage, heq⟩ | ⟨e, read, -, himage, heq⟩
    · rw [himage, heq]
      have hmask : task.signals.Leads [] (restoreSignals image.frame task.signals) :=
        .of_same rfl rfl
      exact hmask.trans (leads_restoreRecords frame.euen image.frame.context.pc image.records
        { task with signals := restoreSignals image.frame task.signals } read)
    · rw [himage, heq]
      exact hsame
  | pass hw id frame => exact leads_signalPass hw id task frame

theorem leads_signalSteps : ∀ (steps : List SignalStep) (task : Task),
    task.signals.Leads (task.historyOf steps) (task.signalSteps steps).signals
  | [], _ => .of_same rfl rfl
  | s :: steps, task =>
    (leads_signalStep task s).trans (leads_signalSteps steps (task.signalStep s))

/-! ## What a handler is told -/

/-- Bytes that hold a signal information: three half words, after a gap of four bytes two words, and
zeros in the gap and up to 128 bytes. -/
structure SigInfo.Encoded (i : SigInfo) (b : Bytes) : Prop where
  length : b.length = 128
  signo : word32 b 0 = i.signo.toUInt32
  errno : word32 b 4 = i.errno.toUInt32
  code : word32 b 8 = i.code.toUInt32
  gap : ∀ j, 12 ≤ j → j < 16 → b[j]? = some 0
  addr : word64 b 16 = i.addr
  value : word64 b 24 = i.value
  rest : ∀ j, 32 ≤ j → j < 128 → b[j]? = some 0

theorem SigInfo.encoded_toBytes (i : SigInfo) : i.Encoded i.toBytes where
  length := i.length_toBytes
  signo := by
    unfold toBytes
    simp only [List.append_assoc]
    exact word32_head _ _
  errno := by
    unfold toBytes
    simp only [List.append_assoc, word32_skip (length_le32 _) _ (Nat.le_refl 4)]
    exact word32_head _ _
  code := by
    unfold toBytes
    simp only [List.append_assoc]
    rw [word32_skip (length_le32 _) _ (by omega), word32_skip (length_le32 _) _ (by omega)]
    exact word32_head _ _
  addr := by
    unfold toBytes
    simp only [List.append_assoc]
    rw [word64_skip (length_le32 _) _ (by omega), word64_skip (length_le32 _) _ (by omega),
      word64_skip (length_le32 _) _ (by omega), word64_skip (List.length_replicate) _ (by omega)]
    exact word64_head _ _
  value := by
    unfold toBytes
    simp only [List.append_assoc]
    rw [word64_skip (length_le32 _) _ (by omega), word64_skip (length_le32 _) _ (by omega),
      word64_skip (length_le32 _) _ (by omega), word64_skip (List.length_replicate) _ (by omega),
      word64_skip (length_le64 _) _ (by omega)]
    exact word64_head _ _
  gap := by
    intro j h1 h2
    have hfront : ∀ b c : Bytes, 16 ≤ b.length → (b ++ c)[j]? = b[j]? := fun b c hb =>
      List.getElem?_append_left (by omega)
    unfold toBytes
    rw [hfront _ _ (by simp), hfront _ _ (by simp), hfront _ _ (by simp),
      List.getElem?_append_right (by simpa using h1)]
    exact List.getElem?_replicate_of_lt (by simp; omega)
  rest := by
    intro j h1 h2
    unfold toBytes
    rw [List.getElem?_append_right (by simpa using h1)]
    exact List.getElem?_replicate_of_lt (by simp; omega)

theorem getElem?_of_take_drop {b b' : Bytes} {off n : Nat}
    (h : (b.drop off).take n = (b'.drop off).take n) {j : Nat} (hj : off ≤ j) (hn : j < off + n) :
    b[j]? = b'[j]? := by
  have hat := congrArg (fun l : Bytes => l[j - off]?) h
  simpa [List.getElem?_take, List.getElem?_drop, show j - off < n by omega,
    show off + (j - off) = j by omega] using hat

theorem SigInfo.Encoded.unique {i : SigInfo} {b b' : Bytes} (h : i.Encoded b)
    (h' : i.Encoded b') : b = b' := by
  have hhalf : ∀ off, off + 4 ≤ 128 → word32 b off = word32 b' off →
      ∀ j, off ≤ j → j < off + 4 → b[j]? = b'[j]? := by
    intro off hoff hword j
    apply getElem?_of_take_drop
    rw [← le32_word32 (h.length.symm ▸ hoff), hword, le32_word32 (h'.length.symm ▸ hoff)]
  have hword : ∀ off, off + 8 ≤ 128 → word64 b off = word64 b' off →
      ∀ j, off ≤ j → j < off + 8 → b[j]? = b'[j]? := by
    intro off hoff hword j
    apply getElem?_of_take_drop
    rw [← le64_word64 (h.length.symm ▸ hoff), hword, le64_word64 (h'.length.symm ▸ hoff)]
  apply List.ext_getElem?
  intro j
  rcases Nat.lt_or_ge j 128 with hj | hj
  · rcases Nat.lt_or_ge j 4 with h4 | h4
    · exact hhalf 0 (by omega) (h.signo.trans h'.signo.symm) j (by omega) (by omega)
    rcases Nat.lt_or_ge j 8 with h8 | h8
    · exact hhalf 4 (by omega) (h.errno.trans h'.errno.symm) j h4 (by omega)
    rcases Nat.lt_or_ge j 12 with h12 | h12
    · exact hhalf 8 (by omega) (h.code.trans h'.code.symm) j h8 (by omega)
    rcases Nat.lt_or_ge j 16 with h16 | h16
    · exact (h.gap j h12 h16).trans (h'.gap j h12 h16).symm
    rcases Nat.lt_or_ge j 24 with h24 | h24
    · exact hword 16 (by omega) (h.addr.trans h'.addr.symm) j h16 (by omega)
    rcases Nat.lt_or_ge j 32 with h32 | h32
    · exact hword 24 (by omega) (h.value.trans h'.value.symm) j h24 (by omega)
    · exact (h.rest j h32 hj).trans (h'.rest j h32 hj).symm
  · rw [List.getElem?_eq_none (by rw [h.length]; exact hj),
      List.getElem?_eq_none (by rw [h'.length]; exact hj)]

theorem SigInfo.encoded_iff (i : SigInfo) (b : Bytes) : i.Encoded b ↔ b = i.toBytes :=
  ⟨fun h => h.unique i.encoded_toBytes, fun h => h ▸ i.encoded_toBytes⟩

/-- A frame that was delivered holds the information, and its handler is given the address. -/
theorem info_of_deliver {hw hw' : Hardware} {task : Task} {sig : Signal} {info : SigInfo}
    {frame : ExceptionFrame} {d : Delivery}
    (h : deliver hw task sig info frame = (.ok d, hw')) :
    d.frame.regs.read Reg.a1 = d.frame.sp + UInt64.ofNat SigFrame.infoOff ∧
      hw'.memory.read (d.frame.sp + UInt64.ofNat SigFrame.infoOff) SigInfo.wireSize =
        info.toBytes := by
  have hsp := sp_of_deliver h
  obtain ⟨p, hd⟩ := delivered_of_ok h
  have hr := hd.accepted.region
  have hadd := hr.addr_add
  have htop := hr.low_le
  have hlt := p.top.toNat_lt
  have hsize : SigFrame.size = 592 := rfl
  rw [hsp, hd.at_, hd.memory]
  constructor
  · rw [hd.entered]
    unfold enterHandler
    rw [RegFile.read_put_of_ne _ (by decide), RegFile.read_put_of_ne _ (by decide),
      RegFile.read_put_same]
  · -- the records lie above the frame, so its bytes are those of the image
    have hoff : SigFrame.infoOff = 16 := rfl
    have hwire : SigInfo.wireSize = 128 := rfl
    have hinfo : (p.addr + UInt64.ofNat SigFrame.infoOff).toNat = p.addr.toNat + SigFrame.infoOff :=
      toNat_add_ofNat (by omega)
    have hblocks := ChainLayout.agreeOn_writeBlocks
      (p.kinds.map fun k => .capture k (k.source frame.euen hw.fp task.switch.fpu))
      (hw.memory.write p.addr (signalImage task info frame p.kinds).toBytes) hr.sound
      p.addr.toNat p.layout.low.toNat (.inl (Nat.le_refl _))
    unfold DeliveryPlan.written DeliveryPlan.layout
    rw [hblocks.read (a := p.addr + UInt64.ofNat SigFrame.infoOff) (by omega) (by omega) (by omega)]
    obtain ⟨rest, himage⟩ := (signalImage task info frame p.kinds).exists_toBytes_eq
    have hlen := (signalImage task info frame p.kinds).length_toBytes
    rw [himage] at hlen ⊢
    have hrest := (Memory.read_write_append hw.memory p.addr (x := SigFrame.trampoline.flatMap le32)
      (y := (signalImage task info frame p.kinds).info.toBytes ++ rest)
      (by rw [← List.length_append, hlen]; decide)).2
    rw [List.length_append, SigInfo.length_toBytes, Memory.read_add] at hrest
    exact (List.append_inj hrest (Memory.length_read _ _ _)).1

theorem takesFirst_of_delivered {hw : Hardware} {id : TaskId} {task : Task} {frame : ExceptionFrame}
    {sig : Signal} (h : (signalPass hw id task frame).outcome = .delivered sig) :
    task.TakesFirst sig ∧
      ∃ handler, (task.signals.action sig).disposition sig = .handler handler := by
  rcases task.ignores_or_takesFirst with hall | ⟨s, hfirst⟩
  · rw [signalPass_ignored hw id frame hall] at h
    cases h
  · have hends := outcome_of_takesFirst hw id frame hfirst
    cases hd : (task.signals.action s).disposition s with
    | ignore | terminate | stop => simp [hd, h] at hends
    | handler addr =>
      simp only [hd, h, PassOutcome.delivered.injEq, reduceCtorEq, or_false] at hends
      subst hends
      exact ⟨hfirst, addr, hd⟩

theorem info_of_signalPass {hw : Hardware} {id : TaskId} {task : Task} {frame : ExceptionFrame}
    {sig : Signal} (h : (signalPass hw id task frame).outcome = .delivered sig) :
    let pass := signalPass hw id task frame
    pass.frame.regs.read Reg.a1 = pass.frame.sp + UInt64.ofNat SigFrame.infoOff ∧
      pass.hw.memory.read (pass.frame.sp + UInt64.ofNat SigFrame.infoOff) SigInfo.wireSize =
        (task.signals.info sig).toBytes := by
  intro pass
  obtain ⟨hfirst, handler, hact⟩ := takesFirst_of_delivered h
  obtain ⟨taken, d, -, -, hd, hframe⟩ :=
    signalPass_delivered hfirst.deliverable hfirst.lowest hact h
  unfold pass
  rw [hframe]
  exact info_of_deliver hd

/-! ## Over any run -/

/-- No signal is lost, invented or given another's information. Whatever was registered, masked,
sent, delivered and returned from, a signal is pending exactly if it was sent after it was last
taken. A pass takes what it leaves pending no longer, and it takes a signal only while that is not
blocked; a handler that it enters is given, in its frame, the information of the last send. -/
theorem pending_signals_were_sent (id : TaskId) (p : SpawnParams) (steps : List SignalStep) :
    let task := (Task.spawned id p).signalSteps steps
    let history := (Task.spawned id p).historyOf steps
    (∀ sig, task.signals.pending.contains sig = true ↔ SentUntaken history sig) ∧
    ∀ (hw : Hardware) (current : TaskId) (frame : ExceptionFrame),
      let pass := signalPass hw current task frame
      (∀ sig, sig ∈ task.taken ↔ task.signals.pending.contains sig = true ∧
        pass.task.signals.pending.contains sig = false) ∧
      (∀ sig ∈ task.taken, task.signals.blocked.contains sig = false) ∧
      ∀ sig, pass.outcome = .delivered sig →
        ∃ info, LastSent history sig info ∧
          pass.frame.regs.read Reg.a1 = pass.frame.sp + 16 ∧
          info.Encoded (pass.hw.memory.read (pass.frame.sp + 16) 128) := by
  intro task history
  have hrun : (Task.spawned id p).signals.Leads history task.signals :=
    leads_signalSteps steps (Task.spawned id p)
  have hnone : ∀ sig, (Task.spawned id p).signals.pending.contains sig = false := by
    intro sig
    simp [Task.spawned, SignalState.fresh, SigSet.empty, SigSet.contains, bitOf]
  have hpending : ∀ sig, task.signals.pending.contains sig = true ↔ SentUntaken history sig := by
    intro sig
    rw [hrun.pending, hnone]
    simp
  refine ⟨hpending, fun hw current frame => ?_⟩
  intro pass
  have htaken : ∀ sig ∈ task.taken, task.signals.pending.contains sig = true ∧
      task.signals.blocked.contains sig = false := fun sig hsig =>
    (task.signals.mem_deliverable_iff sig).1 (task.takes_subset _ sig hsig)
  have hpass := leads_signalPass hw current task frame
  refine ⟨fun sig => ?_, fun sig hsig => (htaken sig hsig).2, fun sig hout => ?_⟩
  · have hafter := hpass.pending sig
    have hnot : ¬ SentUntaken (task.taken.map .taken) sig := not_since (by simp)
    rw [or_iff_right hnot, List.forall_mem_map] at hafter
    rw [← Bool.not_eq_true, hafter]
    constructor
    · intro hsig
      exact ⟨(htaken sig hsig).1, fun h => h.2 sig hsig rfl⟩
    · rintro ⟨hpend, hgone⟩
      refine Classical.byContradiction fun hsig => hgone ⟨hpend, fun s hs heq => ?_⟩
      exact hsig (SignalEvent.taken.inj heq ▸ hs)
  · have hfirst := (takesFirst_of_delivered hout).1
    have hsent := (hpending sig).1 ((task.signals.mem_deliverable_iff sig).1 hfirst.deliverable).1
    obtain ⟨info, hlast⟩ := hsent.lastSent
    obtain ⟨ha1, hbytes⟩ := info_of_signalPass hout
    rw [hrun.sent sig info hlast] at hbytes
    exact ⟨info, hlast, ha1, (info.encoded_iff _).2 hbytes⟩

/-- A signal that is sent twice, masked, and let through again: its handler is told of the second
send, and once it runs the signal is not pending. -/
theorem pending_signals_were_sent_twice :
    let info : SigInfo := ⟨10, 3, -6, 0x1234, 7⟩
    let steps : List SignalStep :=
      [.setAction Signal.usr1 ⟨0x8000, 0, 0, .empty⟩, .setBlocked ⟨0x200⟩,
        .send Signal.usr1 (.ofKernel Signal.usr1), .send Signal.usr1 info, .setBlocked .empty]
    let task := (Task.spawned ⟨0⟩ ⟨0, 0, 0, 0, ⟨0⟩⟩).signalSteps steps
    let pass := signalPass (.mapped ⟨true, true, true, true⟩) ⟨0⟩ task (.ofUser 0x4000 0x100000)
    pass.outcome = .delivered Signal.usr1 ∧
      task.signals.blocked.contains Signal.usr1 = false ∧
      pass.task.signals.pending.contains Signal.usr1 = false ∧
      info.Encoded (pass.hw.memory.read (pass.frame.sp + 16) 128) := by
  intro info steps task pass
  have hpass : pass = signalPass (.mapped ⟨true, true, true, true⟩) ⟨0⟩
    ((Task.spawned ⟨0⟩ ⟨0, 0, 0, 0, ⟨0⟩⟩).signalSteps steps) (.ofUser 0x4000 0x100000) := rfl
  obtain ⟨-, hrun⟩ := pending_signals_were_sent ⟨0⟩ ⟨0, 0, 0, 0, ⟨0⟩⟩ steps
  obtain ⟨htaken, hfree, hinfo⟩ := hrun (.mapped ⟨true, true, true, true⟩) ⟨0⟩
    (.ofUser 0x4000 0x100000)
  have hmem : Signal.usr1 ∈ task.taken := by decide +kernel
  have hout : pass.outcome = .delivered Signal.usr1 := by decide +kernel
  obtain ⟨last, hlast, -, hbytes⟩ := hinfo Signal.usr1 hout
  have hsecond : LastSent ((Task.spawned ⟨0⟩ ⟨0, 0, 0, 0, ⟨0⟩⟩).historyOf steps) Signal.usr1
      info :=
    ⟨[.sent Signal.usr1 (.ofKernel Signal.usr1)], _, [], by decide +kernel, rfl, nofun⟩
  rw [hlast.unique hsecond] at hbytes
  exact ⟨hout, hfree _ hmem, ((htaken _).1 hmem).2, hbytes⟩

end TrapLayer
