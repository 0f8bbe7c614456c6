import TrapLayer.Proofs.Trap.Handlers
import TrapLayer.Proofs.Trap.Slots
import TrapLayer.Proofs.UnhandledCall

/-!
# Draining the interrupt controller

A drain claims what waits at the controller, one interrupt at a time, answers it and gives it back.
While an answer runs, more interrupts may come in, at any place of the queue, and the handler may
take interrupt traps that drain the same controller. Each claim is still given back once, right
behind its answer, and all that waited or came in is claimed once.

* `Settles`: what happens at the controller, as brackets around the answers.
* `Settles.pending`: what waited and came in is what was claimed and still waits.
* `Settles.shows`, `Settles.paired`: the trace shows the brackets, and they pair up.
* `drain_settles_every_interrupt`: a drain ends with the controller empty, and nothing lost.
-/
namespace TrapLayer

/-! ## Claims -/

namespace Effect

/-- The controller took part. -/
def isIrq : Effect → Bool
  | irqClaim .. | irqDone .. => true
  | _ => false

/-- The interrupt that was claimed. -/
def claimed? : Effect → Option PendingIrq
  | irqClaim source irq => some ⟨source, irq⟩
  | _ => none

/-- The interrupt that was given back. -/
def givenBack? : Effect → Option PendingIrq
  | irqDone irq source => some ⟨source, irq⟩
  | _ => none

theorem isIrq_of_isBeside {e : Effect} (h : e.isBeside = true) : e.isIrq = false := by
  cases e with
  | irqClaim source irq | irqDone irq source => cases h
  | _ => rfl

/-- A claim, what happens until it is given back, and the giving back. -/
def bracket (p : PendingIrq) (es : List Effect) : List Effect :=
  irqClaim p.source p.irq :: (es ++ [irqDone p.irq p.source])

theorem filterMap_claimed (es : List Effect) :
    es.filterMap claimed? = (es.filter isIrq).filterMap claimed? := by
  rw [List.filterMap_filter]
  congr 1
  funext e
  cases e <;> rfl

theorem filterMap_claimed_bracket (p : PendingIrq) (es : List Effect) :
    (bracket p es).filterMap claimed? = p :: es.filterMap claimed? := by
  simp [bracket, claimed?, List.filterMap_append]

theorem count_bracket (p q : PendingIrq) {es : List Effect}
    (h : es.count (irqClaim p.source p.irq) = es.count (irqDone p.irq p.source)) :
    (bracket q es).count (irqClaim p.source p.irq) =
      (bracket q es).count (irqDone p.irq p.source) := by
  have hcomm : (q.source = p.source ∧ q.irq = p.irq) ↔ (q.irq = p.irq ∧ q.source = p.source) :=
    and_comm
  simp [bracket, List.count_cons, List.count_append, h, hcomm]

/-- The interrupts that are out after some effects, the last claimed in front, if each that was
given back was the last that was claimed of those still out. -/
def openClaims : List PendingIrq → List Effect → Option (List PendingIrq)
  | out, [] => some out
  | out, irqClaim source irq :: es => openClaims (⟨source, irq⟩ :: out) es
  | p :: out, irqDone irq source :: es =>
    if p = ⟨source, irq⟩ then openClaims out es else none
  | [], irqDone .. :: _ => none
  | out, _ :: es => openClaims out es

theorem openClaims_append (out : List PendingIrq) (es fs : List Effect) :
    openClaims out (es ++ fs) = (openClaims out es).bind (openClaims · fs) := by
  fun_induction openClaims out es <;> simp_all [openClaims]

end Effect

/-- What is done with a claimed interrupt: its handler runs, or there is a warning. -/
def Kernel.answer (k : Kernel) (cpu : CpuId) (p : PendingIrq) (m : Machine) : Machine :=
  match k.irqs.handler? p.irq with
  | some h => h p.irq cpu m
  | none => m.log .warn "irq" (cpu.name ++ ": spurious irq " ++ toString p.irq.val)

namespace Machine

/-- A step in which the interrupts `raised` come in, and none is claimed or given back. -/
structure Raises (raised : List PendingIrq) (m n : Machine) : Prop where
  pending : n.pending.Perm (m.pending ++ raised)
  irqNesting : ∀ cpu, (n.slot cpu).irqNesting = (m.slot cpu).irqNesting
  emits : m.hw.Emits (·.isIrq = false) n.hw

/-- The machine in which an interrupt was just claimed, with `rest` still waiting. -/
def claimed (m : Machine) (cpu : CpuId) (p : PendingIrq) (rest : List PendingIrq) : Machine :=
  ({ m with pending := rest }.emit (.irqClaim p.source p.irq)).irqEnter cpu

/-- The machine in which an interrupt was just given back. -/
def givenBack (m : Machine) (cpu : CpuId) (p : PendingIrq) : Machine :=
  (m.emit (.irqDone p.irq p.source)).irqExit cpu

theorem handleClaimed_eq (k : Kernel) (m : Machine) (cpu : CpuId) (p : PendingIrq)
    (rest : List PendingIrq) :
    handleClaimed k { m with pending := rest } cpu p =
      (k.answer cpu p (m.claimed cpu p rest)).givenBack cpu p := rfl

theorem slot_claimed_same (m : Machine) (cpu : CpuId) (p : PendingIrq) (rest : List PendingIrq) :
    (m.claimed cpu p rest).slot cpu = (m.slot cpu).irqEnter := slot_setSlot_same ..

theorem slot_claimed_of_ne (m : Machine) {cpu other : CpuId} (h : other ≠ cpu) (p : PendingIrq)
    (rest : List PendingIrq) : (m.claimed cpu p rest).slot other = m.slot other :=
  slot_setSlot_of_ne _ h _

theorem slot_givenBack_same (m : Machine) (cpu : CpuId) (p : PendingIrq) :
    (m.givenBack cpu p).slot cpu = (m.slot cpu).irqExit := slot_setSlot_same ..

theorem slot_givenBack_of_ne (m : Machine) {cpu other : CpuId} (h : other ≠ cpu)
    (p : PendingIrq) : (m.givenBack cpu p).slot other = m.slot other := slot_setSlot_of_ne _ h _

/-- A claim nests one level deeper; the count is one of 32 bits. -/
theorem irqNesting_claimed {m : Machine} {cpu : CpuId} {d : Nat}
    (hd : (m.slot cpu).irqNesting = .ofNat d) (p : PendingIrq) (rest : List PendingIrq) :
    ((m.claimed cpu p rest).slot cpu).irqNesting = .ofNat (d + 1) := by
  rw [slot_claimed_same, UInt32.ofNat_add, ← hd]
  rfl

/-! ## Brackets around answers -/

/-- From one machine to another, at `d` nested interrupts of a core: the interrupts `raised` come
in, and `es` is what happens at the controller. An interrupt is claimed from the front of the queue
and given back behind its answer, which runs one level deeper. -/
inductive Settles (cpu : CpuId) :
    Nat → Machine → List PendingIrq → List Effect → Machine → Prop
  | raises {d : Nat} {m n : Machine} {raised : List PendingIrq}
    (hd : (m.slot cpu).irqNesting = .ofNat d) (h : m.Raises raised n) : Settles cpu d m raised [] n
  | append {d : Nat} {m n o : Machine} {raised more : List PendingIrq} {es fs : List Effect}
    (h : Settles cpu d m raised es n) (h' : Settles cpu d n more fs o) :
    Settles cpu d m (raised ++ more) (es ++ fs) o
  | answer {d : Nat} {m : Machine} {k : Kernel} {p : PendingIrq} {rest raised : List PendingIrq}
    {es : List Effect} (hd : (m.slot cpu).irqNesting = .ofNat d) (hp : m.pending = p :: rest)
    (h : Settles cpu (d + 1) (m.claimed cpu p rest) raised es
      (k.answer cpu p (m.claimed cpu p rest))) :
    Settles cpu d m raised (Effect.bracket p es)
      ((k.answer cpu p (m.claimed cpu p rest)).givenBack cpu p)

namespace Raises

variable {m n : Machine}

theorem none (hpending : n.pending = m.pending)
    (hnesting : ∀ cpu, (n.slot cpu).irqNesting = (m.slot cpu).irqNesting)
    (hemits : m.hw.Emits (·.isIrq = false) n.hw) : m.Raises [] n :=
  ⟨by rw [hpending, List.append_nil], hnesting, hemits⟩

theorem of_beside {sort : Effect → Prop} (h : m.Beside sort n)
    (hs : ∀ e, sort e → e.isIrq = false) : m.Raises [] n :=
  .none h.pending (fun cpu => congrArg (fun r => (CpuRegistry.get r cpu).irqNesting) h.cpus)
    (h.emits.mono hs)

theorem of_isBeside (h : m.Beside (·.isBeside = true) n) : m.Raises [] n :=
  of_beside h fun _ => Effect.isIrq_of_isBeside

theorem trans {o : Machine} {raised more : List PendingIrq} (h : m.Raises raised n)
    (h' : n.Raises more o) : m.Raises (raised ++ more) o := by
  refine ⟨?_, fun cpu => (h'.irqNesting cpu).trans (h.irqNesting cpu), h.emits.trans h'.emits⟩
  rw [← List.append_assoc]
  exact h'.pending.trans (h.pending.append_right more)

theorem setSlot (m : Machine) {cpu : CpuId} {s : CpuSlot}
    (h : s.irqNesting = (m.slot cpu).irqNesting) : m.Raises [] (m.setSlot cpu s) := by
  refine .none rfl (fun c => ?_) (.refl _)
  by_cases hc : c = cpu
  · rw [hc, slot_setSlot_same, h]
  · rw [slot_setSlot_of_ne m hc]

theorem moveTo (m : Machine) {cpu : CpuId} {s : CpuSlot}
    (h : s.irqNesting = (m.slot cpu).irqNesting) : m.Raises [] (m.moveTo cpu s) := by
  have hset := Raises.setSlot m h
  exact .none rfl hset.irqNesting (hset.emits.trans (.of_emit _ rfl))

theorem beginReturn (m : Machine) (cpu : CpuId) : m.Raises [] (m.beginReturn cpu) := by
  unfold Machine.beginReturn
  dsimp only
  split
  · exact moveTo m rfl
  · exact .none rfl (fun _ => rfl) (.of_emit _ rfl)

theorem leave (m : Machine) (cpu : CpuId) : m.Raises [] (m.leave cpu) := by
  unfold Machine.leave
  dsimp only
  split
  · exact .none rfl (fun _ => rfl) (.of_emit _ rfl)
  · exact moveTo m rfl

theorem returnToUser (m : Machine) (cpu : CpuId) (f : ExceptionFrame) :
    m.Raises [] (m.returnToUser cpu f).2 := by
  unfold Machine.returnToUser
  split
  · exact (beginReturn m cpu).trans (of_isBeside (beside_resumeCurrent _ f))
  · exact .none rfl (fun _ => rfl) (.refl _)

theorem userEntry (m : Machine) (cpu : CpuId) (f g : ExceptionFrame) :
    m.Raises [] (((m.record f).enter cpu).captureUserEntry g) := by
  have hrecord : m.Raises [] (m.record f) := .none rfl (fun _ => rfl) (.refl _)
  have henter : (m.record f).Raises [] ((m.record f).enter cpu) := moveTo _ rfl
  exact (hrecord.trans henter).trans (of_isBeside (beside_captureUserEntry _ g))

theorem askSwitch (m : Machine) (cpu : CpuId) :
    m.Raises [] ((m.setNeedResched cpu).emit .reschedule) :=
  have hset : m.Raises [] (m.setNeedResched cpu) := setSlot m rfl
  .none rfl hset.irqNesting (hset.emits.trans (.of_emit _ rfl))

end Raises

namespace Settles

variable {cpu : CpuId} {d : Nat} {m n o : Machine} {raised : List PendingIrq} {es : List Effect}

/-- It starts at its level, so answers run inside an interrupt. -/
theorem level (h : Settles cpu d m raised es n) : (m.slot cpu).irqNesting = .ofNat d := by
  induction h with
  | raises hd _ | answer hd _ _ => exact hd
  | append _ _ ih _ => exact ih

theorem inIrq (h : Settles cpu (d + 1) m raised es n) (hd : d + 1 < 2 ^ 32) :
    (m.slot cpu).inIrq = true := by
  unfold CpuSlot.inIrq
  rw [bne_iff_ne, Ne, ← UInt32.toNat_inj, h.level, UInt32.toNat_ofNat_of_lt' hd]
  exact Nat.succ_ne_zero d

/-- In the end interrupts are nested as deeply as before, on every core. -/
theorem irqNesting (h : Settles cpu d m raised es n) :
    ∀ c, (n.slot c).irqNesting = (m.slot c).irqNesting := by
  induction h with
  | raises _ h => exact h.irqNesting
  | append _ _ ih ih' => exact fun c => (ih' c).trans (ih c)
  | @answer d m k p rest raised es _ _ _ ih =>
    intro c
    have hin := ih c
    by_cases hc : c = cpu
    · subst hc
      rw [slot_givenBack_same]
      show (slot _ c).irqNesting - 1 = _
      rw [hin, slot_claimed_same]
      exact UInt32.add_sub_cancel _ _
    · rw [slot_givenBack_of_ne _ hc, hin, slot_claimed_of_ne _ hc]

theorem trans_raises (h : Settles cpu d m raised es n) (h' : n.Raises [] o) :
    Settles cpu d m raised es o := by
  have hd : (n.slot cpu).irqNesting = .ofNat d := by rw [h.irqNesting, h.level]
  have hall := h.append (.raises hd h')
  rwa [List.append_nil, List.append_nil] at hall

theorem raises_trans (h : m.Raises [] n) (h' : Settles cpu d n raised es o) :
    Settles cpu d m raised es o := by
  have hd : (m.slot cpu).irqNesting = .ofNat d := by rw [← h.irqNesting, h'.level]
  exact (Settles.raises hd h).append h'

/-- What was pending and came in is what was claimed, and what still waits. -/
theorem pending (h : Settles cpu d m raised es n) :
    (m.pending ++ raised).Perm (es.filterMap Effect.claimed? ++ n.pending) := by
  induction h with
  | raises _ h => exact h.pending.symm
  | append _ _ ih ih' =>
    rw [List.filterMap_append, List.append_assoc, ← List.append_assoc]
    refine (ih.append_right _).trans ?_
    rw [List.append_assoc]
    exact ih'.append_left _
  | @answer d m k p rest raised es _ hp _ ih =>
    rw [hp, Effect.filterMap_claimed_bracket]
    exact ih.cons p

theorem shows (h : Settles cpu d m raised es n) : m.hw.Shows Effect.isIrq es n.hw := by
  induction h with
  | raises _ h => exact h.emits.shows fun _ he => he
  | append _ _ ih ih' => exact ih.trans ih'
  | @answer d m k p rest raised es _ _ _ ih =>
    have hclaim : m.hw.Shows Effect.isIrq [.irqClaim p.source p.irq] (m.claimed cpu p rest).hw :=
      .of_emit _ rfl
    exact hclaim.trans (ih.trans (.of_emit _ rfl))

/-- Every claim is given back once. -/
theorem count_eq (h : Settles cpu d m raised es n) (p : PendingIrq) :
    es.count (.irqClaim p.source p.irq) = es.count (.irqDone p.irq p.source) := by
  induction h with
  | raises _ _ => rfl
  | append _ _ ih ih' => rw [List.count_append, List.count_append, ih, ih']
  | answer _ _ _ ih => exact Effect.count_bracket p _ ih

/-- What is given back is what was claimed last of all that is still out. -/
theorem openClaims (h : Settles cpu d m raised es n) :
    ∀ out, Effect.openClaims out es = some out := by
  induction h with
  | raises _ _ => exact fun _ => rfl
  | append _ _ ih ih' =>
    intro out
    rw [Effect.openClaims_append, ih, Option.bind_some, ih']
  | @answer d m k p rest raised es _ _ _ ih =>
    intro out
    show Effect.openClaims (p :: out) (es ++ [.irqDone p.irq p.source]) = some out
    rw [Effect.openClaims_append, ih, Option.bind_some]
    exact if_pos rfl

end Settles

/-! ## Handlers that raise interrupts and take interrupt traps -/

/-- A step of a handler: any number of interrupts come in. -/
def Raising (m n : Machine) : Prop := ∃ raised : List PendingIrq, m.Raises raised n

section

variable {k : Kernel} {cpu : CpuId} {d : Nat}

theorem settles_answer (inner : List Effect → Prop) (hnone : inner [])
    (hirqs : ∀ irq h, k.irqs.handler? irq = some h → ∀ m : Machine,
      (m.slot cpu).irqNesting = .ofNat d →
        ∃ raised es, inner es ∧ Settles cpu d m raised es (h irq cpu m))
    {m : Machine} (hd : (m.slot cpu).irqNesting = .ofNat d) (p : PendingIrq) :
    ∃ raised es, inner es ∧ Settles cpu d m raised es (k.answer cpu p m) := by
  unfold Kernel.answer
  cases hh : k.irqs.handler? p.irq with
  | some h => exact hirqs p.irq h hh m hd
  | none => exact ⟨[], [], hnone, .raises hd (.none rfl (fun _ => rfl) (.of_emit _ rfl))⟩

/-- Rounds of a drain, at `d` nested interrupts: each claims the interrupt in front of the queue,
has it answered by the handlers of `k` on this core, and gives it back; with each goes what happens
at the controller meanwhile. -/
inductive Rounds (k : Kernel) (cpu : CpuId) (d : Nat) :
    Machine → List PendingIrq → List (PendingIrq × List Effect) → Machine → Prop
  | stop {m : Machine} (hd : (m.slot cpu).irqNesting = .ofNat d) : Rounds k cpu d m [] [] m
  | round {m n : Machine} {p : PendingIrq} {rest raised more : List PendingIrq}
    {es : List Effect} {rounds : List (PendingIrq × List Effect)}
    (hd : (m.slot cpu).irqNesting = .ofNat d) (hp : m.pending = p :: rest)
    (h : Settles cpu (d + 1) (m.claimed cpu p rest) raised es
      (k.answer cpu p (m.claimed cpu p rest)))
    (next : Rounds k cpu d ((k.answer cpu p (m.claimed cpu p rest)).givenBack cpu p) more rounds
      n) :
    Rounds k cpu d m (raised ++ more) ((p, es) :: rounds) n

/-- What happens at the controller over some rounds. -/
def effectsOf (rounds : List (PendingIrq × List Effect)) : List Effect :=
  rounds.flatMap fun r => Effect.bracket r.1 r.2

theorem Rounds.settles {m n : Machine} {raised : List PendingIrq}
    {rounds : List (PendingIrq × List Effect)} (h : Rounds k cpu d m raised rounds n) :
    Settles cpu d m raised (effectsOf rounds) n := by
  induction h with
  | stop hd => exact .raises hd (.none rfl (fun _ => rfl) (.refl _))
  | round hd hp h _ ih => exact .append (.answer hd hp h) ih

/-- A drain goes on in rounds until the controller is empty, or it is out of fuel. -/
theorem rounds_drainUpTo (inner : List Effect → Prop) (hnone : inner [])
    (hirqs : ∀ irq h, k.irqs.handler? irq = some h → ∀ m : Machine,
      (m.slot cpu).irqNesting = .ofNat (d + 1) →
        ∃ raised es, inner es ∧ Settles cpu (d + 1) m raised es (h irq cpu m)) :
    ∀ (fuel : Nat) {m : Machine}, (m.slot cpu).irqNesting = .ofNat d →
      ∃ raised rounds, Rounds k cpu d m raised rounds (drainUpTo k cpu fuel m).2 ∧
        (∀ r ∈ rounds, inner r.2) ∧ (drainUpTo k cpu fuel m).1 = rounds.length ∧
        ((drainUpTo k cpu fuel m).2.pending = [] ∨ rounds.length = fuel)
  | 0, m, hm => ⟨[], [], .stop hm, nofun, rfl, .inr rfl⟩
  | fuel + 1, m, hm => by
    unfold drainUpTo
    split
    · rename_i hp
      exact ⟨[], [], .stop hm, nofun, rfl, .inl hp⟩
    · rename_i p rest hp
      obtain ⟨raised, es, hes, hanswer⟩ := settles_answer inner hnone hirqs
        (irqNesting_claimed hm p rest) p
      have hnext : ((handleClaimed k { m with pending := rest } cpu p).slot cpu).irqNesting =
          .ofNat d := by
        rw [handleClaimed_eq k m cpu p rest, (Settles.answer hm hp hanswer).irqNesting, hm]
      obtain ⟨more, rounds, hrest, hinner, hcount, hends⟩ :=
        rounds_drainUpTo inner hnone hirqs fuel hnext
      refine ⟨raised ++ more, (p, es) :: rounds, .round hm hp hanswer hrest, ?_, ?_, ?_⟩
      · intro r hr
        rcases List.mem_cons.1 hr with rfl | hr
        · exact hes
        · exact hinner r hr
      · exact congrArg (· + 1) hcount
      · exact hends.imp_right (congrArg (· + 1))

/-- A nested interrupt trap drains the same controller. -/
theorem settles_dispatch {f : ExceptionFrame} (hf : classify f.estat f.fromUser = .interrupt)
    (hirqs : ∀ irq h, k.irqs.handler? irq = some h → ∀ m : Machine,
      (m.slot cpu).irqNesting = .ofNat (d + 1) →
        ∃ raised es, Settles cpu (d + 1) m raised es (h irq cpu m))
    {m : Machine} (hm : (m.slot cpu).irqNesting = .ofNat d) (frameAddr : UInt64) :
    ∃ raised es, Settles cpu d m raised es (dispatch k m cpu frameAddr f).machine := by
  have hentry := Raises.userEntry m cpu f (f.setKind .irq)
  unfold dispatch
  rw [hf]
  dsimp only
  unfold handleIrq
  dsimp only
  generalize ((m.record f).enter cpu).captureUserEntry (f.setKind .irq) = n at hentry
  obtain ⟨raised, rounds, hdrained, -⟩ := rounds_drainUpTo (fun _ => True) trivial
    (fun irq h hh m hm => by
      obtain ⟨raised, es, hs⟩ := hirqs irq h hh m hm
      exact ⟨raised, es, trivial, hs⟩)
    (n.pending.length + k.raises) (m := n) (by rw [hentry.irqNesting, hm])
  refine ⟨raised, _, .raises_trans hentry (hdrained.settles.trans_raises ?_)⟩
  exact (Raises.askSwitch _ cpu).trans ((Raises.returnToUser _ cpu _).trans (Raises.leave _ cpu))

/-- Handlers that raise interrupts and take interrupt traps settle what they claim; without traps
they claim nothing. -/
theorem Handles.settles {n : Nat} {m m' : Machine}
    (h : m.Handles Raising (fun f => classify f.estat f.fromUser = .interrupt) cpu n m') :
    ∀ {d : Nat}, (m.slot cpu).irqNesting = .ofNat d →
      ∃ raised es, (n = 0 → es = []) ∧ Settles cpu d m raised es m' := by
  induction h with
  | own h =>
    intro d hm
    obtain ⟨raised, h⟩ := h
    exact ⟨raised, [], fun _ => rfl, .raises hm h⟩
  | append _ _ ih ih' =>
    intro d hm
    obtain ⟨raised, es, hes, hs⟩ := ih hm
    obtain ⟨more, fs, hfs, hs'⟩ := ih' (by rw [hs.irqNesting, hm])
    refine ⟨_, _, fun hn => ?_, hs.append hs'⟩
    rw [hes hn, hfs hn]
    rfl
  | @trap n k m f frameAddr hf _ _ _ irqs =>
    intro d hm
    obtain ⟨raised, es, hs⟩ := settles_dispatch hf (fun irq h hh m hm => by
      obtain ⟨raised, es, -, hs⟩ := irqs hf irq h hh m hm
      exact ⟨raised, es, hs⟩) hm frameAddr
    exact ⟨raised, es, nofun, hs⟩

end

/-! ## The end of a drain -/

/-- How many interrupts came in from one machine to another: those that were claimed meanwhile and
those that wait in the end, less those that waited before. -/
def cameIn (m n : Machine) : Nat :=
  ((n.hw.since m.hw.mark).filterMap Effect.claimed?).length + n.pending.length - m.pending.length

theorem Settles.cameIn {cpu : CpuId} {d : Nat} {m n : Machine} {raised : List PendingIrq}
    {es : List Effect} (h : Settles cpu d m raised es n) : m.cameIn n = raised.length := by
  have hlength := h.pending.length_eq
  rw [List.length_append, List.length_append] at hlength
  unfold Machine.cameIn
  rw [Effect.filterMap_claimed, h.shows.since]
  omega

/-- Without nesting, what is given back follows what is claimed. -/
theorem givenBack_effectsOf {rounds : List (PendingIrq × List Effect)}
    (h : ∀ r ∈ rounds, r.2 = []) :
    (effectsOf rounds).filterMap Effect.givenBack? =
      (effectsOf rounds).filterMap Effect.claimed? := by
  induction rounds with
  | nil => rfl
  | cons r rounds ih =>
    obtain ⟨hr, hrest⟩ := List.forall_mem_cons.1 h
    have hstep : effectsOf (r :: rounds) =
        .irqClaim r.1.source r.1.irq :: .irqDone r.1.irq r.1.source :: effectsOf rounds := by
      show Effect.bracket r.1 r.2 ++ effectsOf rounds = _
      rw [hr]
      rfl
    rw [hstep]
    exact congrArg (List.cons _) (ih hrest)

theorem length_le_claims (rounds : List (PendingIrq × List Effect)) :
    rounds.length ≤ ((effectsOf rounds).filterMap Effect.claimed?).length := by
  induction rounds with
  | nil => exact Nat.le_refl _
  | cons r rounds ih =>
    have hstep : (effectsOf (r :: rounds)).filterMap Effect.claimed? =
        r.1 :: r.2.filterMap Effect.claimed? ++ (effectsOf rounds).filterMap Effect.claimed? := by
      rw [← Effect.filterMap_claimed_bracket, ← List.filterMap_append]
      rfl
    rw [hstep, List.length_append, List.length_cons, List.length_cons]
    omega

/-- No interrupt is lost, and none is given back twice. Let the handlers of a drain do what they
like beside the controller and the nesting of interrupts, let interrupts come in at any place of the
queue, as long as they are no more than the kernel allows for, and let handlers take interrupt traps
that drain the same controller. The drain ends with the controller empty, and no more rounds would
change that. It claims exactly what waited and what came in. Each round claims the front of the
queue, answers it once on this core, by its handler or by a warning, and gives it back behind the
answer, which runs inside an interrupt on every level that the count can hold; so do the drains
inside. The trace shows these brackets and nothing else at the controller. Without nesting the
interrupts are given back in the order they were claimed. -/
theorem drain_settles_every_interrupt (k : Kernel) (m : Machine) (cpu : CpuId) (n : Nat)
    (hirqs : ∀ irq h, k.irqs.handler? irq = some h → ∀ m : Machine,
      m.Handles Raising (fun f => classify f.estat f.fromUser = .interrupt) cpu n (h irq cpu m))
    (hfinite : ∀ rounds, m.cameIn (drainUpTo k cpu rounds m).2 ≤ k.raises) :
    let done := drain k m cpu
    let d := (m.slot cpu).irqNesting.toNat
    done.2.pending = [] ∧
    (∀ more, drainUpTo k cpu (m.pending.length + k.raises + more) m = done) ∧
    (∀ c, (done.2.slot c).irqNesting = (m.slot c).irqNesting) ∧
    (∀ e m' raised es n', Settles cpu (e + 1) m' raised es n' → e + 1 < 2 ^ 32 →
      (m'.slot cpu).inIrq = true ∧ (n'.slot cpu).inIrq = true) ∧
    ∃ raised rounds, Rounds k cpu d m raised rounds done.2 ∧ done.1 = rounds.length ∧
      (done.2.hw.since m.hw.mark).filter Effect.isIrq = effectsOf rounds ∧
      ((effectsOf rounds).filterMap Effect.claimed?).Perm (m.pending ++ raised) ∧
      (∀ p : PendingIrq, (effectsOf rounds).count (.irqClaim p.source p.irq) =
        (effectsOf rounds).count (.irqDone p.irq p.source)) ∧
      Effect.openClaims [] (effectsOf rounds) = some [] ∧
      (n = 0 → (effectsOf rounds).filterMap Effect.givenBack? =
        (effectsOf rounds).filterMap Effect.claimed?) := by
  intro done d
  obtain ⟨raised, rounds, hrounds, hinner, hcount, hends⟩ :=
    rounds_drainUpTo (d := d) (fun es => n = 0 → es = []) (fun _ => rfl)
      (fun irq h hh m hm => (hirqs irq h hh m).settles hm)
      (m.pending.length + k.raises) UInt32.ofNat_toNat.symm
  have hsettles : Settles cpu d m raised (effectsOf rounds) done.2 := hrounds.settles
  have hempty : done.2.pending = [] := by
    rcases hends with hends | hfull
    · exact hends
    · -- out of fuel: each round claimed one, and no more could be claimed than came in
      have hclaims := length_le_claims rounds
      have hlength := hsettles.pending.length_eq
      have hraised : raised.length ≤ k.raises :=
        hsettles.cameIn ▸ hfinite (m.pending.length + k.raises)
      rw [List.length_append, List.length_append] at hlength
      exact List.eq_nil_of_length_eq_zero (by omega)
  have hclaimed := hsettles.pending
  rw [hempty, List.append_nil] at hclaimed
  exact ⟨hempty, drainUpTo_of_empty hempty, hsettles.irqNesting,
    fun e m' raised es n' h he =>
      ⟨h.inIrq he, by rw [CpuSlot.inIrq, h.irqNesting]; exact h.inIrq he⟩,
    raised, rounds, hrounds, hcount, hsettles.shows.since, hclaimed.symm, hsettles.count_eq,
    hsettles.openClaims [], fun hn => givenBack_effectsOf fun r hr => hinner r hr hn⟩

end Machine

/-! ## A handler that raises and nests -/

/-- Raises source 4 and takes an interrupt trap, in which nothing has a handler. -/
def IrqHandler.raising : IrqHandler := fun _ cpu m =>
  (Machine.dispatch .bare { m with pending := m.pending ++ [⟨.boot, ⟨4⟩⟩] } cpu 0 .cleared).machine

/-- A kernel in which every source has that handler. -/
def Kernel.raising : Kernel := ⟨.empty, ⟨Vector.replicate _ (some .raising)⟩, 1⟩

/-- A machine with two interrupts pending, the first routed from another core. -/
def Machine.twoPending : Machine :=
  { Machine.running .caller with pending := [⟨⟨1⟩, ⟨3⟩⟩, ⟨.boot, ⟨5⟩⟩] }

theorem IrqTable.handler?_replicate {α : Type} (h : Option α) (irq : IrqId) :
    IrqTable.handler? ⟨Vector.replicate _ h⟩ irq = if irq.index < maxIrqs then h else none := by
  unfold handler?
  rw [Vector.getElem?_replicate]
  split <;> rfl

theorem Kernel.irqHandler?_bare (irq : IrqId) : Kernel.bare.irqs.handler? irq = none :=
  (IrqTable.handler?_replicate none irq).trans (ite_self _)

theorem handles_raising {own : Machine → Machine → Prop} {takes : ExceptionFrame → Prop}
    (hown : ∀ m : Machine, own m { m with pending := m.pending ++ [⟨.boot, ⟨4⟩⟩] })
    (htakes : takes .cleared) {irq : IrqId} {h : IrqHandler}
    (hh : Kernel.raising.irqs.handler? irq = some h) (m : Machine) :
    m.Handles own takes .boot 1 (h irq .boot m) := by
  have hall : h = .raising := by
    rw [Kernel.raising, IrqTable.handler?_replicate] at hh
    split at hh
    · exact (Option.some.inj hh).symm
    · cases hh
  rw [hall]
  refine .append (.own (hown m)) (.trap 0 htakes ?_ ?_)
  · exact fun hc => absurd hc (by decide +kernel)
  · intro _ other h hh
    rw [Kernel.irqHandler?_bare] at hh
    cases hh

/-- The first interrupt is claimed around the second, and around the one that its handler raises. -/
theorem drain_settles_every_interrupt_nested :
    let done := Machine.drain .raising .twoPending .boot
    done.2.pending = [] ∧ done.1 = 1 ∧
      (done.2.hw.since Machine.twoPending.hw.mark).filter Effect.isIrq =
        [.irqClaim ⟨1⟩ ⟨3⟩, .irqClaim .boot ⟨5⟩, .irqDone ⟨5⟩ .boot, .irqClaim .boot ⟨4⟩,
          .irqDone ⟨4⟩ .boot, .irqDone ⟨3⟩ ⟨1⟩] ∧
      (done.2.slot .boot).irqNesting = (Machine.twoPending.slot .boot).irqNesting := by
  intro done
  have honce : (Machine.drainUpTo .raising .boot 1 .twoPending).2.pending = [] := by
    decide +kernel
  have hraises : ∀ m : Machine,
      m.Raising { m with pending := m.pending ++ [⟨.boot, ⟨4⟩⟩] } :=
    fun m => ⟨[⟨.boot, ⟨4⟩⟩], .rfl, fun _ => rfl, .refl _⟩
  have hfinite : ∀ rounds, Machine.twoPending.cameIn
      (Machine.drainUpTo .raising .boot rounds .twoPending).2 ≤ Kernel.raising.raises := by
    intro rounds
    cases rounds with
    | zero => decide +kernel
    | succ rounds =>
      rw [Nat.add_comm, Machine.drainUpTo_of_empty honce]
      decide +kernel
  obtain ⟨hempty, -, hnesting, -⟩ :=
    Machine.drain_settles_every_interrupt .raising .twoPending .boot 1
      (fun _ _ => handles_raising hraises (by decide +kernel)) hfinite
  exact ⟨hempty, by decide +kernel, by decide +kernel, hnesting .boot⟩

end TrapLayer
