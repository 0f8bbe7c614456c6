import TrapLayer.Machine
import TrapLayer.Proofs.Hardware

/-!
# The slot of a core, operation by operation

All that traps do to the slots of the cores is a sequence of a few operations, each on the slot of
one core. A trap is a bracket of them: it is recorded and entered, what its handler does stands in
between, and it is left, through the state of returning to user mode if it is the outermost. Such a
word is legal at every operation and ends where it began, whatever other cores do in between.

* `slot_perform`, `slot_perform_of_ne`: an operation changes the slot of its core only.
* `TrapOps.runs`: the words of traps are legal, and balanced.
* `TrapOps.recorded`: their frames are those that they record.
* `Interleaved.slot`: in any interleaving the slot of a core follows its own operations.
* `Interleaved.lawful`: if those are legal on every core, nothing illegal is seen or reported.
-/
namespace TrapLayer

/-- What is done to the slot of a core, and the recording of a trap. -/
inductive SlotOp
  | record (f : ExceptionFrame)
  | enter | beginReturn | leave | irqEnter | irqExit | setNeedResched | takeNeedResched

/-! ## One slot -/

namespace CpuSlot

/-- The slot after an operation; an illegal one leaves it as it is. -/
def after (s : CpuSlot) : SlotOp → CpuSlot
  | .record _ => s
  | .enter => s.enter
  | .beginReturn => if s.mayReturn then s.beginReturn else s
  | .leave => if s.depth = 0 then s else s.leave
  | .irqEnter => s.irqEnter
  | .irqExit => s.irqExit
  | .setNeedResched => s.setNeedResched
  | .takeNeedResched => s.clearNeedResched

/-- The slot after some operations, first to last. -/
def run (s : CpuSlot) (ops : List SlotOp) : CpuSlot := ops.foldl after s

/-- The operation is not one that is reported as illegal. -/
def Permits (s : CpuSlot) : SlotOp → Prop
  | .beginReturn => s.mayReturn = true
  | .leave => s.depth ≠ 0
  | _ => True

/-- A core is idle exactly outside of traps, and returns to user mode only from the outermost. -/
structure Legal (s : CpuSlot) : Prop where
  idle_iff : s.state = .idle ↔ s.depth = 0
  returning : s.state = .returningToUser → s.depth = 1

/-- Every operation of a list is permitted, and leaves the slot legal. -/
def Follows (s : CpuSlot) : List SlotOp → Prop
  | [] => True
  | op :: ops => s.Permits op ∧ (s.after op).Legal ∧ (s.after op).Follows ops

/-- The slot of a core between operations of `d` nested traps. -/
structure Open (s : CpuSlot) (d : Nat) : Prop where
  depth : s.depth.toNat = d
  state : s.state = if d = 0 then .idle else .dispatching

/-- `t` is `s` with `n` more traps counted; only the wish for a switch may be different as well. -/
structure Balanced (s t : CpuSlot) (n : Nat) : Prop where
  state : t.state = s.state
  depth : t.depth = s.depth
  irqNesting : t.irqNesting = s.irqNesting
  traps : t.traps = s.traps + UInt64.ofNat n

variable {s t u : CpuSlot} {d n k : Nat} {a b : List SlotOp}

theorem run_append (s : CpuSlot) (a b : List SlotOp) : s.run (a ++ b) = (s.run a).run b :=
  List.foldl_append

theorem follows_append : s.Follows (a ++ b) ↔ s.Follows a ∧ (s.run a).Follows b := by
  induction a generalizing s with
  | nil => simp [Follows, run]
  | cons op ops ih =>
    simp only [List.cons_append, Follows, ih, run, List.foldl_cons, and_assoc]

theorem Follows.front (h : s.Follows b) (hp : a <+: b) : s.Follows a := by
  obtain ⟨rest, rfl⟩ := hp
  exact (follows_append.1 h).1

theorem Follows.legal (h : s.Follows a) (hs : s.Legal) : (s.run a).Legal := by
  induction a generalizing s with
  | nil => exact hs
  | cons op ops ih => exact ih h.2.2 h.2.1

theorem open_fresh : fresh.Open 0 := ⟨rfl, rfl⟩

theorem Open.legal (h : s.Open d) : s.Legal := by
  obtain ⟨hdepth, hstate⟩ := h
  constructor
  · rw [hstate, ← UInt32.toNat_inj, hdepth]
    by_cases hd : d = 0 <;> simp [hd]
  · rw [hstate]
    split <;> exact nofun

theorem Open.depth_eq_one_iff (h : s.Open (d + 1)) : s.depth = 1 ↔ d = 0 := by
  rw [← UInt32.toNat_inj, h.depth]
  show d + 1 = 1 ↔ d = 0
  omega

theorem Balanced.refl (s : CpuSlot) : s.Balanced s 0 := ⟨rfl, rfl, rfl, by simp⟩

theorem Balanced.trans (h : s.Balanced t n) (h' : t.Balanced u k) : s.Balanced u (n + k) := by
  refine ⟨h'.state.trans h.state, h'.depth.trans h.depth, h'.irqNesting.trans h.irqNesting, ?_⟩
  rw [h'.traps, h.traps, UInt64.ofNat_add, UInt64.add_assoc]

theorem Balanced.isOpen (h : s.Balanced t n) (hs : s.Open d) : t.Open d :=
  ⟨by rw [h.depth, hs.depth], by rw [h.state, hs.state]⟩

theorem Open.enter (h : s.Open d) (hd : d + 1 < 2 ^ 32) : s.enter.Open (d + 1) := by
  refine ⟨?_, by simp [CpuSlot.enter]⟩
  show (s.depth + 1).toNat = d + 1
  rw [UInt32.toNat_add, h.depth]
  exact Nat.mod_eq_of_lt hd

theorem Balanced.leave (h : s.enter.Balanced t n) (hs : s.Open d) (hd : d + 1 < 2 ^ 32) :
    s.Balanced t.leave (n + 1) := by
  have ht : t.Open (d + 1) := h.isOpen (hs.enter hd)
  refine ⟨?_, ?_, h.irqNesting, ?_⟩
  · show (if t.depth = 1 then DispatchState.idle else .dispatching) = s.state
    rw [hs.state]
    simp only [ht.depth_eq_one_iff]
  · show t.depth - 1 = s.depth
    rw [h.depth]
    exact UInt32.add_sub_cancel _ _
  · show t.traps = s.traps + UInt64.ofNat (n + 1)
    rw [h.traps, UInt64.ofNat_add]
    show s.traps + 1 + UInt64.ofNat n = _
    rw [UInt64.add_assoc, UInt64.add_comm 1]
    rfl

theorem Balanced.follows_leave (h : s.enter.Balanced t n) (hs : s.Open d)
    (hd : d + 1 < 2 ^ 32) : t.Follows [.leave] ∧ s.Balanced (t.run [.leave]) (n + 1) := by
  have hdepth : t.depth ≠ 0 := by
    rw [Ne, ← UInt32.toNat_inj, (h.isOpen (hs.enter hd)).depth]
    exact Nat.succ_ne_zero d
  have hleft := h.leave hs hd
  have hlast : t.after .leave = t.leave := if_neg hdepth
  refine ⟨⟨hdepth, ?_, trivial⟩, ?_⟩
  · rw [hlast]
    exact (hleft.isOpen hs).legal
  · show s.Balanced (t.after .leave) (n + 1)
    rw [hlast]
    exact hleft

/-- The outermost trap may pass through the state of returning to user mode. -/
theorem Balanced.follows_return (h : s.enter.Balanced t n) (hs : s.Open 0) :
    t.Follows [.beginReturn, .leave] ∧ s.Balanced (t.run [.beginReturn, .leave]) (n + 1) := by
  have hone : t.depth = 1 := (h.isOpen (hs.enter (by decide))).depth_eq_one_iff.2 rfl
  have hmay : t.mayReturn = true := by
    unfold mayReturn
    rw [hone, h.state]
    rfl
  have hback : t.after .beginReturn = t.beginReturn := if_pos hmay
  have hlegal : t.beginReturn.Legal :=
    ⟨⟨nofun, fun hz => absurd (hz.symm.trans hone) (by decide)⟩, fun _ => hone⟩
  obtain ⟨⟨hpermits, hleft, -⟩, hbalanced⟩ := h.follows_leave hs (by decide)
  -- returning changes nothing but the state, which leaving sets anew
  have hsame : (t.after .beginReturn).after .leave = t.after .leave := by
    rw [hback]
    exact (if_neg hpermits).trans (if_neg hpermits).symm
  refine ⟨⟨hmay, by rw [hback]; exact hlegal, ?_, by rw [hsame]; exact hleft, trivial⟩, ?_⟩
  · rw [hback]
    exact hpermits
  · show s.Balanced ((t.after .beginReturn).after .leave) (n + 1)
    rw [hsame]
    exact hbalanced

theorem follows_trap {f : ExceptionFrame} (hs : s.Legal) (he : s.enter.Legal)
    (ha : s.enter.Follows a) (hb : (s.enter.run a).Follows b) :
    s.Follows (.record f :: .enter :: (a ++ b)) :=
  ⟨trivial, hs, trivial, he, follows_append.2 ⟨ha, hb⟩⟩

theorem run_trap (s : CpuSlot) (f : ExceptionFrame) (a b : List SlotOp) :
    s.run (.record f :: .enter :: (a ++ b)) = (s.enter.run a).run b := run_append s.enter a b

end CpuSlot

/-! ## The words of traps -/

/-- What is done to the slot of a core at `d` nested traps while whole traps are handled there, and
the frames of those traps in the order they were recorded. -/
inductive TrapOps : Nat → List SlotOp → List ExceptionFrame → Prop
  | none {d : Nat} : TrapOps d [] []
  | append {d : Nat} {a b : List SlotOp} {fs gs : List ExceptionFrame} (ha : TrapOps d a fs)
    (hb : TrapOps d b gs) : TrapOps d (a ++ b) (fs ++ gs)
  | askSwitch {d : Nat} : TrapOps d [.setNeedResched] []
  | takeSwitch {d : Nat} : TrapOps d [.takeNeedResched] []
  /-- A claimed interrupt and what its handler does. -/
  | interrupt {d : Nat} {a : List SlotOp} {fs : List ExceptionFrame} (ha : TrapOps d a fs) :
    TrapOps d (.irqEnter :: (a ++ [.irqExit])) fs
  | trap {d : Nat} {f : ExceptionFrame} {a : List SlotOp} {fs : List ExceptionFrame}
    (hd : d + 1 < 2 ^ 32) (ha : TrapOps (d + 1) a fs) :
    TrapOps d (.record f :: .enter :: (a ++ [.leave])) (f :: fs)
  /-- The outermost trap, on its way back to user mode. -/
  | userTrap {f : ExceptionFrame} {a : List SlotOp} {fs : List ExceptionFrame}
    (ha : TrapOps 1 a fs) :
    TrapOps 0 (.record f :: .enter :: (a ++ [.beginReturn, .leave])) (f :: fs)

/-- The words of traps are legal at every operation, and balanced. -/
theorem TrapOps.runs {d : Nat} {ops : List SlotOp} {fs : List ExceptionFrame}
    (h : TrapOps d ops fs) : ∀ {s : CpuSlot}, s.Open d →
      s.Follows ops ∧ s.Balanced (s.run ops) fs.length := by
  induction h with
  | none => exact fun _ => ⟨trivial, .refl _⟩
  | append _ _ iha ihb =>
    intro s hs
    obtain ⟨hfa, hba⟩ := iha hs
    obtain ⟨hfb, hbb⟩ := ihb (hba.isOpen hs)
    rw [CpuSlot.run_append, List.length_append]
    exact ⟨CpuSlot.follows_append.2 ⟨hfa, hfb⟩, hba.trans hbb⟩
  | askSwitch | takeSwitch =>
    intro s hs
    have hlegal := hs.legal
    exact ⟨⟨trivial, ⟨hlegal.idle_iff, hlegal.returning⟩, trivial⟩, rfl, rfl, rfl, by simp; rfl⟩
  | interrupt _ ih =>
    intro s hs
    have hopen : s.irqEnter.Open _ := ⟨hs.depth, hs.state⟩
    obtain ⟨hf, hb⟩ := ih hopen
    have hin := hopen.legal
    have hout := (hb.isOpen hopen).legal
    refine ⟨⟨trivial, hin, CpuSlot.follows_append.2 ⟨hf, trivial, ?_, trivial⟩⟩, ?_⟩
    · exact ⟨hout.idle_iff, hout.returning⟩
    · show s.Balanced (s.irqEnter.run (_ ++ [.irqExit])) _
      rw [CpuSlot.run_append]
      refine ⟨hb.state, hb.depth, ?_, hb.traps⟩
      show (s.irqEnter.run _).irqNesting - 1 = s.irqNesting
      rw [hb.irqNesting]
      exact UInt32.add_sub_cancel _ _
  | trap hd _ ih =>
    intro s hs
    have hopen := hs.enter hd
    obtain ⟨hf, hb⟩ := ih hopen
    obtain ⟨hclose, hleft⟩ := hb.follows_leave hs hd
    rw [CpuSlot.run_trap]
    exact ⟨CpuSlot.follows_trap hs.legal hopen.legal hf hclose, hleft⟩
  | userTrap _ ih =>
    intro s hs
    have hopen := hs.enter (by decide)
    obtain ⟨hf, hb⟩ := ih hopen
    obtain ⟨hclose, hleft⟩ := hb.follows_return hs
    rw [CpuSlot.run_trap]
    exact ⟨CpuSlot.follows_trap hs.legal hopen.legal hf hclose, hleft⟩

/-- The frame that an operation records. -/
def SlotOp.recorded? : SlotOp → Option ExceptionFrame
  | .record f => some f
  | _ => none

theorem TrapOps.recorded {d : Nat} {ops : List SlotOp} {fs : List ExceptionFrame}
    (h : TrapOps d ops fs) : ops.filterMap SlotOp.recorded? = fs := by
  induction h with
  | none | askSwitch | takeSwitch => rfl
  | append _ _ iha ihb => rw [List.filterMap_append, iha, ihb]
  | interrupt _ ih | trap _ _ ih | userTrap _ ih =>
    simp only [List.filterMap_cons, List.filterMap_append, SlotOp.recorded?, ih,
      List.filterMap_nil, List.append_nil]

/-! ## What is seen and reported -/

/-- The report of an illegal transition. -/
def LogLine.ReportsIllegal (line : LogLine) : Prop :=
  ∃ (cpu : CpuId) (what : String),
    line = ⟨.error, "trap", cpu.name ++ ": illegal transition " ++ what⟩

/-- A transition to a legal slot, or anything else but the report of an illegal one. -/
def Effect.Lawful : Effect → Prop
  | .transition _ s => s.Legal
  | .logged line => ¬ line.ReportsIllegal
  | _ => True

/-- Neither a transition nor the report of an illegal one. -/
def Effect.Aside : Effect → Prop
  | .transition .. => False
  | .logged line => ¬ line.ReportsIllegal
  | _ => True

theorem Effect.Aside.lawful {e : Effect} (h : e.Aside) : e.Lawful := by
  cases e with
  | transition cpu s => exact h.elim
  | logged line => exact h
  | _ => trivial

namespace Machine

variable {m n o : Machine} {cpu other : CpuId}

/-- An operation on the slot of a core. -/
def perform (m : Machine) (cpu : CpuId) : SlotOp → Machine
  | .record f => m.record f
  | .enter => m.enter cpu
  | .beginReturn => m.beginReturn cpu
  | .leave => m.leave cpu
  | .irqEnter => m.irqEnter cpu
  | .irqExit => m.irqExit cpu
  | .setNeedResched => m.setNeedResched cpu
  | .takeNeedResched => (m.takeNeedResched cpu).2

theorem slot_of_fresh (h : m.cpus = .fresh) (cpu : CpuId) : m.slot cpu = .fresh := by
  unfold slot
  rw [h]
  exact Vector.getElem_replicate _

@[simp] theorem slot_setSlot_same (m : Machine) (cpu : CpuId) (s : CpuSlot) :
    (m.setSlot cpu s).slot cpu = s := CpuRegistry.get_set_same ..

theorem slot_setSlot_of_ne (m : Machine) (h : other ≠ cpu) (s : CpuSlot) :
    (m.setSlot cpu s).slot other = m.slot other := CpuRegistry.get_set_of_ne _ h s

@[simp] theorem slot_moveTo_same (m : Machine) (cpu : CpuId) (s : CpuSlot) :
    (m.moveTo cpu s).slot cpu = s := slot_setSlot_same m cpu s

theorem slot_moveTo_of_ne (m : Machine) (h : other ≠ cpu) (s : CpuSlot) :
    (m.moveTo cpu s).slot other = m.slot other := slot_setSlot_of_ne m h s

theorem slot_perform (m : Machine) (cpu : CpuId) (op : SlotOp) :
    (m.perform cpu op).slot cpu = (m.slot cpu).after op := by
  cases op with
  | record f => rfl
  | enter => exact slot_moveTo_same m cpu _
  | beginReturn =>
    unfold perform beginReturn CpuSlot.after
    dsimp only
    split
    · exact slot_moveTo_same m cpu _
    · rfl
  | leave =>
    unfold perform leave CpuSlot.after
    dsimp only
    split
    · rfl
    · exact slot_moveTo_same m cpu _
  | irqEnter | irqExit | setNeedResched | takeNeedResched => exact slot_setSlot_same m cpu _

theorem slot_perform_of_ne (m : Machine) (h : other ≠ cpu) (op : SlotOp) :
    (m.perform cpu op).slot other = m.slot other := by
  cases op with
  | record f => rfl
  | enter => exact slot_moveTo_of_ne m h _
  | beginReturn =>
    unfold perform beginReturn
    dsimp only
    split
    · exact slot_moveTo_of_ne m h _
    · rfl
  | leave =>
    unfold perform leave
    dsimp only
    split
    · rfl
    · exact slot_moveTo_of_ne m h _
  | irqEnter | irqExit | setNeedResched | takeNeedResched => exact slot_setSlot_of_ne m h _

theorem traps_perform (m : Machine) (cpu : CpuId) (op : SlotOp) :
    (m.perform cpu op).traps = op.recorded?.toList.foldl TrapRing.record m.traps := by
  cases op with
  | beginReturn | leave =>
    simp only [perform, beginReturn, leave]
    split <;> rfl
  | _ => rfl

theorem emits_perform {op : SlotOp} (h : (m.slot cpu).Permits op) :
    m.hw.Emits (· = .transition cpu ((m.slot cpu).after op)) (m.perform cpu op).hw := by
  cases op with
  | enter => exact .of_emit _ rfl
  | beginReturn =>
    have hmay : (m.slot cpu).mayReturn = true := h
    simp only [perform, beginReturn, CpuSlot.after, hmay, if_true]
    exact .of_emit _ rfl
  | leave =>
    have hdepth : (m.slot cpu).depth ≠ 0 := h
    simp only [perform, leave, CpuSlot.after, hdepth, if_false]
    exact .of_emit _ rfl
  | _ => exact .refl _

/-! ## Interleavings -/

/-- A step that no slot takes part in. -/
structure Aside (m n : Machine) : Prop where
  cpus : n.cpus = m.cpus
  traps : n.traps = m.traps
  emits : m.hw.Emits Effect.Aside n.hw

theorem Aside.refl (m : Machine) : m.Aside m := ⟨rfl, rfl, .refl _⟩

theorem Aside.trans (h : m.Aside n) (h' : n.Aside o) : m.Aside o :=
  ⟨h'.cpus.trans h.cpus, h'.traps.trans h.traps, h.emits.trans h'.emits⟩

theorem Aside.slot (h : m.Aside n) (cpu : CpuId) : n.slot cpu = m.slot cpu :=
  congrArg (CpuRegistry.get · cpu) h.cpus

/-- From one machine to another, with the operations on slots in order, each with its core; anything
else may happen before, between and after them. -/
inductive Interleaved : Machine → List (CpuId × SlotOp) → Machine → Prop
  | done (m : Machine) : Interleaved m [] m
  | aside {m n o : Machine} {es : List (CpuId × SlotOp)} (h : m.Aside n)
    (rest : Interleaved n es o) : Interleaved m es o
  | perform {m o : Machine} {cpu : CpuId} (op : SlotOp) {es : List (CpuId × SlotOp)}
    (rest : Interleaved (m.perform cpu op) es o) : Interleaved m ((cpu, op) :: es) o

end Machine

/-- The operations on the slot of one core. -/
def opsOf (cpu : CpuId) (es : List (CpuId × SlotOp)) : List SlotOp :=
  es.filterMap fun e => if e.1 = cpu then some e.2 else none

theorem opsOf_cons_same (cpu : CpuId) (op : SlotOp) (es : List (CpuId × SlotOp)) :
    opsOf cpu ((cpu, op) :: es) = op :: opsOf cpu es :=
  List.filterMap_cons_some (if_pos rfl)

theorem opsOf_cons_of_ne {cpu other : CpuId} (h : other ≠ cpu) (op : SlotOp)
    (es : List (CpuId × SlotOp)) : opsOf cpu ((other, op) :: es) = opsOf cpu es :=
  List.filterMap_cons_none (if_neg h)

theorem opsOf_same (cpu : CpuId) : ∀ ops : List SlotOp, opsOf cpu (ops.map (cpu, ·)) = ops
  | [] => rfl
  | op :: ops => by rw [List.map_cons, opsOf_cons_same, opsOf_same cpu ops]

theorem opsOf_of_ne {cpu other : CpuId} (h : other ≠ cpu) : ∀ ops : List SlotOp,
    opsOf cpu (ops.map (other, ·)) = []
  | [] => rfl
  | op :: ops => by rw [List.map_cons, opsOf_cons_of_ne h, opsOf_of_ne h ops]

namespace Machine.Interleaved

variable {m n o : Machine} {es fs : List (CpuId × SlotOp)}

theorem trans (h : m.Interleaved es n) (h' : n.Interleaved fs o) :
    m.Interleaved (es ++ fs) o := by
  induction h with
  | done m => exact h'
  | aside ha _ ih => exact .aside ha (ih h')
  | perform op _ ih => exact .perform op (ih h')

/-- The slot of a core follows the operations of that core. -/
theorem slot (h : m.Interleaved es n) (cpu : CpuId) :
    n.slot cpu = (m.slot cpu).run (opsOf cpu es) := by
  induction h with
  | done m => rfl
  | aside ha _ ih => rw [ih, ha.slot]
  | @perform m o who op es _ ih =>
    by_cases hc : who = cpu
    · subst hc
      rw [ih, opsOf_cons_same, slot_perform]
      rfl
    · rw [ih, opsOf_cons_of_ne hc, slot_perform_of_ne m (Ne.symm hc)]

theorem traps (h : m.Interleaved es n) :
    n.traps = (es.filterMap fun e => e.2.recorded?).foldl TrapRing.record m.traps := by
  induction h with
  | done m => rfl
  | aside ha _ ih => rw [ih, ha.traps]
  | @perform m o cpu op es _ ih =>
    rw [ih, traps_perform]
    cases op <;> rfl

/-- What is legal on every core for itself is seen and reported as legal in any interleaving. -/
theorem lawful (h : m.Interleaved es n)
    (hf : ∀ cpu, (m.slot cpu).Follows (opsOf cpu es)) : m.hw.Emits Effect.Lawful n.hw := by
  induction h with
  | done m => exact .refl _
  | aside ha _ ih =>
    refine (ha.emits.mono fun _ => Effect.Aside.lawful).trans (ih fun cpu => ?_)
    rw [ha.slot]
    exact hf cpu
  | @perform m o who op es _ ih =>
    have hwho := hf who
    rw [opsOf_cons_same] at hwho
    have hstep : m.hw.Emits Effect.Lawful (m.perform who op).hw :=
      (emits_perform hwho.1).mono fun e he => by rw [he]; exact hwho.2.1
    refine hstep.trans (ih fun cpu => ?_)
    by_cases hc : who = cpu
    · subst hc
      rw [slot_perform]
      exact hwho.2.2
    · have hother := hf cpu
      rw [opsOf_cons_of_ne hc] at hother
      rw [slot_perform_of_ne m (Ne.symm hc)]
      exact hother

end Machine.Interleaved

end TrapLayer
