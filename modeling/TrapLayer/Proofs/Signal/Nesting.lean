import TrapLayer.Proofs.Signal.RoundTrip

/-!
# Nested handlers unwind in stack order

A handler may be interrupted by another signal, whose frame goes below the handler's own. As long as
each handler writes only below its frame, the frames lie one below the other and none of them is
touched before its return: a delivery writes below the frames that wait, and a return only reads.
So the returns succeed in reverse order, and each gives back what its delivery interrupted.

* `keeps_deliver`, `keeps_sigreturn`: what a delivery and a return leave alone.
* `Interruption.returns`: a frame that is intact is returned from.
* `Nesting`: the runs of nested handlers, with the deliveries that wait for their return.
* `Nesting.stacked`: in every run the frames are ordered and intact.
* `nested_handlers_unwind`: so they unwind.
-/
namespace TrapLayer

/-! ## What deliveries and returns leave alone -/

theorem keeps_deliver {hw hw' : Hardware} {task : Task} {sig : Signal} {info : SigInfo}
    {frame : ExceptionFrame} {d : Delivery} {top : UInt64}
    (h : deliver hw task sig info frame = (.ok d, hw'))
    (htop : signalStackTop task.signals.altstack (task.signals.action sig).flags frame.sp =
      some top)
    {lo hi : Nat} (ho : hi ≤ d.addr.toNat ∨ top.toNat ≤ lo) : hw.Keeps hw' lo hi := by
  obtain ⟨p, hd⟩ := delivered_of_ok h
  rw [hd.at_, ← hd.top_eq htop] at ho
  refine ⟨hd.map, ?_⟩
  rw [hd.memory]
  exact (hd.accepted.region.agreeOn_written hw.memory _ _ lo hi ho).symm

theorem Hardware.OnlyReads.keeps {hw hw' : Hardware} (h : hw.OnlyReads hw') (lo hi : Nat) :
    hw.Keeps hw' lo hi := by
  refine ⟨h.sameMap, ?_⟩
  rw [h.memory]
  exact .refl _ lo hi

theorem Hardware.keeps_write (hw : Hardware) (addr : UInt64) (bytes : Bytes) {lo hi : Nat}
    (hw' : addr.toNat + bytes.length ≤ 2 ^ 64)
    (ho : hi ≤ addr.toNat ∨ addr.toNat + bytes.length ≤ lo) :
    hw.Keeps { hw with memory := hw.memory.write addr bytes } lo hi :=
  ⟨⟨rfl, rfl, rfl⟩, (Memory.agreeOn_write hw.memory addr bytes lo hi hw' ho).symm⟩

theorem keeps_sigreturn (hw : Hardware) (task : Task) (frame : ExceptionFrame) (lo hi : Nat) :
    hw.Keeps (sigreturn hw task frame).2 lo hi := by
  rcases sigreturn_cases hw task frame with
    ⟨image, read, hread, -, heq⟩ | ⟨e, read, hread, -, heq⟩
  · obtain ⟨fp, hloaded⟩ := restoreRecords_hardware frame.euen image.frame.context.pc
      image.records { task with signals := restoreSignals image.frame task.signals } read
    rw [heq]
    refine (hread.keeps lo hi).trans ?_
    rw [hloaded]
    exact ⟨⟨rfl, rfl, rfl⟩, .refl _ lo hi⟩
  · rw [heq]
    exact hread.keeps lo hi

/-! ## A delivery that waits for its return -/

/-- A delivery to a task whose alternate stack is off: the code that `frame` belongs to was
interrupted. -/
structure Interruption where
  before : Hardware
  task : Task
  sig : Signal
  info : SigInfo
  frame : ExceptionFrame
  delivery : Delivery
  after : Hardware
  delivered : deliver before task sig info frame = (.ok delivery, after)
  noAltStack : task.signals.altstack.enabled = false

namespace Interruption

variable (o : Interruption)

/-- Address of the frame. -/
def addr : UInt64 := o.delivery.addr

/-- Where the records above it end. -/
def top : UInt64 := alignDown o.frame.sp 16

theorem signalStackTop_eq :
    signalStackTop o.task.signals.altstack (o.task.signals.action o.sig).flags o.frame.sp =
      some o.top := by
  have hoff : o.task.signals.altstack.contains o.frame.sp = false := by
    unfold AltStack.contains
    rw [o.noAltStack, Bool.false_and, Bool.false_and]
  unfold signalStackTop
  simp only [hoff, o.noAltStack, Bool.false_and, Bool.and_false, Bool.false_eq_true, if_false]
  rfl

theorem addr_le_top : o.addr.toNat ≤ o.top.toNat := by
  obtain ⟨p, hd⟩ := delivered_of_ok o.delivered
  have hr := hd.accepted.region
  have hadd := hr.addr_add
  have hlow := hr.low_le
  unfold addr
  rw [hd.at_, ← hd.top_eq o.signalStackTop_eq]
  omega

theorem top_le_sp : o.top.toNat ≤ o.frame.sp.toNat := (alignDown_spec o.frame.sp 16 (by decide)).2.1

/-- The frame and its records are in memory as the delivery left them. -/
def Intact (hw : Hardware) : Prop := o.after.Keeps hw o.addr.toNat o.top.toNat

/-- What a return gives back: the registers, with register zero zero, the program counter, and the
mask without the signals that cannot be blocked. -/
structure RestoredBy (back : Returned) : Prop where
  regs : back.frame.regs = o.frame.regs.put Reg.zero 0
  era : back.frame.era = o.frame.era
  blocked : back.task.signals.blocked = o.task.signals.blocked.without .unblockable

/-- A return at an intact frame succeeds, from any task and any registers. -/
theorem returns {hw : Hardware} (h : o.Intact hw) (task : Task) {frame : ExceptionFrame}
    (hsp : frame.sp = o.addr) :
    ∃ (back : Returned) (hw' : Hardware),
      sigreturn hw task frame = (.ok back, hw') ∧ o.RestoredBy back := by
  obtain ⟨read, hret⟩ := sigreturn_of_deliver task o.delivered o.signalStackTop_eq h hsp
  have hsame := restoreRecords_sameBut frame.euen o.frame.era
    (returnImage o.before o.task o.info o.frame).records
    { task with
      signals := restoreSignals (returnImage o.before o.task o.info o.frame).frame task.signals }
    read
  exact ⟨_, _, hret, rfl, rfl, hsame.blocked⟩

end Interruption

/-! ## Runs of nested handlers -/

/-- What user code may do while some deliveries wait, innermost first: everything but change the
page map, or the memory from the frame of its own handler on. -/
def RunsBelow (waiting : List Interruption) (hw hw' : Hardware) : Prop :=
  match waiting with
  | [] => hw.SameMap hw'
  | o :: _ => hw.Keeps hw' o.addr.toNat (2 ^ 64)

theorem RunsBelow.refl (waiting : List Interruption) (hw : Hardware) : RunsBelow waiting hw hw := by
  cases waiting with
  | nil => exact ⟨rfl, rfl, rfl⟩
  | cons o rest => exact Hardware.Keeps.refl hw _ _

/-- The hardware that nested handlers may reach, and the deliveries that wait, innermost first. A
delivery starts with the stack pointer at or below the frame of the handler that it interrupts; a
return is made at the innermost frame. -/
inductive Nesting : Hardware → List Interruption → Prop
  | start (hw : Hardware) : Nesting hw []
  | code {hw hw' : Hardware} {waiting : List Interruption} (h : Nesting hw waiting)
      (hrun : RunsBelow waiting hw hw') : Nesting hw' waiting
  | deliver {waiting : List Interruption} (o : Interruption) (h : Nesting o.before waiting)
      (hsp : ∀ outer ∈ waiting.head?, o.frame.sp ≤ outer.addr) : Nesting o.after (o :: waiting)
  | sigreturn {hw hw' : Hardware} {o : Interruption} {waiting : List Interruption} {task : Task}
      {frame : ExceptionFrame} {back : Returned} (h : Nesting hw (o :: waiting))
      (hsp : frame.sp = o.addr) (hret : TrapLayer.sigreturn hw task frame = (.ok back, hw')) :
      Nesting hw' waiting

/-- The frames of the deliveries that wait lie one below the other, and all are intact. -/
structure Stacked (waiting : List Interruption) (hw : Hardware) : Prop where
  ordered : waiting.Pairwise fun inner outer => inner.top.toNat ≤ outer.addr.toNat
  intact : ∀ o ∈ waiting, o.Intact hw

namespace Stacked

variable {waiting : List Interruption} {hw hw' : Hardware} {o : Interruption}

theorem addr_le (h : Stacked (o :: waiting) hw) : ∀ outer ∈ o :: waiting,
    o.addr.toNat ≤ outer.addr.toNat := by
  intro outer hmem
  rcases List.mem_cons.1 hmem with rfl | hmem
  · exact Nat.le_refl _
  · have htop := (List.pairwise_cons.1 h.ordered).1 outer hmem
    exact Nat.le_trans o.addr_le_top htop

theorem code (h : Stacked waiting hw) (hrun : RunsBelow waiting hw hw') : Stacked waiting hw' := by
  refine ⟨h.ordered, fun outer hmem => (h.intact outer hmem).trans ?_⟩
  cases waiting with
  | nil => cases hmem
  | cons o rest =>
    -- the code of the innermost handler writes below its frame, so below all of them
    have hrun : hw.Keeps hw' o.addr.toNat (2 ^ 64) := hrun
    exact ⟨hrun.map, hrun.bytes.mono (h.addr_le outer hmem) (Nat.le_of_lt outer.top.toNat_lt)⟩

theorem deliver (h : Stacked waiting o.before)
    (hsp : ∀ outer ∈ waiting.head?, o.frame.sp ≤ outer.addr) :
    Stacked (o :: waiting) o.after := by
  have habove : ∀ outer ∈ waiting, o.top.toNat ≤ outer.addr.toNat := by
    intro outer hmem
    cases waiting with
    | nil => cases hmem
    | cons inner rest =>
      have hhead := UInt64.le_iff_toNat_le.1 (hsp inner rfl)
      have htop := o.top_le_sp
      have hle := h.addr_le outer hmem
      omega
  refine ⟨List.pairwise_cons.2 ⟨habove, h.ordered⟩, fun outer hmem => ?_⟩
  rcases List.mem_cons.1 hmem with rfl | hmem
  · exact .refl _ _ _
  · exact (h.intact outer hmem).trans
      (keeps_deliver o.delivered o.signalStackTop_eq (.inr (habove outer hmem)))

theorem sigreturn {task : Task} {frame : ExceptionFrame} (h : Stacked (o :: waiting) hw)
    (hret : (TrapLayer.sigreturn hw task frame).2 = hw') : Stacked waiting hw' := by
  refine ⟨(List.pairwise_cons.1 h.ordered).2, fun outer hmem => ?_⟩
  rw [← hret]
  exact (h.intact outer (List.mem_cons_of_mem o hmem)).trans (keeps_sigreturn hw task frame _ _)

end Stacked

/-- Every run keeps its frames ordered and intact. -/
theorem Nesting.stacked {hw : Hardware} {waiting : List Interruption} (h : Nesting hw waiting) :
    Stacked waiting hw := by
  induction h with
  | start hw => exact ⟨.nil, fun _ hmem => absurd hmem List.not_mem_nil⟩
  | code _ hrun ih => exact ih.code hrun
  | deliver o _ hsp ih => exact ih.deliver hsp
  | sigreturn _ _ hret ih => exact ih.sigreturn (congrArg Prod.snd hret)

/-- The deliveries that wait can be returned from one after the other, innermost first, and each
return gives back what its delivery interrupted. Before it, the code of the handler may go on below
its frame; task and registers are whatever they are by then. -/
def Unwinds : List Interruption → Hardware → Prop
  | [], _ => True
  | o :: rest, hw => ∀ (later : Hardware) (task : Task) (frame : ExceptionFrame),
      RunsBelow (o :: rest) hw later → frame.sp = o.addr →
      ∃ (back : Returned) (hw' : Hardware),
        sigreturn later task frame = (.ok back, hw') ∧ o.RestoredBy back ∧ Unwinds rest hw'

theorem Stacked.unwinds : ∀ {waiting : List Interruption} {hw : Hardware}, Stacked waiting hw →
    Unwinds waiting hw
  | [], _, _ => trivial
  | o :: rest, hw, h => by
    intro later task frame hrun hsp
    have hlater := h.code hrun
    obtain ⟨back, hw', hret, hback⟩ :=
      o.returns (hlater.intact o List.mem_cons_self) task hsp
    have hrest : Stacked rest hw' := hlater.sigreturn (congrArg Prod.snd hret)
    exact ⟨back, hw', hret, hback, hrest.unwinds⟩

/-- Nested handlers unwind in stack order, however deeply they are nested and whatever handlers were
already left. The deliveries that wait have their frames one below the other, each as it was left in
memory: no later delivery, return or handler has changed a byte of it. The returns at these frames
succeed, innermost first, and give back the registers, the program counter and the mask that each
delivery interrupted. -/
theorem nested_handlers_unwind {hw : Hardware} {waiting : List Interruption}
    (h : Nesting hw waiting) :
    (waiting.Pairwise fun inner outer => inner.top.toNat ≤ outer.addr.toNat) ∧
      (∀ o ∈ waiting, o.Intact hw) ∧ Unwinds waiting hw :=
  ⟨h.stacked.ordered, h.stacked.intact, h.stacked.unwinds⟩

/-! ## A handler inside a handler -/

/-- A handler writes to its stack, is interrupted further down, and both handlers are left. -/
theorem nested_handlers_unwind_within :
    let hw := Hardware.mapped ⟨true, true, true, true⟩
    let task := Task.handling Signal.usr1 ⟨0x8000, 0, 0, .empty⟩
    let frame := ExceptionFrame.ofUser 0x4000 0x100000
    let inHandler := ExceptionFrame.ofUser 0x8010 0x80000
    ∃ (outer inner : Delivery) (hw₁ hw₂ : Hardware),
      deliver hw task Signal.usr1 .blank frame = (.ok outer, hw₁) ∧
      deliver { hw₁ with memory := hw₁.memory.write 0x90000 [1, 2, 3] } task Signal.usr1 .blank
        inHandler = (.ok inner, hw₂) ∧
      ∃ (left back : Returned) (hw₃ hw₄ : Hardware),
        sigreturn hw₂ inner.task inner.frame = (.ok left, hw₃) ∧
        left.frame.regs = inHandler.regs.put Reg.zero 0 ∧ left.frame.era = 0x8010 ∧
        sigreturn hw₃ left.task outer.frame = (.ok back, hw₄) ∧
        back.frame.regs = frame.regs.put Reg.zero 0 ∧ back.frame.era = 0x4000 := by
  intro hw task frame inHandler
  obtain ⟨outer, hw₁, hd₁⟩ : ∃ d hw', deliver hw task Signal.usr1 .blank frame = (.ok d, hw') :=
    deliver_of_isOk (by decide +kernel)
  have haddr : outer.addr = 0xff920 := by
    have haddr : (deliver hw task Signal.usr1 .blank frame).1.toOption.map Delivery.addr =
      some 0xff920 := by decide +kernel
    rw [hd₁] at haddr
    exact Option.some.inj haddr
  obtain ⟨inner, hw₂, hd₂⟩ : ∃ d hw', deliver
      { hw₁ with memory := hw₁.memory.write 0x90000 [1, 2, 3] } task Signal.usr1 .blank inHandler =
        (.ok d, hw') := by
    have hhw : hw₁ = (deliver hw task Signal.usr1 .blank frame).2 := by rw [hd₁]
    rw [hhw]
    exact deliver_of_isOk (by decide +kernel)
  refine ⟨outer, inner, hw₁, hw₂, hd₁, hd₂, ?_⟩
  have hoff : task.signals.altstack.enabled = false := by decide +kernel
  let first : Interruption := ⟨hw, task, Signal.usr1, .blank, frame, outer, hw₁, hd₁, hoff⟩
  let second : Interruption := ⟨{ hw₁ with memory := hw₁.memory.write 0x90000 [1, 2, 3] }, task,
    Signal.usr1, .blank, inHandler, inner, hw₂, hd₂, hoff⟩
  have hwrite : RunsBelow [first] hw₁ second.before := by
    have hroom : (0x90000 : UInt64).toNat + [1, 2, 3].length ≤ outer.addr.toNat := by
      rw [haddr]
      decide
    exact hw₁.keeps_write 0x90000 [1, 2, 3] (by decide) (.inr hroom)
  have hbelow : ∀ o ∈ [first].head?, second.frame.sp ≤ o.addr := by
    rintro o ⟨⟩
    show inHandler.sp ≤ outer.addr
    rw [haddr]
    decide +kernel
  have hentered : Nesting hw₁ [first] := .deliver first (.start hw) (by simp)
  have hrun : Nesting hw₂ [second, first] := .deliver second (hentered.code hwrite) hbelow
  obtain ⟨-, -, hunwind⟩ := nested_handlers_unwind hrun
  obtain ⟨left, hw₃, hleft, hl, hrest⟩ :=
    hunwind hw₂ inner.task inner.frame (.refl _ _) (sp_of_deliver hd₂)
  obtain ⟨back, hw₄, hback, hb, -⟩ :=
    hrest hw₃ left.task outer.frame (.refl _ _) (sp_of_deliver hd₁)
  exact ⟨left, back, hw₃, hw₄, hleft, hl.regs, hl.era, hback, hb.regs, hb.era⟩

end TrapLayer
