import TrapLayer.Proofs.Signal.AltStack
import TrapLayer.Proofs.Signal.Grammar
import TrapLayer.Signal.Checked

/-!
# The arithmetic of a delivery

Every address that a delivery computes is a sum or a difference of words. The differences are
guarded: a stack pointer is compared before a base is taken from it, and a top below the room of the
largest chain is refused. The sum that gives the end of an alternate stack is not, and a return
installs any stack that stands in its image.

* `signalStackTopChecked_eq`, `planDeliveryChecked_eq`: without a stack whose end does not fit, no
  check fails and the results are those of the unchecked arithmetic.
* `deliverChecked_eq`, `deliverChecked_of_wraps`: which deliveries stop.
* `altstack_of_sigreturn`: the stack that a return installs.
* `installed_stack_fits_iff`: after a return, no delivery stops exactly when the stack of the image
  is off, empty, or ends in the address space.
-/
namespace TrapLayer

theorem Checked.sub_ofNat {a : UInt64} {n : Nat} (h : n ≤ a.toNat) :
    sub a (UInt64.ofNat n) = .ok (a - UInt64.ofNat n) := by
  refine sub_of_le ?_
  rw [toNat_ofNat (Nat.lt_of_le_of_lt h a.toNat_lt)]
  exact h

/-! ## Stacks -/

namespace AltStack

/-- A base is taken only from a stack pointer above it. -/
theorem containsChecked_eq (s : AltStack) (sp : UInt64) :
    s.containsChecked sp = .ok (s.contains sp) := by
  unfold containsChecked contains
  by_cases h : (s.enabled && decide (s.sp < sp)) = true
  · have hlt : s.sp < sp := by
      rw [Bool.and_eq_true, decide_eq_true_eq] at h
      exact h.2
    rw [if_pos h, Checked.sub_of_le (Nat.le_of_lt (UInt64.lt_iff_toNat_lt.1 hlt)), Checked.ok_bind,
      h, Bool.true_and]
    rfl
  · rw [if_neg h, Bool.eq_false_iff.2 h, Bool.false_and]
    rfl

theorem leavesChecked_eq (s : AltStack) (sp next : UInt64) :
    s.leavesChecked sp next = .ok (s.contains sp && !s.contains next) := by
  unfold leavesChecked
  rw [containsChecked_eq, containsChecked_eq, Checked.ok_bind, Checked.ok_bind]
  cases s.contains sp <;> rfl

/-- A delivery for an action with these flags moves to the stack. -/
structure EnteredBy (s : AltStack) (flags sp : UInt64) : Prop where
  enabled : s.enabled = true
  asked : hasBits flags SigFlag.onStack = true
  outside : s.contains sp = false

theorem enteredBy_iff (s : AltStack) (flags sp : UInt64) :
    s.EnteredBy flags sp ↔
      (hasBits flags SigFlag.onStack && s.enabled && !s.contains sp) = true := by
  simp only [Bool.and_eq_true, Bool.not_eq_true']
  exact ⟨fun h => ⟨⟨h.asked, h.enabled⟩, h.outside⟩, fun h => ⟨h.1.2, h.1.1, h.2⟩⟩

/-- The end of the stack does not fit in a word. -/
def Wraps (s : AltStack) : Prop := 2 ^ 64 ≤ s.sp.toNat + s.size.toNat

end AltStack

/-- Entering a stack that does not end in the address space stops at its end. -/
theorem signalStackTopChecked_of_wraps {alt : AltStack} {flags sp : UInt64}
    (h : alt.EnteredBy flags sp) (hw : alt.Wraps) :
    signalStackTopChecked alt flags sp = .error .add := by
  have henter := (alt.enteredBy_iff flags sp).1 h
  have hstay : ¬ (alt.contains sp && !alt.contains (sp - UInt64.ofNat SigFrame.size)) = true := by
    rw [h.outside, Bool.false_and]
    exact Bool.false_ne_true
  unfold signalStackTopChecked
  rw [AltStack.leavesChecked_eq, AltStack.containsChecked_eq, Checked.ok_bind, Checked.ok_bind,
    if_neg hstay, if_pos henter, Checked.add_of_le hw, Checked.error_bind]

theorem signalStackTopChecked_eq {alt : AltStack} {flags sp : UInt64}
    (h : ¬ (alt.EnteredBy flags sp ∧ alt.Wraps)) :
    signalStackTopChecked alt flags sp = .ok (signalStackTop alt flags sp) := by
  unfold signalStackTopChecked signalStackTop
  rw [AltStack.leavesChecked_eq, AltStack.containsChecked_eq, Checked.ok_bind, Checked.ok_bind]
  split
  · rfl
  · split
    · rename_i henter
      have hfits : ¬ alt.Wraps := fun hw => h ⟨(alt.enteredBy_iff flags sp).2 henter, hw⟩
      rw [Checked.add_of_lt (Nat.lt_of_not_le hfits), Checked.ok_bind, Checked.pure_eq]
    · rfl

/-! ## Chains -/

namespace ChainLayout

theorem placeChecked_eq {base : UInt64} {k : RecordKind} (h : Fits base k) :
    placeChecked base k = .ok (place base k) := by
  have hle := (place_spec h).1
  unfold placeChecked
  rw [Checked.sub_ofNat h.1, Checked.ok_bind, Checked.sub_ofNat h.2, Checked.ok_bind]
  have hsize : Checked.sub base (place base k).addr = .ok (base - (place base k).addr) :=
    Checked.sub_of_le (by omega)
  unfold place at hsize ⊢
  dsimp only at hsize ⊢
  rw [hsize, Checked.ok_bind, Checked.pure_eq]

theorem placeAllChecked_eq : ∀ {kinds : List RecordKind} {base : UInt64}, FitsBelow base kinds →
    placeAllChecked base kinds = .ok (placeAll base kinds)
  | [], _, _ => rfl
  | k :: ks, base, h => by
    rw [placeAllChecked, placeChecked_eq h.1, Checked.ok_bind, placeAllChecked_eq h.2,
      Checked.ok_bind, Checked.pure_eq, placeAll]

theorem planChecked_eq {sp : UInt64} {kinds : List RecordKind} (h : Sound sp kinds) :
    planChecked sp kinds = .ok (plan sp kinds) := by
  unfold planChecked plan
  dsimp only
  rw [Checked.sub_ofNat h.terminator, Checked.ok_bind, placeAllChecked_eq h.records,
    Checked.ok_bind, Checked.pure_eq]

end ChainLayout

/-! ## Deliveries -/

/-- The delivery of a signal enters a stack that does not end in the address space. -/
structure Task.EntersWrapped (task : Task) (sig : Signal) (sp : UInt64) : Prop where
  handled : ∃ handler, (task.signals.action sig).disposition sig = .handler handler
  enters : task.signals.altstack.EnteredBy (task.signals.action sig).flags sp
  wraps : task.signals.altstack.Wraps

theorem planDeliveryChecked_of_wraps {features : Features} {task : Task} {sig : Signal}
    {frame : ExceptionFrame} (h : task.EntersWrapped sig frame.sp) :
    planDeliveryChecked features task sig frame = .error .add := by
  obtain ⟨handler, hd⟩ := h.handled
  unfold planDeliveryChecked
  simp only [hd]
  rw [signalStackTopChecked_of_wraps h.enters h.wraps, Checked.error_bind]

/-- A plan with a sound region is laid out without a failing check. -/
theorem DeliveryPlan.acceptChecked_eq {p : DeliveryPlan} (h : p.Region) (alt : AltStack)
    (sp : UInt64) :
    p.acceptChecked alt sp =
      .ok (if alt.contains sp && !alt.contains p.addr then .error .altStackOverflow
        else .ok p) := by
  have hlow := h.low_le
  have haddr : Checked.sub (ChainLayout.plan p.top p.kinds).low (UInt64.ofNat SigFrame.size) =
      .ok p.addr := Checked.sub_ofNat h.frame_fits
  have hlength : Checked.sub p.top p.addr = .ok (p.top - p.addr) :=
    Checked.sub_of_le (by have := h.addr_add; omega)
  unfold acceptChecked
  rw [ChainLayout.planChecked_eq h.sound, Checked.ok_bind, haddr, Checked.ok_bind,
    AltStack.leavesChecked_eq, Checked.ok_bind, hlength, Checked.ok_bind]
  split <;> rfl

theorem planDeliveryChecked_eq {features : Features} {task : Task} {sig : Signal}
    {frame : ExceptionFrame} (h : ¬ task.EntersWrapped sig frame.sp) :
    planDeliveryChecked features task sig frame = .ok (planDelivery features task sig frame) := by
  unfold planDeliveryChecked planDelivery
  cases hd : (task.signals.action sig).disposition sig with
  | handler handler =>
    have hstack := signalStackTopChecked_eq fun hw => h ⟨⟨handler, hd⟩, hw.1, hw.2⟩
    simp only [hd, hstack, Checked.ok_bind]
    cases htop : signalStackTop task.signals.altstack (task.signals.action sig).flags frame.sp with
    | none => rfl
    | some top =>
      dsimp only
      split
      · rfl
      · rename_i hroom
        exact DeliveryPlan.acceptChecked_eq (DeliveryPlan.region_of_room rfl
          (signalStackTop_mod htop) (Nat.le_of_not_lt hroom)) _ _
  | ignore | terminate | stop =>
    simp only [hd]
    rfl

theorem deliverChecked_of_wraps {task : Task} {sig : Signal} {frame : ExceptionFrame}
    (h : task.EntersWrapped sig frame.sp) (hw : Hardware) (info : SigInfo) :
    deliverChecked hw task sig info frame = .error .add := by
  unfold deliverChecked
  rw [planDeliveryChecked_of_wraps h, Checked.error_bind]

theorem deliverChecked_eq {task : Task} {sig : Signal} {frame : ExceptionFrame}
    (h : ¬ task.EntersWrapped sig frame.sp) (hw : Hardware) (info : SigInfo) :
    deliverChecked hw task sig info frame = .ok (deliver hw task sig info frame) := by
  unfold deliverChecked deliver
  rw [planDeliveryChecked_eq h, Checked.ok_bind]
  cases planDelivery hw.features task sig frame <;> rfl

theorem addr_lt_of_deliver {hw hw' : Hardware} {task : Task} {sig : Signal} {info : SigInfo}
    {frame : ExceptionFrame} {d : Delivery}
    (h : deliver hw task sig info frame = (.ok d, hw')) :
    d.addr.toNat + SigFrame.size < 2 ^ 64 := by
  obtain ⟨p, hp, -, hb⟩ := deliver_ok h
  obtain ⟨rfl, -⟩ := Prod.mk.inj hb
  have hadd : p.addr.toNat + SigFrame.size = p.layout.low.toNat := hp.region.addr_add
  have hlow := hp.region.low_le
  have htop := p.top.toNat_lt
  show p.addr.toNat + SigFrame.size < 2 ^ 64
  omega

/-! ## Installed stacks -/

/-- A return installs the stack of the image that it reads. -/
theorem altstack_of_sigreturn {hw hw' : Hardware} {task : Task} {frame : ExceptionFrame}
    {back : Returned} (h : sigreturn hw task frame = (.ok back, hw')) :
    back.task.signals.altstack =
      restoredAltStack (SigFrame.ofBytes (hw.memory.read frame.sp SigFrame.size)).stack := by
  rcases sigreturn_cases hw task frame with
    ⟨image, read, -, himage, heq⟩ | ⟨e, read, -, -, heq⟩
  · rw [heq] at h
    cases h
    obtain ⟨hframe, -⟩ := Hardware.readReturnImage_ok himage
    rw [restoreRecords_task, SignalState.altstack_queueFpe, ← hframe]
    rfl
  · rw [heq] at h
    cases h

theorem enabled_restoredAltStack (stack : AltStack) :
    (restoredAltStack stack).enabled = stack.enabled := by
  have hon : ((0 : UInt32) &&& AltStack.disable != 0) = false := by decide
  have hoff : AltStack.none.enabled = false := by decide
  unfold restoredAltStack
  split
  · rename_i hd
    rw [hoff, AltStack.enabled, hd, Bool.not_true, Bool.false_and]
  · rename_i hd
    rw [AltStack.enabled, AltStack.enabled, AltStack.isDisabled, hon, Bool.eq_false_iff.2 hd]

/-- An enabled stack is installed with the bounds that it has in the image. -/
theorem wraps_restoredAltStack {stack : AltStack} (h : stack.enabled = true) :
    (restoredAltStack stack).Wraps ↔ stack.Wraps := by
  have hd : ¬ stack.isDisabled = true := by
    intro hd
    rw [AltStack.enabled, hd] at h
    cases h
  rw [restoredAltStack, if_neg hd]
  rfl

/-- A signal with a handler on the alternate stack, taken on no stack, enters it. -/
theorem Task.handlingOn_enters {stack : AltStack} (he : stack.enabled = true)
    (hw : stack.Wraps) :
    (Task.handlingOn Signal.usr1 0x8000 (restoredAltStack stack)).EntersWrapped Signal.usr1 0 := by
  have hoff : (restoredAltStack stack).contains 0 = false := by
    rw [Bool.eq_false_iff]
    intro hc
    have hlt := ((AltStack.contains_iff _ _).1 hc).2.1
    exact Nat.not_lt_zero _ hlt
  have hasked : hasBits SigFlag.onStack SigFlag.onStack = true := by decide
  exact ⟨⟨0x8000, rfl⟩, ⟨(enabled_restoredAltStack stack).trans he, hasked, hoff⟩,
    (wraps_restoredAltStack he).2 hw⟩

/-- What a return installs decides whether a later delivery can stop. The task has the stack of the
image that was read. From then on, whatever else changes, a delivery for that stack stops exactly
when it enters the stack and the end of it does not fit in a word; no other sum or difference ever
fails. So no delivery can stop exactly when the stack of the image is off or ends in the address
space, and nothing on the way checks that. -/
theorem installed_stack_fits_iff {hw hw' : Hardware} {task : Task} {frame : ExceptionFrame}
    {back : Returned} (h : sigreturn hw task frame = (.ok back, hw')) :
    let stack := (SigFrame.ofBytes (hw.memory.read frame.sp SigFrame.size)).stack
    back.task.signals.altstack = restoredAltStack stack ∧
    (∀ (later : Hardware) (next : Task) (sig : Signal) (info : SigInfo) (f : ExceptionFrame),
      (next.EntersWrapped sig f.sp → deliverChecked later next sig info f = .error .add) ∧
      (¬ next.EntersWrapped sig f.sp →
        deliverChecked later next sig info f = .ok (deliver later next sig info f)) ∧
      ∀ d after, deliver later next sig info f = (.ok d, after) →
        d.addr.toNat + SigFrame.size < 2 ^ 64) ∧
    ((∀ (later : Hardware) (next : Task) (sig : Signal) (info : SigInfo) (f : ExceptionFrame),
        next.signals.altstack = back.task.signals.altstack →
          ∃ result, deliverChecked later next sig info f = .ok result) ↔
      (stack.enabled = true → stack.sp.toNat + stack.size.toNat < 2 ^ 64)) := by
  intro stack
  have hinstalled : back.task.signals.altstack = restoredAltStack stack := altstack_of_sigreturn h
  refine ⟨hinstalled, fun later next sig info f => ⟨fun hw => deliverChecked_of_wraps hw later info,
    fun hw => deliverChecked_eq hw later info, fun d after hd => addr_lt_of_deliver hd⟩, ?_⟩
  constructor
  · intro hall he
    refine Nat.lt_of_not_le fun hw => ?_
    obtain ⟨result, hresult⟩ := hall (.mapped ⟨true, true, true, true⟩)
      (.handlingOn Signal.usr1 0x8000 (restoredAltStack stack)) Signal.usr1 .blank .cleared
      hinstalled.symm
    rw [deliverChecked_of_wraps (Task.handlingOn_enters he hw)] at hresult
    cases hresult
  · intro hfits later next sig info f hnext
    refine ⟨_, deliverChecked_eq (fun hw => ?_) later info⟩
    have henabled := hw.enters.enabled
    have hwraps := hw.wraps
    rw [hnext, hinstalled] at henabled hwraps
    rw [enabled_restoredAltStack] at henabled
    exact Nat.not_le_of_lt (hfits henabled) ((wraps_restoredAltStack henabled).1 hwraps)

/-- Hardware whose memory holds, at `0x10000`, an image with a stack of that size that starts at the
last page of the address space. -/
def Hardware.stackAtEnd (size : UInt64) : Hardware :=
  { Hardware.mapped ⟨true, true, true, true⟩ with
    memory := Memory.zero.write (0x10000 + UInt64.ofNat SigFrame.ucStackOff)
      (le64 0xfffffffffffff000 ++ le64 0 ++ le64 size) }

/-- A stack that ends with the last address is installed, and no delivery stops. -/
theorem installed_stack_fits_iff_at_end :
    let task := Task.handling Signal.usr1 ⟨0x8000, SigFlag.onStack, 0, .empty⟩
    ∃ back hw', sigreturn (.stackAtEnd 0xfff) task (.ofUser 0 0x10000) = (.ok back, hw') ∧
      back.task.signals.altstack = ⟨0xfffffffffffff000, 0, 0xfff⟩ ∧
      ∀ (later : Hardware) (next : Task) (sig : Signal) (info : SigInfo) (f : ExceptionFrame),
        next.signals.altstack = back.task.signals.altstack →
          ∃ result, deliverChecked later next sig info f = .ok result := by
  intro task
  obtain ⟨back, hw', hret⟩ : ∃ back hw',
      sigreturn (.stackAtEnd 0xfff) task (.ofUser 0 0x10000) = (.ok back, hw') :=
    sigreturn_of_isOk (by decide +kernel)
  obtain ⟨hinstalled, -, hfits⟩ := installed_stack_fits_iff hret
  exact ⟨back, hw', hret, hinstalled.trans (by decide +kernel), hfits.2 fun _ => by decide +kernel⟩

/-- A page more, and the next delivery on the stack that was installed stops at its end. -/
theorem forged_stack_stops_delivery :
    let task := Task.handling Signal.usr1 ⟨0x8000, SigFlag.onStack, 0, .empty⟩
    ∃ back hw', sigreturn (.stackAtEnd 0x1fff) task (.ofUser 0 0x10000) = (.ok back, hw') ∧
      deliverChecked hw' back.task Signal.usr1 .blank back.frame = .error .add := by
  intro task
  obtain ⟨back, hw', hret⟩ : ∃ back hw',
      sigreturn (.stackAtEnd 0x1fff) task (.ofUser 0 0x10000) = (.ok back, hw') :=
    sigreturn_of_isOk (by decide +kernel)
  have hback : (sigreturn (.stackAtEnd 0x1fff) task (.ofUser 0 0x10000)).1.toOption.map
      (fun back => (back.task.signals.altstack, back.task.signals.action Signal.usr1,
        back.frame.sp)) =
      some (⟨0xfffffffffffff000, 0, 0x1fff⟩, ⟨0x8000, SigFlag.onStack, 0, .empty⟩, 0) := by
    decide +kernel
  rw [hret] at hback
  obtain ⟨halt, haction, hsp⟩ : back.task.signals.altstack = ⟨0xfffffffffffff000, 0, 0x1fff⟩ ∧
      back.task.signals.action Signal.usr1 = ⟨0x8000, SigFlag.onStack, 0, .empty⟩ ∧
      back.frame.sp = 0 := by
    simpa [Except.toOption] using hback
  refine ⟨back, hw', hret, deliverChecked_of_wraps ⟨⟨0x8000, ?_⟩, ?_, ?_⟩ hw' .blank⟩
  · rw [haction]
    rfl
  · rw [halt, haction, hsp]
    exact ⟨by decide, by decide, by decide⟩
  · rw [halt]
    unfold AltStack.Wraps
    decide

end TrapLayer
