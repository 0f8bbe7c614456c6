import TrapLayer.Proofs.Signal.RoundTrip

/-!
# Frames on the alternate stack

A delivery uses the alternate stack when the interrupted code runs on it already, and when the
action asks for it. The first is checked: a frame that would leave the stack is refused. The second
takes the top of the stack and does not look how much stack there is below it.

* `AltStack.contains_iff`: lying on a stack, as numbers.
* `ChainLayout.low_add_size`: the size of a layout leads from its lowest block to its top.
* `DeliveryPlan.Accepted.holds_iff`: when the region of a plan stays on the stack.
* `altStack_holds_frame_iff`: a delivery on the alternate stack stays on it if that stack was in
  use before, or has the room; a stack with room for every set of records always does.
-/
namespace TrapLayer

/-! ## The stack -/

namespace AltStack

/-- A frame goes to the stack: the interrupted code is on it, or the action asks for it. -/
def UsedBy (s : AltStack) (flags sp : UInt64) : Prop :=
  s.enabled = true ∧ (s.contains sp = true ∨ hasBits flags SigFlag.onStack = true)

/-- The bytes in `[addr, top)` are bytes of the stack. -/
def Holds (s : AltStack) (addr top : UInt64) : Prop :=
  s.sp.toNat ≤ addr.toNat ∧ top.toNat ≤ s.sp.toNat + s.size.toNat

instance (s : AltStack) (flags sp : UInt64) : Decidable (s.UsedBy flags sp) :=
  inferInstanceAs (Decidable (_ ∧ _))

instance (s : AltStack) (addr top : UInt64) : Decidable (s.Holds addr top) :=
  inferInstanceAs (Decidable (_ ∧ _))

theorem contains_iff (s : AltStack) (sp : UInt64) :
    s.contains sp = true ↔
      s.enabled = true ∧ s.sp.toNat < sp.toNat ∧ sp.toNat ≤ s.sp.toNat + s.size.toNat := by
  simp only [contains, Bool.and_eq_true, decide_eq_true_eq, UInt64.lt_iff_toNat_lt,
    UInt64.le_iff_toNat_le, and_assoc, and_congr_right_iff]
  intro _ hlt
  rw [UInt64.toNat_sub_of_le _ _ (UInt64.le_iff_toNat_le.2 (Nat.le_of_lt hlt))]
  omega

end AltStack

/-- A frame for the alternate stack starts below the interrupted stack pointer when that is on the
stack, and else at the top of the stack. -/
theorem signalStackTop_of_usedBy {alt : AltStack} {flags sp top : UInt64}
    (h : signalStackTop alt flags sp = some top) (huse : alt.UsedBy flags sp) :
    top = alignDown (if alt.contains sp = true then sp else alt.sp + alt.size) 16 := by
  obtain ⟨henabled, huse⟩ := huse
  unfold signalStackTop at h
  split at h
  · cases h
  · by_cases hc : alt.contains sp = true
    · simp only [hc, Bool.not_true, Bool.and_false, Bool.false_eq_true, if_false] at h
      rw [if_pos hc]; exact (Option.some.inj h).symm
    · have hflag := huse.resolve_left hc
      rw [Bool.not_eq_true] at hc
      simp only [hflag, henabled, hc, Bool.not_false, Bool.and_true, if_true] at h
      rw [hc, if_neg Bool.false_ne_true]; exact (Option.some.inj h).symm

/-- A frame for the alternate stack ends on it, and a stack that is entered loses less than 16
bytes at its top. -/
theorem signalStackTop_le {alt : AltStack} {flags sp top : UInt64}
    (h : signalStackTop alt flags sp = some top) (huse : alt.UsedBy flags sp)
    (hsize : alt.sp.toNat + alt.size.toNat < 2 ^ 64) :
    top.toNat ≤ alt.sp.toNat + alt.size.toNat ∧
      (alt.contains sp = false → alt.sp.toNat + alt.size.toNat < top.toNat + 16) := by
  have htop := signalStackTop_of_usedBy h huse
  by_cases hc : alt.contains sp = true
  · have hspec := (alignDown_spec sp 16 (by decide)).2
    have hle := ((alt.contains_iff sp).1 hc).2.2
    rw [if_pos hc] at htop
    rw [htop]
    exact ⟨Nat.le_trans hspec.1 hle, fun hn => absurd hc (by rw [hn]; decide)⟩
  · have hspec := (alignDown_spec (alt.sp + alt.size) 16 (by decide)).2
    rw [UInt64.toNat_add, Nat.mod_eq_of_lt hsize] at hspec
    rw [if_neg hc] at htop
    rw [htop]
    exact ⟨hspec.1, fun _ => hspec.2⟩

/-! ## The room a frame takes -/

namespace ChainLayout

theorem place_addr_add_size (base : UInt64) (k : RecordKind) :
    (place base k).addr + (place base k).size = base := by
  have h : (place base k).size = base - (place base k).addr := rfl
  rw [h, UInt64.add_comm, UInt64.sub_add_cancel]

theorem lowest_add_sizes : ∀ (kinds : List RecordKind) (base n : UInt64),
    lowest base kinds + (placeAll base kinds).foldl (fun n b => n + b.size) n = base + n
  | [], _, _ => rfl
  | k :: ks, base, n => by
    rw [lowest_cons, placeAll, List.foldl_cons, lowest_add_sizes ks, UInt64.add_comm n,
      ← UInt64.add_assoc, place_addr_add_size]

theorem low_add_size {top : UInt64} {kinds : List RecordKind} (h : Sound top kinds) :
    (plan top kinds).low.toNat + (plan top kinds).size.toNat = top.toNat := by
  have hword : (plan top kinds).low + (plan top kinds).size = top := by
    rw [low_eq_lowest]
    have hsizes := lowest_add_sizes kinds (top - UInt64.ofNat Record.headerSize)
      (0 + UInt64.ofNat Record.headerSize)
    rw [UInt64.zero_add, UInt64.sub_add_cancel] at hsizes
    exact hsizes
  have hle : (plan top kinds).low.toNat ≤ top.toNat := by
    rw [low_eq_lowest]
    have := lowest_le h.records
    have := toNat_sub_ofNat h.terminator
    omega
  have hsize : (plan top kinds).size = top - (plan top kinds).low := by
    calc (plan top kinds).size
        = (plan top kinds).low + (plan top kinds).size - (plan top kinds).low := by
          rw [UInt64.add_comm, UInt64.add_sub_cancel]
      _ = top - (plan top kinds).low := by rw [hword]
  rw [hsize, UInt64.toNat_sub_of_le _ _ (UInt64.le_iff_toNat_le.2 hle)]
  omega

/-- Bytes that a signal frame takes below a stack top: its image and its records. -/
def frameRoom (top : UInt64) (kinds : List RecordKind) : Nat :=
  SigFrame.size + (plan top kinds).size.toNat

end ChainLayout

namespace DeliveryPlan

variable {p : DeliveryPlan} {features : Features} {task : Task} {sig : Signal}
  {frame : ExceptionFrame}

theorem Region.addr_add_frameRoom (h : p.Region) :
    p.addr.toNat + ChainLayout.frameRoom p.top p.kinds = p.top.toNat := by
  have hlow : p.layout.low.toNat + (ChainLayout.plan p.top p.kinds).size.toNat = p.top.toNat :=
    ChainLayout.low_add_size h.sound
  have hadd := h.addr_add
  unfold ChainLayout.frameRoom
  omega

theorem Accepted.frameRoom_lt (h : p.Accepted features task sig frame) :
    ChainLayout.frameRoom p.top p.kinds < SigFrame.size + chainRoom := by
  have hsum := reachAll_recordKinds_lt features frame.euen task.switch.fpu
  rw [← h.kinds] at hsum
  have hsound := h.region.sound
  have hlow := ChainLayout.low_add_size hsound
  have hbase := toNat_sub_ofNat hsound.terminator
  have hge := ChainLayout.lowest_ge hsound.records
  rw [← ChainLayout.low_eq_lowest, hbase] at hge
  unfold ChainLayout.frameRoom
  omega

/-- The region of a plan stays on the alternate stack if that was in use before, since then it was
checked, or if the stack has the room. -/
theorem Accepted.holds_iff (h : p.Accepted features task sig frame)
    (huse : task.signals.altstack.UsedBy p.action.flags frame.sp)
    (hsize : task.signals.altstack.sp.toNat + task.signals.altstack.size.toNat < 2 ^ 64) :
    task.signals.altstack.Holds p.addr p.top ↔
      task.signals.altstack.contains frame.sp = true ∨
        task.signals.altstack.sp.toNat + ChainLayout.frameRoom p.top p.kinds ≤ p.top.toNat := by
  have hroom := h.region.addr_add_frameRoom
  have htop := (signalStackTop_le h.top huse hsize).1
  unfold AltStack.Holds
  constructor
  · rintro ⟨hbase, -⟩
    exact .inr (by omega)
  · rintro (hc | hfits)
    · -- only a plan for a stack in use was checked against its base
      have hbase := ((AltStack.contains_iff _ _).1 (h.onAltStack hc)).2.1
      exact ⟨Nat.le_of_lt hbase, htop⟩
    · exact ⟨by omega, htop⟩

/-- A stack with the room that a delivery keeps holds every frame that is delivered on it. -/
theorem Accepted.holds_of_size (h : p.Accepted features task sig frame)
    (huse : task.signals.altstack.UsedBy p.action.flags frame.sp)
    (hsize : task.signals.altstack.sp.toNat + task.signals.altstack.size.toNat < 2 ^ 64)
    (hroom : SigFrame.size + chainRoom + 16 ≤ task.signals.altstack.size.toNat) :
    task.signals.altstack.Holds p.addr p.top := by
  rw [h.holds_iff huse hsize]
  by_cases hc : task.signals.altstack.contains frame.sp = true
  · exact .inl hc
  · have hlast := (signalStackTop_le h.top huse hsize).2 (Bool.not_eq_true _ ▸ hc)
    have hlt := h.frameRoom_lt
    exact .inr (by omega)

/-- A stack smaller than a frame without records is left below its base. -/
theorem Accepted.addr_lt_of_size (h : p.Accepted features task sig frame)
    (huse : task.signals.altstack.UsedBy p.action.flags frame.sp)
    (hsize : task.signals.altstack.sp.toNat + task.signals.altstack.size.toNat < 2 ^ 64)
    (hsmall : task.signals.altstack.size.toNat < SigFrame.size + Record.headerSize) :
    p.addr.toNat < task.signals.altstack.sp.toNat := by
  have htop := (signalStackTop_le h.top huse hsize).1
  have hadd := h.region.addr_add
  have hlow := h.region.low_le
  omega

end DeliveryPlan

/-! ## Deliveries -/

/-- A delivery on the alternate stack leaves a frame with its records in one range below the stack
top. The range stays on that stack if the interrupted code ran on it already; if the delivery
switched to it, it does so exactly when the stack has the room, of which nothing is checked. -/
theorem altStack_holds_frame_iff {hw hw' : Hardware} {task : Task} {sig : Signal} {info : SigInfo}
    {frame : ExceptionFrame} {d : Delivery}
    (h : deliver hw task sig info frame = (.ok d, hw'))
    (huse : task.signals.altstack.UsedBy (task.signals.action sig).flags frame.sp)
    (hsize : task.signals.altstack.sp.toNat + task.signals.altstack.size.toNat < 2 ^ 64) :
    let alt := task.signals.altstack
    let kinds := recordKinds hw.features frame.euen task.switch.fpu
    ∃ top : UInt64,
      signalStackTop alt (task.signals.action sig).flags frame.sp = some top ∧
      Placed hw hw' kinds top d.addr ∧
      (alt.Holds d.addr top ↔ alt.contains frame.sp = true ∨
        alt.sp.toNat + ChainLayout.frameRoom top kinds ≤ top.toNat) ∧
      (SigFrame.size + chainRoom + 16 ≤ alt.size.toNat → alt.Holds d.addr top) ∧
      (alt.size.toNat < SigFrame.size + Record.headerSize → d.addr.toNat < alt.sp.toNat) := by
  obtain ⟨p, hp, hc, hb⟩ := deliver_ok h
  obtain ⟨rfl, rfl⟩ := Prod.mk.inj hb
  have hplaced := placed_of_build info hp hc
  have hflags : (task.signals.action sig).flags = p.action.flags := by rw [hp.action]
  rw [hflags] at huse
  refine ⟨p.top, by rw [hflags]; exact hp.top, hp.kinds ▸ hplaced, ?_,
    hp.holds_of_size huse hsize, hp.addr_lt_of_size huse hsize⟩
  rw [← hp.kinds]
  exact hp.holds_iff huse hsize

/-- A task that handles every signal on the alternate stack. -/
def Task.handlingOn (sig : Signal) (handler : UInt64) (alt : AltStack) : Task :=
  let task := Task.handling sig ⟨handler, SigFlag.onStack, 0, .empty⟩
  { task with signals := { task.signals with altstack := alt } }

/-- Four pages of stack hold a frame with the records of every unit. -/
theorem altStack_holds_frame_iff_room :
    let hw := Hardware.mapped ⟨true, true, true, true⟩
    let alt : AltStack := ⟨0x20000, 0, 0x4000⟩
    let task := Task.handlingOn Signal.usr1 0x8000 alt
    let frame := ExceptionFrame.ofUser 0x10000 0x13000
    alt.UsedBy SigFlag.onStack frame.sp ∧ alt.contains frame.sp = false ∧
    ∃ (d : Delivery) (hw' : Hardware) (top : UInt64),
      deliver hw task Signal.usr1 .blank frame = (.ok d, hw') ∧
      signalStackTop alt SigFlag.onStack frame.sp = some top ∧ alt.Holds d.addr top := by
  intro hw alt task frame
  have huse : alt.UsedBy SigFlag.onStack frame.sp := by decide +kernel
  refine ⟨huse, by decide +kernel, ?_⟩
  obtain ⟨d, hw', hd⟩ : ∃ d hw', deliver hw task Signal.usr1 .blank frame = (.ok d, hw') :=
    deliver_of_isOk (by decide +kernel)
  obtain ⟨top, htop, -, -, hroom, -⟩ := altStack_holds_frame_iff hd huse (by decide)
  exact ⟨d, hw', top, hd, htop, hroom (by decide)⟩

/-- A delivery that switches to a stack of 512 bytes at 0x11000 writes its frame from 0x10fa0 on. -/
theorem deliver_spills_below_altStack :
    let hw := Hardware.mapped ⟨true, true, true, true⟩
    let alt : AltStack := ⟨0x11000, 0, 0x200⟩
    let task := Task.handlingOn Signal.usr1 0x8000 alt
    let frame := { ExceptionFrame.ofUser 0x10000 0x13000 with euen := 0 }
    alt.UsedBy SigFlag.onStack frame.sp ∧ alt.sp.toNat + alt.size.toNat < 2 ^ 64 ∧
      (deliver hw task Signal.usr1 .blank frame).1.toOption.map Delivery.addr = some 0x10fa0 ∧
      signalStackTop alt SigFlag.onStack frame.sp = some 0x11200 ∧
      ¬ alt.Holds 0x10fa0 0x11200 := by
  decide +kernel

end TrapLayer
