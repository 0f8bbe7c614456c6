import TrapLayer.Proofs.Image.SignalFrame
import TrapLayer.Proofs.Signal.Return

/-!
# A signal return undoes a delivery

The frame and the chain of a delivery stay readable in memory for as long as their bytes and the
page map are left alone. A return that finds them puts back the registers, the mask, the alternate
stack and every register bank that was saved, whatever else the handler did.

* `imageAt_written`: what a delivery leaves in memory.
* `readReturnImage_of_imageAt`: a frame and a chain that can be read are read back.
* `restoreRecords_reloaded`: each record reaches its own registers, and no other record undoes it.
* `sigreturn_after_deliver`: a return gives the interrupted context back.
-/
namespace TrapLayer

/-! ## Frames in memory -/

theorem toNat_chainStart {sp : UInt64} (h : sp.toNat + SigFrame.size < 2 ^ 64) :
    (sp + UInt64.ofNat SigFrame.scExtOff).toNat = sp.toNat + SigFrame.size :=
  toNat_add_ofNat h

/-- What a return reads at `sp`: a frame, and behind it a chain that ends at `top`. -/
structure ImageAt (m : Memory) (sp : UInt64) (top : Nat) (image : ReturnImage) : Prop where
  room : sp.toNat + SigFrame.size ≤ top
  frame : SigFrame.ofBytes (m.read sp SigFrame.size) = image.frame
  chain : ChainAt m top (sp + UInt64.ofNat SigFrame.scExtOff) image.records

theorem ImageAt.congr {m m' : Memory} {sp : UInt64} {top : Nat} {image : ReturnImage}
    (ht : top < 2 ^ 64) (hm : Memory.AgreeOn m m' sp.toNat top) (h : ImageAt m sp top image) :
    ImageAt m' sp top image := by
  have hroom := h.room
  have hext := toNat_chainStart (show sp.toNat + SigFrame.size < 2 ^ 64 by omega)
  refine ⟨hroom, ?_, ?_⟩
  · rw [← hm.read (Nat.le_refl _) hroom (by omega)]
    exact h.frame
  · exact h.chain.congr ht (hm.mono (by omega) (Nat.le_refl _))

theorem readReturnImage_of_imageAt {hw : Hardware} {sp : UInt64} {top : Nat}
    {image : ReturnImage} (ht : top < 2 ^ 64) (h : ImageAt hw.memory sp top image)
    (hr : hw.Readable sp.toNat top) (hn : image.records.length < Hardware.chainLimit)
    (hc : RecordKind.Compatible (image.records.map Record.kind)) :
    ∃ hw', readReturnImage hw sp = (.ok image, hw') ∧ hw.OnlyReads hw' := by
  have hroom := h.room
  have hext := toNat_chainStart (show sp.toNat + SigFrame.size < 2 ^ 64 by omega)
  have hfetch := Hardware.fetch_of_granted
    (hr sp SigFrame.size (Nat.le_refl _) (by decide) hroom)
  have hread := hw.onlyReads_fetch sp SigFrame.size
  have hchain := Hardware.readChain_of_chainAt ht (by rw [hread.memory]; exact h.chain)
    ((hr.congr hread.sameMap).mono (by omega) (Nat.le_refl _)) hn hc
  refine ⟨((hw.fetch sp SigFrame.size).2.readChain (sp + UInt64.ofNat SigFrame.scExtOff)).2, ?_,
    hread.trans (Hardware.onlyReads_readChain _ _)⟩
  unfold readReturnImage
  simp only [hfetch, hchain, h.frame]

/-- What is written for a plan reads as its image and its records, the last one lowest. -/
theorem imageAt_written {p : DeliveryPlan} (hp : p.Region) (m : Memory) (image : SigFrame)
    {records : List Record} (hk : records.map Record.kind = p.kinds)
    (hc : RecordKind.Compatible p.kinds) (hpad : ∀ r ∈ records, r.Padded) :
    ImageAt (p.written m image records) p.addr p.top.toNat
      ⟨{ image with info := .blank }, records.reverse⟩ := by
  have hadd := hp.addr_add
  have hlow := hp.low_le
  have htop := p.top.toNat_lt
  have hlowaddr : p.addr + UInt64.ofNat SigFrame.scExtOff = p.layout.low := by
    apply UInt64.toNat_inj.mp
    rw [toNat_chainStart (by omega)]
    exact hadd
  refine ⟨by omega, ?_, ?_⟩
  · have hblocks := ChainLayout.agreeOn_writeBlocks records (m.write p.addr image.toBytes) hp.sound
      p.addr.toNat p.layout.low.toNat (.inl (Nat.le_refl _))
    have hself := Memory.read_write_self m p.addr image.toBytes
      (by rw [SigFrame.length_toBytes]; decide)
    rw [SigFrame.length_toBytes] at hself
    unfold DeliveryPlan.written DeliveryPlan.layout
    rw [hblocks.read (Nat.le_refl _) (by omega) (by omega), hself]
    exact image.ofBytes_toBytes
  · rw [hlowaddr]
    unfold DeliveryPlan.written DeliveryPlan.layout
    rw [← hk]
    exact ChainLayout.chainAt_plan _ (hk ▸ hp.sound) (hk ▸ hc) hpad

/-! ## Register banks -/

namespace RecordKind

/-- `st` has the registers of a kind from `src`: the lanes, the condition flags and the low half of
the control register, without its cause bits if an enabled exception is pending in it; or the
binary-translation registers with the low halves of the flags. -/
def Holds (k : RecordKind) (st src : FpState) : Prop :=
  match k with
  | bank b =>
    (∀ i (_ : i < 32) l (_ : l < 4), l < b.lanes → st.fpr[i][l] = src.fpr[i][l]) ∧
      st.fcc = src.fcc ∧ ∀ i, bitOf st.fcsr i = true ↔
        i < 32 ∧ bitOf src.fcsr i = true ∧ ¬ (Fcsr.Armed src.fcsr ∧ 24 ≤ i ∧ i < 29)
  | lbt =>
    st.scr = src.scr ∧ st.eflags = src.eflags.toUInt32.toUInt64 ∧
      st.ftop = src.ftop.toUInt32.toUInt64

/-- A task has the registers of a kind, and so do the live registers of an enabled unit. -/
structure Reloaded (k : RecordKind) (euen : UInt64) (task : Task) (hw : Hardware)
    (src : FpState) : Prop where
  saved : k.Holds task.switch.fpu src
  live : hasBits euen k.enableBit = true → k.Holds hw.fp src

end RecordKind

theorem mergeRegs_of_lt {n : Nat} (a b : Vector Lanes 32) {i l : Nat} (hi : i < 32) (hl : l < 4)
    (h : l < n) : (FpState.mergeRegs n a b)[i][l] = a[i][l] := by
  simp only [FpState.mergeRegs, FpState.mergeLanes, Vector.getElem_zipWith, Vector.getElem_ofFn,
    if_pos h]

namespace RecordKind

theorem holds_putBack (k : RecordKind) (st src : FpState) :
    k.Holds ((Record.capture k src).putBack st) src := by
  cases k with
  | bank b =>
    simp only [Holds, Record.capture, Record.putBack, mergeRegs_mergeRegs]
    exact ⟨fun i hi l hl h => mergeRegs_of_lt _ _ hi hl h, trivial, Fcsr.bitOf_settled_low src.fcsr⟩
  | lbt =>
    simp only [Holds, Record.capture, Record.putBack]
    exact ⟨trivial, trivial, trivial⟩

theorem holds_load {k : RecordKind} {st src : FpState} (live : FpState) (h : k.Holds st src) :
    k.Holds (k.load st live) src := by
  cases k with
  | bank b =>
    simp only [Holds, load, FpState.moveBank] at h ⊢
    exact ⟨fun i hi l hl hb => (mergeRegs_of_lt _ _ hi hl hb).trans (h.1 i hi l hl hb), h.2⟩
  | lbt => simpa only [Holds, load, FpState.moveLbt] using h

theorem holds_putBack_of_not_clashes {r : Record} {k : RecordKind} {st src : FpState}
    (hn : ¬ r.kind.Clashes k) (h : k.Holds st src) : k.Holds (r.putBack st) src := by
  cases r with
  | bank b regs fcc fcsr =>
    cases k with
    | bank c => exact absurd (.inr ⟨rfl, rfl⟩) hn
    | lbt => simpa only [Holds, Record.putBack] using h
  | lbt scr eflags ftop =>
    cases k with
    | lbt => exact absurd (.inl rfl) hn
    | bank c => simpa only [Holds, Record.putBack] using h

theorem holds_load_of_not_clashes {j k : RecordKind} {live src : FpState} (st : FpState)
    (hn : ¬ j.Clashes k) (h : k.Holds live src) : k.Holds (j.load st live) src := by
  cases j with
  | bank b =>
    cases k with
    | bank c => exact absurd (.inr ⟨rfl, rfl⟩) hn
    | lbt => simpa only [Holds, load, FpState.moveBank] using h
  | lbt =>
    cases k with
    | lbt => exact absurd (.inl rfl) hn
    | bank c => simpa only [Holds, load, FpState.moveLbt] using h

end RecordKind

/-- Putting a captured record back gives its registers back. -/
theorem restoreRecord_reloaded (euen era : UInt64) (task : Task) (hw : Hardware) (k : RecordKind)
    (src : FpState) :
    k.Reloaded euen (restoreRecord euen era task hw (.capture k src)).1
      (restoreRecord euen era task hw (.capture k src)).2 src := by
  have h := k.holds_putBack task.switch.fpu src
  constructor
  · rw [fpu_restoreRecord]; exact h
  · intro he
    rw [fp_restoreRecord, Record.kind_capture, if_pos he]
    exact RecordKind.holds_load hw.fp h

/-- A record that goes along with a kind leaves the registers of that kind alone. -/
theorem restoreRecord_keeps {euen era : UInt64} {task : Task} {hw : Hardware} {k : RecordKind}
    {src : FpState} (r : Record) (hn : ¬ r.kind.Clashes k) (h : k.Reloaded euen task hw src) :
    k.Reloaded euen (restoreRecord euen era task hw r).1 (restoreRecord euen era task hw r).2
      src := by
  constructor
  · rw [fpu_restoreRecord]
    exact RecordKind.holds_putBack_of_not_clashes hn h.saved
  · intro he
    rw [fp_restoreRecord]
    split
    · exact RecordKind.holds_load_of_not_clashes _ hn (h.live he)
    · exact h.live he

theorem restoreRecords_keeps {euen era : UInt64} {k : RecordKind} {src : FpState} :
    ∀ (rs : List Record) {task : Task} {hw : Hardware}, (∀ r ∈ rs, ¬ r.kind.Clashes k) →
      k.Reloaded euen task hw src →
      k.Reloaded euen (restoreRecords euen era task hw rs).1
        (restoreRecords euen era task hw rs).2 src
  | [], _, _, _, h => h
  | r :: rs, _, _, hn, h =>
    restoreRecords_keeps rs (fun s hs => hn s (List.mem_cons_of_mem r hs))
      (restoreRecord_keeps r (hn r List.mem_cons_self) h)

/-- Compatible records, captured each from its own state, all come back. -/
theorem restoreRecords_reloaded (euen era : UInt64) (src : RecordKind → FpState)
    {kinds : List RecordKind} (hc : RecordKind.Compatible kinds) {k : RecordKind}
    (hk : k ∈ kinds) : ∀ (task : Task) (hw : Hardware),
      k.Reloaded euen
        (restoreRecords euen era task hw (kinds.map fun j => .capture j (src j))).1
        (restoreRecords euen era task hw (kinds.map fun j => .capture j (src j))).2 (src k) := by
  induction kinds with
  | nil => cases hk
  | cons j js ih =>
    intro task hw
    obtain ⟨hj, hjs⟩ := List.pairwise_cons.1 hc
    rw [List.map_cons, restoreRecords]
    rcases List.mem_cons.1 hk with rfl | hk
    · refine restoreRecords_keeps _ ?_ (restoreRecord_reloaded euen era task hw k (src k))
      intro r hr hcl
      obtain ⟨i, hi, rfl⟩ := List.mem_map.1 hr
      rw [Record.kind_capture] at hcl
      exact hj i hi hcl.symm
    · exact ih hjs hk _ _

/-! ## The signal state -/

/-- The parts of a task that no record touches. -/
structure Task.SameBut (t t' : Task) : Prop where
  state : t'.state = t.state
  blocked : t'.signals.blocked = t.signals.blocked
  altstack : t'.signals.altstack = t.signals.altstack
  actions : t'.signals.actions = t.signals.actions

theorem restoreRecords_sameBut (euen era : UInt64) (rs : List Record) (task : Task)
    (hw : Hardware) : task.SameBut (restoreRecords euen era task hw rs).1 := by
  rw [restoreRecords_task]
  exact ⟨rfl, SignalState.blocked_queueFpe _ _ _, SignalState.altstack_queueFpe _ _ _,
    SignalState.actions_queueFpe _ _ _⟩

theorem restoredAltStack_signalImage (task : Task) (info : SigInfo) (frame : ExceptionFrame)
    (kinds : List RecordKind) :
    restoredAltStack (signalImage task info frame kinds).stack =
      if task.signals.altstack.isDisabled then .none
      else { task.signals.altstack with flags := 0 } := by
  have himage : (signalImage task info frame kinds).stack = { task.signals.altstack with
      flags := if task.signals.altstack.contains frame.sp then AltStack.onStack
        else task.signals.altstack.flags } := rfl
  rw [himage]
  generalize task.signals.altstack = alt
  unfold restoredAltStack
  by_cases hc : alt.contains frame.sp = true
  · -- a stack that contains the pointer is enabled
    have hd : alt.isDisabled = false := by
      unfold AltStack.contains AltStack.enabled at hc
      simp only [Bool.and_eq_true, Bool.not_eq_true'] at hc
      exact hc.1.1.1
    have ho : ({ alt with flags := AltStack.onStack } : AltStack).isDisabled = false := by
      show (AltStack.onStack &&& AltStack.disable != 0) = false
      decide
    simp only [hc, hd, ho, if_true, Bool.false_eq_true, if_false]
  · simp only [hc, if_false, Bool.false_eq_true]

/-! ## There and back -/

/-- What stands between a delivery and its return: the page map is the same, and so are the bytes
of `[lo, hi)`. -/
structure Hardware.Keeps (hw hw' : Hardware) (lo hi : Nat) : Prop where
  map : SameMap hw hw'
  bytes : Memory.AgreeOn hw.memory hw'.memory lo hi

theorem Hardware.Keeps.refl (hw : Hardware) (lo hi : Nat) : hw.Keeps hw lo hi :=
  ⟨⟨rfl, rfl, rfl⟩, .refl _ lo hi⟩

theorem Hardware.Keeps.trans {hw hw' hw'' : Hardware} {lo hi : Nat} (h : hw.Keeps hw' lo hi)
    (h' : hw'.Keeps hw'' lo hi) : hw.Keeps hw'' lo hi :=
  ⟨h.map.trans h'.map, h.bytes.trans h'.bytes⟩

/-- The image that a delivery leaves for the return. -/
def returnImage (hw : Hardware) (task : Task) (info : SigInfo) (frame : ExceptionFrame) :
    ReturnImage :=
  let kinds := recordKinds hw.features frame.euen task.switch.fpu
  { frame := { signalImage task info frame kinds with info := .blank }
    records := kinds.reverse.map fun k =>
      .capture k (k.source frame.euen hw.fp task.switch.fpu) }

theorem kinds_capture (kinds : List RecordKind) (src : RecordKind → FpState) :
    (kinds.map fun k => Record.capture k (src k)).map Record.kind = kinds := by
  rw [List.map_map]
  exact (List.map_congr_left fun k _ => Record.kind_capture k _).trans (List.map_id _)

theorem returnImage_records (hw : Hardware) (task : Task) (info : SigInfo)
    (frame : ExceptionFrame) :
    (returnImage hw task info frame).records.map Record.kind =
      (recordKinds hw.features frame.euen task.switch.fpu).reverse :=
  kinds_capture _ _

/-- The image of a delivery is in memory, and all of its region can be read. -/
theorem imageAt_of_deliver {hw hw' : Hardware} {task : Task} {sig : Signal} {info : SigInfo}
    {frame : ExceptionFrame} {d : Delivery} {top : UInt64}
    (h : deliver hw task sig info frame = (.ok d, hw'))
    (htop : signalStackTop task.signals.altstack (task.signals.action sig).flags frame.sp =
      some top) :
    ImageAt hw'.memory d.addr top.toNat (returnImage hw task info frame) ∧
      hw'.Readable d.addr.toNat top.toNat := by
  obtain ⟨p, hd⟩ := delivered_of_ok h
  have hp := hd.accepted
  have hr := hp.region
  have hkinds := hp.kinds
  have hptop : p.top = top := hd.top_eq htop
  have hcomp : RecordKind.Compatible p.kinds := by
    rw [hkinds]; exact RecordKind.compatible_recordKinds _ _ _
  have hpad : ∀ r ∈ p.kinds.map fun k => Record.capture k
      (k.source frame.euen hw.fp task.switch.fpu), r.Padded := by
    intro r hr
    obtain ⟨k, -, rfl⟩ := List.mem_map.1 hr
    exact Record.padded_capture k _
  have himage := imageAt_written hr hw.memory (signalImage task info frame p.kinds)
    (kinds_capture p.kinds _) hcomp hpad
  rw [← List.map_reverse] at himage
  refine ⟨?_, ?_⟩
  · rw [hd.memory, hd.at_, ← hptop]
    unfold returnImage
    rw [← hkinds]
    exact himage
  · have hread := Hardware.readable_of_granted hd.granted (.inr rfl)
    rw [hr.length_add] at hread
    rw [hd.at_, ← hptop]
    exact hread.congr hd.map

theorem readReturnImage_after_deliver {hw hw' later : Hardware} {task : Task} {sig : Signal}
    {info : SigInfo} {frame : ExceptionFrame} {d : Delivery} {top : UInt64}
    (h : deliver hw task sig info frame = (.ok d, hw'))
    (htop : signalStackTop task.signals.altstack (task.signals.action sig).flags frame.sp =
      some top)
    (hkeep : hw'.Keeps later d.addr.toNat top.toNat) :
    ∃ read, readReturnImage later d.addr = (.ok (returnImage hw task info frame), read) ∧
      later.OnlyReads read := by
  obtain ⟨himage, hread⟩ := imageAt_of_deliver h htop
  have hcomp := RecordKind.compatible_recordKinds hw.features frame.euen task.switch.fpu
  have hkinds := returnImage_records hw task info frame
  refine readReturnImage_of_imageAt top.toNat_lt (himage.congr top.toNat_lt hkeep.bytes)
    (hread.congr hkeep.map) ?_ (by rw [hkinds]; exact hcomp.reverse)
  rw [← List.length_map (f := Record.kind), hkinds, List.length_reverse]
  exact Nat.lt_of_le_of_lt (length_recordKinds_le _ _ _) (by decide)

theorem RegFile.put_read (r : RegFile) (i : Fin 32) : r.put i (r.read i) = r :=
  Vector.set_getElem_self _

theorem RegFile.put_zero {r : RegFile} (h : r.read Reg.zero = 0) : r.put Reg.zero 0 = r := by
  rw [← h]
  exact put_read r Reg.zero

theorem sigreturn_of_deliver {hw hw' later : Hardware} {task : Task} {sig : Signal}
    {info : SigInfo} {frame laterFrame : ExceptionFrame} {d : Delivery} {top : UInt64}
    (laterTask : Task)
    (h : deliver hw task sig info frame = (.ok d, hw'))
    (htop : signalStackTop task.signals.altstack (task.signals.action sig).flags frame.sp =
      some top)
    (hkeep : hw'.Keeps later d.addr.toNat top.toNat) (hsp : laterFrame.sp = d.addr) :
    ∃ read : Hardware,
      let image := returnImage hw task info frame
      let restored := restoreRecords laterFrame.euen frame.era
        { laterTask with signals := restoreSignals image.frame laterTask.signals } read
        image.records
      sigreturn later laterTask laterFrame =
        (.ok ⟨restored.1,
          { laterFrame with
            regs := frame.regs.put Reg.zero 0
            era := frame.era
            frameType := FrameKind.sigReturn.word }⟩, restored.2) := by
  obtain ⟨read, himage, -⟩ := readReturnImage_after_deliver h htop hkeep
  rw [← hsp] at himage
  refine ⟨read, ?_⟩
  rw [sigreturn_eq himage]
  rfl

/-- A signal return undoes a delivery, whatever happened in between to the registers, the register
banks, the signal state and the memory outside of the region. The interrupted registers are back,
and so are the mask, the alternate stack and every register bank that was saved: live where its
unit was enabled, and else as the task had it. -/
theorem sigreturn_after_deliver {hw hw' later : Hardware} {task : Task} {sig : Signal}
    {info : SigInfo} {frame laterFrame : ExceptionFrame} {d : Delivery} {top : UInt64}
    (laterTask : Task)
    (h : deliver hw task sig info frame = (.ok d, hw')) (hz : frame.regs.read Reg.zero = 0)
    (htop : signalStackTop task.signals.altstack (task.signals.action sig).flags frame.sp =
      some top)
    (hkeep : hw'.Keeps later d.addr.toNat top.toNat) (hsp : laterFrame.sp = d.addr) :
    ∃ (back : Returned) (hw'' : Hardware),
      sigreturn later laterTask laterFrame = (.ok back, hw'') ∧
      back.frame =
        { laterFrame with
          regs := frame.regs
          era := frame.era
          frameType := FrameKind.sigReturn.word } ∧
      back.task.signals.blocked = task.signals.blocked.without .unblockable ∧
      back.task.signals.altstack =
        (if task.signals.altstack.isDisabled then .none
          else { task.signals.altstack with flags := 0 }) ∧
      ∀ k ∈ recordKinds hw.features frame.euen task.switch.fpu,
        k.Reloaded laterFrame.euen back.task hw''
          (k.source frame.euen hw.fp task.switch.fpu) := by
  obtain ⟨read, hret⟩ := sigreturn_of_deliver laterTask h htop hkeep hsp
  rw [RegFile.put_zero hz] at hret
  have hsame := restoreRecords_sameBut laterFrame.euen frame.era
    (returnImage hw task info frame).records
    { laterTask with
      signals := restoreSignals (returnImage hw task info frame).frame laterTask.signals } read
  refine ⟨_, _, hret, rfl, hsame.blocked, hsame.altstack.trans ?_, ?_⟩
  · exact restoredAltStack_signalImage task info frame
      (recordKinds hw.features frame.euen task.switch.fpu)
  · intro k hk
    exact restoreRecords_reloaded laterFrame.euen frame.era
      (fun k => k.source frame.euen hw.fp task.switch.fpu)
      (RecordKind.compatible_recordKinds _ _ _).reverse (List.mem_reverse.2 hk) _ read

/-! ## One round trip -/

/-- Hardware whose root table maps the whole lower half for user reads and writes. -/
def Hardware.mapped (features : Features) : Hardware where
  geometry := .active
  features := features
  csrs := .zero
  tables := ⟨fun _ _ => Entry.present ||| Entry.user ||| Entry.huge ||| Entry.write⟩
  memory := .zero
  fp := .cleared
  debugRegs := .off
  history := []

/-- A running task to which a signal was sent, with one action for every signal. -/
def Task.handling (sig : Signal) (action : SigAction) : Task :=
  let task := Task.spawned ⟨0⟩ ⟨0, 0, 0, 0, ⟨0⟩⟩
  { task with
    state := .running
    signals := { task.signals with
      pending := SigSet.empty.insert sig
      actions := Vector.replicate 64 action } }

/-- A frame of user code at `era` on a stack at `sp`, with every unit enabled. -/
def ExceptionFrame.ofUser (era sp : UInt64) : ExceptionFrame :=
  { ExceptionFrame.cleared with
    regs := RegFile.cleared.put Reg.sp sp
    era := era
    prmd := plvUser
    euen := euenFpe ||| euenSxe ||| euenAsxe ||| euenBte }

/-- A handler that changes the live registers and writes above the stack top returns to the
interrupted code. -/
theorem sigreturn_after_deliver_mapped :
    let hw := Hardware.mapped ⟨true, true, true, true⟩
    let task := Task.handling Signal.usr1 ⟨0x8000, 0, 0, .empty⟩
    let frame := ExceptionFrame.ofUser 0x4000 0x100000
    ∃ (d : Delivery) (hw' : Hardware),
      deliver hw task Signal.usr1 .blank frame = (.ok d, hw') ∧
      let later := { hw' with
        memory := hw'.memory.write 0x100000 [1, 2, 3]
        fp := { FpState.cleared with fcc := 7 } }
      ∃ (back : Returned) (hw'' : Hardware),
        sigreturn later d.task d.frame = (.ok back, hw'') ∧ back.frame.regs = frame.regs ∧
        back.frame.era = 0x4000 ∧
        RecordKind.Reloaded (.bank .lasx) d.frame.euen back.task hw'' hw.fp := by
  intro hw task frame
  have hkinds : RecordKind.bank .lasx ∈ recordKinds hw.features frame.euen task.switch.fpu := by
    decide +kernel
  obtain ⟨d, hw', hd⟩ : ∃ d hw', deliver hw task Signal.usr1 .blank frame = (.ok d, hw') :=
    deliver_of_isOk (by decide +kernel)
  refine ⟨d, hw', hd, ?_⟩
  intro later
  have hkeep : hw'.Keeps later d.addr.toNat (0x100000 : UInt64).toNat :=
    ⟨⟨rfl, rfl, rfl⟩, (Memory.agreeOn_write _ _ _ _ _ (by decide) (.inl (Nat.le_refl _))).symm⟩
  obtain ⟨back, hw'', hret, hframe, -, -, hregs⟩ := sigreturn_after_deliver d.task
    hd (by decide +kernel) (by decide +kernel) hkeep (sp_of_deliver hd)
  have hlive : (RecordKind.bank .lasx).source frame.euen hw.fp task.switch.fpu = hw.fp :=
    if_pos (by decide +kernel)
  have hlasx := hregs _ hkinds
  rw [hlive] at hlasx
  exact ⟨back, hw'', hret, by rw [hframe], by rw [hframe]; rfl, hlasx⟩

end TrapLayer
