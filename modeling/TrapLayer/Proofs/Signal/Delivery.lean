import TrapLayer.Proofs.Signal.Chain
import TrapLayer.Signal.Pass

/-!
# Deliveries happen whole or not at all

What a plan promises about its region, what is captured for the records, and what the building of a
delivery does to the hardware.

* `planDelivery_ok`: everything that an accepted plan was checked for.
* `DeliveryPlan.Accepted.region`: the region of an accepted plan, as numbers.
* `captureRecords_hardware`: the enabled units are saved, in order, and nothing else happens.
* `records_captureRecords`: every record is captured from its own unit.
* `build_hardware`: the memory and the effects that a delivery leaves.
* `deliver_cases`: a delivery is built as planned, or it is refused and only looked.
* `deliver_looksFirst`: all that a delivery reads comes before all that it changes.
* `deliver_all_or_nothing`: a refused delivery only looked, and one that took place wrote inside
  the range it had checked.
-/
namespace TrapLayer

theorem signalStackTop_mod {alt : AltStack} {flags sp top : UInt64}
    (h : signalStackTop alt flags sp = some top) : top.toNat % 16 = 0 := by
  unfold signalStackTop at h
  split at h
  · cases h
  · split at h
    · cases h; exact (alignDown_spec _ _ (by decide)).1
    · cases h; exact (alignDown_spec _ _ (by decide)).1

/-! ## Plans -/

namespace DeliveryPlan

/-- What a plan was checked for before it was accepted. -/
structure Accepted (p : DeliveryPlan) (features : Features) (task : Task) (sig : Signal)
    (frame : ExceptionFrame) : Prop where
  action : p.action = task.signals.action sig
  handler : p.action.disposition sig = .handler p.handler
  top : signalStackTop task.signals.altstack p.action.flags frame.sp = some p.top
  room : lowestStackTop ≤ p.top.toNat
  kinds : p.kinds = recordKinds features frame.euen task.switch.fpu
  onAltStack : task.signals.altstack.contains frame.sp = true →
    task.signals.altstack.contains p.addr = true

/-- The region of a plan, with every subtraction that leads to it done on numbers. -/
structure Region (p : DeliveryPlan) : Prop where
  top_mod : p.top.toNat % 16 = 0
  sound : ChainLayout.Sound p.top p.kinds
  frame_fits : SigFrame.size ≤ p.layout.low.toNat
  addr_add : p.addr.toNat + SigFrame.size = p.layout.low.toNat
  addr_mod : p.addr.toNat % 16 = 0
  low_le : p.layout.low.toNat + Record.headerSize ≤ p.top.toNat
  above : userStart.toNat < p.addr.toNat
  length_add : p.addr.toNat + p.length = p.top.toNat

end DeliveryPlan

/-- A plan is accepted when its checks went through, in the order of the source. -/
theorem planDelivery_ok {features : Features} {task : Task} {sig : Signal}
    {frame : ExceptionFrame} {p : DeliveryPlan}
    (h : planDelivery features task sig frame = .ok p) : p.Accepted features task sig frame := by
  unfold planDelivery at h
  dsimp only at h
  split at h
  · rename_i handler hd
    split at h
    · cases h
    · rename_i top ht
      split at h
      · cases h
      · rename_i hroom
        split at h
        · cases h
        · rename_i halt
          cases h
          refine ⟨rfl, hd, ht, Nat.le_of_not_lt hroom, rfl, fun hc => ?_⟩
          simpa [hc] using halt
  all_goals cases h

namespace DeliveryPlan

/-- A top with the room that a delivery keeps below it is enough for every region. -/
theorem region_of_room {p : DeliveryPlan} {features : Features} {euen : UInt64} {fpu : FpState}
    (hkinds : p.kinds = recordKinds features euen fpu) (hmod : p.top.toNat % 16 = 0)
    (hroom : lowestStackTop ≤ p.top.toNat) : p.Region := by
  have hsum := reachAll_recordKinds_lt features euen fpu
  rw [← hkinds] at hsum
  have hsize : SigFrame.size = 592 := rfl
  have hstart : userStart.toNat = 4096 := rfl
  unfold lowestStackTop at hroom
  have hterm : Record.headerSize ≤ p.top.toNat := by omega
  have hbase := toNat_sub_ofNat hterm
  have hfits := ChainLayout.fitsBelow_of_reach p.kinds (p.top - UInt64.ofNat Record.headerSize)
    (by omega)
  have hlow : p.layout.low = ChainLayout.lowest (p.top - UInt64.ofNat Record.headerSize) p.kinds :=
    ChainLayout.low_eq_lowest p.top p.kinds
  have hle := ChainLayout.lowest_le hfits
  have hge := ChainLayout.lowest_ge hfits
  have hlmod := ChainLayout.lowest_mod hfits (by simp only [Record.headerSize] at *; omega)
  rw [← hlow] at hle hge hlmod
  have hframe : SigFrame.size ≤ p.layout.low.toNat := by omega
  have haddr : p.addr.toNat = p.layout.low.toNat - SigFrame.size := toNat_sub_ofNat hframe
  have hlen : p.length = p.top.toNat - p.addr.toNat :=
    UInt64.toNat_sub_of_le _ _ (by rw [UInt64.le_iff_toNat_le]; omega)
  exact ⟨hmod, ⟨hterm, hfits⟩, hframe, by omega, by omega, by omega, by omega, by omega⟩

theorem Accepted.region {p : DeliveryPlan} {features : Features} {task : Task} {sig : Signal}
    {frame : ExceptionFrame} (h : p.Accepted features task sig frame) : p.Region :=
  region_of_room h.kinds (signalStackTop_mod h.top) h.room

end DeliveryPlan

/-! ## Captures -/

namespace RecordKind

/-- The enable bit of the unit that holds the registers of a kind. -/
def enableBit : RecordKind → UInt64
  | bank _ => euenFpe
  | lbt => euenBte

/-- Where the registers of a kind are: live while its unit is enabled, and else saved. -/
def source (k : RecordKind) (euen : UInt64) (live saved : FpState) : FpState :=
  if hasBits euen k.enableBit then live else saved

/-- The effect of saving the live registers of a kind. -/
def saveEffect : RecordKind → Effect
  | bank b => .fpSave b
  | lbt => .lbtSave

/-- The saves of a capture, oldest first: one for each kind whose unit is enabled. -/
def saves (euen : UInt64) (kinds : List RecordKind) : List Effect :=
  (kinds.filter fun k => hasBits euen k.enableBit).map saveEffect

end RecordKind

theorem mergeRegs_mergeRegs (n : Nat) (a b c : Vector Lanes 32) :
    FpState.mergeRegs n (FpState.mergeRegs n a b) c = FpState.mergeRegs n a c := by
  apply Vector.ext; intro i hi
  apply Vector.ext; intro l hl
  simp only [FpState.mergeRegs, FpState.mergeLanes, Vector.getElem_zipWith, Vector.getElem_ofFn]
  split <;> rfl

theorem refresh_hardware (hw : Hardware) (euen : UInt64) (saved : FpState) (k : RecordKind) :
    (refresh hw euen saved k).2 =
      if hasBits euen k.enableBit then hw.emit k.saveEffect else hw := by
  cases k with
  | bank b =>
    by_cases he : hasBits euen euenFpe = true
    · simp only [refresh, RecordKind.enableBit, he, if_true]
      rfl
    · simp only [refresh, RecordKind.enableBit, he, Bool.false_eq_true, if_false]
  | lbt =>
    by_cases he : hasBits euen euenBte = true
    · simp only [refresh, RecordKind.enableBit, he, if_true]
      rfl
    · simp only [refresh, RecordKind.enableBit, he, Bool.false_eq_true, if_false]

theorem fp_refresh (hw : Hardware) (euen : UInt64) (saved : FpState) (k : RecordKind) :
    (refresh hw euen saved k).2.fp = hw.fp := by
  rw [refresh_hardware]
  split <;> rfl

/-- The registers of each enabled unit are saved once, in save order, and nothing else happens. -/
theorem captureRecords_hardware (euen : UInt64) : ∀ (kinds : List RecordKind) (hw : Hardware)
    (saved : FpState),
    (captureRecords hw euen saved kinds).hw =
      { hw with history := (RecordKind.saves euen kinds).reverse ++ hw.history }
  | [], _, _ => rfl
  | k :: ks, hw, saved => by
    have hrest : (captureRecords hw euen saved (k :: ks)).hw =
        (captureRecords (refresh hw euen saved k).2 euen (refresh hw euen saved k).1 ks).hw := rfl
    rw [hrest, captureRecords_hardware euen ks, refresh_hardware]
    unfold RecordKind.saves
    by_cases he : hasBits euen k.enableBit = true
    · simp only [he, if_true, List.filter_cons_of_pos, List.map_cons, List.reverse_cons,
        List.append_assoc, List.singleton_append, Hardware.emit]
    · simp only [he, Bool.false_eq_true, if_false, not_false_eq_true, List.filter_cons_of_neg]

/-- A kind is captured from its source. -/
theorem capture_refresh (hw : Hardware) (euen : UInt64) (saved : FpState) (k : RecordKind) :
    Record.capture k (refresh hw euen saved k).1 =
      Record.capture k (k.source euen hw.fp saved) := by
  unfold RecordKind.source
  cases k with
  | bank b =>
    unfold refresh
    by_cases he : hasBits euen euenFpe = true
    · simp only [RecordKind.enableBit, he, if_true, Hardware.saveFp, Record.capture,
        FpState.moveBank, mergeRegs_mergeRegs]
    · simp only [RecordKind.enableBit, he, Bool.false_eq_true, if_false]
  | lbt =>
    unfold refresh
    by_cases he : hasBits euen euenBte = true
    · simp only [RecordKind.enableBit, he, if_true, Hardware.saveLbt, Record.capture,
        FpState.moveLbt]
    · simp only [RecordKind.enableBit, he, Bool.false_eq_true, if_false]

/-- What is captured for a kind does not depend on a kind it goes along with. -/
theorem capture_refresh_of_not_clashes (hw : Hardware) (euen : UInt64) (saved live : FpState)
    {j k : RecordKind} (h : ¬ j.Clashes k) :
    Record.capture k (k.source euen live (refresh hw euen saved j).1) =
      Record.capture k (k.source euen live saved) := by
  unfold RecordKind.source
  split
  · rfl
  · cases j with
    | bank b =>
      cases k with
      | bank c => exact absurd (.inr ⟨rfl, rfl⟩) h
      | lbt =>
        unfold refresh; dsimp only; split
        · simp only [Hardware.saveFp, FpState.moveBank, Record.capture]
        · rfl
    | lbt =>
      cases k with
      | bank c =>
        unfold refresh; dsimp only; split
        · simp only [Hardware.saveLbt, FpState.moveLbt, Record.capture]
        · rfl
      | lbt => exact absurd (.inl rfl) h

theorem records_captureRecords (euen : UInt64) : ∀ (kinds : List RecordKind) (hw : Hardware)
    (saved : FpState), RecordKind.Compatible kinds →
    (captureRecords hw euen saved kinds).records =
      kinds.map fun k => Record.capture k (k.source euen hw.fp saved)
  | [], _, _, _ => rfl
  | k :: ks, hw, saved, h => by
    obtain ⟨hk, hks⟩ := List.pairwise_cons.1 h
    have hfp := fp_refresh hw euen saved k
    have hrest := records_captureRecords euen ks (refresh hw euen saved k).2
      (refresh hw euen saved k).1 hks
    have hsame : (ks.map fun j => Record.capture j
        (j.source euen hw.fp (refresh hw euen saved k).1)) =
        ks.map fun j => Record.capture j (j.source euen hw.fp saved) :=
      List.map_congr_left fun j hj => capture_refresh_of_not_clashes hw euen saved hw.fp (hk j hj)
    rw [hfp, hsame] at hrest
    rw [List.map_cons, ← hrest, ← capture_refresh hw euen saved k]
    rfl

/-! ## The region written -/

/-- The write of one block. -/
def ChainLayout.writeEffect (contexts : List Record) (b : Placement) : Effect :=
  .userWrite b.addr (blockBytes contexts b)

theorem ChainLayout.write_eq (l : ChainLayout) (contexts : List Record) (hw : Hardware) :
    l.write contexts hw =
      { hw with
        memory := hw.memory.writeBlocks contexts l.blocks
        history := (l.blocks.map (writeEffect contexts)).reverse ++ hw.history } := by
  unfold ChainLayout.write
  generalize l.blocks = blocks
  induction blocks generalizing hw with
  | nil => rfl
  | cons b bs ih =>
    rw [List.foldl_cons, ih]
    simp only [List.map_cons, List.reverse_cons, List.append_assoc]
    rfl

/-- The memory after a delivery: the image, and then the blocks. -/
def DeliveryPlan.written (p : DeliveryPlan) (m : Memory) (image : SigFrame)
    (records : List Record) : Memory :=
  (m.write p.addr image.toBytes).writeBlocks records p.layout.blocks

theorem build_hardware (hw : Hardware) (task : Task) (sig : Signal) (info : SigInfo)
    (frame : ExceptionFrame) (p : DeliveryPlan) :
    (build hw task sig info frame p).2 =
      { hw with
        memory := p.written hw.memory (signalImage task info frame p.kinds)
          (captureRecords hw frame.euen task.switch.fpu p.kinds).records
        history := .icacheFlush (p.addr + UInt64.ofNat SigFrame.trampOff) 16 ::
          ((p.layout.blocks.map (ChainLayout.writeEffect
            (captureRecords hw frame.euen task.switch.fpu p.kinds).records)).reverse ++
            .userWrite p.addr (signalImage task info frame p.kinds).toBytes ::
            ((RecordKind.saves frame.euen p.kinds).reverse ++ hw.history)) } := by
  unfold build
  simp only [captureRecords_hardware, ChainLayout.write_eq, Hardware.writeUser,
    Hardware.flushIcache, Hardware.emit, DeliveryPlan.written]

/-- What a delivery adds to the trace: the saves, the image, the blocks and the flush. -/
theorem build_history (hw : Hardware) (task : Task) (sig : Signal) (info : SigInfo)
    (frame : ExceptionFrame) (p : DeliveryPlan) :
    let records := (captureRecords hw frame.euen task.switch.fpu p.kinds).records
    (build hw task sig info frame p).2.history =
      (.icacheFlush (p.addr + UInt64.ofNat SigFrame.trampOff) 16 ::
        ((p.layout.blocks.map (ChainLayout.writeEffect records)).reverse ++
          .userWrite p.addr (signalImage task info frame p.kinds).toBytes ::
          (RecordKind.saves frame.euen p.kinds).reverse)) ++ hw.history := by
  intro records
  rw [build_hardware]
  simp only [List.cons_append, List.append_assoc]
  rfl

/-- A delivery is planned, checked and built, or it looked at table entries and was refused. -/
theorem deliver_cases (hw : Hardware) (task : Task) (sig : Signal) (info : SigInfo)
    (frame : ExceptionFrame) :
    (∃ p : DeliveryPlan, p.Accepted hw.features task sig frame ∧
      (hw.checkUser p.addr p.length .readWrite).1 = true ∧
      deliver hw task sig info frame =
        (.ok (build (hw.checkUser p.addr p.length .readWrite).2 task sig info frame p).1,
          (build (hw.checkUser p.addr p.length .readWrite).2 task sig info frame p).2)) ∨
    ∃ (e : DeliverError) (reads : List TableRead),
      deliver hw task sig info frame = (.error e, hw.noteReads reads) := by
  cases hp : planDelivery hw.features task sig frame with
  | error e =>
    right
    refine ⟨e, [], ?_⟩
    unfold deliver
    rw [hp]
    rfl
  | ok p =>
    rw [deliver_eq hp]
    by_cases hc : (hw.checkUser p.addr p.length .readWrite).1 = true
    · left
      exact ⟨p, planDelivery_ok hp, hc, if_pos hc⟩
    · right
      exact ⟨_, _, if_neg hc⟩

theorem deliver_ok {hw hw' : Hardware} {task : Task} {sig : Signal} {info : SigInfo}
    {frame : ExceptionFrame} {d : Delivery}
    (h : deliver hw task sig info frame = (.ok d, hw')) :
    ∃ p : DeliveryPlan, p.Accepted hw.features task sig frame ∧
      (hw.checkUser p.addr p.length .readWrite).1 = true ∧
      (d, hw') =
        build (hw.checkUser p.addr p.length .readWrite).2 task sig info frame p := by
  rcases deliver_cases hw task sig info frame with ⟨p, hp, hc, heq⟩ | ⟨e, reads, heq⟩
  · rw [heq] at h
    obtain ⟨hd, rfl⟩ := Prod.mk.inj h
    exact ⟨p, hp, hc, by rw [← Except.ok.inj hd]⟩
  · rw [heq] at h
    cases h

theorem deliver_error {hw hw' : Hardware} {task : Task} {sig : Signal} {info : SigInfo}
    {frame : ExceptionFrame} {e : DeliverError}
    (h : deliver hw task sig info frame = (.error e, hw')) :
    ∃ reads : List TableRead, hw' = hw.noteReads reads := by
  rcases deliver_cases hw task sig info frame with ⟨p, hp, hc, heq⟩ | ⟨e, reads, heq⟩
  · rw [heq] at h
    cases h
  · rw [heq] at h
    exact ⟨reads, (Prod.mk.inj h).2.symm⟩

/-- The region is planned and checked before a register is saved or a byte is written: what a
delivery reads comes first in its trace, and is all of it if the delivery is refused. -/
theorem deliver_looksFirst (hw : Hardware) (task : Task) (sig : Signal) (info : SigInfo)
    (frame : ExceptionFrame) :
    hw.LooksFirst (deliver hw task sig info frame).2
      (deliver hw task sig info frame).1.isOk := by
  rcases deliver_cases hw task sig info frame with ⟨p, -, -, heq⟩ | ⟨e, reads, heq⟩
  · have hcheck := hw.onlyReads_checkUser p.addr p.length .readWrite
    rw [heq]
    generalize (hw.checkUser p.addr p.length .readWrite).2 = checked at *
    refine hcheck.looksFirst (build_history checked task sig info frame p) fun e he => ?_
    simp only [RecordKind.saves, List.mem_cons, List.mem_append, List.mem_reverse,
      List.mem_map] at he
    rcases he with rfl | ⟨b, -, rfl⟩ | rfl | ⟨k, -, rfl⟩
    · rfl
    · rfl
    · rfl
    · cases k <;> rfl
  · rw [heq]
    exact (hw.onlyReads_noteReads reads).looksFirst_refused

theorem deliver_of_isOk {hw : Hardware} {task : Task} {sig : Signal} {info : SigInfo}
    {frame : ExceptionFrame} (h : (deliver hw task sig info frame).1.isOk = true) :
    ∃ (d : Delivery) (hw' : Hardware), deliver hw task sig info frame = (.ok d, hw') := by
  cases hd : deliver hw task sig info frame with
  | mk result hw' =>
    cases result with
    | error e => rw [hd] at h; cases h
    | ok d => exact ⟨d, hw', rfl⟩

/-- A delivery that took place: where it is, and the memory it left on an unchanged page map. -/
structure Delivered (p : DeliveryPlan) (hw hw' : Hardware) (task : Task) (sig : Signal)
    (info : SigInfo) (frame : ExceptionFrame) (d : Delivery) : Prop where
  accepted : p.Accepted hw.features task sig frame
  granted : (hw.checkUser p.addr p.length .readWrite).1 = true
  at_ : d.addr = p.addr
  entered : d.frame = enterHandler p sig frame
  map : hw.SameMap hw'
  memory : hw'.memory = p.written hw.memory (signalImage task info frame p.kinds)
    (p.kinds.map fun k => .capture k (k.source frame.euen hw.fp task.switch.fpu))

/-- What a delivery left in memory and in the trace, on an unchanged page map. -/
theorem hardware_of_build {hw hw' : Hardware} {task : Task} {sig : Signal} {info : SigInfo}
    {frame : ExceptionFrame} {d : Delivery} {p : DeliveryPlan}
    (hp : p.Accepted hw.features task sig frame)
    (h : (d, hw') = build (hw.checkUser p.addr p.length .readWrite).2 task sig info frame p) :
    let image := signalImage task info frame p.kinds
    let records := p.kinds.map fun k => .capture k (k.source frame.euen hw.fp task.switch.fpu)
    ∃ looked : List Effect, (∀ e ∈ looked, e.isRead = true) ∧ hw' =
      { hw with
        memory := p.written hw.memory image records
        history := .icacheFlush (p.addr + UInt64.ofNat SigFrame.trampOff) 16 ::
          ((p.layout.blocks.map (ChainLayout.writeEffect records)).reverse ++
            .userWrite p.addr image.toBytes :: ((RecordKind.saves frame.euen p.kinds).reverse ++
              (looked ++ hw.history))) } := by
  have hcomp : RecordKind.Compatible p.kinds := by
    rw [hp.kinds]; exact RecordKind.compatible_recordKinds _ _ _
  obtain ⟨looked, hreads, hcheck⟩ := hw.onlyReads_checkUser p.addr p.length .readWrite
  have heq := (Prod.mk.inj h).2.trans (build_hardware _ task sig info frame p)
  rw [records_captureRecords _ _ _ _ hcomp, hcheck] at heq
  exact ⟨looked, hreads, heq⟩

theorem delivered_of_build {hw hw' : Hardware} {task : Task} {sig : Signal} {info : SigInfo}
    {frame : ExceptionFrame} {d : Delivery} {p : DeliveryPlan}
    (hp : p.Accepted hw.features task sig frame)
    (hc : (hw.checkUser p.addr p.length .readWrite).1 = true)
    (h : (d, hw') = build (hw.checkUser p.addr p.length .readWrite).2 task sig info frame p) :
    Delivered p hw hw' task sig info frame d := by
  obtain ⟨looked, -, hhw⟩ := hardware_of_build hp h
  generalize (hw.checkUser p.addr p.length .readWrite).2 = checked at h
  have hd : d = (build checked task sig info frame p).1 := congrArg Prod.fst h
  refine ⟨hp, hc, by rw [hd]; rfl, by rw [hd]; rfl, ?_, by rw [hhw]⟩
  rw [hhw]
  exact ⟨rfl, rfl, rfl⟩

theorem delivered_of_ok {hw hw' : Hardware} {task : Task} {sig : Signal} {info : SigInfo}
    {frame : ExceptionFrame} {d : Delivery}
    (h : deliver hw task sig info frame = (.ok d, hw')) :
    ∃ p : DeliveryPlan, Delivered p hw hw' task sig info frame d := by
  obtain ⟨p, hp, hc, hb⟩ := deliver_ok h
  exact ⟨p, delivered_of_build hp hc hb⟩

theorem Delivered.top_eq {p : DeliveryPlan} {hw hw' : Hardware} {task : Task} {sig : Signal}
    {info : SigInfo} {frame : ExceptionFrame} {d : Delivery} {top : UInt64}
    (h : Delivered p hw hw' task sig info frame d)
    (htop : signalStackTop task.signals.altstack (task.signals.action sig).flags frame.sp =
      some top) : p.top = top := by
  have hplan := h.accepted.top
  rw [h.accepted.action, htop] at hplan
  exact (Option.some.inj hplan).symm

theorem sp_enterHandler (p : DeliveryPlan) (sig : Signal) (frame : ExceptionFrame) :
    (enterHandler p sig frame).sp = p.addr := by
  unfold enterHandler ExceptionFrame.sp
  rw [RegFile.read_put_of_ne _ (by decide), RegFile.read_put_of_ne _ (by decide),
    RegFile.read_put_of_ne _ (by decide), RegFile.read_put_of_ne _ (by decide),
    RegFile.read_put_same]

theorem sp_of_deliver {hw hw' : Hardware} {task : Task} {sig : Signal} {info : SigInfo}
    {frame : ExceptionFrame} {d : Delivery}
    (h : deliver hw task sig info frame = (.ok d, hw')) : d.frame.sp = d.addr := by
  obtain ⟨p, hd⟩ := delivered_of_ok h
  rw [hd.entered, hd.at_]
  exact sp_enterHandler p sig frame

theorem kind_of_deliver {hw hw' : Hardware} {task : Task} {sig : Signal} {info : SigInfo}
    {frame : ExceptionFrame} {d : Delivery}
    (h : deliver hw task sig info frame = (.ok d, hw')) : d.frame.kind = frame.kind := by
  obtain ⟨p, hd⟩ := delivered_of_ok h
  rw [hd.entered]
  rfl

/-! ## All or nothing -/

/-- What a delivery that took place left behind: a frame at `addr` and above it the records of
`kinds`, up to `top`, inside one range that was granted for reading and writing. -/
structure Placed (hw hw' : Hardware) (kinds : List RecordKind) (top addr : UInt64) : Prop where
  top_mod : top.toNat % 16 = 0
  addr_mod : addr.toNat % 16 = 0
  above : userStart.toNat < addr.toNat
  /-- No subtraction on the way from `top` down to `addr` borrows. -/
  sound : ChainLayout.Sound top kinds
  frame_fits : SigFrame.size ≤ (ChainLayout.plan top kinds).low.toNat
  addr_add : addr.toNat + SigFrame.size = (ChainLayout.plan top kinds).low.toNat
  addr_le : addr.toNat ≤ top.toNat
  granted : (hw.checkUser addr (top - addr).toNat .readWrite).1 = true
  geometry : hw'.geometry = hw.geometry
  tables : hw'.tables = hw.tables
  csrs : hw'.csrs = hw.csrs
  /-- The bytes written are those of a frame and of the blocks of the layout. -/
  memory : ∃ (image : SigFrame) (records : List Record), hw'.memory =
    (hw.memory.write addr image.toBytes).writeBlocks records (ChainLayout.plan top kinds).blocks
  payload_mod : ∀ b ∈ (ChainLayout.plan top kinds).records, ∀ k, b.kind = some k →
    (b.addr.toNat + Record.headerSize) % k.align.toNat = 0
  writes : ∀ a bytes, .userWrite a bytes ∈ hw'.since hw.mark →
    addr.toNat ≤ a.toNat ∧ a.toNat + bytes.length ≤ top.toNat
  outside : ∀ a : UInt64, a < addr ∨ top ≤ a → hw'.memory.byte a = hw.memory.byte a

namespace DeliveryPlan

theorem Region.agreeOn_written {p : DeliveryPlan} (h : p.Region) (m : Memory) (image : SigFrame)
    (records : List Record) (lo hi : Nat) (ho : hi ≤ p.addr.toNat ∨ p.top.toNat ≤ lo) :
    Memory.AgreeOn (p.written m image records) m lo hi := by
  have hadd := h.addr_add
  have hlow := h.low_le
  have htop := p.top.toNat_lt
  have hblocks := ChainLayout.agreeOn_writeBlocks records (m.write p.addr image.toBytes) h.sound
    lo hi (by unfold layout at hadd; omega)
  have himage := Memory.agreeOn_write m p.addr image.toBytes lo hi
    (by rw [SigFrame.length_toBytes]; omega) (by rw [SigFrame.length_toBytes]; omega)
  exact hblocks.trans himage

end DeliveryPlan

theorem build_writes {hw : Hardware} {task : Task} {sig : Signal} {info : SigInfo}
    {frame : ExceptionFrame} {p : DeliveryPlan} (hp : p.Region) {a : UInt64} {bytes : Bytes}
    {base : List Effect} {mark : Hardware} (hbase : hw.history = base ++ mark.history)
    (hreads : ∀ e ∈ base, e.isRead = true)
    (h : .userWrite a bytes ∈ (build hw task sig info frame p).2.since mark.mark) :
    p.addr.toNat ≤ a.toNat ∧ a.toNat + bytes.length ≤ p.top.toNat := by
  have hadd := hp.addr_add
  have hlow := hp.low_le
  have hhist := build_history hw task sig info frame p
  dsimp only at hhist
  rw [hbase, ← List.append_assoc] at hhist
  rw [Hardware.mem_since hhist] at h
  simp only [List.cons_append, List.append_assoc, List.mem_cons, List.mem_append,
    List.mem_reverse, List.mem_map, reduceCtorEq, false_or] at h
  rcases h with ⟨b, hb, he⟩ | he | hs | hb
  · cases he
    have := ChainLayout.blocks_inside
      (captureRecords hw frame.euen task.switch.fpu p.kinds).records hp.sound b hb
    unfold DeliveryPlan.layout at hadd
    omega
  · cases he
    rw [SigFrame.length_toBytes]
    omega
  · unfold RecordKind.saves at hs
    obtain ⟨k, -, he⟩ := List.mem_map.1 hs
    cases k with
    | bank b | lbt => cases he
  · exact absurd (hreads _ hb) (by simp [Effect.isRead])

theorem placed_of_build {hw : Hardware} {task : Task} {sig : Signal} (info : SigInfo)
    {frame : ExceptionFrame} {p : DeliveryPlan} (h : p.Accepted hw.features task sig frame)
    (hc : (hw.checkUser p.addr p.length .readWrite).1 = true) :
    Placed hw (build (hw.checkUser p.addr p.length .readWrite).2 task sig info frame p).2 p.kinds
      p.top p.addr := by
  have hr := h.region
  have hsum := hr.length_add
  obtain ⟨reads, hreads, hcheck⟩ := hw.onlyReads_checkUser p.addr p.length .readWrite
  generalize (hw.checkUser p.addr p.length .readWrite).2 = checked at *
  have heq := build_hardware checked task sig info frame p
  have hmem : (build checked task sig info frame p).2.memory =
      p.written hw.memory (signalImage task info frame p.kinds)
        (captureRecords checked frame.euen task.switch.fpu p.kinds).records := by
    rw [heq, hcheck]
  refine
    { top_mod := hr.top_mod, addr_mod := hr.addr_mod, above := hr.above, sound := hr.sound
      frame_fits := hr.frame_fits, addr_add := hr.addr_add, addr_le := by omega
      granted := hc, geometry := by rw [heq, hcheck], tables := by rw [heq, hcheck]
      csrs := by rw [heq, hcheck]
      memory := ⟨_, _, hmem⟩
      payload_mod := ChainLayout.payload_aligned hr.sound.records
      writes := fun a bytes ha => build_writes hr (by rw [hcheck]) hreads ha
      outside := ?_ }
  intro a ha
  rw [hmem]
  rw [UInt64.lt_iff_toNat_lt, UInt64.le_iff_toNat_le] at ha
  exact hr.agreeOn_written hw.memory _ _ a.toNat (a.toNat + 1) (by omega) a
    (Nat.le_refl _) (Nat.lt_succ_self _)

/-- A delivery is all or nothing. Refused, it has read table entries and nothing else, and a pass
goes on with the task and the frame that it had. Done, it wrote only between the frame and the
stack top, a range that the tables grant and that was reached without a borrow. -/
theorem deliver_all_or_nothing (hw : Hardware) (task : Task) (sig : Signal) (info : SigInfo)
    (frame : ExceptionFrame) :
    (match deliver hw task sig info frame with
      | (.error _, hw') => ∃ reads : List TableRead, hw' = hw.noteReads reads
      | (.ok d, hw') => ∃ top : UInt64,
        signalStackTop task.signals.altstack (task.signals.action sig).flags frame.sp = some top ∧
          Placed hw hw' (recordKinds hw.features frame.euen task.switch.fpu) top d.addr) ∧
    ∀ (id : TaskId) (inSyscall : Bool) (action : SigAction),
      let pass := takeHandled hw id task inSyscall sig action frame
      match (deliver hw (task.clearSignal sig) sig (task.signals.info sig)
        (frame.restarted inSyscall (some action))).1 with
      | .error _ => pass.task = (task.clearSignal sig).terminate Signal.segv ∧
        pass.frame = frame.restarted inSyscall (some action) ∧
        pass.hw.memory = hw.memory ∧ pass.hw.fp = hw.fp
      | .ok d => pass.outcome = .delivered sig ∧ pass.task = d.task ∧ pass.frame = d.frame := by
  constructor
  · cases hd : deliver hw task sig info frame with
    | mk result hw' =>
      cases result with
      | error e => exact deliver_error hd
      | ok d =>
        obtain ⟨p, hp, hc, hb⟩ := deliver_ok hd
        obtain ⟨hd', hhw⟩ := Prod.mk.inj hb
        have hplaced := placed_of_build info hp hc
        refine ⟨p.top, hp.action ▸ hp.top, ?_⟩
        rw [← hp.kinds, hd', hhw]
        exact hplaced
  · intro id inSyscall action
    unfold takeHandled
    dsimp only
    cases hd : deliver hw (task.clearSignal sig) sig (task.signals.info sig)
      (frame.restarted inSyscall (some action)) with
    | mk result hw' =>
      cases result with
      | error e =>
        obtain ⟨reads, rfl⟩ := deliver_error hd
        exact ⟨rfl, rfl, rfl, rfl⟩
      | ok d => exact ⟨rfl, rfl, rfl⟩

end TrapLayer
