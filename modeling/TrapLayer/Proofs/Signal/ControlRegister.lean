import TrapLayer.Proofs.Signal.Grammar

/-!
# The control register that a return leaves

A task writes the records of its signal frames, the floating-point control register among them. An
exception in it that is enabled and pending would be raised as soon as the register is loaded, which
is in the kernel. The check is made for each bank record when it is put back, to the saved registers
and to the live ones; what a return leaves at its end is read off here for whole chains.

* `not_armed_settled`: what the check leaves.
* `fcsr_restoreRecords`, `live_fcsr_restoreRecords`: over any list, the last bank decides.
* `filterMap_fcsr?`: in a chain that is accepted, the last bank is the only one.
* `sigreturn_disarms`: no return puts back an enabled exception that is pending; it is queued.
-/
namespace TrapLayer

/-! ## Chains -/

/-- The control register that a record holds, if it is one of a bank. -/
def Record.fcsr? : Record → Option UInt64
  | bank _ _ _ fcsr => some fcsr.toUInt64
  | lbt .. => none

theorem Record.fcsr_putBack (r : Record) (st : FpState) :
    (r.putBack st).fcsr = (r.fcsr?.map Fcsr.settled).getD st.fcsr := by
  cases r <;> rfl

/-- What a record does to a value that the records of banks replace. -/
theorem getLastD_filterMap_cons (r : Record) (rs : List Record) (old : UInt64) :
    (((r :: rs).filterMap Record.fcsr?).map Fcsr.settled).getLastD old =
      ((rs.filterMap Record.fcsr?).map Fcsr.settled).getLastD
        ((r.fcsr?.map Fcsr.settled).getD old) := by
  cases r with
  | bank b regs fcc fcsr =>
    have hf : (Record.bank b regs fcc fcsr).fcsr? = some fcsr.toUInt64 := rfl
    rw [List.filterMap_cons_some hf, List.map_cons, List.getLastD_cons, hf]
    rfl
  | lbt scr eflags ftop =>
    rw [List.filterMap_cons_none rfl]
    rfl

/-- The saved register after a list is put back is that of the last bank, settled. -/
theorem fcsr_restoreRecords (euen era : UInt64) (rs : List Record) (task : Task) (hw : Hardware) :
    (restoreRecords euen era task hw rs).1.switch.fpu.fcsr =
      ((rs.filterMap Record.fcsr?).map Fcsr.settled).getLastD task.switch.fpu.fcsr := by
  induction rs generalizing task hw with
  | nil => rfl
  | cons r rs ih =>
    rw [restoreRecords, ih, fpu_restoreRecord, Record.fcsr_putBack, getLastD_filterMap_cons]

/-- A record of a bank is loaded while the scalar unit is enabled. -/
theorem fcsr_restoreRecord_live {euen : UInt64} (he : hasBits euen euenFpe = true) (era : UInt64)
    (task : Task) (hw : Hardware) (r : Record) :
    (restoreRecord euen era task hw r).2.fp.fcsr =
      (r.fcsr?.map Fcsr.settled).getD hw.fp.fcsr := by
  rw [fp_restoreRecord]
  cases r with
  | bank b regs fcc fcsr =>
    have hb : hasBits euen (Record.bank b regs fcc fcsr).kind.enableBit = true := he
    rw [if_pos hb]
    rfl
  | lbt scr eflags ftop => split <;> rfl

theorem live_fcsr_restoreRecords {euen : UInt64} (he : hasBits euen euenFpe = true) (era : UInt64)
    (rs : List Record) (task : Task) (hw : Hardware) :
    (restoreRecords euen era task hw rs).2.fp.fcsr =
      ((rs.filterMap Record.fcsr?).map Fcsr.settled).getLastD hw.fp.fcsr := by
  induction rs generalizing task hw with
  | nil => rfl
  | cons r rs ih =>
    rw [restoreRecords, ih, fcsr_restoreRecord_live he, getLastD_filterMap_cons]

theorem Record.any_raises (rs : List Record) :
    rs.any raises = (rs.filterMap fcsr?).any Fcsr.isPending := by
  induction rs with
  | nil => rfl
  | cons r rs ih =>
    rw [List.any_cons, ih]
    cases r <;> rfl

theorem filterMap_fcsr? {rs : List Record} (hc : RecordKind.Compatible (rs.map Record.kind))
    {r : Record} (hr : r ∈ rs) {fcsr : UInt64} (hf : r.fcsr? = some fcsr) :
    rs.filterMap Record.fcsr? = [fcsr] := by
  induction rs with
  | nil => cases hr
  | cons s rs ih =>
    obtain ⟨hfresh, hrest⟩ := List.pairwise_cons.1 hc
    cases s with
    | bank b regs fcc word =>
      -- every other record would be a second bank or binary translation
      have hnone : rs.filterMap Record.fcsr? = [] := by
        refine List.filterMap_eq_nil_iff.2 fun t ht => ?_
        cases t with
        | bank => exact absurd (.inr ⟨rfl, rfl⟩) (hfresh _ (List.mem_map_of_mem ht))
        | lbt => rfl
      rcases List.mem_cons.1 hr with rfl | hr
      · rw [List.filterMap_cons_some hf, hnone]
      · have := List.filterMap_eq_nil_iff.1 hnone r hr
        rw [hf] at this
        cases this
    | lbt scr eflags ftop =>
      rcases List.mem_cons.1 hr with rfl | hr
      · cases hf
      · exact (List.filterMap_cons_none rfl).trans (ih hrest hr)

/-! ## Returns -/

theorem SignalState.info_queue (s : SignalState) {sig : Signal}
    (h : (Signal.slot? sig).isSome = true) (info : SigInfo) :
    (s.queue sig info).info sig = info := by
  unfold queue SignalState.info
  cases hs : Signal.slot? sig with
  | none =>
    rw [hs] at h
    cases h
  | some i => simp

/-- What a return that was accepted has put back, when its records hold one control register. -/
theorem restoreRecords_of_fcsr {rs : List Record} {fcsr : UInt64}
    (h : rs.filterMap Record.fcsr? = [fcsr]) (euen era : UInt64) (task : Task) (hw : Hardware) :
    let restored := restoreRecords euen era task hw rs
    restored.1.switch.fpu.fcsr = Fcsr.settled fcsr ∧
      (hasBits euen euenFpe = true → restored.2.fp.fcsr = Fcsr.settled fcsr) ∧
      restored.1.signals = task.signals.queueFpe (Fcsr.isPending fcsr) (fpSignalInfo era) := by
  intro restored
  refine ⟨?_, fun he => ?_, ?_⟩
  · rw [fcsr_restoreRecords, h]
    rfl
  · rw [live_fcsr_restoreRecords he, h]
    rfl
  · have hraised : rs.any Record.raises = Fcsr.isPending fcsr := by
      rw [Record.any_raises, h, List.any_cons, List.any_nil, Bool.or_false]
    rw [restoreRecords_task, hraised]

/-- No return puts back a control register in which an enabled exception is pending. Whatever memory
holds, a return that is accepted has walked over a chain, of which one record at most is of a bank,
before or behind binary translation. If its control register has an enabled exception pending, all
its cause bits are dropped and the signal is queued for the address that the task returns to;
otherwise it is put back as it is and no signal is added. The saved register is not armed then, and
it is also the live one while the unit is enabled. -/
theorem sigreturn_disarms {hw hw' : Hardware} {task : Task} {frame : ExceptionFrame}
    {back : Returned} (h : sigreturn hw task frame = (.ok back, hw')) :
    (∃ l a, hw.Meets (frame.sp + UInt64.ofNat SigFrame.scExtOff) l a ∧ hw.Closes a) ∧
    ∀ l a, hw.Meets (frame.sp + UInt64.ofNat SigFrame.scExtOff) l a → hw.Closes a →
      ∀ r ∈ l, ∀ fcsr, (r.record hw.memory).fcsr? = some fcsr →
        ¬ Fcsr.Armed back.task.switch.fpu.fcsr ∧
        (hasBits frame.euen euenFpe = true → hw'.fp.fcsr = back.task.switch.fpu.fcsr) ∧
        (Fcsr.Armed fcsr →
          (∀ i, bitOf back.task.switch.fpu.fcsr i =
            (bitOf fcsr i && !decide (24 ≤ i ∧ i < 29))) ∧
          back.task.signals.pending = task.signals.pending.insert Signal.fpe ∧
          back.task.signals.info Signal.fpe =
            { SigInfo.blank with
              signo := Signal.fpe.toInt32
              code := 14
              addr := back.frame.era }) ∧
        (¬ Fcsr.Armed fcsr → back.task.switch.fpu.fcsr = fcsr ∧
          back.task.signals.pending = task.signals.pending) := by
  rcases sigreturn_cases hw task frame with
    ⟨image, read, -, himage, heq⟩ | ⟨e, read, -, -, heq⟩
  · rw [heq] at h
    cases h
    obtain ⟨-, l, a, hmeets, hcloses, hrecords⟩ := Hardware.readReturnImage_ok himage
    refine ⟨⟨l, a, hmeets, hcloses⟩, fun l' a' hmeets' hcloses' r hr fcsr hf => ?_⟩
    rw [hmeets.records_eq hcloses hmeets' hcloses'] at hrecords
    have hcomp : RecordKind.Compatible (image.records.map Record.kind) := by
      rw [hrecords, Hardware.map_kind_record]
      exact hmeets'.compatible
    have hmem : r.record hw.memory ∈ image.records := hrecords ▸ List.mem_map_of_mem hr
    obtain ⟨hsaved, hlive, hsignals⟩ := restoreRecords_of_fcsr (filterMap_fcsr? hcomp hmem hf)
      frame.euen image.frame.context.pc
      { task with signals := restoreSignals image.frame task.signals } read
    refine ⟨?_, fun he => ?_, fun harmed => ?_, fun harmed => ?_⟩
    · rw [hsaved]
      exact Fcsr.not_armed_settled fcsr
    · rw [hlive he, hsaved]
    · rw [hsaved, hsignals, Fcsr.settled_of_armed harmed, (Fcsr.isPending_iff fcsr).2 harmed]
      have hslot : (Signal.slot? Signal.fpe).isSome = true := by decide
      exact ⟨Fcsr.bitOf_dropCauses fcsr, rfl, SignalState.info_queue _ hslot _⟩
    · have hclean : Fcsr.isPending fcsr = false :=
        Bool.eq_false_iff.2 fun hp => harmed ((Fcsr.isPending_iff fcsr).1 hp)
      rw [hsaved, hsignals, Fcsr.settled_of_not_armed harmed, hclean]
      exact ⟨rfl, rfl⟩
  · rw [heq] at h
    cases h

/-- Hardware whose memory holds, behind an empty frame at `0x10000`, binary translation and a scalar
bank whose control register has one enabled exception pending and one that is not enabled. -/
def Hardware.armed : Hardware :=
  { Hardware.mapped ⟨true, true, true, true⟩ with
    memory := ((Memory.zero.write 0x10250 (le32 RecordKind.lbt.magic ++ le32 56)).write 0x10288
      (le32 (RecordKind.bank .fpu).magic ++ le32 288)).write 0x103a0 (le32 0x03010001) }

/-- There the return leaves the register without a cause, saved and live, and queues the signal. -/
theorem sigreturn_disarms_armed :
    let task := Task.spawned ⟨0⟩ ⟨0, 0, 0, 0, ⟨0⟩⟩
    ∃ back hw', sigreturn Hardware.armed task (.ofUser 0 0x10000) = (.ok back, hw') ∧
      ¬ Fcsr.Armed back.task.switch.fpu.fcsr ∧ hw'.fp.fcsr = back.task.switch.fpu.fcsr ∧
      bitOf back.task.switch.fpu.fcsr 25 = false ∧
      back.task.signals.pending = SigSet.empty.insert Signal.fpe := by
  intro task
  have hlbt : Hardware.armed.Stands [] ⟨0x10250, .lbt, 56⟩ := by
    refine ⟨?_, ⟨?_, ?_, by simp⟩, ?_, ?_⟩
    all_goals decide +kernel
  have hbank : Hardware.armed.Stands [.lbt] ⟨0x10288, .bank .fpu, 288⟩ := by
    refine ⟨?_, ⟨?_, ?_, ?_⟩, ?_, ?_⟩
    case refine_4 => simp [RecordKind.Clashes, RecordKind.isBank, RecordKind.bank?]
    all_goals decide +kernel
  have hmeets : Hardware.armed.Meets 0x10250
      ([] ++ [⟨0x10250, .lbt, 56⟩] ++ [⟨0x10288, .bank .fpu, 288⟩]) 0x103a8 :=
    .next (.next .start hlbt) hbank
  have hcloses : Hardware.armed.Closes 0x103a8 := ⟨by decide +kernel, by decide +kernel⟩
  have hfcsr : (RecordAt.record Hardware.armed.memory ⟨0x10288, .bank .fpu, 288⟩).fcsr? =
      some 0x03010001 := by decide +kernel
  have harmed : Fcsr.Armed 0x03010001 := by decide
  obtain ⟨back, hw', hret⟩ : ∃ back hw',
      sigreturn Hardware.armed task (.ofUser 0 0x10000) = (.ok back, hw') :=
    sigreturn_of_isOk (by decide +kernel)
  obtain ⟨-, hall⟩ := sigreturn_disarms hret
  obtain ⟨hsafe, hlive, hraised, -⟩ := hall _ _ hmeets hcloses _ (by simp) _ hfcsr
  obtain ⟨hbits, hpending, -⟩ := hraised harmed
  exact ⟨back, hw', hret, hsafe, hlive (by decide), (hbits 25).trans (by decide), hpending⟩

end TrapLayer
