import TrapLayer.Proofs.Signal.RoundTrip

/-!
# Register banks and their enable bits

The registers of a unit that is off cannot be reached: saving or loading them traps, in kernel mode
and so for good. A vector bank needs two enable bits, the one of the scalar unit and its own.

* `units_deliver`, `units_sigreturn`: the units that a delivery and a return reach, in order.
* `requiredBits_of_mem_recordKinds`: a delivery chooses a bank by all of its bits.
* `unit_accesses_enabled_iff`: a delivery reaches enabled units only; a return does exactly when the
  chain it read has no record of a vector bank that is off while the scalar unit is on.
* `sigreturn_loads_disabled_bank`: a forged chain has such a record.
-/
namespace TrapLayer

/-! ## Units -/

/-- The enable bits without which a bank cannot be reached. -/
def FpBank.requiredBits : FpBank → UInt64
  | fpu => euenFpe
  | lsx => euenFpe ||| euenSxe
  | lasx => euenFpe ||| euenAsxe

/-- The enable bits without which the registers of a kind cannot be reached. -/
def RecordKind.requiredBits : RecordKind → UInt64
  | bank b => b.requiredBits
  | lbt => euenBte

/-- The kind whose live registers an effect saves or loads. -/
def Effect.unit? : Effect → Option RecordKind
  | .fpSave b | .fpRestore b => some (.bank b)
  | .lbtSave | .lbtRestore => some .lbt
  | _ => none

/-- The enable bits of all that an effect reaches are set. -/
def Effect.Enabled (e : Effect) (euen : UInt64) : Prop :=
  ∀ k, e.unit? = some k → hasBits euen k.requiredBits = true

theorem RecordKind.unit?_saveEffect (k : RecordKind) : k.saveEffect.unit? = some k := by
  cases k <;> rfl

theorem RecordKind.unit?_restoreEffect (k : RecordKind) : k.restoreEffect.unit? = some k := by
  cases k <;> rfl

theorem forall_enabled_iff (es : List Effect) (euen : UInt64) :
    (∀ e ∈ es, e.Enabled euen) ↔
      ∀ k ∈ es.filterMap Effect.unit?, hasBits euen k.requiredBits = true := by
  unfold Effect.Enabled
  constructor
  · intro h k hk
    obtain ⟨e, he, hu⟩ := List.mem_filterMap.1 hk
    exact h e he k hu
  · intro h e he k hu
    exact h k (List.mem_filterMap.2 ⟨e, he, hu⟩)

/-! ## Which units are reached -/

theorem RecordKind.units_saves (euen : UInt64) (kinds : List RecordKind) :
    (saves euen kinds).filterMap Effect.unit? =
      kinds.filter fun k => hasBits euen k.enableBit := by
  unfold saves
  rw [List.filterMap_map]
  have hsome : (Effect.unit? ∘ saveEffect) = some := funext unit?_saveEffect
  rw [hsome, List.filterMap_some]

theorem Record.units_loads (euen : UInt64) (rs : List Record) :
    (loads euen rs).filterMap Effect.unit? =
      (rs.map Record.kind).filter fun k => hasBits euen k.enableBit := by
  unfold loads
  rw [List.filterMap_map, List.filter_map]
  have hsome : (Effect.unit? ∘ fun r : Record => r.kind.restoreEffect) = some ∘ Record.kind :=
    funext fun r => r.kind.unit?_restoreEffect
  rw [hsome, List.filterMap_eq_map]
  rfl

theorem units_of_reads {base : List Effect} (h : ∀ e ∈ base, e.isRead = true) :
    base.filterMap Effect.unit? = [] := by
  rw [List.filterMap_eq_nil_iff]
  intro e he
  rcases Effect.eq_of_isRead (h e he) with ⟨read, rfl⟩ | ⟨addr, len, rfl⟩ <;> rfl

theorem units_since {hw read hw' : Hardware} (h : hw.OnlyReads read) {es : List Effect}
    (hh : hw'.history = es ++ read.history) :
    (hw'.since hw.mark).filterMap Effect.unit? = es.reverse.filterMap Effect.unit? := by
  obtain ⟨base, hreads, hsince⟩ := h.since hh
  rw [hsince, List.filterMap_append, units_of_reads hreads, List.nil_append]

theorem units_of_onlyReads {hw read : Hardware} (h : hw.OnlyReads read) :
    (read.since hw.mark).filterMap Effect.unit? = [] :=
  units_since h (List.nil_append read.history).symm

/-- What is built for a plan reaches the enabled units among its records, in save order: its writes
and the flush reach none. -/
theorem units_build (hw : Hardware) (task : Task) (sig : Signal) (info : SigInfo)
    (frame : ExceptionFrame) (p : DeliveryPlan) :
    ∃ es : List Effect, (build hw task sig info frame p).2.history = es ++ hw.history ∧
      es.reverse.filterMap Effect.unit? =
        p.kinds.filter fun k => hasBits frame.euen k.enableBit := by
  have hbuild := build_hardware hw task sig info frame p
  generalize (captureRecords hw frame.euen task.switch.fpu p.kinds).records = records at hbuild
  have hwrites : (p.layout.blocks.map (ChainLayout.writeEffect records)).filterMap Effect.unit? =
      [] := by
    rw [List.filterMap_map, List.filterMap_eq_nil_iff]
    exact fun b _ => rfl
  refine ⟨.icacheFlush (p.addr + UInt64.ofNat SigFrame.trampOff) 16 ::
    ((p.layout.blocks.map (ChainLayout.writeEffect records)).reverse ++
      .userWrite p.addr (signalImage task info frame p.kinds).toBytes ::
      (RecordKind.saves frame.euen p.kinds).reverse), ?_, ?_⟩
  · rw [hbuild]
    simp only [List.cons_append, List.append_assoc]
  · rw [← RecordKind.units_saves]
    simp only [List.reverse_cons, List.reverse_append, List.reverse_reverse, List.append_assoc,
      List.filterMap_append, hwrites, List.nil_append]
    simp only [List.filterMap_cons, List.filterMap_nil, Effect.unit?, List.append_nil]

/-- A delivery that took place saved the enabled units among its records, in save order; one that
was refused reached none. -/
theorem units_deliver (hw : Hardware) (task : Task) (sig : Signal) (info : SigInfo)
    (frame : ExceptionFrame) :
    ((deliver hw task sig info frame).2.since hw.mark).filterMap Effect.unit? =
      match (deliver hw task sig info frame).1 with
      | .error _ => []
      | .ok _ => (recordKinds hw.features frame.euen task.switch.fpu).filter
        fun k => hasBits frame.euen k.enableBit := by
  rcases deliver_cases hw task sig info frame with ⟨p, hp, -, heq⟩ | ⟨e, reads, heq⟩
  · have hread := hw.onlyReads_checkUser p.addr p.length .readWrite
    obtain ⟨es, hhist, hunits⟩ := units_build
      (hw.checkUser p.addr p.length .readWrite).2 task sig info frame p
    rw [heq]
    dsimp only
    rw [units_since hread hhist, hunits, hp.kinds]
  · rw [heq]
    exact units_of_onlyReads (hw.onlyReads_noteReads reads)

/-- A return that was accepted loads the enabled units among the records it read, in that order;
one that was refused reaches none. -/
theorem units_sigreturn (hw : Hardware) (task : Task) (frame : ExceptionFrame) :
    ((sigreturn hw task frame).2.since hw.mark).filterMap Effect.unit? =
      match (readReturnImage hw frame.sp).1 with
      | .error _ => []
      | .ok image => (image.records.map Record.kind).filter
        fun k => hasBits frame.euen k.enableBit := by
  rcases sigreturn_cases hw task frame with
    ⟨image, read, hread, himage, heq⟩ | ⟨e, read, hread, himage, heq⟩
  · obtain ⟨fp, hhw⟩ := restoreRecords_hardware frame.euen image.frame.context.pc image.records
      { task with signals := restoreSignals image.frame task.signals } read
    rw [heq, himage]
    dsimp only
    rw [hhw, units_since hread rfl, List.reverse_reverse, Record.units_loads]
  · rw [heq, himage]
    exact units_of_onlyReads hread

/-! ## Which of them are enabled -/

/-- The bank that is saved from an enabled scalar unit has all of its bits set. -/
theorem requiredBits_of_savedBank {features : Features} {euen : UInt64} {b : FpBank}
    (h : savedBank? features euen = some b) (he : hasBits euen euenFpe = true) :
    hasBits euen b.requiredBits = true := by
  unfold savedBank? at h
  rw [if_pos he] at h
  split at h
  · rename_i hlasx
    cases h
    rw [FpBank.requiredBits, hasBits_or, he, (Bool.and_eq_true_iff.1 hlasx).2]
    rfl
  · split at h
    · rename_i hlsx
      cases h
      rw [FpBank.requiredBits, hasBits_or, he, (Bool.and_eq_true_iff.1 hlsx).2]
      rfl
    · split at h
      · cases h
        exact he
      · cases h

theorem requiredBits_of_mem_recordKinds {features : Features} {euen : UInt64} {fpu : FpState}
    {k : RecordKind} (h : k ∈ recordKinds features euen fpu)
    (he : hasBits euen k.enableBit = true) : hasBits euen k.requiredBits = true := by
  cases k with
  | lbt => exact he
  | bank b =>
    unfold recordKinds at h
    rcases List.mem_append.1 h with hbank | hlbt
    · split at hbank
      · rw [Option.mem_toList, Option.map_eq_some_iff] at hbank
        obtain ⟨c, hc, hcb⟩ := hbank
        cases hcb
        exact requiredBits_of_savedBank hc he
      · cases hbank
    · split at hlbt
      · cases List.mem_singleton.1 hlbt
      · cases hlbt

/-- A delivery saves a register bank only while every enable bit of it is set. A return checks the
bit of the scalar unit, and that of binary translation; so it loads enabled banks only exactly when
no record that it accepted is of a vector bank that is off while the scalar unit is on. -/
theorem unit_accesses_enabled_iff (hw : Hardware) (task : Task) (sig : Signal) (info : SigInfo)
    (frame : ExceptionFrame) :
    (∀ e ∈ (deliver hw task sig info frame).2.since hw.mark, e.Enabled frame.euen) ∧
    (∀ e ∈ (sigreturn hw task frame).2.since hw.mark, ∀ k, e.unit? = some k →
      hasBits frame.euen k.enableBit = true) ∧
    ((∀ e ∈ (sigreturn hw task frame).2.since hw.mark, e.Enabled frame.euen) ↔
      match (readReturnImage hw frame.sp).1 with
      | .error _ => True
      | .ok image => ∀ r ∈ image.records, hasBits frame.euen r.kind.enableBit = true →
        hasBits frame.euen r.kind.requiredBits = true) := by
  refine ⟨?_, ?_, ?_⟩
  · rw [forall_enabled_iff, units_deliver]
    intro k hk
    split at hk
    · cases hk
    · obtain ⟨hmem, he⟩ := List.mem_filter.1 hk
      exact requiredBits_of_mem_recordKinds hmem he
  · intro e he k hu
    have hk := List.mem_filterMap.2 ⟨e, he, hu⟩
    rw [units_sigreturn] at hk
    split at hk
    · cases hk
    · exact (List.mem_filter.1 hk).2
  · rw [forall_enabled_iff, units_sigreturn]
    cases (readReturnImage hw frame.sp).1 with
    | error e => exact ⟨fun _ => trivial, fun _ _ => nofun⟩
    | ok image =>
      simp only [List.mem_filter, List.mem_map, and_imp, forall_exists_index,
        forall_apply_eq_imp_iff₂]

/-- Hardware whose memory holds one 256-bit record behind an empty frame at `0x10000`. -/
def Hardware.forged : Hardware :=
  { Hardware.mapped ⟨true, true, true, true⟩ with
    memory := Memory.zero.write 0x10250 (le32 (RecordKind.bank .lasx).magic ++ le32 1072) }

/-- A task that runs with the scalar unit alone forges a 256-bit record, and the return loads the
256-bit bank while its unit is off. -/
theorem sigreturn_loads_disabled_bank :
    let frame := { ExceptionFrame.ofUser 0 0x10000 with euen := euenFpe }
    let task := Task.spawned ⟨0⟩ ⟨0, 0, 0, 0, ⟨0⟩⟩
    Effect.fpRestore .lasx ∈
        (sigreturn Hardware.forged task frame).2.since Hardware.forged.mark ∧
      ¬ (Effect.fpRestore .lasx).Enabled frame.euen := by
  intro frame task
  constructor
  · decide +kernel
  · intro h
    have hbits := h _ rfl
    revert hbits
    decide

end TrapLayer
