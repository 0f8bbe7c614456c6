import TrapLayer.Dispatch
import TrapLayer.Proofs.Signal.Delivery

/-!
# A return changes what it has to

Every byte that a return reads belongs to the task: the frame, and behind it a chain of any records
that the parser accepts. What such an image can reach is read off here. All reading comes before
the first change, so an image that is refused was only looked at. One that is accepted gives the
registers, the mask, the alternate stack and the register banks, and nothing that the task was not
free to set.

* `Fcsr.isPending_iff`, `Fcsr.bitOf_settled`: the check of the control register, exception by
  exception, and what it keeps.
* `restoreRecord_eq`, `restoreRecords_task`, `restoreRecords_hardware`: what putting records back
  does, for any list of them.
* `sigreturn_cases`: a return is refused and only looked, or it restores from what it has read.
* `sigreturn_looksFirst`: all that a return reads comes before all that it changes.
* `sigreturn_confined`: what an accepted return may change, and a refused one cannot.
-/
namespace TrapLayer

/-! ## Floating-point exceptions -/

namespace SignalState

/-- The state after a return that found a floating-point exception, or none. -/
def queueFpe (s : SignalState) (raised : Bool) (info : SigInfo) : SignalState :=
  if raised then s.queue Signal.fpe info else s

@[simp] theorem blocked_queueFpe (s : SignalState) (raised : Bool) (info : SigInfo) :
    (s.queueFpe raised info).blocked = s.blocked := by cases raised <;> rfl

@[simp] theorem altstack_queueFpe (s : SignalState) (raised : Bool) (info : SigInfo) :
    (s.queueFpe raised info).altstack = s.altstack := by cases raised <;> rfl

@[simp] theorem actions_queueFpe (s : SignalState) (raised : Bool) (info : SigInfo) :
    (s.queueFpe raised info).actions = s.actions := by cases raised <;> rfl

theorem pending_queueFpe_iff (s : SignalState) (raised : Bool) (info : SigInfo) (sig : Signal) :
    (s.queueFpe raised info).pending.contains sig = true ↔
      s.pending.contains sig = true ∨ raised = true ∧ sig = Signal.fpe := by
  cases raised with
  | false => simp [queueFpe]
  | true =>
    show (s.pending.insert Signal.fpe).contains sig = true ↔ _
    have hslot : (Signal.slot? Signal.fpe).isSome = true := by decide
    simp [SigSet.contains_insert, hslot]

/-- A signal that is queued again with the same information is queued once. -/
theorem queue_queue (s : SignalState) (sig : Signal) (info : SigInfo) :
    (s.queue sig info).queue sig info = s.queue sig info := by
  unfold queue
  cases Signal.slot? sig with
  | none => rfl
  | some i =>
    simp only [SigSet.insert, UInt64.or_assoc, UInt64.or_self, Vector.set_set]

theorem queueFpe_queueFpe (s : SignalState) (a b : Bool) (info : SigInfo) :
    (s.queueFpe a info).queueFpe b info = s.queueFpe (a || b) info := by
  cases a with
  | false => rfl
  | true =>
    cases b with
    | false => rfl
    | true => exact s.queue_queue Signal.fpe info

end SignalState

/-! ## The control register -/

namespace Fcsr

/-- The control register as a return loads it: an enabled exception that is pending loses its
causes. -/
def settled (fcsr : UInt64) : UInt64 := if isPending fcsr then dropCauses fcsr else fcsr

/-- Some exception is enabled and pending: its enable bit, of bits 4 to 0, and its cause bit, of
bits 28 to 24, are both set. -/
def Armed (fcsr : UInt64) : Prop := ∃ i < 5, bitOf fcsr i = true ∧ bitOf fcsr (24 + i) = true

theorem bitOf_enables (i : Nat) : bitOf enables i = decide (i < 5) := by
  have hlow : ∀ i < 64, bitOf enables i = decide (i < 5) := by decide
  exact bitOf_eq_decide hlow (fun i hi => by omega) i

theorem bitOf_causes (i : Nat) : bitOf causes i = decide (24 ≤ i ∧ i < 29) := by
  have hlow : ∀ i < 64, bitOf causes i = decide (24 ≤ i ∧ i < 29) := by decide
  exact bitOf_eq_decide hlow (fun i hi => by omega) i

theorem bitOf_shiftRight (w : UInt64) (i : Nat) : bitOf (w >>> 24) i = bitOf w (24 + i) := by
  simp [bitOf]

theorem isPending_iff (fcsr : UInt64) : isPending fcsr = true ↔ Armed fcsr := by
  unfold isPending Armed
  rw [bne_iff_ne, ne_zero_iff]
  refine exists_congr fun i => ?_
  rw [bitOf_and, bitOf_and, bitOf_shiftRight, bitOf_enables]
  simp only [Bool.and_eq_true, decide_eq_true_eq]
  exact ⟨fun ⟨⟨hc, he⟩, hi⟩ => ⟨hi, he, hc⟩, fun ⟨hi, he, hc⟩ => ⟨⟨hc, he⟩, hi⟩⟩

instance (fcsr : UInt64) : Decidable (Armed fcsr) := decidable_of_iff _ (isPending_iff fcsr)

/-- The cause bits are gone, and the others are as they were. -/
theorem bitOf_dropCauses (fcsr : UInt64) (i : Nat) :
    bitOf (dropCauses fcsr) i = (bitOf fcsr i && !decide (24 ≤ i ∧ i < 29)) := by
  unfold dropCauses
  rw [bitOf_and, bitOf_not, bitOf_causes]
  by_cases hi : i < 64
  · rw [decide_eq_true hi, Bool.true_and]
  · rw [bitOf_of_le fcsr (by omega), Bool.false_and, Bool.false_and]

theorem settled_of_armed {fcsr : UInt64} (h : Armed fcsr) : settled fcsr = dropCauses fcsr :=
  if_pos ((isPending_iff fcsr).2 h)

theorem settled_of_not_armed {fcsr : UInt64} (h : ¬ Armed fcsr) : settled fcsr = fcsr :=
  if_neg fun hp => h ((isPending_iff fcsr).1 hp)

theorem not_armed_settled (fcsr : UInt64) : ¬ Armed (settled fcsr) := by
  by_cases h : Armed fcsr
  · rw [settled_of_armed h]
    rintro ⟨i, hi, -, hc⟩
    rw [bitOf_dropCauses, decide_eq_true (show 24 ≤ 24 + i ∧ 24 + i < 29 by omega)] at hc
    simp at hc
  · rwa [settled_of_not_armed h]

theorem bitOf_settled (fcsr : UInt64) (i : Nat) : bitOf (settled fcsr) i = true ↔
    bitOf fcsr i = true ∧ ¬ (Armed fcsr ∧ 24 ≤ i ∧ i < 29) := by
  by_cases h : Armed fcsr
  · simp only [settled_of_armed h, bitOf_dropCauses, Bool.and_eq_true, Bool.not_eq_true',
      decide_eq_false_iff_not, h, true_and]
  · simp [settled_of_not_armed h, h]

/-- A record holds the low half of the register, in which all of its exceptions lie. -/
theorem bitOf_settled_low (fcsr : UInt64) (i : Nat) :
    bitOf (settled fcsr.toUInt32.toUInt64) i = true ↔
      i < 32 ∧ bitOf fcsr i = true ∧ ¬ (Armed fcsr ∧ 24 ≤ i ∧ i < 29) := by
  have hlow : ∀ j, bitOf fcsr.toUInt32.toUInt64 j = (decide (j < 32) && bitOf fcsr j) := by
    intro j
    show ((fcsr.toBitVec.setWidth 32).setWidth 64).getLsbD j = _
    rw [BitVec.getLsbD_setWidth, BitVec.getLsbD_setWidth]
    by_cases hj : j < 32
    · simp [bitOf, hj, show j < 64 by omega]
    · simp [hj]
  have harmed : Armed fcsr.toUInt32.toUInt64 ↔ Armed fcsr := by
    refine exists_congr fun j => and_congr_right fun hj => ?_
    rw [hlow, hlow, decide_eq_true (show j < 32 by omega),
      decide_eq_true (show 24 + j < 32 by omega), Bool.true_and, Bool.true_and]
  rw [bitOf_settled, hlow, harmed, Bool.and_eq_true, decide_eq_true_eq, and_assoc]

end Fcsr

/-! ## One record -/

namespace Record

/-- The saved state after a record is put back. -/
def putBack (r : Record) (st : FpState) : FpState :=
  match r with
  | bank b regs fcc fcsr =>
    { st with
      fpr := FpState.mergeRegs b.lanes regs st.fpr
      fcc := fcc
      fcsr := Fcsr.settled fcsr.toUInt64
      used := 1 }
  | lbt scr eflags ftop =>
    { st with scr := scr, eflags := eflags.toUInt64, ftop := ftop.toUInt64 }

/-- The control register of a record has an enabled exception pending. -/
def raises : Record → Bool
  | bank _ _ _ fcsr => Fcsr.isPending fcsr.toUInt64
  | lbt .. => false

end Record

namespace RecordKind

/-- The live registers after those of a kind are loaded from `st`. -/
def load (k : RecordKind) (st live : FpState) : FpState :=
  match k with
  | bank b => .moveBank b st live
  | lbt => .moveLbt st live

/-- The effect of loading the live registers of a kind. -/
def restoreEffect : RecordKind → Effect
  | bank b => .fpRestore b
  | lbt => .lbtRestore

end RecordKind

/-- A record goes to the saved state, and to the live registers while its unit is enabled; an
exception found in it is queued. -/
theorem restoreRecord_eq (euen era : UInt64) (task : Task) (hw : Hardware) (r : Record) :
    restoreRecord euen era task hw r =
      ({ task with
          switch := { task.switch with fpu := r.putBack task.switch.fpu }
          signals := task.signals.queueFpe r.raises (fpSignalInfo era) },
        if hasBits euen r.kind.enableBit then
          { hw with
            fp := r.kind.load (r.putBack task.switch.fpu) hw.fp
            history := r.kind.restoreEffect :: hw.history }
        else hw) := by
  cases r with
  | bank b regs fcc fcsr =>
    simp only [restoreRecord, Record.kind, Record.apply, Record.putBack, Record.raises,
      Fcsr.settled, RecordKind.enableBit, RecordKind.load, RecordKind.restoreEffect]
    rfl
  | lbt scr eflags ftop =>
    simp only [restoreRecord, Record.kind, Record.apply, Record.putBack, Record.raises,
      RecordKind.enableBit, RecordKind.load, RecordKind.restoreEffect]
    rfl

theorem fpu_restoreRecord (euen era : UInt64) (task : Task) (hw : Hardware) (r : Record) :
    (restoreRecord euen era task hw r).1.switch.fpu = r.putBack task.switch.fpu := by
  rw [restoreRecord_eq]

theorem fp_restoreRecord (euen era : UInt64) (task : Task) (hw : Hardware) (r : Record) :
    (restoreRecord euen era task hw r).2.fp =
      if hasBits euen r.kind.enableBit then r.kind.load (r.putBack task.switch.fpu) hw.fp
      else hw.fp := by
  rw [restoreRecord_eq]
  dsimp only
  split <;> rfl

/-! ## All records -/

/-- Of all the records of a chain, a task gets the saved registers, and the signal if one of them
raises it. -/
theorem restoreRecords_task (euen era : UInt64) : ∀ (rs : List Record) (task : Task)
    (hw : Hardware),
    (restoreRecords euen era task hw rs).1 =
      { task with
        switch := { task.switch with
          fpu := rs.foldl (fun st r => r.putBack st) task.switch.fpu }
        signals := task.signals.queueFpe (rs.any Record.raises) (fpSignalInfo era) }
  | [], _, _ => rfl
  | r :: rs, task, hw => by
    rw [restoreRecords, restoreRecords_task euen era rs, restoreRecord_eq, List.any_cons,
      List.foldl_cons, SignalState.queueFpe_queueFpe]

/-- The loads of a return, oldest first: one for each record whose unit is enabled. -/
def Record.loads (euen : UInt64) (rs : List Record) : List Effect :=
  (rs.filter fun r => hasBits euen r.kind.enableBit).map fun r => r.kind.restoreEffect

/-- The live registers are loaded once for each record of an enabled unit, in order, and nothing
else of the hardware is touched. -/
theorem restoreRecords_hardware (euen era : UInt64) : ∀ (rs : List Record) (task : Task)
    (hw : Hardware), ∃ fp : FpState,
    (restoreRecords euen era task hw rs).2 =
      { hw with fp := fp, history := (Record.loads euen rs).reverse ++ hw.history }
  | [], _, hw => ⟨hw.fp, rfl⟩
  | r :: rs, task, hw => by
    obtain ⟨fp, hrest⟩ := restoreRecords_hardware euen era rs
      (restoreRecord euen era task hw r).1 (restoreRecord euen era task hw r).2
    refine ⟨fp, ?_⟩
    rw [restoreRecords, hrest, restoreRecord_eq]
    unfold Record.loads
    by_cases he : hasBits euen r.kind.enableBit = true
    · simp only [he, if_true, List.filter_cons_of_pos, List.map_cons, List.reverse_cons,
        List.append_assoc, List.singleton_append]
    · simp only [he, Bool.false_eq_true, if_false, not_false_eq_true, List.filter_cons_of_neg]

/-! ## Refused or restored -/

theorem onlyReads_readReturnImage (hw : Hardware) (sp : UInt64) :
    hw.OnlyReads (readReturnImage hw sp).2 := by
  have himage := hw.onlyReads_fetch sp SigFrame.size
  unfold readReturnImage
  cases hfetch : hw.fetch sp SigFrame.size with
  | mk bytes read =>
    rw [hfetch] at himage
    cases bytes with
    | none => exact himage
    | some bytes =>
      have hchain := himage.trans
        (read.onlyReads_readChain (sp + UInt64.ofNat SigFrame.scExtOff))
      dsimp only
      cases hres : read.readChain (sp + UInt64.ofNat SigFrame.scExtOff) with
      | mk result after =>
        rw [hres] at hchain
        cases result with
        | error e => exact hchain
        | ok records => exact hchain

theorem sigreturn_eq {hw read : Hardware} {task : Task} {frame : ExceptionFrame}
    {image : ReturnImage} (h : readReturnImage hw frame.sp = (.ok image, read)) :
    let restored := restoreRecords frame.euen image.frame.context.pc
      { task with signals := restoreSignals image.frame task.signals } read image.records
    sigreturn hw task frame =
      (.ok ⟨restored.1, (restoreFrame image.frame frame).setKind .sigReturn⟩, restored.2) := by
  unfold sigreturn
  simp only [h]
  rfl

/-- A return restores from what it has read, or it is refused and only looked. -/
theorem sigreturn_cases (hw : Hardware) (task : Task) (frame : ExceptionFrame) :
    (∃ (image : ReturnImage) (read : Hardware), hw.OnlyReads read ∧
      readReturnImage hw frame.sp = (.ok image, read) ∧
      let restored := restoreRecords frame.euen image.frame.context.pc
        { task with signals := restoreSignals image.frame task.signals } read image.records
      sigreturn hw task frame =
        (.ok ⟨restored.1, (restoreFrame image.frame frame).setKind .sigReturn⟩, restored.2)) ∨
    ∃ (e : SigreturnError) (read : Hardware), hw.OnlyReads read ∧
      readReturnImage hw frame.sp = (.error e, read) ∧
      sigreturn hw task frame = (.error e, read) := by
  have hread := onlyReads_readReturnImage hw frame.sp
  cases himage : readReturnImage hw frame.sp with
  | mk result read =>
    rw [himage] at hread
    cases result with
    | ok image => exact .inl ⟨image, read, hread, rfl, sigreturn_eq himage⟩
    | error e =>
      refine .inr ⟨e, read, hread, rfl, ?_⟩
      unfold sigreturn
      simp only [himage]

/-- The frame and the chain are read and checked before a register is loaded: what a return reads
comes first in its trace, and is all of it if the return is refused. -/
theorem sigreturn_looksFirst (hw : Hardware) (task : Task) (frame : ExceptionFrame) :
    hw.LooksFirst (sigreturn hw task frame).2 (sigreturn hw task frame).1.isOk := by
  rcases sigreturn_cases hw task frame with
    ⟨image, read, hread, -, heq⟩ | ⟨e, read, hread, -, heq⟩
  · rw [heq]
    obtain ⟨fp, hhw⟩ := restoreRecords_hardware frame.euen image.frame.context.pc image.records
      { task with signals := restoreSignals image.frame task.signals } read
    refine hread.looksFirst (congrArg Hardware.history hhw) fun e he => ?_
    obtain ⟨r, -, rfl⟩ := List.mem_map.1 (List.mem_reverse.1 he)
    cases r <;> rfl
  · rw [heq]
    exact hread.looksFirst_refused

theorem sigreturn_of_isOk {hw : Hardware} {task : Task} {frame : ExceptionFrame}
    (h : (sigreturn hw task frame).1.isOk = true) :
    ∃ (back : Returned) (hw' : Hardware), sigreturn hw task frame = (.ok back, hw') := by
  cases hret : sigreturn hw task frame with
  | mk result hw' =>
    cases result with
    | error e => rw [hret] at h; cases h
    | ok back => exact ⟨back, hw', rfl⟩

/-! ## What a return may change -/

/-- What is left of a task and its frame by a return that was accepted, whatever the image was. -/
structure Returned.Confined (back : Returned) (task : Task) (frame : ExceptionFrame) : Prop where
  /-- The mode, the enables, the cause and the fault address are those of the trap. -/
  status : ∀ field : StatusField, field ≠ .era → back.frame.status field = frame.status field
  origA0 : back.frame.origA0 = frame.origA0
  zero : back.frame.regs.read Reg.zero = 0
  kind : back.frame.kind = .sigReturn
  kill : back.task.signals.blocked.contains Signal.kill = false
  stop : back.task.signals.blocked.contains Signal.stop = false
  actions : back.task.signals.actions = task.signals.actions
  /-- No pending signal is lost. -/
  kept : ∀ sig, task.signals.pending.contains sig = true →
    back.task.signals.pending.contains sig = true
  /-- Only a floating-point exception is added. -/
  added : ∀ sig, back.task.signals.pending.contains sig = true →
    task.signals.pending.contains sig = true ∨ sig = Signal.fpe
  /-- Beside its signals, only the saved register banks of the task are others. -/
  rest : back.task = { task with
    switch := { task.switch with fpu := back.task.switch.fpu }
    signals := back.task.signals }

theorem status_restoreFrame (image : SigFrame) (frame : ExceptionFrame) {field : StatusField}
    (h : field ≠ .era) :
    ((restoreFrame image frame).setKind .sigReturn).status field = frame.status field := by
  cases field with
  | era => exact absurd rfl h
  | badv | crmd | prmd | euen | ecfg | estat => rfl

theorem blocked_restoreSignals (image : SigFrame) (s : SignalState) {sig : Signal}
    (h : SigSet.unblockable.contains sig = true) :
    (restoreSignals image s).blocked.contains sig = false := by
  show (image.mask.without .unblockable).contains sig = false
  rw [SigSet.contains_without, h, Bool.not_true, Bool.and_false]

/-- Whatever an image restores is confined: its records reach the saved banks, and the signal state
only by the exception that they raise. -/
theorem confined_of_restore (image : ReturnImage) (task : Task) (frame : ExceptionFrame)
    (read : Hardware) :
    let restored := restoreRecords frame.euen image.frame.context.pc
      { task with signals := restoreSignals image.frame task.signals } read image.records
    Returned.Confined ⟨restored.1, (restoreFrame image.frame frame).setKind .sigReturn⟩ task
      frame := by
  intro restored
  have htask : restored.1 = _ := restoreRecords_task frame.euen image.frame.context.pc
    image.records { task with signals := restoreSignals image.frame task.signals } read
  have hpending := (restoreSignals image.frame task.signals).pending_queueFpe_iff
    (image.records.any Record.raises) (fpSignalInfo image.frame.context.pc)
  have hblocked : ∀ sig, SigSet.unblockable.contains sig = true →
      ((restoreSignals image.frame task.signals).queueFpe (image.records.any Record.raises)
        (fpSignalInfo image.frame.context.pc)).blocked.contains sig = false := by
    intro sig h
    rw [SignalState.blocked_queueFpe]
    exact blocked_restoreSignals _ _ h
  rw [htask]
  exact
    { status := fun _ h => status_restoreFrame image.frame frame h
      origA0 := rfl
      zero := RegFile.read_put_same _ _ _
      kind := rfl
      kill := hblocked Signal.kill (by decide)
      stop := hblocked Signal.stop (by decide)
      actions := SignalState.actions_queueFpe _ _ _
      kept := fun sig h => (hpending sig).2 (.inl h)
      added := fun sig h => ((hpending sig).1 h).imp_right And.right
      rest := rfl }

/-- A refused return leaves the caller the task and the frame that it had: it kills the task over
them, and the hardware differs in its trace alone. -/
theorem Machine.sysSigreturn_of_current {m : Machine} {id : TaskId} {task : Task}
    (h : m.currentTask? = some (id, task)) (frame : ExceptionFrame) :
    match sigreturn m.hw task frame with
    | (.error _, _) => ∃ history : List Effect,
      m.sysSigreturn frame = (frame, { m with
        hw := { m.hw with history := history }
        tasks := m.tasks.put id (task.terminate Signal.segv) })
    | (.ok back, hw') =>
      m.sysSigreturn frame = (back.frame, { m with
        hw := hw'
        tasks := m.tasks.put id back.task }) := by
  unfold sysSigreturn
  simp only [h]
  rcases sigreturn_cases m.hw task frame with
    ⟨image, read, -, -, heq⟩ | ⟨e, read, hread, -, heq⟩
  · rw [heq]
    rfl
  · rw [heq]
    obtain ⟨reads, -, rfl⟩ := hread
    exact ⟨_, rfl⟩

/-- A forged frame cannot corrupt or privilege a task. Whatever memory holds, a return that is
refused has read table entries and user memory and nothing else, and its caller goes on with the
frame and the task that it had, to kill the task. One that is accepted changes no status word but
the program counter, blocks neither of the signals that cannot be blocked, keeps the actions and
the pending signals, and adds at most a floating-point exception; of the hardware it changes the
live register banks. -/
theorem sigreturn_confined (hw : Hardware) (task : Task) (frame : ExceptionFrame) :
    (match sigreturn hw task frame with
      | (.error _, hw') => hw.OnlyReads hw'
      | (.ok back, hw') => back.Confined task frame ∧
        hw' = { hw with fp := hw'.fp, history := hw'.history }) ∧
    ∀ m : Machine, match m.currentTask? with
      | none => m.sysSigreturn frame = (frame, m)
      | some (id, current) =>
        match sigreturn m.hw current frame with
        | (.error _, _) => ∃ history : List Effect,
          m.sysSigreturn frame = (frame, { m with
            hw := { m.hw with history := history }
            tasks := m.tasks.put id (current.terminate Signal.segv) })
        | (.ok back, hw') =>
          m.sysSigreturn frame = (back.frame, { m with
            hw := hw'
            tasks := m.tasks.put id back.task }) := by
  constructor
  · rcases sigreturn_cases hw task frame with
      ⟨image, read, hread, -, heq⟩ | ⟨e, read, hread, -, heq⟩
    · rw [heq]
      refine ⟨confined_of_restore image task frame read, ?_⟩
      obtain ⟨reads, -, rfl⟩ := hread
      obtain ⟨fp, hhw⟩ := restoreRecords_hardware frame.euen image.frame.context.pc image.records
        { task with signals := restoreSignals image.frame task.signals }
        { hw with history := reads ++ hw.history }
      rw [hhw]
    · rw [heq]
      exact hread
  · intro m
    cases hcur : m.currentTask? with
    | none =>
      unfold Machine.sysSigreturn
      rw [hcur]
    | some current => exact Machine.sysSigreturn_of_current hcur frame

end TrapLayer
