import TrapLayer.Proofs.Debug.History
import TrapLayer.Proofs.Trap.Handlers
import TrapLayer.Proofs.Trap.Slots

/-!
# Traps are legal and balanced

A dispatch does to the slot of its core what the word of one trap says, around the words of the
traps that its handlers take. It does so whether it resumes or halts, and whatever becomes of the
task. Words are legal and balanced, and the operations of other cores do not matter to a slot, so
any number of cores may take traps at once.

* `FatalReport.not_reportsIllegal`: a report of a fault is none of an illegal transition.
* `TakesTraps.leave`, `TakesTraps.returnToUser`: the two ways to close a trap.
* `takesTraps_dispatch`: a dispatch is the word of a trap if its handlers are words.
* `Handles.takesTraps`: so are handlers that take traps, to any depth.
* `dispatch_legal_and_balanced`: the slots, the counter and the reports over any interleaving.
* `ScriptTables.serves_kernel`: scripted handlers are among those it is about.
-/
namespace TrapLayer

/-! ## Reports of faults -/

theorem CpuId.toList_name (cpu : CpuId) :
    cpu.name.toList = 'c' :: 'p' :: 'u' :: Nat.toDigits 10 cpu.index.val := by
  have hdigits : (toString cpu.index.val).toList = Nat.toDigits 10 cpu.index.val :=
    String.toList_ofList
  unfold name
  rw [String.toList_append, hdigits]
  rfl

theorem CpuId.name_chars (cpu : CpuId) :
    cpu.name.toList.head? = some 'c' ∧ ∀ c ∈ cpu.name.toList, (c != ':') = true := by
  rw [cpu.toList_name]
  refine ⟨rfl, fun c hc => bne_iff_ne.2 ?_⟩
  rintro rfl
  simp only [List.mem_cons, Char.reduceEq, false_or] at hc
  exact absurd (Nat.isDigit_of_mem_toDigits (by decide) (by decide) hc) (by decide)

/-- The first row of a report names its core and says that it is fatal; the others are indented. -/
theorem FatalReport.row_chars {r : FatalReport} {row : String} (h : row ∈ r.rows) :
    (∃ rest : List Char, row.toList = r.cpu.name.toList ++ (": fatal ".toList ++ rest)) ∨
      row.toList.head? = some ' ' := by
  simp only [rows, List.cons_append, List.nil_append, List.mem_cons, List.mem_map] at h
  rcases h with rfl | rfl | rfl | ⟨first, -, rfl⟩
  · left
    simp only [String.toList_append, List.append_assoc]
    exact ⟨_, rfl⟩
  all_goals
    right
    simp [String.toList_append]

theorem FatalReport.not_reportsIllegal {r : FatalReport} {line : LogLine} (h : line ∈ r.lines) :
    ¬ line.ReportsIllegal := by
  rintro ⟨cpu, what, rfl⟩
  obtain ⟨row, hrow, heq⟩ := List.mem_map.1 h
  obtain ⟨hhead, hcolon⟩ := cpu.name_chars
  have htext : row.toList =
      cpu.name.toList ++ (": illegal transition ".toList ++ what.toList) := by
    rw [(LogLine.mk.inj heq).2.2]
    simp only [String.toList_append, List.append_assoc]
  rcases row_chars hrow with ⟨rest, hfatal⟩ | hindent
  · -- behind the names, one goes on with an `f` and the other with an `i`
    have hrest := congrArg (List.dropWhile (· != ':')) (hfatal.symm.trans htext)
    rw [List.dropWhile_append_of_pos r.cpu.name_chars.2, List.dropWhile_append_of_pos hcolon]
      at hrest
    have hthird : some 'f' = some 'i' := congrArg (·[2]?) hrest
    exact absurd hthird (by decide)
  · rw [htext, List.head?_append, hhead] at hindent
    have hfirst : some 'c' = some ' ' := hindent
    exact absurd hfirst (by decide)

/-! ## Steps aside -/

theorem Effect.aside_of_isBeside {e : Effect} (h : e.isBeside = true) : e.Aside := by
  cases e with
  | transition cpu s => cases h
  | logged line =>
    rintro ⟨cpu, what, rfl⟩
    cases h
  | _ => trivial

namespace Machine

theorem Beside.aside {sort : Effect → Prop} {m n : Machine} (h : m.Beside sort n)
    (hs : ∀ e, sort e → e.Aside) : m.Aside n := ⟨h.cpus, h.traps, h.emits.mono hs⟩

theorem aside_of_isBeside {m n : Machine} (h : m.Beside (·.isBeside = true) n) : m.Aside n :=
  h.aside fun _ => Effect.aside_of_isBeside

theorem aside_of_isWork {m n : Machine} (h : m.Beside (·.isWork = true) n) : m.Aside n :=
  aside_of_isBeside (h.mono fun _ => Effect.isBeside_of_isWork)

theorem aside_emit (m : Machine) {e : Effect} (h : e.Aside) : m.Aside (m.emit e) :=
  ⟨rfl, rfl, .of_emit _ h⟩

theorem aside_haltReport (m : Machine) (cpu : CpuId) (f : ExceptionFrame) (fault : FaultClass) :
    m.Aside (m.haltReport cpu f fault).2 := by
  refine (beside_haltReport m cpu f fault).aside ?_
  rintro e ⟨line, hmem, rfl⟩
  exact FatalReport.not_reportsIllegal hmem

/-! ## Traps on one core -/

/-- From one machine to another, at `d` nested traps of a core, that core takes the traps `fs`, in
the order they are recorded. -/
def TakesTraps (cpu : CpuId) (d : Nat) (fs : List ExceptionFrame) (m n : Machine) : Prop :=
  ∃ ops : List SlotOp, TrapOps d ops fs ∧ m.Interleaved (ops.map (cpu, ·)) n

namespace TakesTraps

variable {cpu : CpuId} {d : Nat} {fs gs : List ExceptionFrame} {f g : ExceptionFrame}
  {m n o : Machine}

theorem of_aside (h : m.Aside n) : m.TakesTraps cpu d [] n := ⟨[], .none, .aside h (.done n)⟩

theorem trans (h : m.TakesTraps cpu d fs n) (h' : n.TakesTraps cpu d gs o) :
    m.TakesTraps cpu d (fs ++ gs) o := by
  obtain ⟨a, ha, hm⟩ := h
  obtain ⟨b, hb, hn⟩ := h'
  exact ⟨a ++ b, .append ha hb, by rw [List.map_append]; exact hm.trans hn⟩

theorem aside_trans (h : m.Aside n) (h' : n.TakesTraps cpu d fs o) : m.TakesTraps cpu d fs o := by
  obtain ⟨ops, hops, hn⟩ := h'
  exact ⟨ops, hops, .aside h hn⟩

theorem trans_aside (h : m.TakesTraps cpu d fs n) (h' : n.Aside o) : m.TakesTraps cpu d fs o := by
  have hall := h.trans (of_aside h')
  rwa [List.append_nil] at hall

theorem balanced (h : m.TakesTraps cpu d fs n) (hs : (m.slot cpu).Open d) :
    (m.slot cpu).Balanced (n.slot cpu) fs.length := by
  obtain ⟨ops, hops, hm⟩ := h
  rw [hm.slot, opsOf_same]
  exact (hops.runs hs).2

theorem isOpen (h : m.TakesTraps cpu d fs n) (hs : (m.slot cpu).Open d) :
    (n.slot cpu).Open d := (h.balanced hs).isOpen hs

theorem askSwitch (m : Machine) (cpu : CpuId) : m.TakesTraps cpu d [] (m.setNeedResched cpu) :=
  ⟨[.setNeedResched], .askSwitch, .perform .setNeedResched (.done _)⟩

theorem takeSwitch (m : Machine) (cpu : CpuId) :
    m.TakesTraps cpu d [] (m.takeNeedResched cpu).2 :=
  ⟨[.takeNeedResched], .takeSwitch, .perform .takeNeedResched (.done _)⟩

theorem reschedule (m : Machine) (cpu : CpuId) :
    m.TakesTraps cpu d [] ((m.setNeedResched cpu).emit .reschedule) :=
  (askSwitch m cpu).trans_aside (aside_emit _ (e := .reschedule) trivial)

theorem interrupt (h : (m.irqEnter cpu).TakesTraps cpu d fs n) :
    m.TakesTraps cpu d fs (n.irqExit cpu) := by
  obtain ⟨a, ha, hm⟩ := h
  refine ⟨_, .interrupt ha, .perform .irqEnter ?_⟩
  rw [List.map_append]
  exact hm.trans (.perform .irqExit (.done _))

theorem leave (hd : d + 1 < 2 ^ 32)
    (h : ((m.record f).enter cpu).TakesTraps cpu (d + 1) fs n) :
    m.TakesTraps cpu d (f :: fs) (n.leave cpu) := by
  obtain ⟨a, ha, hm⟩ := h
  refine ⟨_, .trap hd ha, .perform (.record f) (.perform .enter ?_)⟩
  rw [List.map_append]
  exact hm.trans (.perform .leave (.done _))

theorem returnToUser (hs : (m.slot cpu).Open d) (hd : d + 1 < 2 ^ 32)
    (h : ((m.record f).enter cpu).TakesTraps cpu (d + 1) fs n) :
    m.TakesTraps cpu d (f :: fs) ((n.returnToUser cpu g).2.leave cpu) := by
  unfold Machine.returnToUser
  split
  · rename_i hback
    have hopen : ((m.record f).enter cpu).slot cpu = (m.slot cpu).enter := slot_moveTo_same ..
    have hone : (n.slot cpu).depth = 1 := by
      simp only [Bool.and_eq_true, beq_iff_eq] at hback
      exact hback.2
    have hd0 : d = 0 := (h.isOpen (by rw [hopen]; exact hs.enter hd)).depth_eq_one_iff.1 hone
    subst hd0
    obtain ⟨a, ha, hm⟩ := h
    refine ⟨_, .userTrap ha, .perform (.record f) (.perform .enter ?_)⟩
    rw [List.map_append]
    refine hm.trans (.perform .beginReturn ?_)
    exact .aside (aside_of_isBeside (beside_resumeCurrent _ g))
      (.perform .leave (.done _))
  · exact h.leave hd

end TakesTraps

/-! ## Dispatch -/

section

variable {k : Kernel} {cpu : CpuId} {d : Nat} {f : ExceptionFrame}

theorem takesTraps_handleClaimed
    (hirqs : ∀ irq h, k.irqs.handler? irq = some h → ∀ m : Machine, (m.slot cpu).Open d →
      ∃ fs, m.TakesTraps cpu d fs (h irq cpu m))
    {m : Machine} (hs : (m.slot cpu).Open d) (p : PendingIrq) :
    ∃ fs, m.TakesTraps cpu d fs (handleClaimed k m cpu p) := by
  have hopen : (((m.emit (.irqClaim p.source p.irq)).irqEnter cpu).slot cpu).Open d := by
    rw [irqEnter, slot_setSlot_same]
    exact ⟨hs.depth, hs.state⟩
  have hclaim : m.Aside (m.emit (.irqClaim p.source p.irq)) := aside_emit m trivial
  have hdone : ∀ n : Machine, n.Aside (n.emit (.irqDone p.irq p.source)) :=
    fun n => aside_emit n trivial
  unfold handleClaimed
  cases hh : k.irqs.handler? p.irq with
  | none =>
    have hwarned := aside_of_isWork (m := (m.emit (.irqClaim p.source p.irq)).irqEnter cpu)
      (.emit _ (e := .logged ⟨.warn, "irq", cpu.name ++ ": spurious irq " ++ toString p.irq.val⟩)
        rfl)
    exact ⟨[], .aside_trans hclaim (.interrupt (.of_aside (hwarned.trans (hdone _))))⟩
  | some h =>
    obtain ⟨fs, hfs⟩ := hirqs p.irq h hh _ hopen
    exact ⟨fs, .aside_trans hclaim (.interrupt (hfs.trans_aside (hdone _)))⟩

theorem takesTraps_drainUpTo
    (hirqs : ∀ irq h, k.irqs.handler? irq = some h → ∀ m : Machine, (m.slot cpu).Open d →
      ∃ fs, m.TakesTraps cpu d fs (h irq cpu m)) :
    ∀ (fuel : Nat) {m : Machine}, (m.slot cpu).Open d →
      ∃ fs, m.TakesTraps cpu d fs (drainUpTo k cpu fuel m).2
  | 0, m, _ => ⟨[], .of_aside (.refl m)⟩
  | fuel + 1, m, hs => by
    unfold drainUpTo
    split
    · exact ⟨[], .of_aside (.refl m)⟩
    · rename_i p rest _
      have hclaimed : m.Aside { m with pending := rest } := ⟨rfl, rfl, .refl _⟩
      obtain ⟨fs, hfs⟩ := takesTraps_handleClaimed hirqs (m := { m with pending := rest }) hs p
      obtain ⟨gs, hgs⟩ := takesTraps_drainUpTo hirqs fuel (hfs.isOpen hs)
      exact ⟨fs ++ gs, .aside_trans hclaimed (hfs.trans hgs)⟩

theorem takesTraps_runSyscall
    (hcalls : ∀ h, k.syscalls.handler? f.syscallNumber = some h → ∀ args (m : Machine),
      (m.slot cpu).Open d → ∃ fs, m.TakesTraps cpu d fs (h args m).2)
    {m : Machine} (hs : (m.slot cpu).Open d) (frameAddr : UInt64) :
    ∃ fs, m.TakesTraps cpu d fs (runSyscall k m cpu frameAddr f).2 := by
  cases hh : k.syscalls.handler? f.syscallNumber with
  | none => exact ⟨[], .of_aside (aside_of_isWork (beside_runSyscall_of_unhandled hh _ _ _))⟩
  | some h =>
    rw [machine_runSyscall_of_handler hh]
    have hmode := aside_of_isWork (beside_writeCsr m .crmd (m.hw.readCsr .crmd ||| crmdIe))
    obtain ⟨fs, hfs⟩ := hcalls h hh (f.syscallArgs frameAddr) _ (by rw [hmode.slot]; exact hs)
    exact ⟨fs, .aside_trans hmode
      (hfs.trans_aside (aside_of_isWork (beside_writeCsr _ .crmd _)))⟩

/-- A trap does what its word says, around what its handlers do. -/
theorem takesTraps_dispatch {m : Machine} (frameAddr : UInt64) (hs : (m.slot cpu).Open d)
    (hd : d + 1 < 2 ^ 32)
    (hcalls : classify f.estat f.fromUser = .syscall →
      ∀ h, k.syscalls.handler? f.syscallNumber = some h → ∀ args (m : Machine),
        (m.slot cpu).Open (d + 1) → ∃ fs, m.TakesTraps cpu (d + 1) fs (h args m).2)
    (hirqs : classify f.estat f.fromUser = .interrupt →
      ∀ irq h, k.irqs.handler? irq = some h → ∀ m : Machine, (m.slot cpu).Open (d + 1) →
        ∃ fs, m.TakesTraps cpu (d + 1) fs (h irq cpu m)) :
    ∃ fs, m.TakesTraps cpu d (f :: fs) (dispatch k m cpu frameAddr f).machine := by
  have hopen : (((m.record f).enter cpu).slot cpu).Open (d + 1) := by
    rw [enter, slot_moveTo_same]
    exact hs.enter hd
  have hcapture : ∀ g : ExceptionFrame,
      ((m.record f).enter cpu).Aside (((m.record f).enter cpu).captureUserEntry g) :=
    fun g => aside_of_isBeside (beside_captureUserEntry _ g)
  have hcaptured : ∀ g : ExceptionFrame,
      ((((m.record f).enter cpu).captureUserEntry g).slot cpu).Open (d + 1) := fun g => by
    rw [(hcapture g).slot]
    exact hopen
  unfold dispatch
  cases hc : classify f.estat f.fromUser with
  | syscall =>
    obtain ⟨fs, hfs⟩ := takesTraps_runSyscall (f := f.atSyscall) (hcalls hc)
      (hcaptured f.atSyscall) frameAddr
    exact ⟨fs, .returnToUser hs hd (.aside_trans (hcapture _) hfs)⟩
  | interrupt =>
    obtain ⟨fs, hfs⟩ := takesTraps_drainUpTo (hirqs hc)
      ((((m.record f).enter cpu).captureUserEntry (f.setKind .irq)).pending.length + k.raises)
      (hcaptured (f.setKind .irq))
    exact ⟨fs ++ [], .returnToUser hs hd
      (.aside_trans (hcapture _) (hfs.trans (.reschedule _ cpu)))⟩
  | miss kind =>
    refine ⟨[], ?_⟩
    have hmiss := aside_of_isWork (Beside.of_works ((m.record f).enter cpu)
      ((m.record f).enter cpu).tasks (works_resolveMiss _ (f.setKind .tlbRefill).badv
        (f.setKind .tlbRefill).fromUser kind))
    unfold handleMiss
    dsimp only
    split
    · exact .leave hd (.of_aside hmiss)
    · refine .leave hd (.of_aside (hmiss.trans ?_))
      exact (aside_of_isWork (.emit _ rfl)).trans (aside_haltReport _ cpu _ _)
  | fatal fault => exact ⟨[], .leave hd (.of_aside (aside_haltReport _ cpu _ fault))⟩

/-- What a handler does by itself: steps aside, and asking for a switch or taking the request. -/
inductive OwnStep (cpu : CpuId) : Machine → Machine → Prop
  | aside {m n : Machine} (h : m.Aside n) : OwnStep cpu m n
  | askSwitch (m : Machine) : OwnStep cpu m (m.setNeedResched cpu)
  | takeSwitch (m : Machine) : OwnStep cpu m (m.takeNeedResched cpu).2

/-- Handlers that take traps leave the slot of their core as they find it, but for the counter and
the wish for a switch. -/
theorem Handles.takesTraps {takes : ExceptionFrame → Prop} {n : Nat} {m m' : Machine}
    (h : m.Handles (OwnStep cpu) takes cpu n m') : ∀ {d : Nat}, (m.slot cpu).Open d →
      d + n < 2 ^ 32 → ∃ fs, m.TakesTraps cpu d fs m' := by
  induction h with
  | own h =>
    intro d _ _
    cases h with
    | aside h => exact ⟨[], .of_aside h⟩
    | askSwitch => exact ⟨[], .askSwitch _ cpu⟩
    | takeSwitch => exact ⟨[], .takeSwitch _ cpu⟩
  | append _ _ ih ih' =>
    intro d hs hd
    obtain ⟨fs, hfs⟩ := ih hs hd
    obtain ⟨gs, hgs⟩ := ih' (hfs.isOpen hs) hd
    exact ⟨fs ++ gs, hfs.trans hgs⟩
  | @trap n k m f frameAddr _ _ _ calls irqs =>
    intro d hs hd
    have hin : d + 1 + n < 2 ^ 32 := by omega
    obtain ⟨fs, hfs⟩ := takesTraps_dispatch frameAddr hs (by omega)
      (fun hc h hh args m hm => calls hc h hh args m hm hin)
      (fun hc irq h hh m hm => irqs hc irq h hh m hm hin)
    exact ⟨_, hfs⟩

end

/-- The dispatcher of a core is legal and balanced, however deeply traps nest. Take a trap whose
handlers do anything they like beside the slots, may ask for a switch or take the request, and take
traps of their own whose handlers do the same, as deep as the counter can count. Whether it resumes
or halts, it does to the slot of its core what the word of a trap says: the slot is in the end as it
was, every trap that was recorded meanwhile is counted, and no other slot has changed. Any words of
traps may be interleaved from fresh slots, and cut off anywhere: at every transition the core is
idle exactly outside of traps and returns to user mode only from the outermost, no transition is
reported as illegal, and each slot follows its own core alone. -/
theorem dispatch_legal_and_balanced :
    (∀ (k : Kernel) (m : Machine) (cpu : CpuId) (frameAddr : UInt64) (f : ExceptionFrame)
        (d n : Nat),
      k.Serves (OwnStep cpu) (fun _ => True) cpu n f → (m.slot cpu).Open d → d + n + 1 < 2 ^ 32 →
      let done := dispatch k m cpu frameAddr f
      ∃ (ops : List SlotOp) (fs : List ExceptionFrame), TrapOps d ops (f :: fs) ∧
        m.Interleaved (ops.map (cpu, ·)) done.machine ∧
        (m.slot cpu).Balanced (done.machine.slot cpu) (f :: fs).length ∧
        done.machine.traps = (f :: fs).foldl TrapRing.record m.traps ∧
        (∀ e ∈ done.machine.hw.since m.hw.mark, e.Lawful) ∧
        ∀ other, other ≠ cpu → done.machine.slot other = m.slot other) ∧
    ∀ (m n : Machine) (es : List (CpuId × SlotOp)), m.cpus = .fresh → m.Interleaved es n →
      (∀ cpu, ∃ ops fs, TrapOps 0 ops fs ∧ opsOf cpu es <+: ops) →
      (∀ e ∈ n.hw.since m.hw.mark, e.Lawful) ∧
      ∀ cpu, n.slot cpu = CpuSlot.fresh.run (opsOf cpu es) ∧ (n.slot cpu).Legal ∧
        ∀ fs, TrapOps 0 (opsOf cpu es) fs → CpuSlot.fresh.Balanced (n.slot cpu) fs.length := by
  constructor
  · intro k m cpu frameAddr f d n hk hs hd done
    have hin : ∀ m : Machine, (m.slot cpu).Open (d + 1) → ∀ m' : Machine,
        m.Handles (OwnStep cpu) (fun _ => True) cpu n m' → ∃ fs, m.TakesTraps cpu (d + 1) fs m' :=
      fun m hm m' h => h.takesTraps hm (by omega)
    obtain ⟨fs, hfs⟩ := takesTraps_dispatch (k := k) frameAddr hs (by omega)
      (fun hc h hh args m hm => hin m hm _ (hk.calls hc h hh args m))
      (fun hc irq h hh m hm => hin m hm _ (hk.irqs hc irq h hh m))
    have hbalanced := hfs.balanced hs
    obtain ⟨ops, hops, hrun⟩ := hfs
    refine ⟨ops, fs, hops, hrun, hbalanced, ?_, (hrun.lawful fun other => ?_).since,
      fun other hne => ?_⟩
    · rw [hrun.traps, List.filterMap_map]
      exact congrArg (List.foldl TrapRing.record m.traps) hops.recorded
    · by_cases hc : cpu = other
      · subst hc
        rw [opsOf_same]
        exact (hops.runs hs).1
      · rw [opsOf_of_ne hc]
        trivial
    · rw [hrun.slot other, opsOf_of_ne (Ne.symm hne)]
      rfl
  · intro m n es hfresh hrun hwords
    have hslot : ∀ cpu, m.slot cpu = .fresh := slot_of_fresh hfresh
    have hfollows : ∀ cpu, (m.slot cpu).Follows (opsOf cpu es) := fun cpu => by
      obtain ⟨ops, fs, hops, hfront⟩ := hwords cpu
      rw [hslot]
      exact (hops.runs CpuSlot.open_fresh).1.front hfront
    refine ⟨(hrun.lawful hfollows).since, fun cpu => ?_⟩
    have hend : n.slot cpu = CpuSlot.fresh.run (opsOf cpu es) := by rw [hrun.slot, hslot]
    have hf := hfollows cpu
    rw [hslot] at hf
    refine ⟨hend, ?_, fun fs hops => ?_⟩
    · rw [hend]
      exact hf.legal CpuSlot.open_fresh.legal
    · rw [hend]
      exact (hops.runs CpuSlot.open_fresh).2

end Machine

/-! ## Scripted handlers -/

namespace ScriptTables

theorem handles_takeNested {k : Kernel} {n : Nat}
    (hk : ∀ f, k.Serves Machine.Aside (fun _ => True) .boot n f) (m : Machine) :
    m.Handles Machine.Aside (fun _ => True) .boot (n + 1) (takeNested k .boot m) := by
  unfold takeNested
  split
  · exact .own (.refl m)
  · rename_i f rest _
    have hbegin : m.Aside ({ m with nested := rest }.emit .nestedBegin) :=
      ⟨rfl, rfl, .of_emit _ trivial⟩
    refine .append (.own hbegin)
      (.append (.trap frameAddr trivial (hk f).calls (hk f).irqs) (.own ?_))
    exact ⟨rfl, rfl, .of_emit _ trivial⟩

/-- Scripts do steps aside, and take the traps that are queued for them. -/
theorem serves_kernelWith (t : ScriptTables) {nested : CpuId → Machine → Machine} {n : Nat}
    (hn : ∀ m : Machine, m.Handles Machine.Aside (fun _ => True) .boot n (nested .boot m))
    (f : ExceptionFrame) :
    (t.kernelWith nested).Serves Machine.Aside (fun _ => True) .boot n f := by
  have hsignal : ∀ (m : Machine) (sig : Signal), m.Aside (m.signalCurrent sig) := by
    intro m sig
    unfold Machine.signalCurrent
    split
    · exact .refl m
    · exact ⟨rfl, rfl, .refl _⟩
  constructor
  · intro _ h hh args m
    obtain ⟨framed, s, rfl⟩ := SyscallTables.handler?_map hh
    have hrun : m.Aside (m.emit (.syscallRun s.name framed args (m.hw.readCsr .crmd))) :=
      Machine.aside_emit m trivial
    refine .append (.own hrun) ?_
    cases s with
    | alarm | kill => exact .own (hsignal _ _)
    | nest => exact hn _
    | _ => exact .own (.refl _)
  · intro _ irq h hh m
    unfold kernelWith at hh
    rw [IrqTable.handler?_map] at hh
    obtain ⟨s, -, rfl⟩ := Option.map_eq_some_iff.1 hh
    have hrun : m.Aside (m.emit (.irqRun irq .boot (m.slot .boot))) :=
      Machine.aside_emit m trivial
    refine .append (.own hrun) ?_
    cases s with
    | note => exact .own (.refl _)
    | nest => exact hn _
    | signal => exact .own (hsignal _ _)

/-- A kernel of scripts nests as deeply as it was built. -/
theorem serves_kernel (t : ScriptTables) : ∀ (n : Nat) (f : ExceptionFrame),
    (t.kernel n).Serves Machine.Aside (fun _ => True) .boot n f
  | 0 => t.serves_kernelWith fun m => .own (.refl m)
  | n + 1 => t.serves_kernelWith (handles_takeNested (t.serves_kernel n))

end ScriptTables

/-- A call whose handler takes another trap is balanced, and so are two calls on two cores at
once. -/
theorem dispatch_legal_and_balanced_nested :
    let done := Machine.dispatch (ScriptTables.nesting.kernel 1) .pair .boot 0 .ofCall
    let other : CpuId := ⟨1⟩
    let es : List (CpuId × SlotOp) :=
      [(.boot, .record .ofCall), (other, .record .ofCall), (.boot, .enter), (other, .enter),
        (other, .beginReturn), (.boot, .beginReturn), (.boot, .leave), (other, .leave)]
    (∃ fs : List ExceptionFrame,
      CpuSlot.fresh.Balanced (done.machine.slot .boot) (.ofCall :: fs).length ∧
        done.machine.traps = (.ofCall :: fs).foldl TrapRing.record .empty ∧
        done.machine.slot other = .fresh) ∧
      (done.machine.slot .boot).traps = 2 ∧
      ∃ n : Machine, Machine.pair.Interleaved es n ∧
        (∀ e ∈ n.hw.since Machine.pair.hw.mark, e.Lawful) ∧
        CpuSlot.fresh.Balanced (n.slot .boot) 1 ∧ CpuSlot.fresh.Balanced (n.slot other) 1 := by
  intro done other es
  obtain ⟨hdispatch, hany⟩ := Machine.dispatch_legal_and_balanced
  have hslot : ∀ cpu, Machine.pair.slot cpu = .fresh := Machine.slot_of_fresh rfl
  obtain ⟨ops, fs, -, -, hbalanced, hring, -, hothers⟩ :=
    hdispatch (ScriptTables.nesting.kernel 1) .pair .boot 0 .ofCall 0 1
      ((ScriptTables.nesting.serves_kernel 1 .ofCall).mono (fun _ _ => .aside) fun _ h => h)
      (hslot .boot ▸ CpuSlot.open_fresh) (by decide)
  refine ⟨⟨fs, hslot .boot ▸ hbalanced, hring, (hothers other (by decide)).trans (hslot other)⟩,
    by decide +kernel, ?_⟩
  -- both cores take a whole trap, and the others none
  have hword : TrapOps 0 [.record .ofCall, .enter, .beginReturn, .leave] [.ofCall] :=
    .userTrap .none
  have hwords : ∀ cpu, ∃ fs, TrapOps 0 (opsOf cpu es) fs := by
    intro cpu
    by_cases hb : CpuId.boot = cpu
    · subst hb
      exact ⟨_, hword⟩
    · by_cases ho : other = cpu
      · subst ho
        exact ⟨_, hword⟩
      · have hnone : opsOf cpu es = [] := by
          simp only [es, opsOf_cons_of_ne hb, opsOf_cons_of_ne ho]
          rfl
        exact ⟨[], hnone ▸ .none⟩
  have hrun : ∃ n, Machine.pair.Interleaved es n :=
    ⟨_, .perform _ (.perform _ (.perform _ (.perform _ (.perform _ (.perform _
      (.perform _ (.perform _ (.done _))))))))⟩
  obtain ⟨n, hn⟩ := hrun
  obtain ⟨hlawful, hslots⟩ := hany .pair n es rfl hn fun cpu => by
    obtain ⟨fs, hfs⟩ := hwords cpu
    exact ⟨_, fs, hfs, List.prefix_rfl⟩
  exact ⟨n, hn, hlawful, (hslots .boot).2.2 _ hword, (hslots other).2.2 _ hword⟩

end TrapLayer
