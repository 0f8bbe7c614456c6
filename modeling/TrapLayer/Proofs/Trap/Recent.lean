import Mathlib.Data.List.Induction
import TrapLayer.Proofs.Trap.Balance
import TrapLayer.Proofs.Trap.Drain

/-!
# The most recent traps

A trap is recorded before anything else is done with it, so the record goes by when traps start: a
trap that a handler takes comes after the one that runs the handler. Beyond that the record is left
alone. The ring it is kept in shows the last 64 of the frames that were recorded, oldest first,
wherever its writing end stands.

* `window_record`: recording a frame pushes it in at one end of the window, and the oldest out.
* `threaded_dispatch`: a dispatch records its own frame, and apart from that only its handlers do.
* `Machine.Dispatches`: runs of traps, nested to any depth, with the frames as they come in.
* `recent_of_dispatches`: what the record shows after any run.
-/
namespace TrapLayer

/-! ## The ring -/

namespace TrapRing

/-- The slots around the ring, from the one that is written next. -/
def window (r : TrapRing) : List (Option ExceptionFrame) := r.slots.toList.rotateLeft r.next.val

theorem window_eq (r : TrapRing) :
    r.window = r.slots.toList.drop r.next.val ++ r.slots.toList.take r.next.val := by
  unfold window List.rotateLeft
  rw [Vector.length_toList, if_neg (by decide), Nat.mod_eq_of_lt r.next.isLt]

/-- The writing end goes around the ring. -/
theorem next_record (r : TrapRing) (f : ExceptionFrame) :
    (r.record f).next.val = if r.next.val + 1 < 64 then r.next.val + 1 else 0 := by
  have hadd : (r.record f).next.val = (r.next.val + 1) % 64 := Fin.val_add r.next 1
  have hlt := r.next.isLt
  split <;> omega

/-- A frame that is recorded comes in at the end of the window, and the oldest slot goes out. -/
theorem window_record (r : TrapRing) (f : ExceptionFrame) :
    (r.record f).window = r.window.tail ++ [some f] := by
  have hlength : r.slots.toList.length = 64 := Vector.length_toList
  have hnext : r.next.val < r.slots.toList.length := by rw [hlength]; exact r.next.isLt
  have hset : (r.record f).slots.toList =
      r.slots.toList.take r.next.val ++ some f :: r.slots.toList.drop (r.next.val + 1) := by
    show (r.slots.set r.next.val (some f)).toList = _
    rw [Vector.toList_set, List.set_eq_take_append_cons_drop, if_pos hnext]
  have htail : r.window.tail =
      r.slots.toList.drop (r.next.val + 1) ++ r.slots.toList.take r.next.val := by
    rw [window_eq, List.drop_eq_getElem_cons hnext]
    rfl
  have hfront : (r.slots.toList.take r.next.val).length = r.next.val :=
    List.length_take_of_le (Nat.le_of_lt hnext)
  rw [htail, window_eq, next_record, hset]
  split
  · -- the slot that was written now ends the window
    rw [List.drop_append, List.take_append, hfront, Nat.add_sub_cancel_left,
      List.drop_eq_nil_of_le (by omega), List.take_of_length_le (by omega)]
    simp
  · -- the writing end is back at the first slot, so the last one ends the window
    have hend : r.slots.toList.drop (r.next.val + 1) = [] := List.drop_eq_nil_of_le (by omega)
    rw [hend]
    simp

/-- Behind empty slots for what is still to come, the window holds the last frames recorded. -/
theorem window_foldl_record (fs : List ExceptionFrame) :
    (fs.foldl record empty).window = (List.replicate 64 none ++ fs.map some).drop fs.length := by
  induction fs using List.reverseRecOn with
  | nil => rfl
  | append_singleton fs f ih =>
    rw [List.foldl_append, List.foldl_cons, List.foldl_nil, window_record, ih, List.tail_drop,
      List.map_append, ← List.append_assoc, List.length_append, List.length_singleton]
    refine (List.drop_append_of_le_length ?_).symm
    rw [List.length_append, List.length_replicate, List.length_map]
    omega

theorem recent_foldl_record (fs : List ExceptionFrame) :
    (fs.foldl record empty).recent = fs.drop (fs.length - 64) := by
  show (window _).filterMap id = _
  rw [window_foldl_record, List.drop_append, List.filterMap_append, List.length_replicate,
    List.drop_replicate, ← List.map_drop, List.filterMap_map]
  simp

theorem last_foldl_record (fs : List ExceptionFrame) (r : TrapRing) :
    (fs.foldl record r).last = fs.getLast?.or r.last := by
  cases fs using List.reverseRecOn with
  | nil => rfl
  | append_singleton fs f => simp [record]

end TrapRing

/-! ## The handler calls of a dispatch -/

namespace Machine

/-- The calls of handlers in a drain, each given by the machine it starts from and the one it
ends in. -/
def drainCalls (k : Kernel) (cpu : CpuId) : Nat → Machine → List (Machine × Machine)
  | 0, _ => []
  | fuel + 1, m =>
    match m.pending with
    | [] => []
    | p :: rest =>
      let start := m.claimed cpu p rest
      let here := match k.irqs.handler? p.irq with
        | some h => [(start, h p.irq cpu start)]
        | none => []
      here ++ drainCalls k cpu fuel (handleClaimed k { m with pending := rest } cpu p)

/-- The calls of handlers in a dispatch. -/
def handlerCalls (k : Kernel) (m : Machine) (cpu : CpuId) (frameAddr : UInt64)
    (f : ExceptionFrame) : List (Machine × Machine) :=
  match classify f.estat f.fromUser with
  | .syscall =>
    match k.syscalls.handler? f.syscallNumber with
    | some h =>
      [(m.atHandler cpu f, (h (f.atSyscall.syscallArgs frameAddr) (m.atHandler cpu f)).2)]
    | none => []
  | .interrupt =>
    let start := ((m.record f).enter cpu).captureUserEntry (f.setKind .irq)
    drainCalls k cpu (start.pending.length + k.raises) start
  | .miss _ | .fatal _ => []

/-- The record goes from `r` to `r'` through some stretches: each starts with what the one before it
left, and nothing is recorded between them. -/
def Threaded (r : TrapRing) : List (Machine × Machine) → TrapRing → Prop
  | [], r' => r' = r
  | c :: calls, r' => c.1.traps = r ∧ Threaded c.2.traps calls r'

theorem Threaded.append {r r' r'' : TrapRing} : ∀ {calls more : List (Machine × Machine)},
    Threaded r calls r' → Threaded r' more r'' → Threaded r (calls ++ more) r''
  | [], _, h, h' => by cases h; exact h'
  | _ :: _, _, h, h' => ⟨h.1, h.2.append h'⟩

variable {k : Kernel}

theorem traps_leave (m : Machine) (cpu : CpuId) : (m.leave cpu).traps = m.traps := by
  unfold leave
  dsimp only
  split <;> rfl

theorem traps_beginReturn (m : Machine) (cpu : CpuId) : (m.beginReturn cpu).traps = m.traps := by
  unfold beginReturn
  dsimp only
  split <;> rfl

theorem traps_returnToUser (m : Machine) (cpu : CpuId) (f : ExceptionFrame) :
    (m.returnToUser cpu f).2.traps = m.traps := by
  unfold returnToUser
  split
  · exact (beside_resumeCurrent _ f).traps.trans (m.traps_beginReturn cpu)
  · rfl

theorem threaded_drainUpTo (cpu : CpuId) : ∀ (fuel : Nat) (m : Machine),
    Threaded m.traps (drainCalls k cpu fuel m) (drainUpTo k cpu fuel m).2.traps
  | 0, m => rfl
  | fuel + 1, m => by
    unfold drainCalls drainUpTo
    cases hp : m.pending with
    | nil => rfl
    | cons p rest =>
      refine .append ?_
        (threaded_drainUpTo cpu fuel (handleClaimed k { m with pending := rest } cpu p))
      rw [handleClaimed_eq]
      unfold Kernel.answer
      cases k.irqs.handler? p.irq with
      | none => rfl
      | some h => exact ⟨rfl, rfl⟩

/-- A dispatch records the frame it is given first of all, and nothing but its handlers goes on
from there. -/
theorem threaded_dispatch (m : Machine) (cpu : CpuId) (frameAddr : UInt64) (f : ExceptionFrame) :
    Threaded (m.traps.record f) (handlerCalls k m cpu frameAddr f)
      (dispatch k m cpu frameAddr f).machine.traps := by
  have hentry : ∀ g : ExceptionFrame,
      (((m.record f).enter cpu).captureUserEntry g).traps = m.traps.record f :=
    fun g => (beside_captureUserEntry _ g).traps
  unfold handlerCalls dispatch
  cases classify f.estat f.fromUser with
  | syscall =>
    dsimp only [handleSyscall]
    rw [traps_leave, traps_returnToUser]
    cases hh : k.syscalls.handler? f.syscallNumber with
    | none =>
      exact (beside_runSyscall_of_unhandled (f := f.atSyscall) hh _ _ _).traps.trans (hentry _)
    | some h =>
      rw [machine_runSyscall_of_handler (f := f.atSyscall) hh]
      exact ⟨hentry _, rfl⟩
  | interrupt =>
    dsimp only [handleIrq]
    rw [traps_leave, traps_returnToUser, ← hentry (f.setKind .irq)]
    exact threaded_drainUpTo cpu _ _
  | miss kind =>
    dsimp only [handleMiss]
    split
    · exact traps_leave _ cpu
    · rw [traps_leave]
      exact (beside_haltReport _ cpu _ _).traps
  | fatal fault =>
    dsimp only [handleFault]
    rw [traps_leave]
    exact (beside_haltReport _ cpu _ fault).traps

/-! ## Runs -/

/-- From one machine to another the traps `fs` are dispatched, in the order they start, on any core
and by any kernel. Between them anything may happen that leaves the record alone, and a handler may
take traps again, to any depth; with each call of a handler go the traps it takes. -/
inductive Dispatches : Machine → List ExceptionFrame → Machine → Prop
  | aside {m n : Machine} (h : n.traps = m.traps) : Dispatches m [] n
  | append {m n o : Machine} {fs gs : List ExceptionFrame} (h : Dispatches m fs n)
    (h' : Dispatches n gs o) : Dispatches m (fs ++ gs) o
  | trap {k : Kernel} {m : Machine} {cpu : CpuId} {frameAddr : UInt64} {f : ExceptionFrame}
    (taken : List (List ExceptionFrame))
    (hlength : taken.length = (handlerCalls k m cpu frameAddr f).length)
    (h : ∀ (i : Nat) (a b : Machine) (fs : List ExceptionFrame),
      (handlerCalls k m cpu frameAddr f)[i]? = some (a, b) → taken[i]? = some fs →
        Dispatches a fs b) :
    Dispatches m (f :: taken.flatten) (dispatch k m cpu frameAddr f).machine

/-- The same, up to any place inside of a handler: the trap that runs it has started, and so have
those of the calls before it, and some of its own. -/
inductive Reaches : Machine → List ExceptionFrame → Machine → Prop
  | outside {m n : Machine} {fs : List ExceptionFrame} (h : Dispatches m fs n) : Reaches m fs n
  | inside {k : Kernel} {m n a b o : Machine} {cpu : CpuId} {frameAddr : UInt64}
    {f : ExceptionFrame} {fs gs : List ExceptionFrame} (before : Dispatches m fs n)
    (taken : List (List ExceptionFrame))
    (call : (handlerCalls k n cpu frameAddr f)[taken.length]? = some (a, b))
    (h : ∀ (i : Nat) (a b : Machine) (fs : List ExceptionFrame),
      (handlerCalls k n cpu frameAddr f)[i]? = some (a, b) → taken[i]? = some fs →
        Dispatches a fs b)
    (rest : Reaches a gs o) : Reaches m (fs ++ f :: (taken.flatten ++ gs)) o

theorem Threaded.traps_call {r r' : TrapRing} {a b : Machine} :
    ∀ {calls : List (Machine × Machine)} {taken : List (List ExceptionFrame)},
      Threaded r calls r' → calls[taken.length]? = some (a, b) →
      (∀ (i : Nat) (a b : Machine) (fs : List ExceptionFrame), calls[i]? = some (a, b) →
        taken[i]? = some fs → b.traps = fs.foldl TrapRing.record a.traps) →
      a.traps = taken.flatten.foldl TrapRing.record r
  | [], _, _, hcall, _ => by cases hcall
  | c :: _, [], h, hcall, _ => by
    obtain rfl : c = (a, b) := Option.some.inj hcall
    exact h.1
  | (start, last) :: calls, fs :: taken, h, hcall, htaken => by
    have hlast : last.traps = fs.foldl TrapRing.record r := h.1 ▸ htaken 0 start last fs rfl rfl
    rw [List.flatten_cons, List.foldl_append, ← hlast]
    exact h.2.traps_call hcall fun i => htaken (i + 1)

/-- The record behind the calls shows what all of them took. -/
theorem Threaded.traps_end {r r' : TrapRing} :
    ∀ {calls : List (Machine × Machine)} {taken : List (List ExceptionFrame)},
      Threaded r calls r' → taken.length = calls.length →
      (∀ (i : Nat) (a b : Machine) (fs : List ExceptionFrame), calls[i]? = some (a, b) →
        taken[i]? = some fs → b.traps = fs.foldl TrapRing.record a.traps) →
      r' = taken.flatten.foldl TrapRing.record r
  | [], [], h, _, _ => h
  | (start, last) :: calls, fs :: taken, h, hlength, htaken => by
    have hlast : last.traps = fs.foldl TrapRing.record r := h.1 ▸ htaken 0 start last fs rfl rfl
    rw [List.flatten_cons, List.foldl_append, ← hlast]
    exact h.2.traps_end (Nat.succ.inj hlength) fun i => htaken (i + 1)

theorem Dispatches.traps {m n : Machine} {fs : List ExceptionFrame} (h : m.Dispatches fs n) :
    n.traps = fs.foldl TrapRing.record m.traps := by
  induction h with
  | aside h => exact h
  | append _ _ ih ih' => rw [ih', ih, List.foldl_append]
  | trap taken hlength _ ih => exact (threaded_dispatch _ _ _ _).traps_end hlength ih

theorem Reaches.traps {m n : Machine} {fs : List ExceptionFrame} (h : m.Reaches fs n) :
    n.traps = fs.foldl TrapRing.record m.traps := by
  induction h with
  | outside h => exact h.traps
  | inside before taken call h _ ih =>
    have hcall := (threaded_dispatch _ _ _ _).traps_call call
      fun i a b fs hi ht => (h i a b fs hi ht).traps
    rw [ih, hcall, before.traps, List.foldl_append, List.foldl_cons, List.foldl_append]

/-! ## Dispatches are runs -/

theorem mem_drainCalls {k : Kernel} {cpu : CpuId} {fuel : Nat} {m : Machine}
    {c : Machine × Machine} (hc : c ∈ drainCalls k cpu fuel m) :
    ∃ irq h, k.irqs.handler? irq = some h ∧ c.2 = h irq cpu c.1 := by
  induction fuel generalizing m with
  | zero => exact absurd hc List.not_mem_nil
  | succ fuel ih =>
    unfold drainCalls at hc
    split at hc
    · exact absurd hc List.not_mem_nil
    · rename_i p rest _
      rcases List.mem_append.1 hc with hc | hc
      · split at hc
        · rename_i h hh
          rw [List.mem_singleton.1 hc]
          exact ⟨p.irq, h, hh, rfl⟩
        · exact absurd hc List.not_mem_nil
      · exact ih hc

/-- A dispatch whose handlers run traps is a run itself. -/
theorem dispatches_dispatch {k : Kernel} {cpu : CpuId} {f : ExceptionFrame} {m : Machine}
    (frameAddr : UInt64)
    (hcalls : classify f.estat f.fromUser = .syscall →
      ∀ h, k.syscalls.handler? f.syscallNumber = some h → ∀ args (m : Machine),
        ∃ fs, m.Dispatches fs (h args m).2)
    (hirqs : classify f.estat f.fromUser = .interrupt →
      ∀ irq h, k.irqs.handler? irq = some h → ∀ m : Machine, ∃ fs, m.Dispatches fs (h irq cpu m)) :
    ∃ fs, m.Dispatches (f :: fs) (dispatch k m cpu frameAddr f).machine := by
  have hmem : ∀ c ∈ handlerCalls k m cpu frameAddr f, ∃ fs, c.1.Dispatches fs c.2 := by
    intro c hc
    unfold handlerCalls at hc
    split at hc
    · rename_i hcause
      split at hc
      · rename_i h hh
        obtain rfl := List.mem_singleton.1 hc
        exact hcalls hcause h hh _ _
      · cases hc
    · rename_i hcause
      obtain ⟨irq, h, hh, he⟩ := mem_drainCalls hc
      rw [he]
      exact hirqs hcause irq h hh c.1
    all_goals cases hc
  choose! taken htaken using hmem
  refine ⟨_, .trap ((handlerCalls k m cpu frameAddr f).map taken) (List.length_map _) ?_⟩
  intro i a b fs hi hfs
  rw [List.getElem?_map, hi] at hfs
  obtain rfl := Option.some.inj hfs
  exact htaken (a, b) (List.mem_of_getElem? hi)

/-- Whatever handlers do is a run, if by themselves they leave the record alone. -/
theorem Handles.dispatches {takes : ExceptionFrame → Prop} {cpu : CpuId} {n : Nat}
    {m m' : Machine} (h : m.Handles (fun m n => n.traps = m.traps) takes cpu n m') :
    ∃ fs, m.Dispatches fs m' := by
  induction h with
  | own h => exact ⟨[], .aside h⟩
  | append _ _ ih ih' =>
    obtain ⟨fs, hfs⟩ := ih
    obtain ⟨gs, hgs⟩ := ih'
    exact ⟨fs ++ gs, hfs.append hgs⟩
  | trap frameAddr _ _ _ calls irqs =>
    obtain ⟨fs, hfs⟩ := dispatches_dispatch frameAddr calls irqs
    exact ⟨_, hfs⟩

/-- The record always shows the most recent traps. After any run from an empty record, with traps
nested in handlers to any depth, and at any place inside of a handler, the ring holds the frames of
the last traps that started, as they were when they did, oldest first: all of them up to 64, and
from then on 64. The last of them is the last trap. Every dispatch is such a run, as long as its
handlers leave the record alone but for the traps they take. -/
theorem recent_of_dispatches :
    (∀ (m n : Machine) (fs : List ExceptionFrame), m.traps = .empty → m.Reaches fs n →
      n.traps.recent = fs.drop (fs.length - 64) ∧
      n.traps.recent.length = min fs.length 64 ∧
      n.traps.last = fs.getLast?) ∧
    ∀ (k : Kernel) (m : Machine) (cpu : CpuId) (frameAddr : UInt64) (f : ExceptionFrame)
      (depth : Nat), k.Serves (fun m n => n.traps = m.traps) (fun _ => True) cpu depth f →
      ∃ fs, m.Dispatches (f :: fs) (dispatch k m cpu frameAddr f).machine := by
  constructor
  · intro m n fs hempty h
    have htraps := h.traps
    rw [hempty] at htraps
    have hrecent := TrapRing.recent_foldl_record fs
    refine ⟨by rw [htraps, hrecent], ?_, ?_⟩
    · rw [htraps, hrecent, List.length_drop]
      omega
    · rw [htraps, TrapRing.last_foldl_record]
      exact Option.or_none
  · intro k m cpu frameAddr f depth hk
    exact dispatches_dispatch frameAddr (fun hc h hh args m => (hk.calls hc h hh args m).dispatches)
      fun hc irq h hh m => (hk.irqs hc irq h hh m).dispatches

end Machine

/-! ## A call that is interrupted -/

/-- A handler that takes an interrupt. -/
def SyscallHandler.interrupted : SyscallHandler :=
  fun _ m => (0, (Machine.dispatch .bare m .boot 0 .cleared).machine)

/-- A kernel in which every standard syscall does. -/
def Kernel.interrupted : Kernel where
  syscalls := ⟨⟨Vector.replicate _ (some .interrupted)⟩, .empty⟩
  irqs := .empty
  raises := 0

theorem Machine.handlerCalls_interrupted (m : Machine) :
    handlerCalls .interrupted m .boot 0 .ofCall =
      [(m.atHandler .boot .ofCall,
        (dispatch .bare (m.atHandler .boot .ofCall) .boot 0 .cleared).machine)] := by
  have hcause : classify ExceptionFrame.ofCall.estat ExceptionFrame.ofCall.fromUser = .syscall := by
    decide +kernel
  have hhandler : Kernel.interrupted.syscalls.handler? ExceptionFrame.ofCall.syscallNumber =
      some .interrupted := by
    have hroute : SyscallRoute.ofNumber ExceptionFrame.ofCall.syscallNumber = .standard 63 := by
      decide +kernel
    unfold SyscallTables.handler?
    rw [hroute]
    rfl
  unfold handlerCalls
  rw [hcause]
  dsimp only
  rw [hhandler]
  rfl

theorem Machine.handlerCalls_bare (m : Machine) :
    handlerCalls .bare m .boot 0 .cleared = [] := by
  have hcause : classify ExceptionFrame.cleared.estat ExceptionFrame.cleared.fromUser =
      .interrupt := by decide +kernel
  unfold handlerCalls
  rw [hcause]
  refine List.eq_nil_iff_forall_not_mem.2 fun c hc => ?_
  obtain ⟨irq, h, hh, -⟩ := mem_drainCalls hc
  rw [Kernel.irqHandler?_bare] at hh
  cases hh

/-- The call comes first in the record. While its handler runs it is the last, until the interrupt
starts. What a script does is such a run as well. -/
theorem recent_of_dispatches_interrupted :
    let m := Machine.running .caller
    let done := Machine.dispatch .interrupted m .boot 0 .ofCall
    (m.Reaches [.ofCall] (m.atHandler .boot .ofCall) ∧
        (m.atHandler .boot .ofCall).traps.recent = [.ofCall] ∧
        (m.atHandler .boot .ofCall).traps.last = some .ofCall) ∧
      m.Dispatches [.ofCall, .cleared] done.machine ∧
      done.machine.traps.recent = [.ofCall, .cleared] ∧
      done.machine.traps.last = some .cleared ∧
      ∃ fs, Machine.pair.Dispatches (.ofCall :: fs)
        (Machine.dispatch (ScriptTables.nesting.kernel 1) .pair .boot 0 .ofCall).machine := by
  intro m done
  have hcalls := m.handlerCalls_interrupted
  have hinside : m.Reaches [.ofCall] (m.atHandler .boot .ofCall) :=
    .inside (.aside rfl) [] (by rw [hcalls]; rfl) (fun i a b fs _ h => by cases h)
      (.outside (.aside rfl))
  have hnested : ∀ start : Machine,
      start.Dispatches [.cleared] (Machine.dispatch .bare start .boot 0 .cleared).machine :=
    fun start => .trap [] (by rw [start.handlerCalls_bare]; rfl) fun i a b fs _ h => by cases h
  have hrun : m.Dispatches [.ofCall, .cleared] done.machine := by
    refine .trap [[.cleared]] (by rw [hcalls]; rfl) fun i a b fs hcall hfs => ?_
    rw [hcalls] at hcall
    cases i with
    | succ i => cases hfs
    | zero =>
      cases hcall
      cases hfs
      exact hnested _
  obtain ⟨hrecent, hruns⟩ := Machine.recent_of_dispatches
  obtain ⟨hhere, -, hlast⟩ := hrecent m _ _ rfl hinside
  obtain ⟨hdone, -, hend⟩ := hrecent m _ _ rfl (.outside hrun)
  exact ⟨⟨hinside, hhere, hlast⟩, hrun, hdone, hend, hruns _ _ _ _ _ 1
    ((ScriptTables.nesting.serves_kernel 1 .ofCall).mono (fun _ _ h => h.traps) fun _ h => h)⟩

end TrapLayer
