import TrapLayer.Proofs.Paging.ByteAccess
import TrapLayer.Signal.Chain

/-!
# Looking and mapping

Most steps of the trap layer only look: a range check reads table entries, a fetch reads user
memory, and nothing but the trace is different afterwards. What a range check answers depends on the
page map alone.

* `Adds.trans`: looking twice is looking.
* `Adds.since`, `Adds.looksFirst`: the effects of a step that looked first.
* `Emits.trans`, `Shows.trans`: what happened over two steps, by sort and in order.
* `checkUser_congr`: under one page map a check gives one answer.
* `fetch_of_granted`: a granted range is fetched, and fetching only looks.
-/
namespace TrapLayer

/-- A table entry or user memory was read. -/
def Effect.isRead : Effect → Bool
  | .tableRead _ | .userRead .. => true
  | _ => false

theorem Effect.eq_of_isRead {e : Effect} (h : e.isRead = true) :
    (∃ read, e = .tableRead read) ∨ ∃ addr len, e = .userRead addr len := by
  cases e with
  | tableRead read => exact .inl ⟨read, rfl⟩
  | userRead addr len => exact .inr ⟨addr, len, rfl⟩
  | _ => cases h

namespace Hardware

/-- `hw'` is `hw` with effects of one sort added to the trace. -/
def Adds (sort : Effect → Bool) (hw hw' : Hardware) : Prop :=
  ∃ es : List Effect, (∀ e ∈ es, sort e = true) ∧ hw' = { hw with history := es ++ hw.history }

/-- `hw'` is `hw` after some reads. -/
abbrev OnlyReads : Hardware → Hardware → Prop := Adds Effect.isRead

namespace Adds

variable {sort : Effect → Bool} {hw hw' hw'' : Hardware}

theorem refl (hw : Hardware) : Adds sort hw hw := ⟨[], by simp, rfl⟩

theorem emit (hw : Hardware) {e : Effect} (h : sort e = true) : Adds sort hw (hw.emit e) := by
  refine ⟨[e], ?_, rfl⟩
  intro d hd
  rw [List.mem_singleton.1 hd]; exact h

theorem trans (h : Adds sort hw hw') (h' : Adds sort hw' hw'') : Adds sort hw hw'' := by
  obtain ⟨es, hes, rfl⟩ := h
  obtain ⟨fs, hfs, rfl⟩ := h'
  refine ⟨fs ++ es, ?_, ?_⟩
  · intro e he
    rcases List.mem_append.1 he with he | he
    · exact hfs e he
    · exact hes e he
  · simp only [List.append_assoc]

theorem memory (h : Adds sort hw hw') : hw'.memory = hw.memory := by
  obtain ⟨es, -, rfl⟩ := h
  rfl

end Adds

theorem onlyReads_noteReads (hw : Hardware) (reads : List TableRead) :
    OnlyReads hw (hw.noteReads reads) := by
  refine ⟨reads.map .tableRead, ?_, rfl⟩
  intro e he
  obtain ⟨r, -, rfl⟩ := List.mem_map.1 he
  rfl

theorem onlyReads_checkUser (hw : Hardware) (addr : UInt64) (len : Nat) (access : Access) :
    OnlyReads hw (hw.checkUser addr len access).2 := onlyReads_noteReads hw _

theorem onlyReads_checkKernel (hw : Hardware) (addr : UInt64) (len : Nat) (access : Access) :
    OnlyReads hw (hw.checkKernel addr len access).2 := onlyReads_noteReads hw _

theorem onlyReads_readUser (hw : Hardware) (addr : UInt64) (len : Nat) :
    OnlyReads hw (hw.readUser addr len).2 := Adds.emit hw rfl

theorem fetch_eq (hw : Hardware) (addr : UInt64) (len : Nat) :
    hw.fetch addr len =
      if (hw.checkUser addr len .read).1 then
        (some (hw.memory.read addr len), ((hw.checkUser addr len .read).2.readUser addr len).2)
      else (none, (hw.checkUser addr len .read).2) := rfl

theorem onlyReads_fetch (hw : Hardware) (addr : UInt64) (len : Nat) :
    OnlyReads hw (hw.fetch addr len).2 := by
  rw [fetch_eq]
  split
  · exact (onlyReads_checkUser hw _ _ _).trans (onlyReads_readUser _ _ _)
  · exact onlyReads_checkUser hw _ _ _

theorem since_of_history {hw hw' : Hardware} {es : List Effect}
    (h : hw'.history = es ++ hw.history) : hw'.since hw.mark = es.reverse := by
  unfold since mark
  rw [h, List.length_append, Nat.add_sub_cancel, List.take_left]

theorem mem_since {hw hw' : Hardware} {es : List Effect} (h : hw'.history = es ++ hw.history)
    (e : Effect) : e ∈ hw'.since hw.mark ↔ e ∈ es := by
  rw [since_of_history h, List.mem_reverse]

/-- What a step did after some effects of one sort is what follows them. -/
theorem Adds.since {sort : Effect → Bool} {hw mid hw' : Hardware} (h : Adds sort hw mid)
    {es : List Effect} (hh : hw'.history = es ++ mid.history) :
    ∃ base : List Effect, (∀ e ∈ base, sort e = true) ∧
      hw'.since hw.mark = base ++ es.reverse := by
  obtain ⟨fs, hsort, rfl⟩ := h
  refine ⟨fs.reverse, fun e he => hsort e (List.mem_reverse.1 he), ?_⟩
  have hall : hw'.history = (es ++ fs) ++ hw.history := by rw [hh, List.append_assoc]
  rw [since_of_history hall, List.reverse_append]

/-- A step that looked before it changed anything, and that changed nothing if it was refused. -/
def LooksFirst (hw hw' : Hardware) (accepted : Bool) : Prop :=
  ∃ looked changed : List Effect, (∀ e ∈ looked, e.isRead = true) ∧
    (∀ e ∈ changed, e.isRead = false) ∧ (accepted = false → changed = []) ∧
    hw'.since hw.mark = looked ++ changed

theorem Adds.looksFirst {hw mid hw' : Hardware} (h : OnlyReads hw mid) {es : List Effect}
    (hh : hw'.history = es ++ mid.history) (hes : ∀ e ∈ es, e.isRead = false) :
    LooksFirst hw hw' true := by
  obtain ⟨looked, hlooked, hsince⟩ := h.since hh
  exact ⟨looked, es.reverse, hlooked, fun e he => hes e (List.mem_reverse.1 he), nofun, hsince⟩

theorem Adds.looksFirst_refused {hw hw' : Hardware} (h : OnlyReads hw hw') :
    LooksFirst hw hw' false := by
  have hnone : hw'.history = [] ++ hw'.history := rfl
  obtain ⟨looked, hlooked, hsince⟩ := h.since hnone
  exact ⟨looked, [], hlooked, nofun, fun _ => rfl, hsince⟩

/-! ## Histories by sort -/

/-- What happened on the way from `hw` to `hw'` is of one sort. -/
def Emits (sort : Effect → Prop) (hw hw' : Hardware) : Prop :=
  ∃ es : List Effect, (∀ e ∈ es, sort e) ∧ hw'.history = es ++ hw.history

namespace Emits

variable {sort : Effect → Prop} {hw hw' hw'' : Hardware}

theorem refl (hw : Hardware) : Emits sort hw hw := ⟨[], nofun, rfl⟩

theorem of_emit (hw : Hardware) {e : Effect} (h : sort e) : Emits sort hw (hw.emit e) :=
  ⟨[e], fun _ hd => List.mem_singleton.1 hd ▸ h, rfl⟩

theorem trans (h : Emits sort hw hw') (h' : Emits sort hw' hw'') : Emits sort hw hw'' := by
  obtain ⟨es, hes, hh⟩ := h
  obtain ⟨fs, hfs, hh'⟩ := h'
  refine ⟨fs ++ es, fun e he => ?_, by rw [hh', hh, List.append_assoc]⟩
  exact (List.mem_append.1 he).elim (hfs e) (hes e)

theorem mono {weaker : Effect → Prop} (h : Emits sort hw hw') (hs : ∀ e, sort e → weaker e) :
    Emits weaker hw hw' := by
  obtain ⟨es, hes, hh⟩ := h
  exact ⟨es, fun e he => hs e (hes e he), hh⟩

theorem since (h : Emits sort hw hw') : ∀ e ∈ hw'.since hw.mark, sort e := by
  obtain ⟨es, hes, hh⟩ := h
  exact fun e he => hes e ((mem_since hh e).1 he)

end Emits

theorem Adds.emits {sort : Effect → Bool} {hw hw' : Hardware} (h : Adds sort hw hw') :
    Emits (sort · = true) hw hw' := by
  obtain ⟨es, hes, rfl⟩ := h
  exact ⟨es, hes, rfl⟩

/-- `es` is what happened on the way from `hw` to `hw'` of the effects that `p` picks, oldest
first. -/
def Shows (p : Effect → Bool) (hw : Hardware) (es : List Effect) (hw' : Hardware) : Prop :=
  ∃ all : List Effect, hw'.history = all ++ hw.history ∧ all.reverse.filter p = es

namespace Shows

variable {p : Effect → Bool} {hw hw' hw'' : Hardware} {es fs : List Effect}

theorem refl (hw : Hardware) : Shows p hw [] hw := ⟨[], rfl, rfl⟩

theorem trans (h : Shows p hw es hw') (h' : Shows p hw' fs hw'') :
    Shows p hw (es ++ fs) hw'' := by
  obtain ⟨all, hall, rfl⟩ := h
  obtain ⟨more, hmore, rfl⟩ := h'
  refine ⟨more ++ all, by rw [hmore, hall, List.append_assoc], ?_⟩
  rw [List.reverse_append, List.filter_append]

theorem of_emit (hw : Hardware) {e : Effect} (h : p e = true) : Shows p hw [e] (hw.emit e) :=
  ⟨[e], rfl, List.filter_cons_of_pos h⟩

theorem since (h : Shows p hw es hw') : (hw'.since hw.mark).filter p = es := by
  obtain ⟨all, hall, rfl⟩ := h
  rw [since_of_history hall]

end Shows

theorem Emits.shows {sort : Effect → Prop} {p : Effect → Bool} {hw hw' : Hardware}
    (h : Emits sort hw hw') (hs : ∀ e, sort e → p e = false) : Shows p hw [] hw' := by
  obtain ⟨es, hes, hh⟩ := h
  refine ⟨es, hh, List.filter_eq_nil_iff.2 fun e he => ?_⟩
  rw [hs e (hes e (List.mem_reverse.1 he))]
  exact Bool.false_ne_true

/-! ## Page maps -/

/-- Both walk the same lower half: one geometry, the same tables, one root. -/
structure SameMap (hw hw' : Hardware) : Prop where
  geometry : hw'.geometry = hw.geometry
  tables : hw'.tables = hw.tables
  root : hw'.readCsr .pgdl = hw.readCsr .pgdl

theorem SameMap.symm {hw hw' : Hardware} (h : SameMap hw hw') : SameMap hw' hw :=
  ⟨h.geometry.symm, h.tables.symm, h.root.symm⟩

theorem SameMap.trans {hw hw' hw'' : Hardware} (h : SameMap hw hw') (h' : SameMap hw' hw'') :
    SameMap hw hw'' :=
  ⟨h'.geometry.trans h.geometry, h'.tables.trans h.tables, h'.root.trans h.root⟩

theorem Adds.sameMap {sort : Effect → Bool} {hw hw' : Hardware} (h : Adds sort hw hw') :
    SameMap hw hw' := by
  obtain ⟨es, -, rfl⟩ := h
  exact ⟨rfl, rfl, rfl⟩

theorem checkUser_congr {hw hw' : Hardware} (h : SameMap hw hw') (addr : UInt64) (len : Nat)
    (access : Access) :
    (hw'.checkUser addr len access).1 = (hw.checkUser addr len access).1 := by
  simp only [checkUser, h.geometry, h.tables, h.root]

/-! ## Ranges that can be read -/

/-- Every range inside `[lo, hi)` is granted for reading. -/
def Readable (hw : Hardware) (lo hi : Nat) : Prop :=
  ∀ (a : UInt64) (n : Nat), lo ≤ a.toNat → 0 < n → a.toNat + n ≤ hi →
    (hw.checkUser a n .read).1 = true

theorem readable_of_granted {hw : Hardware} {addr : UInt64} {len : Nat} {access : Access}
    (h : (hw.checkUser addr len access).1 = true) (hi : access.Includes .read) :
    hw.Readable addr.toNat (addr.toNat + len) :=
  fun _ _ hlo hn hhi => Geometry.granted_checkUser_sub h hlo hn hhi hi

theorem Readable.congr {hw hw' : Hardware} (h : SameMap hw hw') {lo hi : Nat}
    (hr : hw.Readable lo hi) : hw'.Readable lo hi := by
  intro a n hlo hn hhi
  rw [checkUser_congr h]
  exact hr a n hlo hn hhi

theorem Readable.mono {hw : Hardware} {lo hi lo' hi' : Nat} (hr : hw.Readable lo hi)
    (hlo : lo ≤ lo') (hhi : hi' ≤ hi) : hw.Readable lo' hi' :=
  fun a n h1 hn h2 => hr a n (Nat.le_trans hlo h1) hn (Nat.le_trans h2 hhi)

theorem fetch_of_granted {hw : Hardware} {addr : UInt64} {len : Nat}
    (h : (hw.checkUser addr len .read).1 = true) :
    (hw.fetch addr len).1 = some (hw.memory.read addr len) := by
  rw [fetch_eq, if_pos h]

end Hardware

end TrapLayer
