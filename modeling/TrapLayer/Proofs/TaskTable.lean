import Mathlib.Data.Nat.Count
import Mathlib.Data.Set.Card
import TrapLayer.Task

/-!
# The task table as a bounded map

The table is a vector with holes, which grows and never shrinks. What its callers see is a finite
map: an entry for each live task, at most `maxTasks` of them, a new one always under the smallest
identifier that is not live.

* `TaskMap.Step`, `TaskMap.Run`: what an operation may answer, and how it changes the map.
* `step_perform`: each operation of the table is the step of the map it holds.
* `eq_perform_of_step`: the map leaves it no other answer.
* `run_bounded_map`: the answers to any sequence of operations, and the tasks in the table
  afterwards.
-/
namespace TrapLayer

/-! ## Operations -/

/-- A change made to a task in its slot. The identifier is not a field that it can write. -/
structure TaskUpdate where
  apply : Task → Task
  id_apply : ∀ task, (apply task).id = task.id

inductive TaskOp
  | spawn (p : SpawnParams)
  | lookup (id : TaskId)
  | update (id : TaskId) (u : TaskUpdate)
  | remove (id : TaskId)
  | count

inductive TaskAnswer
  | spawned (id : TaskId)
  | found (task : Task)
  | updated
  | removed (task : Task)
  | counted (n : Nat)
  | refused (e : TaskError)
  deriving DecidableEq

namespace TaskTable

/-- One operation, with its answer. -/
def perform (t : TaskTable) : TaskOp → TaskAnswer × TaskTable
  | .spawn p =>
    match t.spawn p with
    | .ok (id, t') => (.spawned id, t')
    | .error e => (.refused e, t)
  | .lookup id =>
    match t.task id with
    | .ok task => (.found task, t)
    | .error e => (.refused e, t)
  | .update id u =>
    match t.modify id u.apply with
    | .ok t' => (.updated, t')
    | .error e => (.refused e, t)
  | .remove id =>
    match t.remove id with
    | .ok (task, t') => (.removed task, t')
    | .error e => (.refused e, t)
  | .count => (.counted t.size, t)

/-- A sequence of operations, with the answer to each. -/
def run (t : TaskTable) : List TaskOp → List TaskAnswer × TaskTable
  | [] => ([], t)
  | op :: ops =>
    let (answer, t') := t.perform op
    let (answers, last) := t'.run ops
    (answer :: answers, last)

end TaskTable

/-! ## The map -/

/-- The live tasks by their identifiers. -/
abbrev TaskMap := TaskId → Option Task

namespace TaskMap

def live (μ : TaskMap) : Set TaskId := {id | (μ id).isSome}

/-- What one operation answers, and what it does to the map. -/
inductive Step (μ : TaskMap) : TaskOp → TaskAnswer → TaskMap → Prop
  | spawned {p : SpawnParams} {id : TaskId} (free : id ∉ μ.live) (bound : id.index < maxTasks)
      (least : ∀ other : TaskId, other.index < id.index → other ∈ μ.live) :
      Step μ (.spawn p) (.spawned id) (Function.update μ id (some (Task.spawned id p)))
  | full {p : SpawnParams} (h : μ.live.ncard = maxTasks) :
      Step μ (.spawn p) (.refused .tableFull) μ
  | found {id : TaskId} {task : Task} (h : μ id = some task) : Step μ (.lookup id) (.found task) μ
  | lookupRefused {id : TaskId} (h : μ id = none) :
      Step μ (.lookup id) (.refused (.noSuchTask id)) μ
  | updated {id : TaskId} {u : TaskUpdate} {task : Task} (h : μ id = some task) :
      Step μ (.update id u) .updated (Function.update μ id (some (u.apply task)))
  | updateRefused {id : TaskId} {u : TaskUpdate} (h : μ id = none) :
      Step μ (.update id u) (.refused (.noSuchTask id)) μ
  | removed {id : TaskId} {task : Task} (h : μ id = some task) :
      Step μ (.remove id) (.removed task) (Function.update μ id none)
  | removeRefused {id : TaskId} (h : μ id = none) :
      Step μ (.remove id) (.refused (.noSuchTask id)) μ
  | counted : Step μ .count (.counted μ.live.ncard) μ

inductive Run : TaskMap → List TaskOp → List TaskAnswer → TaskMap → Prop
  | nil (μ : TaskMap) : Run μ [] [] μ
  | cons {μ next last : TaskMap} {op : TaskOp} {answer : TaskAnswer} {ops : List TaskOp}
      {answers : List TaskAnswer} (step : Step μ op answer next)
      (rest : Run next ops answers last) : Run μ (op :: ops) (answer :: answers) last

end TaskMap

namespace TaskTable

variable {t t' : TaskTable} {id : TaskId}

/-! ## What an operation does to the map -/

/-- The slots within their bound, each live task in the slot its identifier names. -/
structure WellPlaced (t : TaskTable) : Prop where
  length_le : t.slots.length ≤ maxTasks
  own : ∀ id task, t.find? id = some task → task.id = id

theorem wellPlaced_empty : empty.WellPlaced := ⟨Nat.zero_le _, nofun⟩

theorem index_lt_of_mem_live (h : t.slots.length ≤ maxTasks)
    (hid : id ∈ TaskMap.live t.find?) : id.index < maxTasks := by
  obtain ⟨task, hfind⟩ := Option.isSome_iff_exists.1 hid
  exact Nat.lt_of_lt_of_le (lt_length_of_find? hfind) h

theorem index_injective : Function.Injective TaskId.index := fun a b h => by
  cases a; cases b
  exact congrArg TaskId.mk (UInt32.toNat_inj.1 h)

theorem index_ofNat {i : Nat} (h : i < maxTasks) : (TaskId.mk (UInt32.ofNat i)).index = i :=
  UInt32.toNat_ofNat_of_lt' (Nat.lt_of_lt_of_le h (by decide))

theorem find?_put_eq {old : Task} (h : t.find? id = some old) (task : Task) :
    (t.put id task).find? = Function.update t.find? id (some task) := by
  funext other
  by_cases he : other = id
  · rw [he, find?_put_same h, Function.update_self]
  · rw [find?_put_of_ne t he, Function.update_of_ne he]

theorem find?_cleared (t : TaskTable) (id : TaskId) :
    find? ⟨t.slots.set id.index none⟩ = Function.update t.find? id none := by
  funext other
  by_cases he : other = id
  · subst he
    rw [Function.update_self]
    by_cases hl : other.index < t.slots.length <;> simp [find?, hl]
  · have hi : id.index ≠ other.index := fun h => he (index_injective h).symm
    rw [Function.update_of_ne he]
    simp [find?, hi]

/-! ## The free slot -/

theorem freeSlot?_eq_some {i : Nat} (h : t.freeSlot? = some i) :
    i < maxTasks ∧ i ≤ t.slots.length ∧ t.slots[i]?.join = none ∧
      ∀ j < i, (t.slots[j]?.join).isSome := by
  unfold freeSlot? at h
  dsimp only at h
  split at h
  · rename_i hlt
    obtain rfl := Option.some.inj h
    have hle : t.slots.findIdx Option.isNone ≤ t.slots.length := List.findIdx_le_length
    refine ⟨hlt, hle, ?_, fun j hj => ?_⟩
    · rcases Nat.lt_or_eq_of_le hle with hl | hl
      · rw [List.getElem?_eq_getElem hl]
        exact Option.isNone_iff_eq_none.1 List.findIdx_getElem
      · rw [List.getElem?_eq_none (Nat.le_of_eq hl.symm)]
        rfl
    · have hjl : j < t.slots.length := Nat.lt_of_lt_of_le hj hle
      have htaken := List.not_of_lt_findIdx hj
      rw [List.getElem?_eq_getElem hjl]
      simpa [Option.isSome_iff_ne_none] using htaken
  · cases h

/-- A table without a free slot has a task in each of its slots, and as many slots as it may. -/
theorem size_of_freeSlot?_none (hlen : t.slots.length ≤ maxTasks) (h : t.freeSlot? = none) :
    t.size = maxTasks := by
  unfold freeSlot? at h
  dsimp only at h
  split at h
  · cases h
  · have hle : t.slots.findIdx Option.isNone ≤ t.slots.length := List.findIdx_le_length
    have hall : ∀ slot ∈ t.slots, slot.isSome = true := by
      have hend : t.slots.findIdx Option.isNone = t.slots.length := by omega
      intro slot hslot
      have htaken := List.findIdx_eq_length.1 hend slot hslot
      simpa [Option.isSome_iff_ne_none] using htaken
    unfold size
    rw [List.countP_eq_length.2 hall]
    omega

theorem size_lt_of_freeSlot? (hlen : t.slots.length ≤ maxTasks) {i : Nat}
    (h : t.freeSlot? = some i) : t.size < maxTasks := by
  obtain ⟨hi, hle, hfree, -⟩ := freeSlot?_eq_some h
  have hcount : t.size ≤ t.slots.length := List.countP_le_length
  rcases Nat.lt_or_eq_of_le hle with hl | hl
  · have hne : t.size ≠ t.slots.length := fun heq => by
      have := List.countP_eq_length.1 heq _ (List.getElem_mem hl)
      rw [List.getElem?_eq_getElem hl] at hfree
      rw [show t.slots[i] = none from hfree] at this
      cases this
    omega
  · omega

/-! ## Size -/

theorem countP_isSome_eq_count {α : Type} : ∀ slots : List (Option α),
    slots.countP Option.isSome = Nat.count (fun i => (slots[i]?.join).isSome) slots.length
  | [] => rfl
  | slot :: slots => by
    have ih := countP_isSome_eq_count slots
    rw [List.countP_cons, List.length_cons, Nat.count_succ', ih]
    cases slot <;> rfl

theorem size_eq_ncard (hlen : t.slots.length ≤ maxTasks) :
    t.size = (TaskMap.live t.find?).ncard := by
  have himage : TaskId.index '' TaskMap.live t.find? =
      ((Finset.range t.slots.length).filter fun i => (t.slots[i]?.join).isSome : Finset Nat) := by
    ext i
    simp only [Set.mem_image, Finset.coe_filter, Finset.mem_range, Set.mem_ofPred_eq]
    constructor
    · rintro ⟨id, hlive, rfl⟩
      obtain ⟨task, hfind⟩ := Option.isSome_iff_exists.1 hlive
      exact ⟨lt_length_of_find? hfind, hlive⟩
    · rintro ⟨hl, hslot⟩
      have hindex := index_ofNat (Nat.lt_of_lt_of_le hl hlen)
      refine ⟨⟨UInt32.ofNat i⟩, ?_, hindex⟩
      show (t.slots[TaskId.index _]?.join).isSome
      rwa [hindex]
  unfold size
  rw [countP_isSome_eq_count, Nat.count_eq_card_filter_range, ← Set.ncard_coe_finset, ← himage,
    Set.ncard_image_of_injective _ index_injective]

/-! ## One operation -/

theorem task_eq (t : TaskTable) (id : TaskId) :
    (∃ task, t.find? id = some task ∧ t.task id = .ok task) ∨
      (t.find? id = none ∧ t.task id = .error (.noSuchTask id)) := by
  unfold TaskTable.task
  cases t.find? id with
  | none => exact .inr ⟨rfl, rfl⟩
  | some task => exact .inl ⟨task, rfl, rfl⟩

theorem getElem?_filled {α : Type} {slots : List α} {i : Nat} (hle : i ≤ slots.length) (slot : α)
    (j : Nat) : (if i < slots.length then slots.set i slot else slots ++ [slot])[j]? =
      if j = i then some slot else slots[j]? := by
  split
  · grind
  · obtain rfl : i = slots.length := by omega
    grind

/-- A new task goes under the smallest identifier that is not live, and no other entry changes. A
table that has none below the bound refuses, and is full. -/
theorem spawn_cases (h : t.slots.length ≤ maxTasks) (p : SpawnParams) :
    (∃ id t', t.spawn p = .ok (id, t') ∧ t.size < maxTasks ∧ t'.slots.length ≤ maxTasks ∧
      id.index < maxTasks ∧ t.find? id = none ∧
      (∀ other : TaskId, other.index < id.index → other ∈ TaskMap.live t.find?) ∧
      t'.find? = Function.update t.find? id (some (Task.spawned id p))) ∨
    (t.spawn p = .error .tableFull ∧ t.size = maxTasks) := by
  unfold spawn
  cases hfree : t.freeSlot? with
  | none => exact .inr ⟨rfl, size_of_freeSlot?_none h hfree⟩
  | some i =>
    obtain ⟨hi, hle, hnone, hleast⟩ := freeSlot?_eq_some hfree
    have hindex := index_ofNat hi
    refine .inl ⟨_, _, rfl, size_lt_of_freeSlot? h hfree, ?_, by rwa [hindex], ?_, ?_, ?_⟩
    · dsimp only
      split
      · rwa [List.length_set]
      · rw [List.length_append, List.length_singleton]
        omega
    · unfold find?
      rwa [hindex]
    · intro other hother
      rw [hindex] at hother
      exact hleast _ hother
    · funext other
      unfold find?
      dsimp only
      rw [getElem?_filled hle]
      by_cases he : other = ⟨UInt32.ofNat i⟩
      · rw [he, Function.update_self, if_pos hindex]
        rfl
      · rw [Function.update_of_ne he,
          if_neg fun hi' => he (index_injective (hi'.trans hindex.symm))]

theorem WellPlaced.update (h : t.WellPlaced) {slot : Option Task}
    (hfind : t'.find? = Function.update t.find? id slot) (hlen : t'.slots.length ≤ maxTasks)
    (hslot : ∀ task, slot = some task → task.id = id) : t'.WellPlaced := by
  refine ⟨hlen, fun other task hother => ?_⟩
  rw [hfind] at hother
  by_cases he : other = id
  · rw [he, Function.update_self] at hother
    rw [he]
    exact hslot task hother
  · rw [Function.update_of_ne he] at hother
    exact h.own other task hother

theorem step_perform (h : t.WellPlaced) (op : TaskOp) :
    (t.perform op).2.WellPlaced ∧
      TaskMap.Step t.find? op (t.perform op).1 (t.perform op).2.find? := by
  have hsize := size_eq_ncard h.length_le
  cases op with
  | spawn p =>
    rcases spawn_cases h.length_le p with
      ⟨id, t', hok, -, hlen, hbound, hnone, hleast, hfind⟩ | ⟨herr, hfull⟩
    · simp only [perform, hok]
      refine ⟨h.update hfind hlen fun task he => ?_, ?_⟩
      · rw [← Option.some.inj he]
        rfl
      · rw [hfind]
        exact .spawned (by simp [TaskMap.live, hnone]) hbound hleast
    · simp only [perform, herr]
      exact ⟨h, .full (hsize.symm.trans hfull)⟩
  | lookup id =>
    rcases t.task_eq id with ⟨task, hfind, hok⟩ | ⟨hnone, herr⟩
    · simp only [perform, hok]
      exact ⟨h, .found hfind⟩
    · simp only [perform, herr]
      exact ⟨h, .lookupRefused hnone⟩
  | update id u =>
    rcases t.task_eq id with ⟨task, hfind, hok⟩ | ⟨hnone, herr⟩
    · simp only [perform, modify, hok, Except.map]
      refine ⟨h.update (find?_put_eq hfind _) ?_ fun task' he => ?_, ?_⟩
      · exact Nat.le_trans (Nat.le_of_eq List.length_set) h.length_le
      · rw [← Option.some.inj he, u.id_apply, h.own id task hfind]
      · rw [find?_put_eq hfind]
        exact .updated hfind
    · simp only [perform, modify, herr, Except.map]
      exact ⟨h, .updateRefused hnone⟩
  | remove id =>
    rcases t.task_eq id with ⟨task, hfind, hok⟩ | ⟨hnone, herr⟩
    · simp only [perform, remove, hok, Except.map]
      refine ⟨h.update (find?_cleared t id) ?_ nofun, ?_⟩
      · exact Nat.le_trans (Nat.le_of_eq List.length_set) h.length_le
      · rw [find?_cleared]
        exact .removed hfind
    · simp only [perform, remove, herr, Except.map]
      exact ⟨h, .removeRefused hnone⟩
  | count =>
    refine ⟨h, ?_⟩
    simp only [perform]
    rw [hsize]
    exact .counted

end TaskTable

namespace TaskMap

variable {μ next next' : TaskMap}

/-- A map with every entry below the bound and as many as the bound has no free entry there. -/
theorem mem_live_of_full (hbound : ∀ id ∈ μ.live, id.index < maxTasks)
    (hfull : μ.live.ncard = maxTasks) {id : TaskId} (hid : id.index < maxTasks) : id ∈ μ.live := by
  have hsub : TaskId.index '' μ.live ⊆ (Finset.range maxTasks : Set Nat) := by
    rintro _ ⟨other, hother, rfl⟩
    exact Finset.mem_coe.2 (Finset.mem_range.2 (hbound other hother))
  have heq := Set.eq_of_subset_of_ncard_le hsub (by
    rw [Set.ncard_image_of_injective _ TaskTable.index_injective, hfull, Set.ncard_coe_finset,
      Finset.card_range])
  have hmem : id.index ∈ TaskId.index '' μ.live := by
    rw [heq]
    exact Finset.mem_coe.2 (Finset.mem_range.2 hid)
  obtain ⟨other, hother, he⟩ := hmem
  rwa [← TaskTable.index_injective he]

theorem Step.unique (hbound : ∀ id ∈ μ.live, id.index < maxTasks) {op : TaskOp}
    {answer answer' : TaskAnswer} (h : Step μ op answer next) (h' : Step μ op answer' next') :
    answer = answer' ∧ next = next' := by
  cases h with
  | spawned free bound least =>
    rename_i p id
    cases h' with
    | spawned free' bound' least' =>
      rename_i id'
      have hid : id = id' := by
        apply TaskTable.index_injective
        rcases Nat.lt_trichotomy id.index id'.index with hlt | heq | hgt
        · exact absurd (least' id hlt) free
        · exact heq
        · exact absurd (least id' hgt) free'
      subst hid
      exact ⟨rfl, rfl⟩
    | full hfull => exact absurd (mem_live_of_full hbound hfull bound) free
  | full hfull =>
    cases h' with
    | spawned free' bound' least' => exact absurd (mem_live_of_full hbound hfull bound') free'
    | full => exact ⟨rfl, rfl⟩
  | counted => cases h'; exact ⟨rfl, rfl⟩
  | found hfind | lookupRefused hfind | updated hfind | updateRefused hfind | removed hfind
  | removeRefused hfind =>
    cases h' <;> simp_all

end TaskMap

namespace TaskTable

variable {t : TaskTable}

/-! ## Runs -/

theorem WellPlaced.run : ∀ {t : TaskTable} (ops : List TaskOp), t.WellPlaced →
    (t.run ops).2.WellPlaced ∧ TaskMap.Run t.find? ops (t.run ops).1 (t.run ops).2.find?
  | t, [], h => ⟨h, .nil _⟩
  | t, op :: ops, h => by
    obtain ⟨hnext, hstep⟩ := step_perform h op
    obtain ⟨hlast, hrest⟩ := WellPlaced.run ops hnext
    exact ⟨hlast, .cons hstep hrest⟩

theorem WellPlaced.run_unique {ops : List TaskOp} {answers : List TaskAnswer} {μ last : TaskMap}
    (h : TaskMap.Run μ ops answers last) : ∀ {t : TaskTable}, t.WellPlaced → t.find? = μ →
      answers = (t.run ops).1 ∧ last = (t.run ops).2.find? := by
  induction h with
  | nil μ =>
    rintro t - rfl
    exact ⟨rfl, rfl⟩
  | cons step rest ih =>
    rename_i op _ _ _
    rintro t ht rfl
    obtain ⟨hnext, hstep⟩ := step_perform ht op
    obtain ⟨rfl, hmap⟩ := step.unique (fun _ => index_lt_of_mem_live ht.length_le) hstep
    obtain ⟨rfl, rfl⟩ := ih hnext hmap.symm
    exact ⟨rfl, rfl⟩

/-- The task table is a bounded map with stable identifiers. For any sequence of operations on an
empty table, the answers and the tasks that are then in it are those of the map, and no others: a
new task goes under the smallest identifier that is not live, a removed one is what was last stored,
and an operation changes at most the entry it names, and none if it is refused. Every live task is
found under its own identifier, which is below the bound, the size is the number of live tasks, and
a new task is refused exactly when the table holds as many as it may. -/
theorem run_bounded_map (ops : List TaskOp) :
    (∀ (answers : List TaskAnswer) (μ : TaskMap),
      TaskMap.Run (fun _ => none) ops answers μ ↔
        answers = (empty.run ops).1 ∧ μ = (empty.run ops).2.find?) ∧
    (∀ id task, (empty.run ops).2.find? id = some task → task.id = id ∧ id.index < maxTasks) ∧
    (empty.run ops).2.size = (TaskMap.live (empty.run ops).2.find?).ncard ∧
    ∀ p e, (empty.run ops).2.spawn p = .error e ↔
      e = .tableFull ∧ (TaskMap.live (empty.run ops).2.find?).ncard = maxTasks := by
  obtain ⟨hplaced, hrun⟩ := wellPlaced_empty.run ops
  have hempty : empty.find? = fun _ => none := rfl
  have hsize := size_eq_ncard hplaced.length_le
  refine ⟨fun answers μ => ⟨fun h => WellPlaced.run_unique h wellPlaced_empty hempty, ?_⟩,
    fun id task hfind => ⟨hplaced.own id task hfind, ?_⟩, hsize, fun p e => ?_⟩
  · rintro ⟨rfl, rfl⟩
    rwa [← hempty]
  · exact index_lt_of_mem_live hplaced.length_le (Option.isSome_iff_exists.2 ⟨task, hfind⟩)
  · rw [← hsize]
    rcases spawn_cases hplaced.length_le p with ⟨id, t', hok, hlt, -⟩ | ⟨herr, hfull⟩
    · rw [hok]
      exact ⟨nofun, fun h => absurd h.2 (Nat.ne_of_lt hlt)⟩
    · rw [herr]
      exact ⟨fun h => ⟨(Except.error.inj h).symm, hfull⟩, fun h => h.1 ▸ rfl⟩

/-- A hole is filled before the table grows. -/
example (p q : SpawnParams) :
    (empty.run [.spawn p, .spawn p, .remove ⟨0⟩, .spawn q, .count, .remove ⟨2⟩]).1 =
      [.spawned ⟨0⟩, .spawned ⟨1⟩, .removed (Task.spawned ⟨0⟩ p), .spawned ⟨0⟩, .counted 2,
        .refused (.noSuchTask ⟨2⟩)] := rfl

end TaskTable

end TrapLayer
