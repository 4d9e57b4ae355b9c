import Mathlib.Data.List.Nodup
import Workflow.Store.Basic

/-!
What the store's operations write, read back through its look-ups, and what they keep: ids lead to
what bears them, and the tasks of an instance are listed with it and with no other (`Store.Sound`).
-/
namespace Workflow.Store

variable {s s' : Store} {c : Commit} {i : Instance} {t u : Task} {id owner : Uuid}

/-- The ids of an instance's tasks. -/
def order (s : Store) (owner : Uuid) : List Uuid := (s.taskOrder.get? owner).getD []

/-- Instances and tasks are stored under their ids. -/
structure Keyed (s : Store) : Prop where
  instances : ∀ {id i}, s.instance? id = some i → i.id = id
  tasks : ∀ {id t}, s.task? id = some t → t.id = id

structure Sound (s : Store) : Prop extends Keyed s where
  listed : ∀ {id t}, s.task? id = some t → id ∈ s.order t.instanceId
  owned : ∀ {id owner}, id ∈ s.order owner → ∃ t, s.task? id = some t ∧ t.instanceId = owner

theorem sound_empty : Sound ∅ where
  instances h := by cases h
  tasks h := by cases h
  listed h := by cases h
  owned h := by cases h

/-- The listing of an instance's tasks has all of them and no others. -/
theorem Sound.mem_tasksOf (h : s.Sound) :
    t ∈ s.tasksOf owner ↔ s.task? t.id = some t ∧ t.instanceId = owner := by
  rw [tasksOf, List.mem_filterMap]
  constructor
  · rintro ⟨id, hid, ht⟩
    obtain ⟨u, hu, howner⟩ := h.owned hid
    have htu : t = u := Option.some.inj (ht.symm.trans hu)
    have hti : t.id = id := h.tasks ht
    exact ⟨hti ▸ ht, htu ▸ howner⟩
  · rintro ⟨ht, rfl⟩
    exact ⟨t.id, h.listed ht, ht⟩

theorem exists_of_mem_activeInstances (h : i ∈ s.activeInstances) :
    ∃ id, s.instance? id = some i := by
  rw [activeInstances, List.mem_mergeSort] at h
  obtain ⟨p, hp, rfl⟩ := List.mem_map.1 (List.mem_filter.1 h).1
  exact ⟨p.1, Dict.get?_of_mem hp⟩

/-! ### Look-ups after a change -/

theorem instance?_putInstance :
    (s.putInstance i).instance? id =
      if id = i.id then some { i with revision := i.revision + 1 } else s.instance? id :=
  Dict.get?_insert _ _ _ _

theorem task?_updateTask : (s.updateTask t).task? id = if id = t.id then some t else s.task? id :=
  Dict.get?_insert _ _ _ _

theorem task?_createTask :
    (createTask owner s t).task? id = if id = t.id then some t else s.task? id :=
  task?_updateTask

theorem order_createTask {owner' : Uuid} : (createTask owner s t).order owner' =
    if owner' = owner then s.order owner ++ [t.id] else s.order owner' := by
  unfold order createTask
  rw [Dict.get?_insert]
  split <;> rfl

/-- After some writes an id leads to one of the tasks written under it, or else where it led before. -/
theorem task?_foldl {write : Store → Task → Store}
    (hw : ∀ s t id, (write s t).task? id = if id = t.id then some t else s.task? id)
    (ts : List Task) (s : Store) (id : Uuid) :
    (∃ t ∈ ts, t.id = id ∧ (ts.foldl write s).task? id = some t) ∨
      ((∀ t ∈ ts, t.id ≠ id) ∧ (ts.foldl write s).task? id = s.task? id) := by
  induction ts generalizing s with
  | nil => exact Or.inr ⟨by simp, rfl⟩
  | cons t ts ih =>
    rw [List.foldl_cons]
    rcases ih (write s t) with ⟨u, hu, hid, h⟩ | ⟨hts, h⟩
    · exact Or.inl ⟨u, List.mem_cons_of_mem _ hu, hid, h⟩
    · rw [hw] at h
      by_cases hid : id = t.id
      · rw [if_pos hid] at h
        exact Or.inl ⟨t, List.mem_cons_self .., hid.symm, h⟩
      · rw [if_neg hid] at h
        exact Or.inr ⟨by simpa [Ne.symm hid] using hts, h⟩

theorem order_foldl_createTask (ts : List Task) (s : Store) (owner owner' : Uuid) :
    (ts.foldl (createTask owner) s).order owner' =
      if owner' = owner then s.order owner ++ ts.map Task.id else s.order owner' := by
  induction ts generalizing s with
  | nil => by_cases h : owner' = owner <;> simp [h]
  | cons t ts ih =>
    rw [List.foldl_cons, ih]
    by_cases h : owner' = owner <;> simp [h, order_createTask]

/-- Writing tasks leaves definitions and instances alone. -/
theorem foldl_keeps {α : Type} (write : Store → Task → Store) (get : Store → α)
    (hw : ∀ s t, get (write s t) = get s) (ts : List Task) (s : Store) :
    get (ts.foldl write s) = get s := by
  induction ts generalizing s with
  | nil => rfl
  | cons t ts ih =>
    rw [List.foldl_cons, ih]
    exact hw s t

/-! ### Commits -/

/-- Whether an instance carries the revision that is to be written over. -/
structure Expects (s : Store) (i : Instance) : Prop where
  stored : ∀ j, s.instance? i.id = some j → j.revision = i.revision
  absent : s.instance? i.id = none → i.revision = 0

/-- A stored instance may be written over with another one of its revision. -/
theorem Keyed.expects {j : Instance} (hk : s.Keyed) (hi : s.instance? id = some i)
    (hid : j.id = i.id) (hrev : j.revision = i.revision) : s.Expects j := by
  have hthere : s.instance? j.id = some i := by rw [hid, hk.instances hi, hi]
  refine ⟨fun k hk => ?_, fun hnone => ?_⟩
  · rw [Option.some.inj (hk.symm.trans hthere), hrev]
  · rw [hnone] at hthere
    cases hthere

/-- What a write of a step that is accepted has been checked for, and what it leaves. -/
structure Committed (s : Store) (c : Commit) (s' : Store) : Prop where
  revision : s.Expects c.record
  fresh : ∀ t ∈ c.created, t.instanceId = c.record.id ∧ s.task? t.id = none
  known : ∀ t ∈ c.updated, ∃ u, s.task? t.id = some u
  definitions : s'.definitions = s.definitions
  record : ∀ id, s'.instance? id = if id = c.record.id then
    some { c.record with revision := c.record.revision + 1 } else s.instance? id
  tasks : ∀ id, (∃ t ∈ c.updated, t.id = id ∧ s'.task? id = some t) ∨
    (∀ t ∈ c.updated, t.id ≠ id) ∧ ((∃ t ∈ c.created, t.id = id ∧ s'.task? id = some t) ∨
      (∀ t ∈ c.created, t.id ≠ id) ∧ s'.task? id = s.task? id)
  listing : ∀ owner, s'.order owner =
    if owner = c.record.id then s.order owner ++ c.created.map Task.id else s.order owner

theorem checkRevision_ok (h : s.checkRevision i = .ok ()) : s.Expects i := by
  unfold checkRevision at h
  refine ⟨fun j hj => ?_, fun hnone => ?_⟩
  · rw [hj] at h
    by_cases hr : j.revision = i.revision
    · exact hr
    · simp only [if_neg hr] at h
      cases h
  · rw [hnone] at h
    by_cases hr : i.revision = 0
    · exact hr
    · simp only [if_neg hr] at h
      cases h

theorem checkCreated_ok {ts : List Task} (h : s.checkCreated owner ts = .ok ()) :
    ∀ t ∈ ts, t.instanceId = owner ∧ s.task? t.id = none := by
  induction ts with
  | nil => simp
  | cons t ts ih =>
    unfold checkCreated at h
    by_cases howner : t.instanceId ≠ owner
    · rw [if_pos howner] at h
      cases h
    · rw [if_neg howner] at h
      by_cases hthere : s.tasks.contains t.id = true
      · rw [if_pos hthere] at h
        cases h
      · rw [if_neg hthere] at h
        intro u hu
        rcases List.mem_cons.1 hu with rfl | hu
        · exact ⟨by simpa using howner, by simpa [task?, Dict.contains] using hthere⟩
        · exact ih h u hu

theorem checkUpdated_ok {ts : List Task} (h : s.checkUpdated ts = .ok ()) :
    ∀ t ∈ ts, ∃ u, s.task? t.id = some u := by
  unfold checkUpdated at h
  by_cases hts : (ts.all fun t => s.tasks.contains t.id) = true
  · intro t ht
    exact Option.isSome_iff_exists.1 (List.all_eq_true.1 hts t ht)
  · rw [if_neg hts] at h
    cases h

/-- The store after a write of a step. -/
def afterCommit (s : Store) (c : Commit) : Store :=
  (c.updated.foldl updateTask (c.created.foldl (createTask c.record.id) s)).putInstance c.record

theorem committed_afterCommit (hrev : s.checkRevision c.record = .ok ())
    (hcreated : s.checkCreated c.record.id c.created = .ok ())
    (hupdated : s.checkUpdated c.updated = .ok ()) : s.Committed c (s.afterCommit c) where
  revision := checkRevision_ok hrev
  fresh := checkCreated_ok hcreated
  known := checkUpdated_ok hupdated
  definitions := (foldl_keeps updateTask definitions (fun _ _ => rfl) _ _).trans
    (foldl_keeps (createTask _) definitions (fun _ _ => rfl) _ _)
  record id := by
    rw [afterCommit, instance?_putInstance]
    split
    · rfl
    · exact (foldl_keeps updateTask (fun s => s.instance? id) (fun _ _ => rfl) _ _).trans
        (foldl_keeps (createTask _) (fun s => s.instance? id) (fun _ _ => rfl) _ _)
  tasks id := by
    change (∃ t ∈ c.updated, t.id = id ∧ (c.updated.foldl updateTask _).task? id = some t) ∨ _
    refine (task?_foldl (fun _ _ _ => task?_updateTask) c.updated _ id).imp_right ?_
    rintro ⟨hne, h⟩
    refine ⟨hne, ?_⟩
    rw [show (s.afterCommit c).task? id = _ from h]
    exact task?_foldl (fun _ _ _ => task?_createTask) c.created s id
  listing owner := by
    have hupdated := foldl_keeps updateTask (fun s => s.order owner) (fun _ _ => rfl) c.updated
      (c.created.foldl (createTask c.record.id) s)
    apply hupdated.trans
    rw [order_foldl_createTask]
    split
    · rename_i howner
      rw [howner]
    · rfl

theorem commit_ok {revision : UInt64} (h : s.commit c = .ok (revision, s')) :
    s.Committed c s' := by
  unfold commit at h
  cases hrev : s.checkRevision c.record with
  | error e => rw [hrev] at h; cases h
  | ok u =>
    cases hcreated : s.checkCreated c.record.id c.created with
    | error e => rw [hrev, hcreated] at h; cases h
    | ok u =>
      cases hupdated : s.checkUpdated c.updated with
      | error e => rw [hrev, hcreated, hupdated] at h; cases h
      | ok u =>
        rw [hrev, hcreated, hupdated] at h
        cases h
        exact committed_afterCommit hrev hcreated hupdated

/-- A write that closes tasks of its own instance only, and creates tasks of different ids. -/
structure Orderly (s : Store) (c : Commit) : Prop where
  closed : ∀ t ∈ c.updated, t.isOpen = false
  owner : ∀ t ∈ c.updated, t.instanceId = c.record.id ∧
    ∀ u, s.task? t.id = some u → u.instanceId = c.record.id
  distinct : (c.created.map Task.id).Nodup

namespace Committed

variable (h : s.Committed c s')
include h

theorem task?_of_created (hd : (c.created.map Task.id).Nodup) (ht : t ∈ c.created) :
    s'.task? t.id = some t := by
  rcases h.tasks t.id with ⟨u, hu, hid, -⟩ | ⟨-, ⟨u, hu, hid, hsome⟩ | ⟨hne, -⟩⟩
  · -- what is updated was known, what is created was not
    obtain ⟨v, hv⟩ := h.known u hu
    rw [hid, (h.fresh t ht).2] at hv
    cases hv
  · rw [hsome, List.inj_on_of_nodup_map hd hu ht hid]
  · exact absurd rfl (hne t ht)

theorem task?_of_kept (hne : ∀ u ∈ c.updated, u.id ≠ id) (ht : s.task? id = some t) :
    s'.task? id = some t := by
  rcases h.tasks id with ⟨u, hu, hid, -⟩ | ⟨-, ⟨u, hu, hid, -⟩ | ⟨-, hsame⟩⟩
  · exact absurd hid (hne u hu)
  · rw [← hid, (h.fresh u hu).2] at ht
    cases ht
  · rw [hsame, ht]

/-- Where a task of the store after a write comes from. -/
theorem task?_cases (ht : s'.task? id = some t) :
    (t ∈ c.updated ∧ t.id = id) ∨ (t ∈ c.created ∧ t.id = id) ∨
      (s.task? id = some t ∧ ∀ u ∈ c.updated, u.id ≠ id) := by
  rcases h.tasks id with ⟨u, hu, hid, hsome⟩ | ⟨hne, ⟨u, hu, hid, hsome⟩ | ⟨-, hsame⟩⟩
  · obtain rfl : u = t := Option.some.inj (hsome.symm.trans ht)
    exact Or.inl ⟨hu, hid⟩
  · obtain rfl : u = t := Option.some.inj (hsome.symm.trans ht)
    exact Or.inr (Or.inl ⟨hu, hid⟩)
  · exact Or.inr (Or.inr ⟨hsame ▸ ht, hne⟩)

theorem order_mono (hid : id ∈ s.order owner) : id ∈ s'.order owner := by
  rw [h.listing]
  split
  · exact List.mem_append_left _ hid
  · exact hid

theorem keyed (hk : s.Keyed) : s'.Keyed where
  instances hi := by
    rw [h.record] at hi
    split at hi
    · rename_i hid
      cases hi
      exact hid.symm
    · exact hk.instances hi
  tasks ht := by
    rcases h.task?_cases ht with ⟨-, hid⟩ | ⟨-, hid⟩ | ⟨ht, -⟩
    · exact hid
    · exact hid
    · exact hk.tasks ht

/-- A created task is there under its id, or another one that was created under the same id. -/
theorem exists_of_created (ht : t ∈ c.created) :
    ∃ u, s'.task? t.id = some u ∧ u.instanceId = c.record.id := by
  rcases h.tasks t.id with ⟨u, hu, hid, -⟩ | ⟨-, ⟨u, hu, hid, hsome⟩ | ⟨hne, -⟩⟩
  · -- what is updated was known, what is created was not
    obtain ⟨v, hv⟩ := h.known u hu
    rw [hid, (h.fresh t ht).2] at hv
    cases hv
  · exact ⟨u, hsome, (h.fresh u hu).1⟩
  · exact absurd rfl (hne t ht)

/-- A write that updates tasks of its own instance only keeps a store sound. -/
theorem sound_of_owner (ho : ∀ t ∈ c.updated, t.instanceId = c.record.id ∧
    ∀ u, s.task? t.id = some u → u.instanceId = c.record.id) (hs : s.Sound) : s'.Sound where
  toKeyed := h.keyed hs.toKeyed
  listed {id t} ht := by
    rcases h.task?_cases ht with ⟨hmem, rfl⟩ | ⟨hmem, rfl⟩ | ⟨ht, -⟩
    · obtain ⟨u, hu⟩ := h.known t hmem
      have howner := ho t hmem
      rw [howner.1, ← howner.2 u hu]
      exact h.order_mono (hs.listed hu)
    · rw [h.listing, if_pos (h.fresh t hmem).1, (h.fresh t hmem).1]
      exact List.mem_append_right _ (List.mem_map_of_mem hmem)
    · exact h.order_mono (hs.listed ht)
  owned {id owner} hid := by
    have hkept : id ∈ s.order owner → ∃ t, s'.task? id = some t ∧ t.instanceId = owner := by
      intro hid
      obtain ⟨t, ht, howner⟩ := hs.owned hid
      rcases h.tasks id with ⟨u, hu, rfl, hsome⟩ | ⟨hne, -⟩
      · exact ⟨u, hsome, by rw [(ho u hu).1, ← howner, (ho u hu).2 t ht]⟩
      · exact ⟨t, h.task?_of_kept hne ht, howner⟩
    rw [h.listing] at hid
    split at hid
    · rename_i howner
      rcases List.mem_append.1 hid with hid | hid
      · exact hkept (howner ▸ hid)
      · obtain ⟨t, ht, rfl⟩ := List.mem_map.1 hid
        exact howner ▸ h.exists_of_created ht
    · exact hkept hid

theorem sound (ho : s.Orderly c) (hs : s.Sound) : s'.Sound := h.sound_of_owner ho.owner hs

end Committed

/-- Whether an open task of the instance waits at a node. -/
def Busy (s : Store) (id : Uuid) (node : String) : Prop :=
  ∃ t ∈ s.tasksOf id, t.isOpen = true ∧ t.node = node

namespace Committed

variable {n : String} (h : s.Committed c s') (ho : s.Orderly c) (hs : s.Sound)
include h ho hs

theorem busy_iff : s'.Busy c.record.id n ↔
    (∃ t ∈ s.tasksOf c.record.id, (∀ u ∈ c.updated, u.id ≠ t.id) ∧ t.isOpen = true ∧ t.node = n) ∨
      ∃ t ∈ c.created, t.isOpen = true ∧ t.node = n := by
  have hs' := h.sound ho hs
  constructor
  · rintro ⟨t, ht, hopen, hnode⟩
    obtain ⟨ht, howner⟩ := hs'.mem_tasksOf.1 ht
    rcases h.task?_cases ht with ⟨hmem, -⟩ | ⟨hmem, -⟩ | ⟨ht, hne⟩
    · rw [ho.closed t hmem] at hopen
      cases hopen
    · exact Or.inr ⟨t, hmem, hopen, hnode⟩
    · exact Or.inl ⟨t, hs.mem_tasksOf.2 ⟨ht, howner⟩, hne, hopen, hnode⟩
  · rintro (⟨t, ht, hne, hopen, hnode⟩ | ⟨t, hmem, hopen, hnode⟩)
    · obtain ⟨ht, howner⟩ := hs.mem_tasksOf.1 ht
      exact ⟨t, hs'.mem_tasksOf.2 ⟨h.task?_of_kept hne ht, howner⟩, hopen, hnode⟩
    · have ht := h.task?_of_created ho.distinct hmem
      exact ⟨t, hs'.mem_tasksOf.2 ⟨ht, (h.fresh t hmem).1⟩, hopen, hnode⟩

theorem busy_iff_of_ne (hne : owner ≠ c.record.id) : s'.Busy owner n ↔ s.Busy owner n := by
  have hs' := h.sound ho hs
  constructor
  · rintro ⟨t, hmem, hopen, hnode⟩
    obtain ⟨ht, rfl⟩ := hs'.mem_tasksOf.1 hmem
    rcases h.task?_cases ht with ⟨hmem, -⟩ | ⟨hmem, -⟩ | ⟨ht, -⟩
    · exact absurd (ho.owner t hmem).1 hne
    · exact absurd (h.fresh t hmem).1 hne
    · exact ⟨t, hs.mem_tasksOf.2 ⟨ht, rfl⟩, hopen, hnode⟩
  · rintro ⟨t, hmem, hopen, hnode⟩
    obtain ⟨ht, rfl⟩ := hs.mem_tasksOf.1 hmem
    refine ⟨t, hs'.mem_tasksOf.2 ⟨h.task?_of_kept (fun u hu hid => ?_) ht, rfl⟩, hopen, hnode⟩
    exact hne ((ho.owner u hu).2 t (hid ▸ ht))

end Committed

/-! ### Other writes -/

theorem saveInstance_ok {revision : UInt64} (h : s.saveInstance i = .ok (revision, s')) :
    s' = s.putInstance i ∧ s.Expects i := by
  unfold saveInstance at h
  cases hrev : s.checkRevision i with
  | error e => rw [hrev] at h; cases h
  | ok u =>
    rw [hrev] at h
    cases h
    exact ⟨rfl, checkRevision_ok hrev⟩

/-- An accepted write of a step changes the instances as a write of its instance does. -/
theorem Committed.instances (h : s.Committed c s') :
    s'.instances = (s.putInstance c.record).instances :=
  Dict.ext_get? fun id => by
    have hput : (s.putInstance c.record).instances.get? id = _ := instance?_putInstance
    rw [hput]
    exact h.record id

/-! ### Revisions -/

/-- The revisions of all instances, added up. -/
def revisions (s : Store) : UInt64 :=
  s.instances.entries.foldr (fun p n => p.2.revision + n) 0

theorem foldr_insertEntry {κ α : Type} [Key κ] [DecidableEq κ] {f : α → UInt64} {c : UInt64}
    {k : κ} {a : α} {l : List (κ × α)} (hl : InOrder l)
    (h : f a = ((Dict.lookup k l).map f).getD 0 + c) :
    (Dict.insertEntry k a l).foldr (fun p n => f p.2 + n) 0 =
      l.foldr (fun p n => f p.2 + n) 0 + c := by
  induction l with
  | nil => simpa [Dict.insertEntry, Dict.lookup] using h
  | cons p l ih =>
    obtain ⟨x, b⟩ := p
    have hrest := List.pairwise_cons.1 hl
    rw [Dict.insertEntry]
    split
    · rename_i hlt
      -- the key comes before all others, so that it is new
      have hnone : Dict.lookup k ((x, b) :: l) = none :=
        Dict.lookup_eq_none_of_lt fun q hq => by
          rcases List.mem_cons.1 hq with rfl | hq
          · exact hlt
          · exact Key.lt_trans hlt (hrest.1 q hq)
      rw [hnone] at h
      simp only [List.foldr_cons, h, Option.map_none, Option.getD_none]
      ac_rfl
    · split
      · rename_i hk
        subst hk
        simp only [Dict.lookup, if_true, Option.map_some, Option.getD_some] at h
        simp only [List.foldr_cons, h]
        ac_rfl
      · rename_i hk
        simp only [Dict.lookup, if_neg hk] at h
        simp only [List.foldr_cons, ih hrest.2 h]
        ac_rfl

/-- A write of an instance adds one to the revisions. -/
theorem revisions_putInstance (h : s.Expects i) : (s.putInstance i).revisions = s.revisions + 1 := by
  apply foldr_insertEntry (f := Instance.revision) s.instances.inOrder
  change i.revision + 1 = ((s.instance? i.id).map Instance.revision).getD 0 + 1
  cases hi : s.instance? i.id with
  | none => simp [h.absent hi]
  | some j => simp [h.stored j hi]

theorem Keyed.putInstance (hk : s.Keyed) : (s.putInstance i).Keyed where
  instances hi := by
    rw [instance?_putInstance] at hi
    split at hi
    · rename_i hid
      cases hi
      exact hid.symm
    · exact hk.instances hi
  tasks := hk.tasks

theorem Sound.putInstance (hs : s.Sound) : (s.putInstance i).Sound :=
  ⟨hs.toKeyed.putInstance, hs.listed, hs.owned⟩

theorem Sound.putDefinition {d : Definition} (hs : s.Sound) : (s.putDefinition d).Sound :=
  ⟨⟨hs.instances, hs.tasks⟩, hs.listed, hs.owned⟩

end Workflow.Store
