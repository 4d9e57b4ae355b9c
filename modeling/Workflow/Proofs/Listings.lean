import Workflow.Proofs.Updates

/-!
The listings of tasks beside the writes that filled them, with whatever these carry. The tasks of an
instance stand in its listing in the order in which they were created, for what a write creates is new
and goes to its own instance (`Filed`). That listings are right takes two things that the store does not
check: that a write creates no two tasks of one id, and that tasks stay with their instances
(`lists_iff`).
-/
namespace Workflow

/-- A world and the writes that it has accepted. -/
structure Journal where
  world : World
  writes : List Commit

namespace Journal

def opened : Journal := ⟨.empty, []⟩

/-- An instance is to be written, with or without tasks. -/
def serve (x : Journal) (i : Instance) (path : WritePath) : Journal where
  world := (x.world.answer (path.call i)).2
  writes := if x.world.accepts (path.call i) then x.writes ++ [path.commitOf i] else x.writes

/-- The journal of these writes, which start from an empty store. -/
def after (ws : List (Instance × WritePath)) : Journal :=
  ws.foldl (fun x w => x.serve w.1 w.2) opened

theorem after_concat (ws : List (Instance × WritePath)) (i : Instance) (path : WritePath) :
    after (ws ++ [(i, path)]) = (after ws).serve i path := by
  rw [after, List.foldl_append]
  rfl

def store (x : Journal) : Store := x.world.store

/-- The ids of the tasks in the order in which they were first committed. -/
def ids (x : Journal) : List Uuid :=
  (x.writes.flatMap fun c => (c.created ++ c.updated).map Task.id).eraseDups

/-- The listing of an instance has all tasks of the instance that are stored and no others, each one
once, in the order in which they were first committed. -/
structure Lists (x : Journal) (owner : Uuid) : Prop where
  mem_iff : ∀ t, t ∈ x.store.tasksOf owner ↔
    (∃ id, x.store.task? id = some t) ∧ t.instanceId = owner
  once : (x.store.tasksOf owner).Nodup
  inOrder : ((x.store.tasksOf owner).map Task.id).Sublist x.ids

/-! ### What was created -/

/-- The ids under which writes created tasks. -/
def createdIds (cs : List Commit) : List Uuid := cs.flatMap fun c => c.created.map Task.id

/-- Tasks are stored under the ids they were created with, which are new each time, and listed with the
instance they were created for. -/
structure Filed (x : Journal) : Prop where
  keyed : x.store.Keyed
  known : ∀ id, (∃ t, x.store.task? id = some t) ↔ id ∈ createdIds x.writes
  owner : ∀ c ∈ x.writes, ∀ t ∈ c.created, t.instanceId = c.record.id
  order : ∀ owner, x.store.order owner = createdIds (x.writes.filter (·.record.id = owner))
  apart : x.writes.Pairwise fun c d => (c.created.map Task.id).Disjoint (d.created.map Task.id)
  ids : x.ids = (createdIds x.writes).eraseDups

theorem filed_opened : opened.Filed where
  keyed := Store.sound_empty.toKeyed
  known _ := iff_of_false (fun ⟨_, ht⟩ => nomatch ht) List.not_mem_nil
  owner _ hc := nomatch hc
  order _ := rfl
  apart := .nil
  ids := rfl

theorem createdIds_append (cs ds : List Commit) :
    createdIds (cs ++ ds) = createdIds cs ++ createdIds ds :=
  List.flatMap_append

theorem createdIds_singleton (c : Commit) : createdIds [c] = c.created.map Task.id :=
  List.flatMap_singleton ..

/-- Only new items change the order in which items first came. -/
theorem eraseDups_append_congr {α : Type} [DecidableEq α] {l l' new known : List α}
    (h : l.eraseDups = l'.eraseDups) (hknown : ∀ a ∈ known, a ∈ l') :
    (l ++ (new ++ known)).eraseDups = (l' ++ new).eraseDups := by
  have hmem : ∀ a, a ∈ l ↔ a ∈ l' := fun a => by rw [← List.mem_eraseDups, h, List.mem_eraseDups]
  have hnone : known.removeAll l = [] := by
    refine List.filter_eq_nil_iff.2 fun a ha => ?_
    simpa using (hmem a).2 (hknown a ha)
  have hnew : new.removeAll l = new.removeAll l' :=
    List.filter_congr fun a _ => by simp [hmem]
  rw [List.eraseDups_append, List.eraseDups_append, h, ← hnew, List.removeAll, List.filter_append,
    ← List.removeAll, ← List.removeAll, hnone, List.append_nil]

namespace Filed

variable {x : Journal} {c : Commit} {s : Store} (h : x.Filed) (hc : x.store.Committed c s)
include h hc

/-- What a write updates was created before. -/
theorem mem_of_updated {t : Task} (ht : t ∈ c.updated) : t.id ∈ createdIds x.writes :=
  (h.known t.id).1 (hc.known t ht)

/-- What it creates was not. -/
theorem notMem_of_created {t : Task} (ht : t ∈ c.created) : t.id ∉ createdIds x.writes := fun hmem => by
  obtain ⟨u, hu⟩ := (h.known t.id).2 hmem
  rw [(hc.fresh t ht).2] at hu
  cases hu

theorem known_concat (id : Uuid) :
    (∃ t, s.task? id = some t) ↔ id ∈ createdIds x.writes ++ c.created.map Task.id := by
  rw [List.mem_append]
  constructor
  · rintro ⟨t, ht⟩
    rcases hc.task?_cases ht with ⟨hmem, rfl⟩ | ⟨hmem, rfl⟩ | ⟨hkept, -⟩
    · exact Or.inl (h.mem_of_updated hc hmem)
    · exact Or.inr (List.mem_map_of_mem hmem)
    · exact Or.inl ((h.known id).1 ⟨t, hkept⟩)
  · rintro (hmem | hmem)
    · obtain ⟨t, ht⟩ := (h.known id).2 hmem
      rcases hc.tasks id with ⟨u, -, -, hu⟩ | ⟨-, ⟨u, -, -, hu⟩ | ⟨-, hsame⟩⟩
      · exact ⟨u, hu⟩
      · exact ⟨u, hu⟩
      · exact ⟨t, hsame.trans ht⟩
    · obtain ⟨t, ht, rfl⟩ := List.mem_map.1 hmem
      exact (hc.exists_of_created ht).imp fun _ hu => hu.1

theorem order_concat (owner : Uuid) :
    s.order owner = createdIds ((x.writes ++ [c]).filter (·.record.id = owner)) := by
  rw [List.filter_append, createdIds_append, hc.listing]
  by_cases howner : c.record.id = owner
  · subst howner
    rw [if_pos rfl, List.filter_cons_of_pos (by simp), List.filter_nil, createdIds_singleton, h.order]
  · rw [if_neg (Ne.symm howner), List.filter_cons_of_neg (by simpa using howner), List.filter_nil,
      h.order]
    exact (List.append_nil _).symm

theorem concat {w : World} (hw : w.store = s) : Filed ⟨w, x.writes ++ [c]⟩ where
  keyed := by
    rw [store, hw]
    exact hc.keyed h.keyed
  known id := by
    rw [store, hw, createdIds_append, createdIds_singleton]
    exact h.known_concat hc id
  owner d hd := by
    rcases List.mem_append.1 hd with hd | hd
    · exact h.owner d hd
    · obtain rfl := List.mem_singleton.1 hd
      exact fun t ht => (hc.fresh t ht).1
  order owner := by
    rw [store, hw]
    exact h.order_concat hc owner
  apart := by
    rw [List.pairwise_append]
    refine ⟨h.apart, List.pairwise_singleton .., fun d hd e he id hid hnew => ?_⟩
    obtain rfl := List.mem_singleton.1 he
    obtain ⟨t, ht, rfl⟩ := List.mem_map.1 hnew
    exact h.notMem_of_created hc ht (List.mem_flatMap.2 ⟨d, hd, hid⟩)
  ids := by
    rw [Journal.ids, List.flatMap_append, List.flatMap_singleton, List.map_append, createdIds_append,
      createdIds_singleton]
    refine eraseDups_append_congr h.ids fun id hid => ?_
    obtain ⟨t, ht, rfl⟩ := List.mem_map.1 hid
    exact h.mem_of_updated hc ht

end Filed

end Journal

/-- What an accepted write of either kind leaves. -/
theorem WritePath.committed_of_accepts {w : World} {i : Instance} {path : WritePath}
    (h : w.accepts (path.call i) = true) :
    w.store.Committed (path.commitOf i) (w.answer (path.call i)).2.store := by
  cases path with
  | save =>
    have hexpects : w.store.Expects i := (World.accepts_iff.1 h).revision
    have hanswer : (w.answer (call i save)).2.store = w.store.putInstance i := by
      simp only [call, World.answer, World.write, Store.saveInstance,
        Store.checkRevision_of_expects hexpects]
      rfl
    rw [hanswer]
    exact Store.committed_afterCommit (Store.checkRevision_of_expects hexpects) rfl rfl
  | commit created updated =>
    cases hs : w.store.commit ⟨i, created, updated⟩ with
    | error err => simp [call, World.accepts, hs, Except.isOk, Except.toBool] at h
    | ok written =>
      have hanswer : (w.answer (call i (commit created updated))).2.store = written.2 := by
        simp only [call, World.answer, World.write, hs]
      rw [hanswer]
      exact Store.commit_ok hs

namespace Journal

variable {x : Journal} {i : Instance} {path : WritePath} {owner : Uuid}

theorem filed_serve (h : x.Filed) : (x.serve i path).Filed := by
  cases haccepts : x.world.accepts (path.call i) with
  | false =>
    have hsame : x.serve i path = x := by
      rw [serve, haccepts, World.answer_of_not_accepts WritePath.written?_call haccepts]
      rfl
    rw [hsame]
    exact h
  | true =>
    rw [serve, haccepts, if_pos rfl]
    exact h.concat (WritePath.committed_of_accepts haccepts) rfl

theorem filed_after (ws : List (Instance × WritePath)) : (after ws).Filed := by
  induction ws using List.reverseRecOn with
  | nil => exact filed_opened
  | append_singleton ws w ih =>
    rw [after_concat]
    exact filed_serve ih

/-! ### What is listed -/

theorem eraseDups_of_nodup {α : Type} [DecidableEq α] {l : List α} (h : l.Nodup) : l.eraseDups = l := by
  induction l with
  | nil => rfl
  | cons a l ih =>
    obtain ⟨ha, hl⟩ := List.nodup_cons.1 h
    rw [List.eraseDups_cons, List.filter_eq_self.2, ih hl]
    intro b hb
    simpa using fun hba : b = a => ha (hba ▸ hb)

namespace Filed

variable (h : x.Filed)
include h

theorem order_sublist (owner : Uuid) : (x.store.order owner).Sublist (createdIds x.writes) := by
  rw [h.order]
  exact List.filter_sublist.flatMap _

theorem map_id_tasksOf (owner : Uuid) : (x.store.tasksOf owner).map Task.id = x.store.order owner := by
  have hall : ∀ id ∈ x.store.order owner, (x.store.task? id).map Task.id = some id := fun id hid => by
    obtain ⟨t, ht⟩ := (h.known id).2 ((h.order_sublist owner).subset hid)
    rw [ht, Option.map_some, h.keyed.tasks ht]
  rw [Store.tasksOf, List.map_filterMap]
  exact (List.filterMap_congr hall).trans List.filterMap_some

/-- The listings hold the ids of what was created for the instance. -/
theorem mem_tasksOf {t : Task} : t ∈ x.store.tasksOf owner ↔
    x.store.task? t.id = some t ∧ ∃ c ∈ x.writes, c.record.id = owner ∧ t.id ∈ c.created.map Task.id := by
  have horder : t.id ∈ x.store.order owner ↔
      ∃ c ∈ x.writes, c.record.id = owner ∧ t.id ∈ c.created.map Task.id := by
    rw [h.order, createdIds, List.mem_flatMap]
    simp only [List.mem_filter, decide_eq_true_eq, and_assoc]
  rw [← horder, Store.tasksOf, List.mem_filterMap]
  constructor
  · rintro ⟨id, hid, ht⟩
    have hti : t.id = id := h.keyed.tasks ht
    exact ⟨hti ▸ ht, hti ▸ hid⟩
  · rintro ⟨ht, hid⟩
    exact ⟨t.id, hid, ht⟩

/-- Tasks of one id are one task, so that a right listing has each id once. -/
theorem nodup_order (hlists : x.Lists owner) : (x.store.order owner).Nodup := by
  rw [← h.map_id_tasksOf]
  refine hlists.once.map_on fun t ht u hu hid => ?_
  have hstored := (h.mem_tasksOf.1 ht).1
  rw [hid] at hstored
  exact Option.some.inj (hstored.symm.trans (h.mem_tasksOf.1 hu).1)

end Filed

/-- Whatever is written, accepted or not: all listings are right just if no accepted write created two
tasks of one id, and what is stored under the ids of created tasks is still of the instance they were
created for. -/
theorem lists_iff (ws : List (Instance × WritePath)) : (∀ owner, (after ws).Lists owner) ↔
    (∀ c ∈ (after ws).writes, (c.created.map Task.id).Nodup) ∧
      ∀ c ∈ (after ws).writes, ∀ t ∈ c.created, ∀ u, (after ws).store.task? t.id = some u →
        u.instanceId = c.record.id := by
  have hfiled := filed_after ws
  generalize after ws = x at hfiled ⊢
  constructor
  · intro hlists
    refine ⟨fun c hc => ?_, fun c hc t ht u hu => ?_⟩
    · have hnodup := hfiled.nodup_order (hlists c.record.id)
      rw [hfiled.order] at hnodup
      exact (List.nodup_flatMap.1 hnodup).1 c (List.mem_filter.2 ⟨hc, decide_eq_true rfl⟩)
    · have hid : u.id = t.id := hfiled.keyed.tasks hu
      have hmem : u ∈ x.store.tasksOf c.record.id :=
        hfiled.mem_tasksOf.2 ⟨hid ▸ hu, c, hc, rfl, hid ▸ List.mem_map_of_mem ht⟩
      exact ((hlists c.record.id).mem_iff u).1 hmem |>.2
  · rintro ⟨hdistinct, hstay⟩ owner
    have hnodup : (createdIds x.writes).Nodup := List.nodup_flatMap.2 ⟨hdistinct, hfiled.apart⟩
    refine ⟨fun t => ?_, ?_, ?_⟩
    · rw [hfiled.mem_tasksOf]
      constructor
      · rintro ⟨ht, c, hc, rfl, hid⟩
        obtain ⟨v, hv, hvid⟩ := List.mem_map.1 hid
        exact ⟨⟨t.id, ht⟩, hstay c hc v hv t (hvid ▸ ht)⟩
      · rintro ⟨⟨id, ht⟩, rfl⟩
        obtain rfl : t.id = id := hfiled.keyed.tasks ht
        obtain ⟨c, hc, hid⟩ := List.mem_flatMap.1 ((hfiled.known t.id).1 ⟨t, ht⟩)
        obtain ⟨v, hv, hvid⟩ := List.mem_map.1 hid
        exact ⟨ht, c, hc, (hstay c hc v hv t (hvid ▸ ht)).symm, hid⟩
    · refine List.Nodup.of_map Task.id ?_
      rw [hfiled.map_id_tasksOf]
      exact (hfiled.order_sublist owner).nodup hnodup
    · rw [hfiled.map_id_tasksOf, hfiled.ids, eraseDups_of_nodup hnodup]
      exact hfiled.order_sublist owner

/-- One write that creates a task twice. -/
def twice : List (Instance × WritePath) :=
  [(.create ⟨0⟩ "desk" 1 ∅ ⟨0, 0⟩,
    .commit [.create ⟨1⟩ ⟨0⟩ "counter" [] ⟨0, 0⟩, .create ⟨1⟩ ⟨0⟩ "counter" [] ⟨0, 0⟩] [])]

/-- Then the task is listed twice. -/
theorem not_lists_twice : ¬ (after twice).Lists ⟨0⟩ := by
  intro h
  have horder : (after twice).store.order ⟨0⟩ = [⟨1⟩, ⟨1⟩] := by cbv
  have hnodup := (filed_after twice).nodup_order h
  rw [horder] at hnodup
  exact absurd hnodup (by decide)

end Journal

end Workflow
