import Mathlib.Data.List.Range
import Mathlib.Logic.Function.Basic
import Workflow.Proofs.Atomicity

/-!
Clients that write instances to one store without knowing of each other. A write is accepted if the
store admits it, and else changes nothing (`Store.accepts_iff`). Of the writes of an instance that are
accepted, each one was made from what the one before it had stored (`no_lost_update`).
-/
namespace Workflow

/-- A client's way to write an instance. -/
inductive WritePath where
  | save
  | commit (created updated : List Task)
deriving DecidableEq, Repr

namespace WritePath

/-- All that is written. -/
def commitOf (i : Instance) : WritePath → Commit
  | save => ⟨i, [], []⟩
  | commit created updated => ⟨i, created, updated⟩

def call (i : Instance) : WritePath → Call
  | save => .saveInstance i
  | commit created updated => .commit ⟨i, created, updated⟩

end WritePath

/-- What a client does next. -/
inductive Deed (ι : Type) where
  /-- Loads an instance, in the place of what the client had loaded before. -/
  | load (client : ι) (id : Uuid)
  /-- Changes what the client has loaded, except for its id and revision, and writes it back. -/
  | write (client : ι) (edit : Instance → Instance) (path : WritePath)
  /-- Writes a new instance. -/
  | create (client : ι) (i : Instance) (path : WritePath)

/-- A write that was accepted. -/
structure Update where
  /-- What it was made from. -/
  base : Option Instance
  stored : Instance
deriving DecidableEq, Repr

/-- The store with its clients, what each of them has loaded, and the writes accepted so far. -/
structure Clients (ι : Type) where
  world : World
  copies : ι → Option Instance
  updates : List Update

/-- What a client makes of its copy. -/
def Instance.edited (i : Instance) (edit : Instance → Instance) : Instance :=
  { edit i with id := i.id, revision := i.revision }

namespace Clients

variable {ι : Type}

def opened : Clients ι := ⟨.empty, fun _ => none, []⟩

/-- A write that a client asks for. -/
structure Order where
  base : Option Instance
  record : Instance
  path : WritePath

/-- The write that a deed asks for, if there is something to write. -/
def order? (x : Clients ι) : Deed ι → Option Order
  | .load _ _ => none
  | .write k edit path => (x.copies k).map fun i => ⟨some i, i.edited edit, path⟩
  | .create _ i path => some ⟨none, { i with revision := 0 }, path⟩

/-- The store answers a write. -/
def serve (x : Clients ι) (o : Order) : Clients ι :=
  { x with
    world := (x.world.answer (o.path.call o.record)).2
    updates := if x.world.accepts (o.path.call o.record) then
      x.updates ++ [⟨o.base, { o.record with revision := o.record.revision + 1 }⟩] else x.updates }

variable [DecidableEq ι]

def act (x : Clients ι) (d : Deed ι) : Clients ι :=
  match d with
  | .load k id => { x with copies := Function.update x.copies k (x.world.store.instance? id) }
  | .write k edit path =>
    match x.copies k with
    | none => x
    | some i => x.serve ⟨some i, i.edited edit, path⟩
  | .create _ i path => x.serve ⟨none, { i with revision := 0 }, path⟩

/-- The clients after these deeds, which start from an empty store. -/
def after (ds : List (Deed ι)) : Clients ι := ds.foldl act opened

theorem after_concat (ds : List (Deed ι)) (d : Deed ι) : after (ds ++ [d]) = (after ds).act d := by
  rw [after, List.foldl_append]
  rfl

end Clients

/-! ### Which writes are accepted -/

/-- What a store checks before it accepts a write: the revision is the stored one, created tasks are
of the instance and new, and updated ones are known. -/
structure Store.Admits (s : Store) (c : Commit) : Prop where
  revision : s.Expects c.record
  created : ∀ t ∈ c.created, t.instanceId = c.record.id ∧ s.task? t.id = none
  updated : ∀ t ∈ c.updated, ∃ u, s.task? t.id = some u

namespace Store

variable {s : Store} {i : Instance} {c : Commit}

theorem checkRevision_of_expects (h : s.Expects i) : s.checkRevision i = .ok () := by
  unfold checkRevision
  cases hi : s.instance? i.id with
  | none => rw [if_pos (h.absent hi)]
  | some j => simp only [if_pos (h.stored j hi)]

theorem checkCreated_of_fresh {owner : Uuid} {ts : List Task}
    (h : ∀ t ∈ ts, t.instanceId = owner ∧ s.task? t.id = none) :
    s.checkCreated owner ts = .ok () := by
  induction ts with
  | nil => rfl
  | cons t ts ih =>
    obtain ⟨howner, hnew⟩ := h t List.mem_cons_self
    have hnew : s.tasks.contains t.id = false := by
      rw [Dict.contains, show s.tasks.get? t.id = none from hnew]
      rfl
    rw [checkCreated, if_neg (not_not.2 howner), hnew]
    exact ih fun u hu => h u (List.mem_cons_of_mem _ hu)

theorem checkUpdated_of_known {ts : List Task} (h : ∀ t ∈ ts, ∃ u, s.task? t.id = some u) :
    s.checkUpdated ts = .ok () := by
  refine if_pos (List.all_eq_true.2 fun t ht => ?_)
  obtain ⟨u, hu⟩ := h t ht
  rw [Dict.contains, show s.tasks.get? t.id = some u from hu]
  rfl

theorem saveInstance_isOk_iff : (s.saveInstance i).isOk = true ↔ s.Expects i := by
  constructor
  · intro h
    cases hs : s.saveInstance i with
    | error err => rw [hs] at h; cases h
    | ok written => exact (saveInstance_ok hs).2
  · intro h
    rw [saveInstance, checkRevision_of_expects h]
    rfl

theorem commit_isOk_iff : (s.commit c).isOk = true ↔ s.Admits c := by
  constructor
  · intro h
    cases hs : s.commit c with
    | error err => rw [hs] at h; cases h
    | ok written =>
      have hc := commit_ok hs
      exact ⟨hc.revision, hc.fresh, hc.known⟩
  · intro h
    rw [commit, checkRevision_of_expects h.revision, checkCreated_of_fresh h.created,
      checkUpdated_of_known h.updated]
    rfl

end Store

theorem World.accepts_iff {w : World} {i : Instance} {path : WritePath} :
    w.accepts (path.call i) = true ↔ w.store.Admits (path.commitOf i) := by
  cases path with
  | save =>
    rw [WritePath.call, World.accepts, Store.saveInstance_isOk_iff]
    exact ⟨fun h => ⟨h, fun _ ht => absurd ht List.not_mem_nil, fun _ ht => absurd ht List.not_mem_nil⟩,
      fun h => h.revision⟩
  | commit created updated => exact Store.commit_isOk_iff

namespace WritePath

variable {w : World} {i : Instance} {path : WritePath}

theorem written?_call : (path.call i).written? = some i := by
  cases path <;> rfl

theorem instance?_of_accepts (h : w.accepts (path.call i) = true) (id : Uuid) :
    (w.answer (path.call i)).2.store.instance? id =
      if id = i.id then some { i with revision := i.revision + 1 } else w.store.instance? id := by
  obtain ⟨j, hj, hwrote⟩ := World.wrote_of_accepts h
  obtain rfl : i = j := Option.some.inj (written?_call.symm.trans hj)
  rw [Store.instance?, hwrote.instances]
  exact Store.instance?_putInstance

end WritePath

namespace Clients

variable {ι : Type}

/-- The accepted writes of an instance, in order. -/
def updatesOf (x : Clients ι) (id : Uuid) : List Update :=
  x.updates.filter fun u => u.stored.id == id

/-- The accepted writes of an instance make a chain without gaps. -/
structure Chained (x : Clients ι) (id : Uuid) : Prop where
  revisions : (x.updatesOf id).map (fun u => u.stored.revision.toNat) =
    List.range' 1 (x.updatesOf id).length
  /-- The first write is made from nothing, each other one from what the one before it stored, and what
  the last one stored is there. -/
  bases : (x.updatesOf id).map Update.base ++ [x.world.store.instance? id] =
    none :: (x.updatesOf id).map fun u => some u.stored

/-- The accepted writes of an instance make a chain, and all copies of it belong to the chain. -/
structure Linked (x : Clients ι) (id : Uuid) : Prop extends Chained x id where
  keyed : x.world.store.Keyed
  copies : ∀ k i, x.copies k = some i → i.id = id → ∃ u ∈ x.updatesOf id, u.stored = i

/-- A write is made from nothing at all, or from a part of the chain. -/
structure Order.Based (x : Clients ι) (id : Uuid) (o : Order) : Prop where
  new : o.base = none → o.record.revision = 0
  old : ∀ i, o.base = some i → o.record.id = i.id ∧ o.record.revision = i.revision ∧
    (i.id = id → ∃ u ∈ x.updatesOf id, u.stored = i)

theorem linked_opened (id : Uuid) : (opened : Clients ι).Linked id where
  revisions := rfl
  bases := rfl
  keyed := Store.sound_empty.toKeyed
  copies _ _ hi := nomatch hi

section Chain

variable {x : Clients ι} {id : Uuid} {o : Order} {u : Update}

theorem Chained.getLast?_eq (h : x.Chained id) :
    x.world.store.instance? id = (x.updatesOf id).getLast?.map Update.stored := by
  have hlast := congrArg List.getLast? h.bases
  rw [List.getLast?_concat, List.getLast?_cons, List.getLast?_map] at hlast
  rw [Option.some.inj hlast]
  cases (x.updatesOf id).getLast? <;> rfl

/-- The stored revision is the number of accepted writes. -/
theorem Chained.length_eq (h : x.Chained id) :
    ((x.world.store.instance? id).map Instance.revision).getD 0 =
      .ofNat (x.updatesOf id).length := by
  rw [h.getLast?_eq]
  cases hu : (x.updatesOf id).getLast? with
  | none =>
    rw [List.getLast?_eq_none_iff.1 hu]
    rfl
  | some u =>
    have hlast := congrArg List.getLast? h.revisions
    rw [List.getLast?_map, hu, List.getLast?_range', if_neg, Option.map_some] at hlast
    · have hrevision : u.stored.revision.toNat = (x.updatesOf id).length := by
        rw [Option.some.inj hlast]
        omega
      rw [← hrevision, UInt64.ofNat_toNat]
      rfl
    · rw [List.length_eq_zero_iff]
      intro hnil
      rw [hnil] at hu
      cases hu

theorem Chained.pos (h : x.Chained id) (hu : u ∈ x.updatesOf id) : 0 < u.stored.revision.toNat := by
  have hmem : u.stored.revision.toNat ∈ List.range' 1 (x.updatesOf id).length := by
    rw [← h.revisions]
    exact List.mem_map_of_mem hu
  exact (List.mem_range'_1.1 hmem).1

/-- No two accepted writes of an instance have stored the same revision. -/
theorem Chained.eq_of_revision (h : x.Chained id) {v : Update} (hu : u ∈ x.updatesOf id)
    (hv : v ∈ x.updatesOf id) (hsame : u.stored.revision = v.stored.revision) : u = v := by
  have hnodup : ((x.updatesOf id).map fun u => u.stored.revision.toNat).Nodup := by
    rw [h.revisions]
    exact List.nodup_range'
  exact List.inj_on_of_nodup_map hnodup hu hv (congrArg UInt64.toNat hsame)

/-- What is accepted was made from what is stored. -/
theorem Linked.base_eq (h : x.Linked id) (ho : o.Based x id) (hid : o.record.id = id)
    (hexpects : x.world.store.Expects o.record) : o.base = x.world.store.instance? id := by
  subst hid
  cases hstored : x.world.store.instance? o.record.id with
  | none =>
    cases hbase : o.base with
    | none => rfl
    | some i =>
      -- a copy is part of the chain, so that something is stored
      obtain ⟨hsame, -, hpart⟩ := ho.old i hbase
      obtain ⟨u, hu, -⟩ := hpart hsame.symm
      rw [h.getLast?_eq, Option.map_eq_none_iff, List.getLast?_eq_none_iff] at hstored
      rw [hstored] at hu
      cases hu
  | some j =>
    have hrevision := hexpects.stored j hstored
    rw [h.getLast?_eq, Option.map_eq_some_iff] at hstored
    obtain ⟨v, hv, rfl⟩ := hstored
    have hv := List.mem_of_getLast? hv
    cases hbase : o.base with
    | none =>
      have hpos := h.pos hv
      rw [hrevision, ho.new hbase] at hpos
      cases hpos
    | some i =>
      obtain ⟨hsame, hkept, hpart⟩ := ho.old i hbase
      obtain ⟨u, hu, rfl⟩ := hpart hsame.symm
      rw [h.eq_of_revision hu hv (hkept.symm.trans hrevision.symm)]

theorem serve_of_refused (hrefused : x.world.accepts (o.path.call o.record) = false) :
    x.serve o = x := by
  simp only [serve, hrefused, World.answer_of_not_accepts WritePath.written?_call hrefused,
    Bool.false_eq_true, if_false]

theorem updatesOf_serve_of_accepted (haccepted : x.world.accepts (o.path.call o.record) = true) :
    (x.serve o).updatesOf id = if id = o.record.id then
      x.updatesOf id ++ [⟨o.base, { o.record with revision := o.record.revision + 1 }⟩]
      else x.updatesOf id := by
  simp only [updatesOf, serve, haccepted, if_true, List.filter_append]
  by_cases hid : id = o.record.id
  · simp [hid]
  · simp [hid, Ne.symm hid]

theorem linked_serve (h : x.Linked id) (ho : o.Based x id)
    (hn : ((x.serve o).updatesOf id).length < 2 ^ 64) : (x.serve o).Linked id := by
  cases haccepts : x.world.accepts (o.path.call o.record) with
  | false =>
    rw [serve_of_refused haccepts]
    exact h
  | true =>
    obtain ⟨j, hj, hwrote⟩ := World.wrote_of_accepts haccepts
    obtain rfl : o.record = j := Option.some.inj (WritePath.written?_call.symm.trans hj)
    have hstored := WritePath.instance?_of_accepts haccepts id
    have hupdates : (x.serve o).updatesOf id = _ := updatesOf_serve_of_accepted haccepts
    by_cases hid : id = o.record.id
    · rw [if_pos hid] at hstored hupdates
      have hexpected := hwrote.expects.revision
      rw [← hid, h.length_eq] at hexpected
      rw [hupdates, List.length_append, List.length_singleton] at hn
      refine ⟨⟨?_, ?_⟩, hwrote.keyed h.keyed, fun k i hk hi => ?_⟩
      · rw [hupdates, List.map_append, h.revisions, List.length_append, List.length_singleton,
          List.range'_1_concat, List.map_singleton]
        have hlt : (x.updatesOf id).length + 1 < UInt64.size := hn
        have hrevision : (o.record.revision + 1).toNat = 1 + (x.updatesOf id).length := by
          rw [← hexpected, ← UInt64.ofNat_one, ← UInt64.ofNat_add, UInt64.toNat_ofNat_of_lt' hlt,
            Nat.add_comm]
        rw [hrevision]
      · change List.map _ ((x.serve o).updatesOf id) ++ [(x.world.answer _).2.store.instance? id] = _
        rw [hupdates, List.map_append, List.map_append, hstored, List.map_singleton, List.map_singleton,
          h.base_eq ho hid.symm hwrote.expects, h.bases, List.cons_append]
      · obtain ⟨u, hu, hsame⟩ := h.copies k i hk hi
        exact ⟨u, hupdates ▸ List.mem_append_left _ hu, hsame⟩
    · rw [if_neg hid] at hstored hupdates
      refine ⟨⟨?_, ?_⟩, hwrote.keyed h.keyed, ?_⟩
      · rw [hupdates]
        exact h.revisions
      · change List.map _ ((x.serve o).updatesOf id) ++ [(x.world.answer _).2.store.instance? id] = _
        rw [hupdates, hstored]
        exact h.bases
      · rw [hupdates]
        exact h.copies

/-- A client writes what is based on its copy, or a new instance. -/
theorem Linked.based (h : x.Linked id) {d : Deed ι} (ho : x.order? d = some o) : o.Based x id := by
  cases d with
  | load k id => cases ho
  | write k edit path =>
    obtain ⟨i, hi, rfl⟩ := Option.map_eq_some_iff.1 ho
    refine ⟨(fun hnone => nomatch hnone), fun j hj => ?_⟩
    obtain rfl := Option.some.inj hj
    exact ⟨rfl, rfl, h.copies k i hi⟩
  | create k i path =>
    cases ho
    exact ⟨fun _ => rfl, (fun j hj => nomatch hj)⟩

end Chain

section Deeds

variable {ι : Type} [DecidableEq ι] {x : Clients ι} {id : Uuid} {d : Deed ι}

theorem act_of_order {o : Order} (ho : x.order? d = some o) : x.act d = x.serve o := by
  cases d with
  | load k id => cases ho
  | write k edit path =>
    obtain ⟨i, hi, rfl⟩ := Option.map_eq_some_iff.1 ho
    simp only [act, hi]
  | create k i path =>
    cases ho
    rfl

/-- A deed that asks for no write changes copies only, and takes them from the store. -/
theorem act_of_no_order (ho : x.order? d = none) :
    (x.act d).world = x.world ∧ (x.act d).updates = x.updates ∧
      ∀ k i, (x.act d).copies k = some i →
        x.copies k = some i ∨ ∃ id, x.world.store.instance? id = some i := by
  cases d with
  | load l id =>
    refine ⟨rfl, rfl, fun k i hk => ?_⟩
    by_cases hkl : k = l
    · subst hkl
      exact Or.inr ⟨id, by simpa [act] using hk⟩
    · exact Or.inl (by simpa [act, hkl] using hk)
  | write k edit path =>
    have hnone : x.copies k = none := Option.map_eq_none_iff.1 ho
    have hsame : x.act (.write k edit path) = x := by simp only [act, hnone]
    rw [hsame]
    exact ⟨rfl, rfl, fun k i hk => Or.inl hk⟩
  | create k i path => cases ho

theorem linked_act (h : x.Linked id) (hn : ((x.act d).updatesOf id).length < 2 ^ 64) :
    (x.act d).Linked id := by
  cases ho : x.order? d with
  | some o =>
    rw [act_of_order ho] at hn ⊢
    exact linked_serve h (h.based ho) hn
  | none =>
    obtain ⟨hworld, hupdates, hcopies⟩ := act_of_no_order ho
    have hsame : (x.act d).updatesOf id = x.updatesOf id := by rw [updatesOf, hupdates, updatesOf]
    refine ⟨⟨?_, ?_⟩, ?_, fun k i hk hi => ?_⟩
    · rw [hsame]
      exact h.revisions
    · rw [hsame, hworld]
      exact h.bases
    · rw [hworld]
      exact h.keyed
    · rw [hsame]
      rcases hcopies k i hk with hold | ⟨key, hstored⟩
      · exact h.copies k i hold hi
      · -- what is loaded was stored by the last of the accepted writes
        rw [← h.keyed.instances hstored, hi, h.getLast?_eq] at hstored
        obtain ⟨u, hu, hui⟩ := Option.map_eq_some_iff.1 hstored
        exact ⟨u, List.mem_of_getLast? hu, hui⟩

theorem length_updatesOf_act (x : Clients ι) (d : Deed ι) (id : Uuid) :
    (x.updatesOf id).length ≤ ((x.act d).updatesOf id).length := by
  cases ho : x.order? d with
  | some o =>
    rw [act_of_order ho]
    cases haccepts : x.world.accepts (o.path.call o.record) with
    | false =>
      rw [serve_of_refused haccepts]
    | true =>
      rw [updatesOf_serve_of_accepted haccepts]
      split
      · rw [List.length_append]
        exact Nat.le_add_right _ _
      · exact Nat.le_refl _
  | none => rw [updatesOf, updatesOf, (act_of_no_order ho).2.1]

theorem linked_after (ds : List (Deed ι)) (hn : ((after ds).updatesOf id).length < 2 ^ 64) :
    (after ds).Linked id := by
  induction ds using List.reverseRecOn with
  | nil => exact linked_opened id
  | append_singleton ds d ih =>
    rw [after_concat] at hn ⊢
    exact linked_act (ih (Nat.lt_of_le_of_lt (length_updatesOf_act _ d id) hn)) hn

/-- Whatever clients do in whichever order, the accepted writes of an instance carry the revisions one
after another as long as these can be counted, each was made from what the one before it stored, and a
write that the store does not admit leaves everything as it is. -/
theorem no_lost_update (ds : List (Deed ι)) (hn : ((after ds).updatesOf id).length < 2 ^ 64) :
    (after ds).Chained id ∧ ∀ d o, (after ds).order? d = some o →
      ((after ds).world.store.Admits (o.path.commitOf o.record) →
        (after (ds ++ [d])).updates =
          (after ds).updates ++ [⟨o.base, { o.record with revision := o.record.revision + 1 }⟩]) ∧
      (¬ (after ds).world.store.Admits (o.path.commitOf o.record) →
        after (ds ++ [d]) = after ds) := by
  refine ⟨(linked_after ds hn).toChained, fun d o ho => ⟨fun hadmits => ?_, fun hrefused => ?_⟩⟩
  · rw [after_concat, act_of_order ho, serve, if_pos (World.accepts_iff.2 hadmits)]
  · have haccepts : (after ds).world.accepts (o.path.call o.record) = false :=
      Bool.eq_false_iff.2 fun h => hrefused (World.accepts_iff.1 h)
    rw [after_concat, act_of_order ho, serve_of_refused haccepts]

/-- Two clients that load one instance and then write it, each with a new variable. -/
def rivals : List (Deed Bool) :=
  [.create true (.create ⟨0⟩ "desk" 1 ∅ ⟨0, 0⟩) .save, .load true ⟨0⟩, .load false ⟨0⟩,
    .write true (fun i => { i with vars := i.vars.insert "ours" .null })
      (.commit [.create ⟨1⟩ ⟨0⟩ "counter" [] ⟨0, 0⟩] [])]

/-- Of two clients that write what they have loaded, the second one is refused. -/
theorem no_lost_update_rivals :
    ((after rivals).updatesOf ⟨0⟩).length < 2 ^ 64 ∧ (after rivals).Chained ⟨0⟩ ∧
      ((after rivals).updatesOf ⟨0⟩).map (fun u => u.stored.revision) = [1, 2] ∧
      after (rivals ++ [.write false (fun i => { i with vars := i.vars.insert "theirs" .null }) .save]) =
        after rivals := by
  have hrevisions : ((after rivals).updatesOf ⟨0⟩).map (fun u => u.stored.revision) = [1, 2] := by
    cbv
  have hlength := congrArg List.length hrevisions
  rw [List.length_map] at hlength
  have hn : ((after rivals).updatesOf ⟨0⟩).length < 2 ^ 64 := by
    rw [hlength]
    decide
  obtain ⟨hchained, hanswers⟩ := no_lost_update rivals hn
  have hcopy : ((after rivals).copies false).map (fun i => (i.id, i.revision)) = some (⟨0⟩, 1) := by
    cbv
  have hstored : ((after rivals).world.store.instance? ⟨0⟩).map (fun i => i.revision) = some 2 := by
    cbv
  obtain ⟨i, hi, hcopied⟩ := Option.map_eq_some_iff.1 hcopy
  obtain ⟨hid, hbase⟩ := Prod.mk.inj hcopied
  obtain ⟨j, hj, hrevision⟩ := Option.map_eq_some_iff.1 hstored
  refine ⟨hn, hchained, hrevisions, (hanswers _ _ (by rw [order?, hi]; rfl)).2 fun hadmits => ?_⟩
  have hsame : j.revision = i.revision := hadmits.revision.stored j (hid ▸ hj)
  rw [hrevision, hbase] at hsame
  cases hsame

end Deeds

end Clients

end Workflow
