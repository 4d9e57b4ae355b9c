import Workflow.Proofs.Leftovers

/-!
What is left pending on a finished instance. An instance is complete once it lists no node any more. So
nothing is left pending in just those histories in which, whenever a node was taken off the list of a
complete instance for the last time, nothing else was waiting there (`nothingPending_iff`).
-/
namespace Workflow

open Relation
open Time (Instant)
open Engine Engine.Action Session

/-! ### Steps that were written -/

/-- A step that was written, from its opening to its end. -/
structure Written where
  /-- The store before it. -/
  store : Store
  opening : Opening
  /-- What the engine had noted down before the first move. -/
  before : Ambient
  step : Step

namespace Written

def owner (w : Written) : Uuid := w.step.record.id

/-- Whether the step ends with its instance complete. -/
def Completes (w : Written) : Prop :=
  w.step.record.isActive = true ∧ w.step.record.currentNodes.isEmpty = true

/-- Whether a task of before the step is open at a node. -/
def Older (w : Written) : String → Prop :=
  Session.Older w.store w.owner w.opening.step.updated

end Written

/-- The nodes from which tokens set out. -/
def departed (queue : List Token) : List String :=
  queue.filterMap fun
    | .leave n => some n
    | .enter _ => none

/-- The nodes that a step takes off the list before its tokens move. -/
def Engine.Opening.departures (base : String → Prop) : Opening → List Unparking
  | .stays _ => []
  | .walks _ queue s => (departed queue).map fun n => ⟨n, s.Waits base n⟩

/-- The nodes that a step takes off the list while its tokens move. -/
def Engine.Opening.passed (e : Engine) (a : Ambient) (base : String → Prop) :
    Opening → List Unparking
  | .stays _ => []
  | .walks d queue s => (trail e d ⟨0, queue, s⟩ a).flatMap (Walk.unparkings d base)

/-- The nodes that a step takes off the list, in order. -/
def Written.unparkings (e : Engine) (w : Written) : List Unparking :=
  w.opening.departures w.Older ++ w.opening.passed e w.before w.Older

/-- The nodes that these steps take off the list of an instance, in order. -/
def unparkings (e : Engine) (log : List Written) (id : Uuid) : List Unparking :=
  (log.filter fun w => decide (w.owner = id)).flatMap (Written.unparkings e)

theorem unparkings_append {e : Engine} {log ws : List Written} {id : Uuid} :
    unparkings e (log ++ ws) id = unparkings e log id ++ unparkings e ws id := by
  rw [unparkings, List.filter_append, List.flatMap_append]
  rfl

theorem unparkings_eq_nil {e : Engine} {log : List Written} {id : Uuid}
    (h : ∀ w ∈ log, w.owner ≠ id) : unparkings e log id = [] := by
  have hnone : log.filter (fun w => decide (w.owner = id)) = [] := by
    apply List.filter_eq_nil_iff.2
    intro w hw
    simpa using h w hw
  rw [unparkings, hnone, List.flatMap_nil]

theorem unparkings_concat {e : Engine} {log : List Written} {w : Written} :
    unparkings e (log ++ [w]) w.owner = unparkings e log w.owner ++ w.unparkings e := by
  rw [unparkings_append]
  simp [unparkings]

namespace Session

variable {e : Engine}

/-- The step that a request writes, if it changes the store by one. -/
def written? (e : Engine) (x : Session) (r : Request) : Option Written :=
  if (x.serve e r).store = x.store then none
  else
    match r.opening? e with
    | none => none
    | some opening =>
      match Action.run x.world (r.noted x.ambient) opening with
      | ((.ok o, before), _) =>
        match follow e o before with
        | (.ok step, _) => some ⟨x.store, o, before, step⟩
        | _ => none
      | _ => none

/-- The steps that requests write, one after another. -/
def writtenSteps (e : Engine) (x : Session) : List Request → List Written
  | [] => []
  | r :: rs => (x.written? e r).toList ++ writtenSteps e (x.serve e r) rs

theorem writtenSteps_concat (x : Session) (rs : List Request) (r : Request) :
    writtenSteps e x (rs ++ [r]) =
      writtenSteps e x rs ++ ((rs.foldl (serve e) x).written? e r).toList := by
  induction rs generalizing x with
  | nil => simp [writtenSteps]
  | cons r' rs ih => rw [List.cons_append, writtenSteps, ih, writtenSteps, List.append_assoc,
      List.foldl_cons]

theorem written?_of_store_eq {x : Session} {r : Request} (h : (x.serve e r).store = x.store) :
    x.written? e r = none := if_pos h

theorem written?_of_opening?_eq_none {x : Session} {r : Request} (h : r.opening? e = none) :
    x.written? e r = none := by
  unfold written?
  rw [h]
  split <;> rfl

theorem Stepped.written?_eq {x : Session} {r : Request} {opening : Action Opening}
    (hr : r.opening? e = some opening) (st : Stepped e x r opening (x.serve e r)) :
    x.written? e r = some ⟨x.store, st.opens, st.before, st.step⟩ := by
  have hne : (x.serve e r).store ≠ x.store := by
    intro hsame
    have hrecord := st.committed.record st.step.settled.commit.record.id
    rw [if_pos rfl, hsame] at hrecord
    -- the stored revision would be the one after itself
    have hrevision := st.committed.revision.stored _ hrecord
    simp only at hrevision
    generalize st.step.settled.commit.record.revision = n at hrevision
    have hnat := congrArg UInt64.toNat hrevision
    rw [UInt64.toNat_add] at hnat
    have hlt := n.toNat_lt
    simp at hnat
    omega
  unfold written?
  rw [if_neg hne, hr]
  simp only [st.run, st.follow]

end Session

/-- The steps written in a history. -/
def written (e : Engine) (s : Supply) (rs : List Request) : List Written :=
  Session.writtenSteps e (.opened s) rs

/-! ### Accounts -/

/-- What the log tells of an instance and of the nodes where its tasks are open. -/
structure Kept (e : Engine) (log : List Written) (busy : String → Prop) (id : Uuid)
    (i : Instance) : Prop where
  marked : Marked i
  active : i.isActive = true → Told (Waits busy i) i.currentNodes (unparkings e log id)
  complete : i.state = .complete →
    i.currentNodes.isEmpty = true ∧ ∃ w ∈ log, w.owner = id ∧ w.Completes
  completed : ∀ w ∈ log, w.owner = id → w.Completes → i.state = .complete ∧
    i.failure = w.step.record.failure ∧ (∀ n, busy n ↔ w.step.Busy w.Older n) ∧
      ∀ n, w.step.Waits w.Older n ↔ LeftBehind (unparkings e log id) n
  ended : i.isActive = false → i.state ≠ .complete → ∀ n, ¬ busy n

/-- The log tells what became of every instance of the store. -/
structure Accounted (e : Engine) (supply : Supply) (log : List Written) (store : Store) : Prop where
  drawn : ∀ {id i}, store.instance? id = some i → ∃ p, p < supply.drawn ∧ supply.ids p = id
  housed : ∀ {id t}, store.task? id = some t → ∃ i, store.instance? t.instanceId = some i
  logged : ∀ w ∈ log, ∃ i, store.instance? w.owner = some i
  kept : ∀ {id i}, store.instance? id = some i → Kept e log (store.Busy id) id i

variable {e : Engine} {supply supply' : Supply} {log log' : List Written} {x y : Store}

theorem Kept.transfer {busy busy' : String → Prop} {id : Uuid} {i : Instance}
    (h : Kept e log busy id i) (hbusy : ∀ n, busy' n ↔ busy n) {ws : List Written}
    (hws : ∀ w ∈ ws, w.owner ≠ id) : Kept e (log ++ ws) busy' id i := by
  have hold : ∀ w ∈ log ++ ws, w.owner = id → w ∈ log := by
    intro w hw howner
    rcases List.mem_append.1 hw with hw | hw
    · exact hw
    · exact absurd howner (hws w hw)
  have hunparkings : unparkings e (log ++ ws) id = unparkings e log id := by
    rw [unparkings_append, unparkings_eq_nil hws, List.append_nil]
  obtain rfl : busy' = busy := by
    funext n
    exact propext (hbusy n)
  refine ⟨h.marked, ?_, fun hi => ?_, fun w hw howner => ?_, h.ended⟩
  · rw [hunparkings]
    exact h.active
  · obtain ⟨hempty, w, hw, hcompletes⟩ := h.complete hi
    exact ⟨hempty, w, List.mem_append_left _ hw, hcompletes⟩
  · rw [hunparkings]
    exact h.completed w (hold w hw howner) howner

theorem Accounted.grows (h : Accounted e supply log x) (hs : supply.Grows supply') :
    Accounted e supply' log x := by
  refine ⟨fun hi => ?_, h.housed, h.logged, h.kept⟩
  obtain ⟨p, hp, rfl⟩ := h.drawn hi
  have hdrawn := hs.drawn
  exact ⟨p, by omega, by rw [hs.ids]⟩

/-- A change that concerns one instance only. -/
structure Touches (id : Uuid) (x y : Store) : Prop where
  instances : ∀ other, other ≠ id → y.instance? other = x.instance? other
  busy : ∀ other, other ≠ id → ∀ n, y.Busy other n ↔ x.Busy other n
  there : ∃ i, y.instance? id = some i
  tasks : ∀ {key t}, y.task? key = some t → t.instanceId = id ∨ x.task? key = some t

theorem Accounted.touch {id : Uuid} {ws : List Written} (h : Accounted e supply log x)
    (ht : Touches id x y) (hws : ∀ w ∈ ws, w.owner = id)
    (hdrawn : ∃ p, p < supply.drawn ∧ supply.ids p = id)
    (hkept : ∀ i, y.instance? id = some i → Kept e (log ++ ws) (y.Busy id) id i) :
    Accounted e supply (log ++ ws) y := by
  have hthere : ∀ other i, x.instance? other = some i → ∃ j, y.instance? other = some j := by
    intro other i hi
    by_cases hid : other = id
    · exact hid ▸ ht.there
    · exact ⟨i, (ht.instances other hid).trans hi⟩
  refine ⟨fun {other i} hi => ?_, fun {key t} htask => ?_, fun w hw => ?_, fun {other i} hi => ?_⟩
  · by_cases hid : other = id
    · exact hid ▸ hdrawn
    · exact h.drawn ((ht.instances other hid).symm.trans hi)
  · rcases ht.tasks htask with howner | hold
    · exact howner ▸ ht.there
    · obtain ⟨i, hi⟩ := h.housed hold
      exact hthere _ i hi
  · rcases List.mem_append.1 hw with hw | hw
    · obtain ⟨i, hi⟩ := h.logged w hw
      exact hthere _ i hi
    · exact hws w hw ▸ ht.there
  · by_cases hid : other = id
    · subst hid
      exact hkept i hi
    · apply (h.kept ((ht.instances other hid).symm.trans hi)).transfer (ht.busy other hid)
      intro w hw howner
      exact hid (howner.symm.trans (hws w hw))

theorem touches_of_committed {c : Commit} (h : x.Committed c y) (ho : x.Orderly c)
    (hs : x.Sound) : Touches c.record.id x y where
  instances other hne := by rw [h.record, if_neg hne]
  busy other hne n := h.busy_iff_of_ne ho hs hne
  there := ⟨_, by rw [h.record, if_pos rfl]⟩
  tasks ht := by
    rcases h.task?_cases ht with ⟨hmem, -⟩ | ⟨hmem, -⟩ | ⟨hold, -⟩
    · exact Or.inl (ho.owner _ hmem).1
    · exact Or.inl (h.fresh _ hmem).1
    · exact Or.inr hold

theorem touches_putInstance (i : Instance) : Touches i.id x (x.putInstance i) where
  instances other hne := by rw [Store.instance?_putInstance, if_neg hne]
  busy _ _ _ := Iff.rfl
  there := ⟨_, by rw [Store.instance?_putInstance, if_pos rfl]⟩
  tasks ht := Or.inr ht

/-- Of an active instance the log tells no completion. -/
theorem Kept.not_completes {busy : String → Prop} {id : Uuid} {i : Instance}
    (h : Kept e log busy id i) (hactive : i.isActive = true) :
    ∀ w ∈ log, w.owner = id → ¬ w.Completes := by
  intro w hw howner hcompletes
  have hstate := (h.completed w hw howner hcompletes).1
  unfold Instance.isActive at hactive
  rw [hstate] at hactive
  cases hactive

theorem Kept.told {busy : String → Prop} {id : Uuid} {i : Instance} (h : Kept e log busy id i)
    (hid : i.id = id) (hactive : i.isActive = true) :
    Told (Waits busy i) i.currentNodes (unparkings e log i.id) := by
  rw [hid]
  exact h.active hactive

/-- The closing of an instance leaves no task of it open. -/
theorem not_busy_of_closed {id : Uuid} {i : Instance} {state : InstanceState} {now : Instant}
    (hs : x.Sound) (hi : x.instance? id = some i)
    (h : x.Committed (closing i (x.tasksOf id) state now).commit y) (n : String) :
    ¬ y.Busy id n := by
  have hid : i.id = id := hs.instances hi
  intro hbusy
  have hiff := h.busy_iff (orderly_closing hs hi) hs (n := n)
  rw [show (closing i (x.tasksOf id) state now).commit.record.id = id from hid] at hiff
  rcases hiff.1 hbusy with ⟨t, ht, hkept, hopen, -⟩ | ⟨t, ht, -⟩
  · refine hkept _ (List.mem_map.2 ⟨t, List.mem_filter.2 ⟨ht, hopen⟩, rfl⟩) rfl
  · exact absurd ht List.not_mem_nil

theorem Accounted.change (h : Accounted e supply log x) (hs : x.Sound)
    (hc : Session.Change x y) : Accounted e supply log y := by
  cases hc with
  | defines d => exact ⟨h.drawn, h.housed, h.logged, h.kept⟩
  | @sets id i now vars hi hactive =>
    have hid : i.id = id := hs.instances hi
    have hold := h.kept hi
    have htouch := touches_putInstance (x := x)
      { i with vars := i.vars.union vars, updatedAt := now }
    rw [← List.append_nil log]
    refine h.touch htouch (by simp) (by rw [hid]; exact h.drawn hi) fun j hj => ?_
    rw [Store.instance?_putInstance, if_pos rfl] at hj
    cases hj
    rw [List.append_nil, hid]
    refine ⟨hold.marked, fun _ => hold.active hactive, hold.complete, ?_, hold.ended⟩
    exact fun w hw howner hcompletes =>
      absurd hcompletes (hold.not_completes hactive w hw howner)
  | @closes _ id i now ending hi hactive hcommitted =>
    have hid : i.id = id := hs.instances hi
    have hold := h.kept hi
    have htouch := touches_of_committed hcommitted (orderly_closing hs hi) hs
    have hrecord : (closing i (x.tasksOf id) ending.state now).commit.record.id = id := hid
    rw [hrecord] at htouch
    rw [← List.append_nil log]
    refine h.touch htouch (by simp) (h.drawn hi) fun j hj => ?_
    rw [hcommitted.record, if_pos hrecord.symm] at hj
    cases hj
    rw [List.append_nil]
    refine ⟨hold.marked, fun hj => ?_, fun hj => ?_, ?_,
      fun _ _ => not_busy_of_closed hs hi hcommitted⟩
    · cases ending <;> cases hj
    · cases ending <;> cases hj
    · exact fun w hw howner hcompletes =>
        absurd hcompletes (hold.not_completes hactive w hw howner)

/-! ### Steps in the log -/

/-- A step takes up its instance as the log tells of it, but for these nodes that it takes off the
list. -/
structure Resumes (e : Engine) (supply : Supply) (log : List Written) (x : Store) (s : Step)
    (us : List Unparking) : Prop where
  drawn : ∃ p, p < supply.drawn ∧ supply.ids p = s.record.id
  active : s.record.isActive = true
  incomplete : ∀ w ∈ log, w.owner = s.record.id → ¬ w.Completes
  marked : Marked s.record
  told : Told (s.Waits (Session.Older x s.record.id s.updated)) s.record.currentNodes
    (unparkings e log s.record.id ++ us)

theorem busy_of_older {id owner : Uuid} {updated : List Task} {n : String} (hid : id = owner)
    (h : Session.Older x id updated n) : x.Busy owner n := by
  obtain ⟨t, ht, -, hopen, hnode⟩ := h
  exact ⟨t, hid ▸ ht, hopen, hnode⟩

/-- Of an instance that is not in the store there is nothing to tell. -/
theorem Accounted.resumes_starts {d : Definition} {vars : Variables} {now : Instant}
    {position : Nat} (h : Accounted e supply log x) (hs : x.Sound) (hg : supply.Grows supply')
    (hd : supply'.Distinct) (hfresh : supply.drawn ≤ position)
    (hdrawn : position < supply'.drawn) :
    Resumes e supply' log x (.begin (newInstance e d (supply.ids position) vars now) now) [] := by
  -- the id of every instance in the store was drawn earlier
  have hnone : ∀ i, x.instance? (supply.ids position) ≠ some i := by
    intro i hi
    obtain ⟨p, hp, hsame⟩ := h.drawn hi
    rw [← hg.ids] at hsame
    have hpos := hd p position (by omega) hdrawn hsame
    omega
  have hlog : ∀ w ∈ log, w.owner ≠ supply.ids position := by
    intro w hw howner
    obtain ⟨i, hi⟩ := h.logged w hw
    exact hnone i (howner ▸ hi)
  have hunparkings : unparkings e log (supply.ids position) = [] := unparkings_eq_nil hlog
  refine ⟨⟨position, hdrawn, by rw [hg.ids]; rfl⟩, rfl, fun w hw howner => ?_, ?_, fun n _ => ?_⟩
  · exact absurd howner (hlog w hw)
  · intro f hf
    cases hf
  · change _ ↔ LeftBehind (unparkings e log (supply.ids position) ++ []) n
    rw [hunparkings]
    constructor
    · rintro ((holder | ⟨t, ht, -⟩) | harrived | ⟨f, hf, -⟩)
      · obtain ⟨t, ht, -⟩ := holder
        obtain ⟨ht, howner⟩ := hs.mem_tasksOf.1 ht
        obtain ⟨i, hi⟩ := h.housed ht
        have hkey : t.instanceId = supply.ids position := howner
        exact absurd (hkey ▸ hi) (hnone i)
      · exact absurd ht List.not_mem_nil
      · cases harrived
      · cases hf
    · exact False.elim

/-- Where others are open at the node of a completed task, and at every other node, a completion changes
nothing in what waits. -/
theorem waits_completion {id : Uuid} {t : Task} {i : Instance} {n : String} (output : Variables)
    (now : Instant) (hs : x.Sound) (ht : x.task? id = some t)
    (hi : x.instance? t.instanceId = some i)
    (hn : n = t.node → othersOpen t (x.tasksOf t.instanceId) = true) :
    (completion i t output now).Waits (Session.Older x i.id (completion i t output now).updated) n ↔
      Waits (x.Busy t.instanceId) i n := by
  refine or_congr ⟨?_, fun hbusy => ?_⟩ Iff.rfl
  · rintro (holder | ⟨u, hu, -⟩)
    · exact busy_of_older (hs.instances hi) holder
    · exact absurd hu List.not_mem_nil
  · exact Or.inl (older_of_busy output now hs ht hi hn hbusy)

theorem waits_pickUp {id : Uuid} {i : Instance} {f : Failure} {n : String} (now : Instant)
    (hs : x.Sound) (hi : x.instance? id = some i) (hf : i.failure = some f) (hn : n ∉ f.nodes) :
    (pickUp i f now).Waits (Session.Older x i.id []) n ↔ Waits (x.Busy id) i n := by
  have hid : i.id = id := hs.instances hi
  rw [pickUp_eq]
  refine or_congr ⟨?_, ?_⟩ (or_congr Iff.rfl ⟨?_, ?_⟩)
  · rintro (holder | ⟨u, hu, -⟩)
    · exact busy_of_older hid holder
    · exact absurd hu List.not_mem_nil
  · rintro ⟨t, ht, hopen, hnode⟩
    exact Or.inl ⟨t, hid ▸ ht, fun u hu => absurd hu List.not_mem_nil, hopen, hnode⟩
  · rintro ⟨g, hg, -⟩
    cases hg
  · -- the nodes of the failure are the ones that are picked up
    rintro ⟨g, hg, hmem⟩
    rw [hf] at hg
    cases hg
    exact absurd hmem hn

theorem departed_map_leave (ns : List String) : departed (ns.map .leave) = ns := by
  induction ns with
  | nil => rfl
  | cons n ns ih => exact congrArg (n :: ·) ih

theorem Kept.resumes_completion {id : Uuid} {t : Task} {i : Instance} (output : Variables)
    (now : Instant) (h : Kept e log (x.Busy t.instanceId) t.instanceId i) (hs : x.Sound)
    (hdrawn : ∃ p, p < supply.drawn ∧ supply.ids p = i.id) (ht : x.task? id = some t)
    (hi : x.instance? t.instanceId = some i) (hactive : i.isActive = true)
    (hothers : othersOpen t (x.tasksOf t.instanceId) = true) :
    Resumes e supply log x (completion i t output now) [] := by
  have hid : i.id = t.instanceId := hs.instances hi
  have hwaits := fun n => waits_completion (n := n) output now hs ht hi fun _ => hothers
  have htold := h.told hid hactive
  refine ⟨hdrawn, hactive, hid ▸ h.not_completes hactive, h.marked, ?_⟩
  rw [List.append_nil]
  exact htold.keep fun n hout => ⟨hout, hwaits n⟩

theorem Kept.resumes_depart {id : Uuid} {t : Task} {i : Instance} (output : Variables)
    (now : Instant) (h : Kept e log (x.Busy t.instanceId) t.instanceId i) (hs : x.Sound)
    (hdrawn : ∃ p, p < supply.drawn ∧ supply.ids p = i.id) (ht : x.task? id = some t)
    (hi : x.instance? t.instanceId = some i) (hactive : i.isActive = true) :
    Resumes e supply log x ((completion i t output now).depart t.node)
      ([t.node].map fun n => ⟨n, (completion i t output now).Waits
        (Session.Older x i.id (completion i t output now).updated) n⟩) := by
  have hid : i.id = t.instanceId := hs.instances hi
  have htold := h.told hid hactive
  refine ⟨hdrawn, hactive, hid ▸ h.not_completes hactive, h.marked, ?_⟩
  refine htold.unpark (fun n hne hout => ?_) fun n _ => Iff.rfl
  have hother : n ≠ t.node := fun h => hne (h ▸ List.mem_cons_self ..)
  have hwaits := waits_completion output now hs ht hi fun h => absurd h hother
  exact ⟨fun hn => hout (NameSet.mem_erase.2 ⟨hother, hn⟩), hwaits⟩

theorem Kept.resumes_pickUp {id : Uuid} {i : Instance} {f : Failure} (now : Instant)
    (h : Kept e log (x.Busy id) id i) (hs : x.Sound)
    (hdrawn : ∃ p, p < supply.drawn ∧ supply.ids p = i.id) (hi : x.instance? id = some i)
    (hactive : i.isActive = true) (hf : i.failure = some f) :
    Resumes e supply log x (pickUp i f now) (f.nodes.map fun n =>
      ⟨n, (pickUp i f now).Waits (Session.Older x (pickUp i f now).record.id (pickUp i f now).updated)
        n⟩) := by
  have hid : i.id = id := hs.instances hi
  have hwaits := fun n => waits_pickUp (n := n) now hs hi hf
  have htold := h.told hid hactive
  rw [pickUp_eq] at hwaits ⊢
  refine ⟨hdrawn, hactive, hid ▸ h.not_completes hactive, fun g hg => (nomatch hg), ?_⟩
  refine htold.unpark (fun n hne hout => ?_) fun n _ => Iff.rfl
  exact ⟨fun hn => hout (mem_foldl_erase.2 ⟨hne, hn⟩), hwaits n hne⟩

theorem Accounted.resumes {o : Opening} (h : Accounted e supply log x) (hs : x.Sound)
    (ho : Session.Opens e x supply o supply') (hg : supply.Grows supply') (hd : supply'.Distinct) :
    Resumes e supply' log x o.step
      (o.departures (Session.Older x o.step.record.id o.step.updated)) := by
  have hdrawn : ∀ {id i}, x.instance? id = some i →
      ∃ p, p < supply'.drawn ∧ supply'.ids p = i.id := by
    intro id i hi
    rw [hs.instances hi]
    exact (h.grows hg).drawn hi
  cases ho with
  | starts hstart hdrawn => exact h.resumes_starts hs hg hd (Nat.le_refl _) hdrawn
  | stays ht hopen hi hactive hothers =>
    exact (h.kept hi).resumes_completion _ _ hs (hdrawn hi) ht hi hactive hothers
  | leaves ht hopen hi hactive hlast =>
    exact (h.kept hi).resumes_depart _ _ hs (hdrawn hi) ht hi hactive
  | retries hi hactive hf =>
    rw [Opening.departures, departed_map_leave]
    exact (h.kept hi).resumes_pickUp _ hs (hdrawn hi) hi hactive hf

theorem follow_told {o : Opening} {s : Step} {a a' : Ambient} {base : String → Prop}
    {us : List Unparking} (h : follow e o a = (.ok s, a'))
    (ho : Told (o.step.Waits base) o.step.record.currentNodes us) :
    Told (s.Waits base) s.record.currentNodes (us ++ o.passed e a base) := by
  cases o with
  | stays s =>
    cases h
    rw [Opening.passed, List.append_nil]
    exact ho
  | walks d queue s => exact advance_told h ho

theorem follow_marked {o : Opening} {s : Step} {a a' : Ambient} (h : follow e o a = (.ok s, a'))
    (ho : Marked o.step.record) : Marked s.record := by
  apply follow_keeps (P := fun _ s => Marked s.record) _ ho h
  exact fun hm hx => hm.marked hx

section Written

variable {w : Written} {i : Instance} {busy : String → Prop}
  (hincomplete : ∀ v ∈ log, v.owner = w.owner → ¬ v.Completes)
include hincomplete

/-- No earlier step has completed the instance, which was active up to this one. -/
theorem eq_of_completes {v : Written} (hv : v ∈ log ++ [w]) (howner : v.owner = w.owner)
    (hcompletes : v.Completes) : v = w := by
  rcases List.mem_append.1 hv with hv | hv
  · exact absurd hcompletes (hincomplete v hv howner)
  · exact List.mem_singleton.1 hv

variable (hmarked : Marked w.step.record) (hactive : w.step.record.isActive = true)
  (htold : Told (w.step.Waits w.Older) w.step.record.currentNodes
    (unparkings e log w.owner ++ w.unparkings e))
  (hi : i = { w.step.settled.record with
    updatedAt := w.step.now, revision := w.step.record.revision + 1 })
  (hbusy : ∀ n, busy n ↔ w.step.Busy w.Older n)
include hmarked hactive htold hi hbusy

theorem kept_of_completes (hdone : w.Completes) : Kept e (log ++ [w]) busy w.owner i := by
  have hempty := hdone.2
  have hmem : w ∈ log ++ [w] := List.mem_append_right _ (List.mem_singleton_self w)
  rw [Step.settled, hactive, hempty, Bool.and_self, if_pos rfl] at hi
  have hstate : i.state = .complete := by rw [hi]; rfl
  refine ⟨by rw [hi]; exact hmarked, fun h => ?_, fun _ => ⟨?_, w, hmem, rfl, hdone⟩, ?_,
    fun _ h => absurd hstate h⟩
  · rw [hi] at h
    cases h
  · rw [hi]
    exact hempty
  · intro v hv howner hcompletes
    obtain rfl := eq_of_completes hincomplete hv howner hcompletes
    refine ⟨hstate, by rw [hi]; rfl, hbusy, fun n => ?_⟩
    rw [unparkings_concat]
    exact htold n (NameSet.isEmpty_iff.1 hempty n)

theorem kept_of_not_completes (hgoing : ¬ w.Completes) :
    Kept e (log ++ [w]) busy w.owner i := by
  have hsettled : ¬ (w.step.record.isActive && w.step.record.currentNodes.isEmpty) = true := by
    rw [Bool.and_eq_true]
    exact hgoing
  rw [Step.settled, if_neg hsettled] at hi
  have hactive' : i.isActive = true := by rw [hi]; exact hactive
  obtain rfl : busy = w.step.Busy w.Older := by
    funext n
    exact propext (hbusy n)
  refine ⟨by rw [hi]; exact hmarked, fun _ => ?_, fun h => ?_, fun v hv howner hcompletes => ?_,
    fun h => ?_⟩
  · rw [unparkings_concat, hi]
    exact htold
  · rw [Instance.isActive, h] at hactive'
    cases hactive'
  · exact absurd (eq_of_completes hincomplete hv howner hcompletes ▸ hcompletes) hgoing
  · rw [hactive'] at h
    cases h

/-- What the log tells of an instance once a step of it is written. -/
theorem kept_of_written : Kept e (log ++ [w]) busy w.owner i := by
  by_cases hdone : w.Completes
  · exact kept_of_completes hincomplete hmarked hactive htold hi hbusy hdone
  · exact kept_of_not_completes hincomplete hmarked hactive htold hi hbusy hdone

end Written

theorem Accounted.stepped {x y : Session} {r : Request} {opening : Action Opening}
    (hm : e.registry.Mints) (hr : r.opening? e = some opening)
    (st : Session.Stepped e x r opening y) (hs : x.store.Sound) (hd : y.supply.Distinct)
    (h : Accounted e x.supply log x.store) :
    Accounted e y.supply (log ++ [⟨x.store, st.opens, st.before, st.step⟩]) y.store := by
  have hopens := st.opens_store hr
  have hframe := st.frame hm
  have horderly := hopens.orderly hs hframe hd
  have hgrows : x.supply.Grows st.before.supply := by
    have hrun := ((obeys_opening allows_keepsStore hr).run_keepsStore st.run).2
    rwa [r.supply_noted] at hrun
  have hresumes := h.resumes hs hopens hgrows (hd.of_grows hframe.grows)
  have hid := hframe.id_eq
  have htouches := touches_of_committed st.committed horderly hs
  rw [st.step.id_commit] at htouches
  refine (h.grows (hgrows.trans hframe.grows)).touch htouches (by simp [Written.owner]) ?_
    fun i hi => ?_
  · obtain ⟨p, hp, hdrawn⟩ := hresumes.drawn
    have hle := hframe.grows.drawn
    exact ⟨p, by omega, by rw [hframe.grows.ids, hdrawn, hid]⟩
  · have hbusy := busy_of_committed hs horderly st.committed
    have htold := follow_told st.follow hresumes.told
    have hmarked := follow_marked st.follow hresumes.marked
    have hactive : st.step.record.isActive = true := by
      rw [hframe.record]
      exact hresumes.active
    have hincomplete := hresumes.incomplete
    rw [← hid] at htold hincomplete
    rw [hframe.updated] at hbusy
    rw [List.append_assoc] at htold
    exact kept_of_written (w := ⟨x.store, st.opens, st.before, st.step⟩) hincomplete hmarked hactive
      htold (record_of_committed st.committed hi) hbusy

theorem written_concat (e : Engine) (s : Supply) (rs : List Request) (r : Request) :
    written e s (rs ++ [r]) = written e s rs ++ ((history e s rs).written? e r).toList :=
  Session.writtenSteps_concat _ rs r

theorem accounted_history {s : Supply} {rs : List Request} (hm : e.registry.Mints)
    (hd : (history e s rs).supply.Distinct) : (history e s rs).store.Sound ∧
      Accounted e (history e s rs).supply (written e s rs) (history e s rs).store := by
  refine Session.history_induction
    (P := fun rs x => Accounted e x.supply (written e s rs) x.store) hm ?_ ?_ ?_ ?_ hd
  · exact ⟨fun h => (nomatch h), fun h => (nomatch h), fun w hw => absurd hw List.not_mem_nil,
      fun h => nomatch h⟩
  · rintro rs x r y rfl rfl hstore h
    rw [written_concat, Session.written?_of_store_eq hstore, Option.toList_none, List.append_nil,
      hstore]
    exact h.grows (Session.grows_serve hm.draws _ r)
  · rintro rs x r y rfl rfl hr hchanges hs h
    rw [written_concat, Session.written?_of_opening?_eq_none hr, Option.toList_none,
      List.append_nil]
    exact ((Session.changes_keep hchanges (fun hc hs h => h.change hs hc) hs h).2).grows
      (Session.grows_serve hm.draws _ r)
  · rintro rs x r y opening rfl rfl hr st hs hd h
    rw [written_concat, st.written?_eq hr, Option.toList_some]
    exact h.stepped hm hr st hs hd

/-- Nothing is left pending on the finished instances of a history. -/
structure NothingPending (e : Engine) (s : Supply) (rs : List Request) : Prop where
  complete : ∀ id i, (history e s rs).store.instance? id = some i → i.state = .complete →
    (∀ t ∈ (history e s rs).store.tasksOf id, t.isOpen = false) ∧ i.failure = none ∧
      i.currentNodes.isEmpty = true
  arrivals : ∀ w ∈ written e s rs, w.Completes → ∀ n, w.step.record.joinArrivals.contains n = false
  ended : ∀ id i, (history e s rs).store.instance? id = some i →
    i.state = .timeout ∨ i.state = .termination →
      ∀ t ∈ (history e s rs).store.tasksOf id, t.isOpen = false

/-- Nothing is left pending on a finished instance just if nothing was left behind at any node that was
taken off the list of a complete one. -/
theorem nothingPending_iff {s : Supply} {rs : List Request} (hm : e.registry.Mints)
    (hd : (history e s rs).supply.Distinct) : NothingPending e s rs ↔
      ∀ w ∈ written e s rs, w.Completes →
        ∀ n, ¬ LeftBehind (unparkings e (written e s rs) w.owner) n := by
  obtain ⟨hs, haccounted⟩ := accounted_history hm hd
  constructor
  · intro hnothing w hw hcompletes n hleft
    obtain ⟨i, hi⟩ := haccounted.logged w hw
    obtain ⟨hstate, hfailure, hbusy, hwaits⟩ :=
      (haccounted.kept hi).completed w hw rfl hcompletes
    have hcomplete := hnothing.complete _ _ hi hstate
    rcases (hwaits n).2 hleft with hopen | harrived | ⟨f, hf, -⟩
    · obtain ⟨t, ht, hopen, -⟩ := (hbusy n).2 hopen
      rw [hcomplete.1 t ht] at hopen
      cases hopen
    · rw [hnothing.arrivals w hw hcompletes n] at harrived
      cases harrived
    · rw [← hfailure, hcomplete.2.1] at hf
      cases hf
  · intro hnone
    refine ⟨fun id i hi hstate => ?_, fun w hw hcompletes n => ?_, fun id i hi hstate t ht => ?_⟩
    · have hkept := haccounted.kept hi
      obtain ⟨hempty, w, hw, rfl, hcompletes⟩ := hkept.complete hstate
      obtain ⟨-, hfailure, hbusy, hwaits⟩ := hkept.completed w hw rfl hcompletes
      refine ⟨fun t ht => ?_, ?_, hempty⟩
      · by_contra hopen
        have hwaiting := (hbusy t.node).1 ⟨t, ht, by simpa using hopen, rfl⟩
        exact hnone w hw hcompletes _ ((hwaits _).1 (Or.inl hwaiting))
      · by_contra hfailed
        obtain ⟨f, hf⟩ := Option.ne_none_iff_exists'.1 hfailed
        obtain ⟨n, hstuck⟩ := hkept.marked.exists_stuckAt hf
        rw [Instance.StuckAt, hfailure] at hstuck
        exact hnone w hw hcompletes n ((hwaits n).1 (Or.inr (Or.inr hstuck)))
    · obtain ⟨i, hi⟩ := haccounted.logged w hw
      obtain ⟨-, -, -, hwaits⟩ := (haccounted.kept hi).completed w hw rfl hcompletes
      by_contra harrived
      exact hnone w hw hcompletes n ((hwaits n).1 (Or.inr (Or.inl (by simpa using harrived))))
    · by_contra hopen
      have hclosed : i.isActive = false ∧ i.state ≠ .complete := by
        rcases hstate with hstate | hstate <;> simp [Instance.isActive, hstate]
      exact (haccounted.kept hi).ended hclosed.1 hclosed.2 t.node ⟨t, ht, by simpa using hopen, rfl⟩

section Gate

open Session

/-- A gate that is passed by the tokens of two branches, a task being on the second of them. -/
def gated : Definition :=
  { id := "gated", version := 1, name := none, description := none, reminder := none
    timeoutSeconds := none
    nodes := [
      ⟨"start", none, .start, none, [.plain "split"]⟩,
      ⟨"split", none, .join (some 1), none, [.plain "gate", .plain "work"]⟩,
      ⟨"gate", none, .join (some 1), none, [⟨"end", some (.single "ok")⟩]⟩,
      ⟨"work", none, .task [] none none, none, [.plain "gate"]⟩,
      ⟨"end", none, .stop, none, []⟩] }

def verdict (ok : Bool) : Variables := Dict.ofList [("ok", .bool ok)]

/-- The first token finds the gate closed, the second one finds it open. -/
def passing : List Request :=
  [.deploy gated, .start "gated" (verdict false), .complete ⟨1⟩ (verdict true)]

/-- The standard evaluator, but that it need not read the guard of the gate. -/
def gateEvaluator : Guard.Evaluator where
  context := Guard.contextOf
  atom context expression :=
    if expression = "ok" then
      match context.field? "ok" with
      | some v => .ok v.isTruthy
      | none => .error (.failed "ok" (.undefined "ok"))
    else Guard.evalAtom context expression
  check expression := if expression = "ok" then .ok () else Guard.checkAtom expression

theorem gateEvaluator_eq : gateEvaluator = .standard := by
  -- the guard is read once here, where evaluating a whole run would read it at every step
  have hparse : Guard.Expr.parse? "ok" = some (.ident "ok") := by cbv
  have hblank : Text.isBlankText "ok" = false := by cbv
  have hatom : gateEvaluator.atom = Guard.evalAtom := by
    funext context expression
    by_cases hok : expression = "ok"
    · subst hok
      simp only [gateEvaluator, if_true, Guard.evalAtom, Guard.evalText, hparse, Guard.Expr.eval]
      cases context.field? "ok" <;> rfl
    · exact if_neg hok
  have hcheck : gateEvaluator.check = Guard.checkAtom := by
    funext expression
    by_cases hok : expression = "ok"
    · subst hok
      simp [gateEvaluator, Guard.checkAtom, hparse, hblank]
    · exact if_neg hok
  rw [show gateEvaluator = ⟨Guard.contextOf, gateEvaluator.atom, gateEvaluator.check⟩ from rfl,
    hatom, hcheck]
  rfl

theorem plainEngine_eq : plainEngine = ⟨gateEvaluator, .standard, ∅, .default⟩ := by
  rw [gateEvaluator_eq]
  rfl

/-- The second token takes the gate off the list, where the first one still waits. -/
theorem complete_gated :
    (((history plainEngine countedIds passing).store.instance? ⟨0⟩).map fun i =>
      (i.state, i.failure.isSome)) = some (.complete, true) ∧
    (history plainEngine countedIds passing).supply.drawn = 2 := by
  rw [plainEngine_eq]
  generalize hend : history ⟨gateEvaluator, .standard, ∅, .default⟩ countedIds passing = x
  have hboth : ((x.store.instance? ⟨0⟩).map fun i => (i.state, i.failure.isSome), x.supply.drawn) =
      (some (.complete, true), 2) := by
    rw [← hend]
    simp only [passing, history, List.foldl, serve, Request.perform, Engine.start, Engine.complete,
      carryOut]
    rw [follow_eq_followFor _ 12]
    cbv
  exact Prod.mk.inj hboth

theorem pending_of_failure {s : Supply} {rs : List Request} {id : Uuid}
    (hcomplete : ((history e s rs).store.instance? id).map (fun i => (i.state, i.failure.isSome)) =
      some (.complete, true)) : ¬ NothingPending e s rs := by
  intro h
  obtain ⟨i, hi, hpair⟩ := Option.map_eq_some_iff.1 hcomplete
  obtain ⟨hstate, hfailed⟩ := Prod.mk.inj hpair
  rw [(h.complete id i hi hstate).2.1] at hfailed
  cases hfailed

/-- An instance may be complete with the note of a failure. -/
theorem not_nothingPending_gated : ¬ NothingPending plainEngine countedIds passing :=
  pending_of_failure complete_gated.1

/-- The log tells that something was left behind at the gate. -/
theorem exists_leftBehind_gated : (history plainEngine countedIds passing).supply.Distinct ∧
    ∃ w ∈ written plainEngine countedIds passing, w.Completes ∧
      ∃ n, LeftBehind (unparkings plainEngine (written plainEngine countedIds passing) w.owner) n := by
  have hd := distinct_countedIds (by omega) complete_gated.2
  refine ⟨hd, ?_⟩
  by_contra hnone
  push Not at hnone
  exact pending_of_failure complete_gated.1 ((nothingPending_iff plainEngine_mints hd).2 hnone)

end Gate

end Workflow
