import Workflow.Proofs.Branching
import Workflow.Proofs.Descent
import Workflow.Proofs.Events
import Workflow.Proofs.Sufficiency
import Workflow.Proofs.Unguarded

/-!
Retries that cannot help. When every token that got stuck is still at its node and still finds no way
out there, a retry takes all of them up and puts them all back: what it writes tells of the attempt and
nothing else, so that any number of retries leaves the instance where it was (`retries_are_futile`).
-/
namespace Workflow

open Time (Instant)
open Engine Engine.Action Engine.Attempt

/-- An instance may be written alone over its own revision. -/
theorem Store.commit_alone {s : Store} {i j : Instance} (hj : s.instance? i.id = some j)
    (hrevision : j.revision = i.revision) :
    s.commit ⟨i, [], []⟩ = .ok (i.revision + 1, s.putInstance i) := by
  have hchecked : s.checkRevision i = .ok () := by simp [checkRevision, hj, hrevision]
  rw [commit, hchecked]
  rfl

namespace Engine

variable {e : Engine} {d d' : Definition} {n : Node} {s : Step} {a : Ambient} {vars : Variables}
  {id : String} {ns : List String} {now : Instant}

/-! ### Nodes without a way out -/

/-- Whether a node has no satisfied transition: each one is guarded, and its guard is false. -/
def Hopeless (e : Engine) (d : Definition) (vars : Variables) (id : String) : Prop :=
  ∃ n, d.node? id = some n ∧
    ∀ t ∈ n.transitions, answer? (e.evaluator.evaluate · vars) t = some (.ok false)

theorem route_of_hopeless
    (h : ∀ t ∈ n.transitions, answer? (e.evaluator.evaluate · vars) t = some (.ok false)) :
    (route e.evaluator n vars).1 = .ok [] := by
  have hguarded : default? n.transitions = none := by
    rw [default?, Option.map_eq_none_iff, List.find?_eq_none]
    intro t ht hunguarded
    have hanswer := h t ht
    rw [answer?, Option.isNone_iff_eq_none.1 hunguarded] at hanswer
    cases hanswer
  have hfirst := (Chooses.falls fun t ht => Or.inr (h t ht)).takeFirst_eq
  have hdecided : ∀ t ∈ n.transitions, IsDecided (e.evaluator.evaluate · vars) t := by
    intro t ht f hf
    rw [h t ht] at hf
    cases hf
  have hclosed : opened (e.evaluator.evaluate · vars) n.transitions = [] := by
    rw [opened, List.map_eq_nil_iff, List.filter_eq_nil_iff]
    intro t ht
    simp [isOpen, h t ht]
  have hall := (Forks.opens hdecided).takeAll_eq
  rw [route_eq_routeBy, routeBy]
  split
  · rw [hfirst, hguarded]
    rfl
  · rfl
  · rw [hall, hclosed]

theorem Hopeless.of_anytime (hid : Hopeless e d vars id) (h : d'.anytime = d.anytime) :
    Hopeless e d' vars id := by
  obtain ⟨n, hn, hfalse⟩ := hid
  have hsame : (d'.node? id).map Node.anytime = (d.node? id).map Node.anytime := by
    rw [← Definition.node?_anytime, ← Definition.node?_anytime, h]
  rw [hn, Option.map_some] at hsame
  obtain ⟨m, hm, hmn⟩ := Option.map_eq_some_iff.1 hsame
  have htransitions : m.transitions = n.transitions := (congrArg Node.transitions hmn :)
  exact ⟨m, hm, htransitions ▸ hfalse⟩

/-! ### The walk -/

theorem move_of_hopeless {entered : Nat} {queue : List Token}
    (h : Hopeless e d s.record.vars id) : ∃ a', move e d ⟨entered, .leave id :: queue, s⟩ a =
      (.ok (some ⟨entered, queue, s.flag id⟩), a') := by
  obtain ⟨n, hn, hfalse⟩ := h
  have hid : n.id = id := by simpa using List.find?_some hn
  have hnode : node d id a = (.ok n, a) := by rw [node_eq, hn]
  obtain ⟨a₁, htargets⟩ : ∃ a₁, targets e n s a = (.ok [], a₁) := by
    rcases ht : targets e n s a with ⟨r, a₁⟩
    obtain ⟨-, rfl⟩ := decided_cases ht
    exact ⟨a₁, by rw [route_of_hopeless hfalse]; rfl⟩
  refine ⟨a₁.note (.remark (.noWayOut s.record.id n.id)), ?_⟩
  simp only [move]
  rw [bind_ok hnode, bind_ok htargets]
  simp only [List.isEmpty_nil, if_true, leave, List.map_nil, List.append_nil, hid]
  rfl

theorem vars_flag : (s.flag id).record.vars = s.record.vars := rfl

/-- Tokens that cannot leave their nodes are put back there, one after another. -/
theorem advance_of_hopeless {entered : Nat} (h : ∀ id ∈ ns, Hopeless e d s.record.vars id)
    (hstarved : starvedJoin? d (ns.foldl Step.flag s).record = none) :
    ∃ a', advance e d ⟨entered, ns.map .leave, s⟩ a = (.ok (ns.foldl Step.flag s), a') := by
  induction ns generalizing s a with
  | nil =>
    have hmove : move e d ⟨entered, [], s⟩ a = (.ok none, a) := by
      simp only [move, show starvedJoin? d s.record = none from hstarved]
      rfl
    exact ⟨a, by rw [List.map_nil, advance, hmove]; rfl⟩
  | cons n ns ih =>
    -- `hstarved` is about the end of the whole walk, and so about the end of what is left of it
    obtain ⟨a₁, hmove⟩ : ∃ a₁, move e d ⟨entered, .leave n :: ns.map .leave, s⟩ a =
        (.ok (some ⟨entered, ns.map .leave, s.flag n⟩), a₁) :=
      move_of_hopeless (h n List.mem_cons_self)
    obtain ⟨a', hrest⟩ := ih (s := s.flag n) (a := a₁)
      (fun m hm => h m (List.mem_cons_of_mem _ hm)) hstarved
    exact ⟨a', by rw [List.map_cons, advance, hmove]; exact hrest⟩

theorem foldl_flag (ns : List String) (s : Step) : ns.foldl Step.flag s =
    { s with
      record.currentNodes := ns.foldl NameSet.insert s.record.currentNodes
      record.failure := ns.foldl (fun f n => some (Step.failureWith n s.now f)) s.record.failure
      failures := s.failures ++ ns } := by
  induction ns generalizing s with
  | nil => simp
  | cons n ns ih =>
    rw [List.foldl_cons, ih]
    simp [Step.flag, Step.wait]

/-- Nodes that are all different are noted in their order. -/
theorem foldl_failureWith (hdifferent : ns.Nodup) :
    ns.foldl (fun f n => some (Step.failureWith n now f)) none = ns.getLast?.map fun n =>
      { nodes := ns, message := s!"no satisfied transition out of node '{n}'", time := now } := by
  -- a failure is noted after those before it, which only an induction from the end has in hand
  induction ns using List.reverseRecOn with
  | nil => rfl
  | append_singleton ns n ih =>
    obtain ⟨hns, -, hn⟩ := List.nodup_append.1 hdifferent
    have hnew : n ∉ ns := fun hmem => hn n hmem n (List.mem_singleton_self n) rfl
    rw [List.foldl_append, ih hns]
    cases ns using List.reverseRecOn with
    | nil => simp [Step.failureWith]
    | append_singleton ns m _ => simpa [Step.failureWith] using hnew

theorem mem_foldl_insert {names : NameSet} {m : String} :
    m ∈ ns.foldl NameSet.insert names ↔ m ∈ ns ∨ m ∈ names := by
  induction ns generalizing names with
  | nil => simp
  | cons n ns ih =>
    rw [List.foldl_cons, ih, NameSet.mem_insert, List.mem_cons]
    tauto

/-! ### The step -/

section Retry

variable {i : Instance} {f : Failure} {w : World}

/-- The step in which all tokens that got stuck get stuck again. -/
def restuck (i : Instance) (f : Failure) (message : String) (now : Instant) : Step :=
  ⟨{ i with failure := some ⟨f.nodes, message, now⟩ }, [], [], f.nodes, now⟩

/-- A token that is taken up and put back leaves no other trace than that. -/
theorem foldl_flag_pickUp (hparked : ∀ n ∈ f.nodes, n ∈ i.currentNodes) (hnodes : f.nodes ≠ [])
    (hdifferent : f.nodes.Nodup) (now : Instant) :
    ∃ message, f.nodes.foldl Step.flag (pickUp i f now) = restuck i f message now := by
  have hlast := List.getLast?_eq_some_getLast hnodes
  have hback : f.nodes.foldl NameSet.insert (f.nodes.foldl NameSet.erase i.currentNodes) =
      i.currentNodes := by
    refine NameSet.ext fun m => ?_
    rw [mem_foldl_insert, Session.mem_foldl_erase]
    constructor
    · rintro (hm | ⟨-, hm⟩)
      · exact hparked m hm
      · exact hm
    · intro hm
      by_cases hstuck : m ∈ f.nodes
      · exact Or.inl hstuck
      · exact Or.inr ⟨hstuck, hm⟩
  refine ⟨s!"no satisfied transition out of node '{f.nodes.getLast hnodes}'", ?_⟩
  rw [Session.pickUp_eq, foldl_flag]
  simp only [Step.begin, foldl_failureWith hdifferent, hlast, hback]
  rfl

/-- The walk takes up all tokens that got stuck and puts them back. -/
theorem advance_restuck (hstuck : ∀ n ∈ f.nodes, n ∈ i.currentNodes ∧ Hopeless e d i.vars n)
    (hnodes : f.nodes ≠ []) (hdifferent : f.nodes.Nodup) (hstarved : starvedJoin? d i = none)
    (now : Instant) : ∃ message a', advance e d ⟨0, f.nodes.map .leave, pickUp i f now⟩ a =
      (.ok (restuck i f message now), a') := by
  obtain ⟨message, hback⟩ :=
    foldl_flag_pickUp (fun n hn => (hstuck n hn).1) hnodes hdifferent now
  have hhopeless : ∀ n ∈ f.nodes, Hopeless e d (pickUp i f now).record.vars n := by
    intro n hn
    rw [Session.pickUp_eq]
    exact (hstuck n hn).2
  have hfed : starvedJoin? d (restuck i f message now).record = none :=
    (starvedJoin?_congr rfl rfl).trans hstarved
  refine ⟨message, ?_⟩
  rw [← hback]
  exact advance_of_hopeless hhopeless (hback ▸ hfed)

/-- A definition that can be looked up is found by a retry of an active instance with a failure. -/
theorem run_retryOpening {id : Uuid} (hi : w.store.instance? id = some i) (hactive : i.isActive = true)
    (hf : i.failure = some f) (hd : lookedUp e w i.definitionId = .ok d) :
    ∃ now a' w', Action.run w a (retryOpening e id) =
        ((.ok (.walks d (f.nodes.map .leave) (pickUp i f now)), a'), w') ∧ w'.store = w.store := by
  rcases activeInstance_cases w a id with ⟨j, hj, -, hinstance⟩ | ⟨err, hclosed, -⟩
  swap
  · rw [hclosed i hi] at hactive
    cases hactive
  obtain rfl : j = i := Option.some.inj (hj.symm.trans hi)
  rcases hrun : Action.run w a (definition e j.definitionId) with ⟨⟨r, a₁⟩, w₁⟩
  have hresult := result_definition e w a j.definitionId
  rw [hrun, hd] at hresult
  cases hresult
  refine ⟨a₁.supply.now.1, { a₁ with supply := a₁.supply.now.2 }, w₁, ?_, (definition_ok hrun).2.1⟩
  rw [retryOpening, run_bind_ok hinstance, hf]
  simp only
  rw [run_bind_ok hrun]
  rfl

/-- A step with stuck tokens that goes on waiting is written if nobody minds hearing of them. -/
theorem run_finish_of_stuck {s : Step} {n : String} {revision : UInt64} {store : Store}
    (hgoing : s.record.currentNodes.isEmpty = false) (hstuck : s.failures.head? = some n)
    (hc : w.store.commit s.commit = .ok (revision, store)) :
    (∃ m a', Action.run w a (finish e s) = ((.error (.listener m), a'), w)) ∨
      ∃ a', Action.run w a (finish e s) = ((.error (.routing s.record.id n), a'), { w with store }) := by
  have hnotify := notifyFailures_eq e s.record s.failures a
  rcases ht : e.bus.tell a.deliveries (failureEvents s.record s.failures) with ⟨m | u, past⟩ <;>
    rw [ht] at hnotify
  · exact Or.inl ⟨m, _, run_bind_error (congrArg (·, w) hnotify)⟩
  · have hnotified : Action.run w a (liftM (notifyFailures e s.record s.failures) : Action Unit) =
      ((.ok (), { a with deliveries := past }), w) := congrArg (·, w) hnotify
    have hsettle : settle e s { a with deliveries := past } = (.ok s, { a with deliveries := past }) := by
      rw [settle, hgoing, Bool.and_false]
      rfl
    have hsettled : Action.run w { a with deliveries := past } (liftM (settle e s) : Action Step) =
      ((.ok s, { a with deliveries := past }), w) := congrArg (·, w) hsettle
    obtain ⟨a₁, hcommit⟩ : ∃ a₁, Action.run w { a with deliveries := past } (commit s) =
        ((.ok revision, a₁), { w with store }) := by
      have hask := run_ask (w := w) (a := { a with deliveries := past }) (.commit s.commit)
      simp only [World.answer, World.write, hc] at hask
      exact ⟨_, by rw [commit, run_bind_ok hask]; rfl⟩
    have hremark : Action.run { w with store } a₁
        (liftM (remark (.committed s.record.id revision)) : Action Unit) =
      ((.ok (), a₁.note (.remark (.committed s.record.id revision))), { w with store }) := rfl
    refine Or.inr ⟨a₁.note (.remark (.committed s.record.id revision)), ?_⟩
    rw [finish, run_bind_ok hnotified, run_bind_ok hsettled, run_bind_ok hcommit,
      run_bind_ok hremark]
    obtain ⟨ns, hfailures⟩ := List.head?_eq_some_iff.1 hstuck
    rw [hfailures]
    rfl

end Retry

/-! ### What is recorded of failures -/

/-- Whether the failure of an instance, if it has one, names some node, and none twice. -/
def Recorded (i : Instance) : Prop := ∀ f, i.failure = some f → f.nodes ≠ [] ∧ f.nodes.Nodup

theorem recorded_flag (h : Recorded s.record) : Recorded (s.flag id).record := by
  have hearlier : ((s.record.failure.map Failure.nodes).getD []).Nodup := by
    cases hf : s.record.failure with
    | none => exact List.nodup_nil
    | some f => exact (h f hf).2
  intro f hf
  cases hf
  simp only [Step.failureWith]
  split
  · rename_i hthere
    exact ⟨List.ne_nil_of_mem (List.contains_iff_mem.1 hthere), hearlier⟩
  · rename_i hnew
    refine ⟨by simp, List.nodup_append.2 ⟨hearlier, List.nodup_singleton _, fun m hm k hk => ?_⟩⟩
    rintro rfl
    exact hnew (List.contains_iff_mem.2 (List.mem_singleton.1 hk ▸ hm))

theorem Move.recorded {supply supply' : Supply} {x y : Walk} (h : Move e d supply x supply' y)
    (hx : Recorded x.step.record) : Recorded y.step.record := by
  cases h with
  | enters hn hentry => cases hentry <;> exact hx
  | @leaves _ _ _ s n targets _ hn htargets =>
    change Recorded (leave n targets s).record
    unfold leave
    split
    · exact recorded_flag hx
    · exact hx
  | releases hstarved => exact hx

end Engine

namespace Session

variable {e : Engine} {x y : Session} {r : Request} {d : Definition} {i j : Instance} {f : Failure}
  {ns : List String}

theorem Opens.recorded {store : Store} {supply supply' : Supply} {o : Opening}
    (h : Opens e store supply o supply')
    (hstore : ∀ id i, store.instance? id = some i → Recorded i) : Recorded o.step.record := by
  cases h with
  | starts hstart hdrawn => exact fun f hf => nomatch hf
  | stays ht hopen hi hactive hothers =>
    have hrecorded := hstore _ _ hi
    exact hrecorded
  | leaves ht hopen hi hactive hlast =>
    have hrecorded := hstore _ _ hi
    exact hrecorded
  | retries hi hactive hf =>
    rw [Opening.step, pickUp_eq]
    rintro _ ⟨⟩

theorem recorded_serve (hs : x.store.Sound)
    (h : ∀ id i, x.store.instance? id = some i → Recorded i) :
    ∀ id i, (x.serve e r).store.instance? id = some i → Recorded i := by
  cases hr : r.opening? e with
  | none =>
    refine (changes_keep (P := fun store => ∀ id i, store.instance? id = some i → Recorded i)
      (serve_changes (x := x) hr) (fun hchange hs h id j hj => ?_) hs h).2
    obtain ⟨i, hi, hstill⟩ := hchange.still hs hj
    rw [Recorded, hstill.failure]
    exact h id i hi
  | some opening =>
    rcases serve_stepping (x := x) hr with hsame | ⟨⟨st⟩⟩
    · rwa [hsame]
    intro id j hj
    by_cases hid : id = st.step.record.id
    · rw [hid] at hj
      have hstep : Recorded st.step.record := follow_keeps (P := fun _ s => Recorded s.record)
        (fun hm hx => hm.recorded hx) ((st.opens_store hr).recorded h) st.follow
      have hfailure : j.failure = st.step.record.failure := by
        rw [record_of_committed st.committed hj, st.step.record_settled]
      rwa [Recorded, hfailure]
    · rw [instance?_of_committed st.committed hid] at hj
      exact h id j hj

theorem recorded_history {s : Supply} (rs : List Request) :
    ∀ id i, (history e s rs).store.instance? id = some i → Recorded i := by
  induction rs using List.reverseRecOn with
  | nil => exact fun _ _ hi => nomatch hi
  | append_singleton rs r ih =>
    rw [history_concat]
    exact recorded_serve (sound_history rs) ih

/-! ### Retries -/

theorem InForce.exists_lookedUp (h : InForce e d x) :
    ∃ d', lookedUp e x.world d.id = .ok d' ∧ d'.anytime = d.anytime := by
  cases hcopy : cachedCopy? e x.world d.id with
  | some d' =>
    refine ⟨d', by rw [lookedUp, hcopy], h.anytime ?_⟩
    obtain ⟨hcaches, hcopy⟩ := Option.ite_none_right_eq_some.1 hcopy
    obtain ⟨v, hv, hd'⟩ := Option.bind_eq_some_iff.1 hcopy
    exact .cached hcaches hv hd'
  | none =>
    -- what is read afresh passes the checks, as it did when it was deployed
    have hd : x.world.store.definition? d.id = some d := h.stored
    refine ⟨d, ?_, rfl⟩
    rw [lookedUp, hcopy, hd]
    simp only [h.faithful.checked hd]
    rfl

/-- A session in which an instance of a definition in force is stuck for good: its failure names nodes
where tokens wait, none of which has a way out. -/
structure Jammed (e : Engine) (d : Definition) (i : Instance) (ns : List String) (x : Session) :
    Prop extends InForce e d x where
  found : x.store.instance? i.id = some i
  belongs : i.definitionId = d.id
  active : i.isActive = true
  failed : i.failure.map Failure.nodes = some ns
  recorded : ns ≠ [] ∧ ns.Nodup
  stuck : ∀ n ∈ ns, n ∈ i.currentNodes ∧ Hopeless e d i.vars n
  unstarved : starvedJoin? d i = none

/-- A retry of such an instance tells of the first token again, and writes down that it was made. -/
theorem Jammed.retry (h : Jammed e d i ns x) :
    (∃ m, x.result e (.retry i.id) = .error (.listener m)) ∨
      ∃ n message now, ns.head? = some n ∧
        x.result e (.retry i.id) = .error (.routing i.id n) ∧
        (x.serve e (.retry i.id)).store = x.store.putInstance
          { i with failure := some ⟨ns, message, now⟩, updatedAt := now } := by
  obtain ⟨f, hf, rfl⟩ := Option.map_eq_some_iff.1 h.failed
  obtain ⟨d', hd', hsame⟩ := h.toInForce.exists_lookedUp
  rw [← h.belongs] at hd'
  obtain ⟨now, a₁, w₁, hopening, hstore⟩ := run_retryOpening (a := x.ambient) h.found h.active hf hd'
  obtain ⟨n, ns, hnodes⟩ := List.exists_cons_of_ne_nil h.recorded.1
  obtain ⟨message, a₂, hwalk⟩ := advance_restuck (a := a₁)
    (fun n hn => ⟨(h.stuck n hn).1, (h.stuck n hn).2.of_anytime hsame⟩) h.recorded.1 h.recorded.2
    ((Definition.starvedJoin?_of_anytime hsame i).trans h.unstarved) now
  have hfollow : Action.run w₁ a₁
      (liftM (follow e (.walks d' (f.nodes.map .leave) (pickUp i f now))) : Action Step) =
    ((.ok (restuck i f message now), a₂), w₁) := congrArg (·, w₁) hwalk
  -- the instance still waits somewhere, so that the step is written as it is
  have hgoing : (restuck i f message now).record.currentNodes.isEmpty = false := by
    have hlisted := (h.stuck n (hnodes ▸ List.mem_cons_self)).1
    rw [← Bool.not_eq_true]
    exact fun hempty => NameSet.isEmpty_iff.1 hempty n hlisted
  have hcommit : w₁.store.commit (restuck i f message now).commit = .ok (i.revision + 1,
      x.store.putInstance { i with failure := some ⟨f.nodes, message, now⟩, updatedAt := now }) := by
    rw [hstore]
    exact Store.commit_alone h.found rfl
  -- what the end of the step comes to is what the whole retry comes to
  have hcarried : ∀ {err a' w'},
      Action.run w₁ a₂ (finish e (restuck i f message now)) = ((.error err, a'), w') →
        x.result e (.retry i.id) = .error err ∧ (x.serve e (.retry i.id)).store = w'.store := by
    intro err a' w' hfinish
    have hcarry : Action.run x.world x.ambient (carryOut e (retryOpening e i.id)) =
        ((.error err, a'), w') := by
      rw [carryOut, run_bind_ok hopening, run_bind_ok hfollow]
      exact run_bind_error hfinish
    obtain ⟨a'', hperform, -⟩ := run_perform (r := .retry i.id) rfl hcarry
    exact ⟨by rw [result, hperform]; rfl, by rw [serve_eq hperform]; rfl⟩
  rcases run_finish_of_stuck (a := a₂) (n := n) hgoing (by simp [restuck, hnodes]) hcommit with
    ⟨m, a', hfinish⟩ | ⟨a', hfinish⟩
  · exact Or.inl ⟨m, (hcarried hfinish).1⟩
  · exact Or.inr ⟨n, message, now, by simp [hnodes], (hcarried hfinish).1, (hcarried hfinish).2⟩

/-- One instance was written, and nothing else: it is the same but for how often and when it was
written, and when and in which words its failure was noted. -/
structure Restated (before : Store) (i j : Instance) (after : Store) : Prop where
  store : after = { before with instances := before.instances.insert i.id j }
  nodes : j.failure.map Failure.nodes = i.failure.map Failure.nodes
  rest : j = { i with failure := j.failure, updatedAt := j.updatedAt, revision := j.revision }

namespace Restated

variable {store store' store'' : Store} {k : Instance}

theorem id_eq (h : Restated store i j store') : j.id = i.id := by rw [h.rest]

theorem refl (h : store.instance? i.id = some i) : Restated store i i store := by
  have hsame : store.instances.insert i.id i = store.instances := Dict.insert_of_get? h
  exact ⟨by rw [hsame], rfl, rfl⟩

theorem trans (h : Restated store i j store') (h' : Restated store' j k store'') :
    Restated store i k store'' := by
  refine ⟨?_, h'.nodes.trans h.nodes, by rw [h'.rest, h.rest]⟩
  rw [h'.store, h.store, h.id_eq]
  refine congrArg (fun instances => { store with instances }) (Dict.ext_get? fun key => ?_)
  simp only [Dict.get?_insert]
  split <;> rfl

end Restated

/-- After a retry the instance is as stuck as before. -/
theorem Jammed.restated (h : Jammed e d i ns x) {message : String} {now : Instant}
    (hstore : (x.serve e (.retry i.id)).store = x.store.putInstance
      { i with failure := some ⟨ns, message, now⟩, updatedAt := now }) :
    ∃ j, Restated x.store i j (x.serve e (.retry i.id)).store ∧
      Jammed e d j ns (x.serve e (.retry i.id)) := by
  refine ⟨{ i with
    failure := some ⟨ns, message, now⟩, updatedAt := now, revision := i.revision + 1 },
    ⟨hstore, h.failed.symm, rfl⟩, h.toInForce.serve fun d' hmem => by simp at hmem, ?_, h.belongs,
    h.active, rfl, h.recorded, h.stuck, (starvedJoin?_congr rfl rfl).trans h.unstarved⟩
  rw [hstore, Store.instance?_putInstance, if_pos rfl]

/-- The session after so many retries of an instance. -/
def retried (e : Engine) (x : Session) (id : Uuid) (k : ℕ) : Session :=
  along e x (fun _ => .retry id) k

/-- However often a retry is made, the instance is as stuck as before. -/
theorem Jammed.retries (h : Jammed e d i ns x) (k : ℕ)
    (hheard : ∀ j < k, ∀ m, (x.retried e i.id j).result e (.retry i.id) ≠ .error (.listener m)) :
    ∃ j, Restated x.store i j (x.retried e i.id k).store ∧ Jammed e d j ns (x.retried e i.id k) := by
  induction k with
  | zero => exact ⟨i, .refl h.found, h⟩
  | succ k ih =>
    -- the next retry is of what the ones before it left of the instance
    obtain ⟨j, hj, hjammed⟩ := ih fun k' hk => hheard k' (Nat.lt_succ_of_lt hk)
    rcases hjammed.retry with ⟨m, hm⟩ | ⟨n, message, now, -, -, hwritten⟩
    · rw [hj.id_eq] at hm
      exact absurd hm (hheard k (Nat.lt_succ_self k) m)
    · obtain ⟨j', hj', hjammed'⟩ := hjammed.restated hwritten
      rw [hj.id_eq] at hj' hjammed'
      exact ⟨j', hj.trans hj', hjammed'⟩

/-- An instance that was started while a definition was in force is stuck for good once no node that its
failure names has a way out. -/
theorem jammed_of_started {s : Supply} {earlier later : List Request}
    (hdeploy : (history e s earlier).result e (.deploy d) = .ok ()) (hl : d.Stands later)
    (hi : StartedSince (history e s earlier).store d
      (history e s (earlier ++ .deploy d :: later)).store i)
    (hactive : i.isActive = true) (hf : i.failure = some f)
    (hstuck : ∀ n ∈ f.nodes, n ∈ i.currentNodes ∧ Hopeless e d i.vars n) :
    Jammed e d i f.nodes (history e s (earlier ++ .deploy d :: later)) := by
  have hdeployed : (history e s (earlier ++ [.deploy d])).store =
      (history e s earlier).store.putDefinition d := by
    rw [history_concat]
    exact store_of_deployed hdeploy
  have hthere : (history e s (earlier ++ [.deploy d])).store.definition? d.id = some d := by
    rw [hdeployed]
    exact Dict.get?_insert_self _ _ _
  obtain ⟨hforce, hfed⟩ := InForce.induction (P := fun x => Unstarved d i.id x.store)
    (fun hx hfed => unstarved_serve hx hfed) hthere hl fun j hj => by
      -- nothing was started yet
      rw [hdeployed] at hj
      cases hi.absent.symm.trans hj
  rw [← List.append_cons] at hforce hfed
  exact ⟨hforce, hi.stored, hi.belongs, hactive, by rw [hf]; rfl,
    recorded_history _ _ i hi.stored f hf, hstuck, hfed i hi.stored hi.belongs hactive⟩

/-- A retry that cannot help does nothing, however often it is made. If all tokens that got stuck still
wait at their nodes, and none of these has a satisfied transition, a retry that nobody refuses to hear of
tells of the first of them, and writes nothing but the instance with a later note of the same failure. -/
theorem retries_are_futile {s : Supply} {earlier later : List Request}
    (hdeploy : (history e s earlier).result e (.deploy d) = .ok ()) (hl : d.Stands later)
    (hx : x = history e s (earlier ++ .deploy d :: later))
    (hi : StartedSince (history e s earlier).store d x.store i) (hactive : i.isActive = true)
    (hf : i.failure = some f)
    (hstuck : ∀ n ∈ f.nodes, n ∈ i.currentNodes ∧ Hopeless e d i.vars n) :
    ∃ n, f.nodes.head? = some n ∧ ∀ k,
      (∀ j ≤ k, ∀ m, (x.retried e i.id j).result e (.retry i.id) ≠ .error (.listener m)) →
      (x.retried e i.id k).result e (.retry i.id) = .error (.routing i.id n) ∧
        ∃ j, Restated x.store i j (x.retried e i.id (k + 1)).store := by
  have hjammed : Jammed e d i f.nodes x := by
    rw [hx] at hi ⊢
    exact jammed_of_started hdeploy hl hi hactive hf hstuck
  obtain ⟨n, ns, hnodes⟩ := List.exists_cons_of_ne_nil hjammed.recorded.1
  refine ⟨n, by rw [hnodes]; rfl, fun k hheard => ⟨?_, ?_⟩⟩
  · obtain ⟨j, hj, hjammed'⟩ := hjammed.retries k fun j hjk => hheard j hjk.le
    rcases hjammed'.retry with ⟨m, hm⟩ | ⟨n', message, now, hn', hresult, -⟩
    · rw [hj.id_eq] at hm
      exact absurd hm (hheard k le_rfl m)
    · rw [hnodes] at hn'
      cases hn'
      rwa [hj.id_eq] at hresult
  · obtain ⟨j, hj, -⟩ := hjammed.retries (k + 1) fun j hjk => hheard j (Nat.le_of_lt_succ hjk)
    exact ⟨j, hj⟩

section Gate

theorem hopeless_gate : Hopeless plainEngine gated (verdict false) "gate" := by
  rw [plainEngine_eq]
  refine ⟨⟨"gate", none, .join (some 1), none, [⟨"end", some (.single "ok")⟩]⟩, rfl, fun t ht => ?_⟩
  rw [List.mem_singleton.1 ht]
  cbv

/-- What is stored of an instance, and what a retry of it comes to. -/
def retrial (e : Engine) (id : Uuid) (x : Session) :
    Option (Uuid × String × Bool × List String × Variables × Option (List String)) ×
      Except EngineError Unit :=
  ((x.store.instance? id).map fun i => (i.id, i.definitionId, i.isActive, i.currentNodes.toList,
    i.vars, i.failure.map Failure.nodes), x.result e (.retry id))

/-- The token at the gate got stuck there, and does so again. -/
theorem retrial_gated : retrial plainEngine ⟨0⟩
    (history plainEngine countedIds [.deploy gated, .start "gated" (verdict false)]) =
      (some (⟨0⟩, "gated", true, ["gate", "work"], verdict false, some ["gate"]),
        .error (.routing ⟨0⟩ "gate")) := by
  rw [plainEngine_eq]
  simp only [retrial, history, List.foldl, serve, result, Request.perform, Engine.start, Engine.retry,
    carryOut]
  rw [follow_eq_followFor _ 12]
  cbv

/-- As long as the verdict is not another one, a retry does not get the token past the gate. -/
theorem retries_are_futile_gated :
    (history plainEngine countedIds []).result plainEngine (.deploy gated) = .ok () ∧
    gated.Stands [.start "gated" (verdict false)] ∧
    ∃ i f, StartedSince (history plainEngine countedIds []).store gated
        (history plainEngine countedIds [.deploy gated, .start "gated" (verdict false)]).store i ∧
      i.isActive = true ∧ i.failure = some f ∧ f.nodes = ["gate"] ∧
      (∀ n ∈ f.nodes, n ∈ i.currentNodes ∧ Hopeless plainEngine gated i.vars n) ∧
      (history plainEngine countedIds [.deploy gated, .start "gated" (verdict false)]).result
        plainEngine (.retry i.id) = .error (.routing i.id "gate") ∧
      ∃ j, Restated (history plainEngine countedIds
          [.deploy gated, .start "gated" (verdict false)]).store i j
        (history plainEngine countedIds
          [.deploy gated, .start "gated" (verdict false), .retry i.id]).store := by
  obtain ⟨hstored, hrefused⟩ := Prod.mk.inj retrial_gated
  obtain ⟨i, hi, hsame⟩ := Option.map_eq_some_iff.1 hstored
  simp only [Prod.mk.injEq] at hsame
  obtain ⟨hid, hname, hactive, hlisted, hvars, hfailure⟩ := hsame
  obtain ⟨f, hf, hnodes⟩ := Option.map_eq_some_iff.1 hfailure
  have hstands : gated.Stands [.start "gated" (verdict false)] := fun d' hmem _ => by simp at hmem
  have hstarted : StartedSince (history plainEngine countedIds []).store gated
      (history plainEngine countedIds [.deploy gated, .start "gated" (verdict false)]).store i :=
    ⟨rfl, hid ▸ hi, hname⟩
  have hstuck : ∀ n ∈ f.nodes, n ∈ i.currentNodes ∧ Hopeless plainEngine gated i.vars n := by
    intro n hn
    rw [hnodes] at hn
    rw [List.mem_singleton.1 hn, hvars]
    exact ⟨NameSet.mem_toList.1 (hlisted ▸ List.mem_cons_self), hopeless_gate⟩
  obtain ⟨n, hn, hretries⟩ := retries_are_futile deploy_gated hstands rfl hstarted
    hactive hf hstuck
  rw [hnodes] at hn
  cases hn
  obtain ⟨hresult, hrestated⟩ := hretries 0 fun k hk m => by
    rw [Nat.le_zero.1 hk, hid]
    exact fun h => nomatch hrefused.symm.trans h
  exact ⟨deploy_gated, hstands, i, f, hstarted, hactive, hf, hnodes, hstuck, hresult, hrestated⟩

end Gate

end Session

end Workflow
