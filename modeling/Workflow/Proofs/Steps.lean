import Workflow.Proofs.Calls
import Workflow.Proofs.Store
import Workflow.Proofs.Traversal

/-!
What each operation does to the store: nothing at all if it fails before its one write, and else the
one change that its lemma names. A step is written as it was when its tokens came to rest, settled.
-/
namespace Workflow

open Time (Instant Span)
open Engine Engine.Action Engine.Attempt

variable {e : Engine} {w w' : World} {a a' : Ambient} {id : Uuid}

/-- A call that leaves the store alone. -/
def Call.KeepsStore (c : Call) : Prop := ∀ w : World, (w.answer c).2.store = w.store

theorem allows_keepsStore : Allows e (fun _ => True) Call.KeepsStore where
  reads _ h w := congrArg World.store (w.answer_of_isRead h)
  keeps _ _ _ _ _ _ _ := rfl

/-- The instance that a call writes. -/
def Call.written? : Call → Option Instance
  | saveInstance i => some i
  | commit c => some c.record
  | _ => none

namespace World

/-- Whether a call writes an instance and is not refused. -/
def accepts (w : World) : Call → Bool
  | .saveInstance i => (w.store.saveInstance i).isOk
  | .commit c => (w.store.commit c).isOk
  | _ => false

/-- A write of an instance leaves everything but the store's instances and tasks alone. -/
structure Wrote (w : World) (i : Instance) (w' : World) : Prop where
  expects : w.store.Expects i
  instances : w'.store.instances = (w.store.putInstance i).instances
  definitions : w'.store.definitions = w.store.definitions
  cache : w'.cache = w.cache
  keyed : w.store.Keyed → w'.store.Keyed

variable {c : Call}

theorem wrote_of_accepts (h : w.accepts c = true) :
    ∃ i, c.written? = some i ∧ w.Wrote i (w.answer c).2 := by
  cases c with
  | saveInstance i =>
    cases hs : w.store.saveInstance i with
    | error err => simp [accepts, hs, Except.isOk, Except.toBool] at h
    | ok written =>
      obtain ⟨revision, store⟩ := written
      obtain ⟨rfl, hexpects⟩ := Store.saveInstance_ok hs
      have hanswer : (w.answer (.saveInstance i)).2 = { w with store := w.store.putInstance i } := by
        simp only [answer, write, hs]
      rw [hanswer]
      exact ⟨i, rfl, hexpects, rfl, rfl, rfl, fun hk => hk.putInstance⟩
  | commit c =>
    cases hs : w.store.commit c with
    | error err => simp [accepts, hs, Except.isOk, Except.toBool] at h
    | ok written =>
      obtain ⟨revision, store⟩ := written
      have hc := Store.commit_ok hs
      have hanswer : (w.answer (.commit c)).2 = { w with store } := by
        simp only [answer, write, hs]
      rw [hanswer]
      exact ⟨c.record, rfl, hc.revision, hc.instances, hc.definitions, rfl, hc.keyed⟩
  | _ => cases h

theorem answer_of_not_accepts {i : Instance} (hc : c.written? = some i)
    (h : w.accepts c = false) : (w.answer c).2 = w := by
  cases c with
  | saveInstance i =>
    cases hs : w.store.saveInstance i with
    | error err => simp [answer, write, hs]
    | ok written => simp [accepts, hs, Except.isOk, Except.toBool] at h
  | commit c =>
    cases hs : w.store.commit c with
    | error err => simp [answer, write, hs]
    | ok written => simp [accepts, hs, Except.isOk, Except.toBool] at h
  | _ => cases hc

/-- A write is accepted or changes nothing. -/
theorem answer_write {i : Instance} (hc : c.written? = some i) :
    (w.answer c).2 = w ∨ w.Wrote i (w.answer c).2 := by
  cases h : w.accepts c with
  | false => exact Or.inl (answer_of_not_accepts hc h)
  | true =>
    obtain ⟨j, hj, hwrote⟩ := wrote_of_accepts h
    rw [Option.some.inj (hc.symm.trans hj)]
    exact Or.inr hwrote

end World

namespace Engine

/-- An action without writes leaves the store alone and draws ids in their order. -/
theorem Action.Obeys.run_keepsStore {α : Type} {x : Action α} {r : Except EngineError α}
    (hx : Obeys (fun _ => True) Call.KeepsStore x) (h : Action.run w a x = ((r, a'), w')) :
    w'.store = w.store ∧ a.supply.Grows a'.supply := by
  obtain ⟨hgrows, hstore⟩ := hx.run (w := w) (a := a) (I := fun v => v.store = w.store)
    (fun _ _ => trivial) (fun v c hc hv => (hc v).trans hv) rfl
  rw [h] at hgrows hstore
  exact ⟨hstore, hgrows⟩

/-! ### Reading -/

theorem run_tasks : run w a (tasks id) = ((.ok (w.store.tasksOf id), a), w) := rfl

theorem openTask_cases (w : World) (a : Ambient) (id : Uuid) :
    (∃ t, w.store.task? id = some t ∧ t.isOpen = true ∧ run w a (openTask id) = ((.ok t, a), w)) ∨
      ∃ err, (∀ t, w.store.task? id = some t → t.isOpen = false) ∧
        run w a (openTask id) = ((.error err, a), w) := by
  have hload : run w a (ask (.loadTask id)) = ((.ok (.ok (w.store.task? id)), a), w) := rfl
  have haccepted : run w a (accepted (.ok (w.store.task? id))) =
    ((.ok (w.store.task? id), a), w) := rfl
  rw [openTask, run_bind_ok hload, run_bind_ok haccepted]
  cases w.store.task? id with
  | none => exact Or.inr ⟨_, (fun _ h => nomatch h), rfl⟩
  | some t =>
    by_cases hopen : t.isOpen = true
    · simp only [if_pos hopen]
      exact Or.inl ⟨t, rfl, hopen, rfl⟩
    · simp only [if_neg hopen]
      exact Or.inr ⟨_, fun u hu => Option.some.inj hu ▸ by simpa using hopen, rfl⟩

theorem activeInstance_cases (w : World) (a : Ambient) (id : Uuid) :
    (∃ i, w.store.instance? id = some i ∧ i.isActive = true ∧
        run w a (activeInstance id) = ((.ok i, a), w)) ∨
      ∃ err, (∀ i, w.store.instance? id = some i → i.isActive = false) ∧
        run w a (activeInstance id) = ((.error err, a), w) := by
  have hload : run w a (ask (.loadInstance id)) = ((.ok (.ok (w.store.instance? id)), a), w) := rfl
  have haccepted : run w a (accepted (.ok (w.store.instance? id))) =
    ((.ok (w.store.instance? id), a), w) := rfl
  cases hi : w.store.instance? id with
  | none =>
    rw [hi] at hload haccepted
    have hfind : run w a (findInstance id) =
        ((.error (.notFound (.instanceRecord id)), a), w) := by
      rw [findInstance, run_bind_ok hload, run_bind_ok haccepted]
      rfl
    exact Or.inr ⟨_, (fun _ h => nomatch h), run_bind_error hfind⟩
  | some i =>
    rw [hi] at hload haccepted
    have hfind : run w a (findInstance id) = ((.ok i, a), w) := by
      rw [findInstance, run_bind_ok hload, run_bind_ok haccepted]
      rfl
    rw [activeInstance, run_bind_ok hfind]
    have hactive : i.isActive = !i.state.isTerminal := by
      simp [Instance.isActive, InstanceState.isTerminal, bne]
    by_cases hstate : i.state.isTerminal = true
    · simp only [if_pos hstate]
      refine Or.inr ⟨_, fun j hj => ?_, rfl⟩
      rw [← Option.some.inj hj, hactive, hstate]
      rfl
    · simp only [if_neg hstate]
      exact Or.inl ⟨i, rfl, by simpa [hactive] using hstate, rfl⟩

/-! ### Definitions -/

/-- To warn of nodes fails never, and is noted down. -/
theorem warn_cases (d : Definition) (ns : List Node) (a : Ambient) : ∃ entries,
    (forIn ns PUnit.unit fun n _ => do
      remark (.unreachableNode d.id n.id)
      pure (ForInStep.yield PUnit.unit) : Attempt PUnit) a =
        (.ok PUnit.unit, { a with trace := entries }) := by
  induction ns generalizing a with
  | nil => exact ⟨a.trace, rfl⟩
  | cons n ns ih =>
    obtain ⟨entries, hrest⟩ := ih (a.note (.remark (.unreachableNode d.id n.id)))
    refine ⟨entries, ?_⟩
    rw [List.forIn_cons]
    exact hrest

theorem validate_cases (d : Definition) (a : Ambient) : ∃ entries,
    validate e d a = ((check e d).mapError .configuration, { a with trace := entries }) := by
  unfold validate check
  cases hv : d.validate with
  | error cause => exact ⟨a.trace, rfl⟩
  | ok u =>
    obtain ⟨entries, hwarn⟩ := warn_cases d (unreachableNodes d) a
    have hvalid : configured ((Except.ok u : Except DefinitionError Unit).mapError .definition) a =
      (.ok u, a) := rfl
    refine ⟨entries, ?_⟩
    rw [bind_ok hvalid, bind_ok hwarn, configured_eq]
    rfl

/-- A world in which a definition was kept under a name, if definitions are to be in the cache. -/
def keeping (e : Engine) (w : World) (name : String) (d : Definition) : World :=
  { w with
    cache := if e.config.cacheDefinitions then w.cache.put (definitionKey name) d.toValue
      else w.cache }

theorem run_keepDefinition (e : Engine) (w : World) (a : Ambient) (name : String) (d : Definition) :
    run w a (keepDefinition e name d) = ((.ok (), a), keeping e w name d) := by
  unfold keepDefinition keeping
  split <;> rfl

/-- The copy of a definition in the cache, if definitions are to be there and this one can be read. -/
def cachedCopy? (e : Engine) (w : World) (name : String) : Option Definition :=
  if e.config.cacheDefinitions then
    (w.cache.get? (definitionKey name)).bind Definition.ofValue?
  else none

theorem run_cachedDefinition (e : Engine) (w : World) (a : Ambient) (name : String) :
    run w a (cachedDefinition e name) = ((.ok (cachedCopy? e w name), a), w) := by
  unfold cachedDefinition cachedCopy?
  split <;> rfl

theorem run_definition_of_cached {name : String} {d : Definition}
    (h : cachedCopy? e w name = some d) : run w a (definition e name) = ((.ok d, a), w) := by
  have hcached := run_cachedDefinition e w a name
  rw [h] at hcached
  exact run_bind_ok hcached

/-- Without a copy in the cache the store decides: what is there is kept if it passes the checks. -/
theorem run_definition_of_uncached {name : String} (h : cachedCopy? e w name = none) :
    match w.store.definition? name with
    | none => run w a (definition e name) = ((.error (.notFound (.definition name)), a), w)
    | some d => ∃ entries, run w a (definition e name) =
        ((((check e d).mapError .configuration).map fun _ => d, { a with trace := entries }),
          if check e d = .ok () then keeping e w name d else w) := by
  have hcached := run_cachedDefinition e w a name
  rw [h] at hcached
  have hload : run w a (ask (.loadDefinition name)) =
    ((.ok (.ok (w.store.definition? name)), a), w) := rfl
  have haccepted : run w a (accepted (.ok (w.store.definition? name))) =
    ((.ok (w.store.definition? name), a), w) := rfl
  rw [definition, run_bind_ok hcached]
  simp only
  rw [run_bind_ok hload, run_bind_ok haccepted]
  cases w.store.definition? name with
  | none => rfl
  | some d =>
    obtain ⟨entries, hvalidate⟩ := validate_cases (e := e) d a
    have hlift : run w a (liftM (validate e d) : Action Unit) =
      ((_, { a with trace := entries }), w) := congrArg (·, w) hvalidate
    refine ⟨entries, ?_⟩
    cases hcheck : check e d with
    | error cause =>
      rw [hcheck] at hlift
      rw [if_neg (by rintro ⟨⟩)]
      exact run_bind_error hlift
    | ok u =>
      rw [hcheck] at hlift
      rw [if_pos rfl]
      simp only
      rw [run_bind_ok hlift, run_bind_ok (run_keepDefinition e w _ name d)]
      rfl

/-- What looking up a definition comes to: a copy in the cache, or else what is stored, if it passes the
checks. -/
def lookedUp (e : Engine) (w : World) (name : String) : Except EngineError Definition :=
  match cachedCopy? e w name with
  | some d => .ok d
  | none =>
    match w.store.definition? name with
    | none => .error (.notFound (.definition name))
    | some d => ((check e d).mapError .configuration).map fun _ => d

theorem result_definition (e : Engine) (w : World) (a : Ambient) (name : String) :
    (run w a (definition e name)).1.1 = lookedUp e w name := by
  unfold lookedUp
  cases hcopy : cachedCopy? e w name with
  | some d => rw [run_definition_of_cached hcopy]
  | none =>
    have hrun := run_definition_of_uncached (a := a) hcopy
    cases hd : w.store.definition? name with
    | none =>
      rw [hd] at hrun
      rw [hrun]
    | some d =>
      rw [hd] at hrun
      obtain ⟨entries, hrun⟩ := hrun
      rw [hrun]

/-- A definition that an engine finds in its cache, or in the store where it passes the checks. -/
inductive Resolves (e : Engine) (w : World) (name : String) : Definition → Prop where
  | cached {v d} (hcaches : e.config.cacheDefinitions = true)
    (hv : w.cache.get? (definitionKey name) = some v) (hd : Definition.ofValue? v = some d) :
    Resolves e w name d
  | loaded {d} (hd : w.store.definition? name = some d) (hcheck : check e d = .ok ()) :
    Resolves e w name d

/-- Why an operation is turned away before a token moves, or when it comes to be written. -/
inductive Refusal (e : Engine) (w : World) : EngineError → Prop where
  | missing (what : Missing) : Refusal e w (.notFound what)
  | untimely (cause : StateError) : Refusal e w (.state cause)
  | unheard (m : String) : Refusal e w (.listener m)
  | declined (cause : StoreError) : Refusal e w (.store cause)
  | unusable {name d cause} (hd : w.store.definition? name = some d)
    (hcheck : check e d = .error cause) : Refusal e w (.configuration cause)
  | noStart {name d} (hd : Resolves e w name d) (hs : d.startNode? = none) :
    Refusal e w (.configuration (.noStart d.id))

/-- A definition that is looked up is found, or its lack is told; ids are not drawn for that. -/
theorem definition_cases (e : Engine) (w : World) (a : Ambient) (name : String) :
    (∃ d a' w', run w a (definition e name) = ((.ok d, a'), w') ∧ Resolves e w name d ∧
      a'.supply = a.supply) ∨
    ∃ err a' w', run w a (definition e name) = ((.error err, a'), w') ∧ Refusal e w err := by
  cases hcopy : cachedCopy? e w name with
  | some d =>
    refine Or.inl ⟨d, a, w, run_definition_of_cached hcopy, ?_, rfl⟩
    obtain ⟨hcaches, hcopy⟩ := Option.ite_none_right_eq_some.1 hcopy
    obtain ⟨v, hv, hd⟩ := Option.bind_eq_some_iff.1 hcopy
    exact .cached hcaches hv hd
  | none =>
    have hstore := run_definition_of_uncached (a := a) hcopy
    cases hd : w.store.definition? name with
    | none =>
      rw [hd] at hstore
      exact Or.inr ⟨_, a, w, hstore, .missing _⟩
    | some d =>
      rw [hd] at hstore
      obtain ⟨entries, hstore⟩ := hstore
      cases hcheck : check e d with
      | error cause =>
        rw [hcheck] at hstore
        exact Or.inr ⟨_, _, _, hstore, .unusable hd hcheck⟩
      | ok u =>
        rw [hcheck] at hstore
        exact Or.inl ⟨d, { a with trace := entries }, _, hstore, .loaded hd hcheck, rfl⟩

/-! ### Refusals while reading -/

theorem failsWith_activeInstance : FailsWith (Refusal e w) w a (activeInstance id) := by
  unfold activeInstance findInstance
  refine failsWith_bind (failsWith_bind (failsWith_ask _) fun _ _ _ _ => failsWith_bind
    (failsWith_accepted fun cause => .declined cause) fun found _ _ _ => ?_) fun i _ _ _ => ?_
  · cases found with
    | none => exact failsWith_throw (.missing _)
    | some i => exact failsWith_pure i
  · split
    · exact failsWith_throw (.untimely _)
    · exact failsWith_pure i

theorem failsWith_openTask : FailsWith (Refusal e w) w a (openTask id) := by
  unfold openTask
  refine failsWith_bind (failsWith_ask _) fun _ _ _ _ => failsWith_bind
    (failsWith_accepted fun cause => .declined cause) fun found _ _ _ => ?_
  cases found with
  | none => exact failsWith_throw (.missing _)
  | some t =>
    simp only
    split
    · exact failsWith_pure t
    · exact failsWith_throw (.untimely _)

theorem refusal_notify {b : Bus} {ev : Event} {err : EngineError}
    (h : (notify b ev a).1 = .error err) : Refusal e w err := by
  rcases hn : notify b ev a with ⟨r, a'⟩
  rw [hn] at h
  obtain ⟨-, hok | ⟨m, hm⟩⟩ := notify_cases hn
  · rw [hok] at h
    cases h
  · rw [hm] at h
    cases h
    exact .unheard m

/-! ### Writing -/

/-- A step with its instance complete if that is active and has no tokens left. -/
def Step.settled (s : Step) : Step :=
  if s.record.isActive && s.record.currentNodes.isEmpty then s.close .complete else s

@[simp] theorem Step.created_settled (s : Step) : s.settled.created = s.created := by
  unfold Step.settled
  split <;> rfl

@[simp] theorem Step.updated_settled (s : Step) : s.settled.updated = s.updated := by
  unfold Step.settled
  split <;> rfl

@[simp] theorem Step.id_settled (s : Step) : s.settled.record.id = s.record.id := by
  unfold Step.settled
  split <;> rfl

theorem Step.id_commit (s : Step) : s.settled.commit.record.id = s.record.id := s.id_settled

/-- What a settled step changes of its instance. -/
theorem Step.record_settled (s : Step) : s.settled.record = { s.record with
    state := s.settled.record.state, joinArrivals := s.settled.record.joinArrivals } := by
  unfold Step.settled
  split <;> rfl

theorem settle_ok {s s' : Step} (h : settle e s a = (.ok s', a')) :
    s' = s.settled ∧ a'.supply = a.supply := by
  unfold settle at h
  unfold Step.settled
  split at h
  · rename_i hdone
    rw [bind_ok (remark_eq _)] at h
    obtain ⟨u, a₁, hnotify, h⟩ := of_bind_ok h
    obtain ⟨rfl, -⟩ := notify_cases hnotify
    cases h
    exact ⟨by rw [if_pos hdone], rfl⟩
  · rename_i hgoing
    cases h
    exact ⟨by rw [if_neg hgoing], rfl⟩

theorem supply_notifyFailures {i : Instance} {ns : List String} {r : Except EngineError Unit}
    (h : notifyFailures e i ns a = (r, a')) : a'.supply = a.supply := by
  induction ns generalizing a with
  | nil =>
    cases h
    rfl
  | cons n ns ih =>
    rcases bind_cases h with ⟨err, hnotify, -⟩ | ⟨u, a₁, hnotify, h⟩
    · obtain ⟨rfl, -⟩ := notify_cases hnotify
      rfl
    · obtain ⟨rfl, -⟩ := notify_cases hnotify
      have hrest := ih h
      exact hrest

theorem refusal_notifyFailures {i : Instance} {ns : List String} {err : EngineError}
    (h : (notifyFailures e i ns a).1 = .error err) : Refusal e w err := by
  induction ns generalizing a with
  | nil => cases h
  | cons n ns ih =>
    rcases hn : notifyFailures e i (n :: ns) a with ⟨r, a'⟩
    rcases bind_cases hn with ⟨err', hfail, rfl⟩ | ⟨u, a₁, -, hrest⟩
    · rw [hn] at h
      cases h
      exact refusal_notify (by rw [hfail])
    · exact ih (by rw [hrest, ← h, hn])

theorem refusal_settle {s : Step} {err : EngineError} (h : (settle e s a).1 = .error err) :
    Refusal e w err := by
  rcases hs : settle e s a with ⟨r, a'⟩
  unfold settle at hs
  split at hs
  · rw [bind_ok (remark_eq _)] at hs
    rcases bind_cases hs with ⟨err', hfail, rfl⟩ | ⟨u, a₁, -, hrest⟩
    · rw [settle, if_pos ‹_›, bind_ok (remark_eq _), hs] at h
      cases h
      exact refusal_notify (by rw [hfail])
    · cases hrest
      rw [settle, if_pos ‹_›, bind_ok (remark_eq _), hs] at h
      cases h
  · cases hs
    rw [settle, if_neg ‹_›] at h
    cases h

/-- What a step reports once it is written: the first token that got stuck, if any did. -/
def Step.report (s : Step) : Except EngineError Unit :=
  match s.failures with
  | [] => .ok ()
  | n :: _ => .error (.routing s.record.id n)

theorem Step.report_settled (s : Step) : s.settled.report = s.report := by
  unfold Step.settled
  split <;> rfl

theorem Step.report_eq (s : Step) :
    s.report = .ok () ∨ ∃ n, n ∈ s.failures ∧ s.report = .error (.routing s.record.id n) := by
  unfold Step.report
  cases s.failures with
  | nil => exact Or.inl rfl
  | cons n ns => exact Or.inr ⟨n, List.mem_cons_self .., rfl⟩

theorem commit_result {s : Step} {r : Except EngineError UInt64}
    (h : run w a (commit s) = ((r, a'), w')) :
    ((∃ cause, r = .error (.store cause)) ∧ w'.store = w.store) ∨
      (∃ revision, r = .ok revision) ∧ w.store.Committed s.commit w'.store ∧
        a'.supply = a.supply := by
  have hask := run_ask (w := w) (a := a) (.commit s.commit)
  cases hc : w.store.commit s.commit with
  | error cause =>
    simp only [World.answer, World.write, hc] at hask
    rw [commit, run_bind_ok hask] at h
    cases h
    exact Or.inl ⟨⟨cause, rfl⟩, rfl⟩
  | ok written =>
    simp only [World.answer, World.write, hc] at hask
    rw [commit, run_bind_ok hask] at h
    cases h
    exact Or.inr ⟨⟨_, rfl⟩, Store.commit_ok hc, rfl⟩

/-- A step is written at its end and reports what became of its tokens, or else changes nothing. -/
theorem finish_result {s : Step} {r : Except EngineError Unit}
    (h : run w a (finish e s) = ((r, a'), w')) :
    ((∃ err, r = .error err ∧ ∀ v, Refusal e v err) ∧ w'.store = w.store) ∨
      r = s.report ∧ w.store.Committed s.settled.commit w'.store ∧ a'.supply = a.supply := by
  rcases run_lift_bind_cases h with ⟨err, hfail, rfl, rfl⟩ | ⟨u, a₁, hnotify, h⟩
  · exact Or.inl ⟨⟨err, rfl, fun _ => refusal_notifyFailures (by rw [hfail])⟩, rfl⟩
  rcases run_lift_bind_cases h with ⟨err, hfail, rfl, rfl⟩ | ⟨s', a₂, hsettle, h⟩
  · exact Or.inl ⟨⟨err, rfl, fun _ => refusal_settle (by rw [hfail])⟩, rfl⟩
  obtain ⟨rfl, hsupply⟩ := settle_ok hsettle
  have hdraw : a₂.supply = a.supply := hsupply.trans (supply_notifyFailures hnotify)
  rcases run_bind_cases h with ⟨err, hcommit, rfl⟩ | ⟨revision, a₃, w₃, hcommit, h⟩
  · rcases commit_result hcommit with ⟨⟨cause, herr⟩, hstore⟩ | ⟨⟨_, hok⟩, -⟩
    · exact Or.inl ⟨⟨err, rfl, fun _ => Except.error.inj herr ▸ .declined cause⟩, hstore⟩
    · cases hok
  · rcases commit_result hcommit with ⟨⟨_, herr⟩, -⟩ | ⟨-, hcommitted, hdraw'⟩
    · cases herr
    · -- what is left to do after the write makes no calls
      have hlast : r = s.settled.report ∧ w' = w₃ ∧ a'.supply = a₃.supply := by
        unfold Step.report
        cases hf : s.settled.failures with
        | nil =>
          rw [hf] at h
          cases h
          exact ⟨rfl, rfl, rfl⟩
        | cons n ns =>
          rw [hf] at h
          cases h
          exact ⟨rfl, rfl, rfl⟩
      obtain ⟨rfl, rfl, hend⟩ := hlast
      exact Or.inr ⟨s.report_settled, hcommitted, hend.trans (hdraw'.trans hdraw)⟩

/-- How a step fails that is not written. -/
inductive Unwritten (e : Engine) (opening : Action Opening) (w : World) (a : Ambient) :
    EngineError → Prop where
  | opening {err a' w'} (h : run w a opening = ((.error err, a'), w')) :
    Unwritten e opening w a err
  | walking {o a₁ w₁ err a₂} (h : run w a opening = ((.ok o, a₁), w₁))
    (hfollow : follow e o a₁ = (.error err, a₂)) : Unwritten e opening w a err
  | finishing {err} (h : ∀ v, Refusal e v err) : Unwritten e opening w a err

/-- A step whose opening makes no writes is written at its end, settled, or changes nothing. -/
theorem carryOut_result {opening : Action Opening} {r : Except EngineError Step}
    (ho : Obeys (fun _ => True) Call.KeepsStore opening)
    (h : run w a (carryOut e opening) = ((r, a'), w')) :
    ((∃ err, r = .error err ∧ Unwritten e opening w a err) ∧ w'.store = w.store) ∨
      ∃ o a₁ w₁ s a₂, run w a opening = ((.ok o, a₁), w₁) ∧ follow e o a₁ = (.ok s, a₂) ∧
        r.map (fun _ => ()) = s.report ∧ w.store.Committed s.settled.commit w'.store ∧
          a'.supply = a₂.supply := by
  rcases run_bind_cases h with ⟨err, hfail, rfl⟩ | ⟨o, a₁, w₁, hopening, h⟩
  · exact Or.inl ⟨⟨err, rfl, .opening hfail⟩, (ho.run_keepsStore hfail).1⟩
  have hstore := (ho.run_keepsStore hopening).1
  rcases run_lift_bind_cases h with ⟨err, hfail, rfl, rfl⟩ | ⟨s, a₂, hfollow, h⟩
  · exact Or.inl ⟨⟨err, rfl, .walking hopening hfail⟩, hstore⟩
  rw [← hstore]
  rcases run_bind_cases h with ⟨err, hfinish, rfl⟩ | ⟨u, a₃, w₃, hfinish, hend⟩
  · rcases finish_result hfinish with ⟨⟨err', herr, hrefusal⟩, hsame⟩ | ⟨hreport, hcommitted, hdraw⟩
    · exact Or.inl ⟨⟨err, rfl, .finishing (Except.error.inj herr ▸ hrefusal)⟩, hsame⟩
    · exact Or.inr ⟨o, a₁, w₁, s, a₂, hopening, hfollow, hreport, hcommitted, hdraw⟩
  · cases hend
    rcases finish_result hfinish with ⟨⟨err', herr, -⟩, -⟩ | ⟨hreport, hcommitted, hdraw⟩
    · cases herr
    · exact Or.inr ⟨o, a₁, w₁, s, a₂, hopening, hfollow, hreport, hcommitted, hdraw⟩

/-! ### Openings -/

theorem definition_ok {name : String} {d : Definition}
    (h : run w a (definition e name) = ((.ok d, a'), w')) :
    Resolves e w name d ∧ w'.store = w.store ∧ a'.supply = a.supply := by
  have hstore := ((obeys_definition allows_keepsStore).run_keepsStore h).1
  rcases definition_cases e w a name with ⟨d', a₁, w₁, hrun, hd, hsupply⟩ | ⟨err, a₁, w₁, hrun, -⟩ <;>
    rw [hrun] at h <;> cases h
  exact ⟨hd, hstore, hsupply⟩

/-- A new instance has the next id and the date of the next reading of the clock. -/
theorem startOpening_run {name : String} {vars : Variables} {o : Opening}
    (h : run w a (startOpening e name vars) = ((.ok o, a'), w')) :
    ∃ (d : Definition) (start : Node), (run w a (definition e name)).1.1 = .ok d ∧
      d.startNode? = some start ∧ a.supply.drawn < a'.supply.drawn ∧
      o = .walks d [.enter start.id]
        (.begin (newInstance e d a.supply.fresh.1 vars a.supply.now.1) a.supply.now.1) := by
  obtain ⟨d, a₁, w₁, hd, h⟩ := of_run_bind_ok h
  obtain ⟨-, -, hsame⟩ := definition_ok hd
  cases hs : d.startNode? with
  | none =>
    rw [hs] at h
    cases h
  | some start =>
    rw [hs] at h
    obtain ⟨now, a₂, hnow, h⟩ := of_run_lift_bind_ok h
    obtain ⟨id, a₃, hfresh, h⟩ := of_run_lift_bind_ok h
    obtain ⟨u, a₄, htrace, h⟩ := of_run_lift_bind_ok h
    obtain ⟨u, a₅, hremark, h⟩ := of_run_lift_bind_ok h
    obtain ⟨u, a₆, hnotify, hend⟩ := of_run_lift_bind_ok h
    have hsupply : a₆.supply = a₃.supply := by
      rw [(notify_cases hnotify).1]
      cases hremark
      cases htrace
      rfl
    cases hend
    cases hnow
    cases hfresh
    rw [← hsame]
    refine ⟨d, start, by rw [hd], hs, ?_, rfl⟩
    rw [hsupply]
    exact Nat.lt_succ_self _

theorem startOpening_ok {name : String} {vars : Variables} {o : Opening}
    (h : run w a (startOpening e name vars) = ((.ok o, a'), w')) :
    ∃ (d : Definition) (start : Node) (now : Instant), Resolves e w name d ∧
      d.startNode? = some start ∧ a.supply.drawn < a'.supply.drawn ∧
      o = .walks d [.enter start.id] (.begin (newInstance e d a.supply.fresh.1 vars now) now) := by
  obtain ⟨d, start, hd, hrest⟩ := startOpening_run h
  rcases hrun : run w a (definition e name) with ⟨⟨r, a₁⟩, w₁⟩
  rw [hrun] at hd
  subst hd
  exact ⟨d, start, _, (definition_ok hrun).1, hrest⟩

/-- The instance and the task of a completion are those of the store. -/
theorem completeOpening_ok {output : Variables} {o : Opening}
    (h : run w a (completeOpening e id output) = ((.ok o, a'), w')) :
    ∃ t i d now, w.store.task? id = some t ∧ t.isOpen = true ∧
      w.store.instance? t.instanceId = some i ∧ i.isActive = true ∧ Resolves e w i.definitionId d ∧
      o = if othersOpen t (w.store.tasksOf t.instanceId) then .stays (completion i t output now)
        else .walks d [.leave t.node] ((completion i t output now).depart t.node) := by
  rcases openTask_cases w a id with ⟨t, ht, hopen, htask⟩ | ⟨err, -, htask⟩
  · rw [completeOpening, run_bind_ok htask] at h
    obtain ⟨u, a₁, -, h⟩ := of_run_lift_bind_ok h
    obtain ⟨u, a₂, -, h⟩ := of_run_lift_bind_ok h
    rcases activeInstance_cases w a₂ t.instanceId with ⟨i, hi, hactive, hinstance⟩ | ⟨err, -, hinstance⟩
    · rw [run_bind_ok hinstance] at h
      obtain ⟨d, a₃, w₁, hd, h⟩ := of_run_bind_ok h
      obtain ⟨now, a₄, -, h⟩ := of_run_lift_bind_ok h
      obtain ⟨u, a₅, -, h⟩ := of_run_lift_bind_ok h
      obtain ⟨u, a₆, -, h⟩ := of_run_lift_bind_ok h
      obtain ⟨hresolves, hstore, -⟩ := definition_ok hd
      rw [run_bind_ok run_tasks, hstore] at h
      refine ⟨t, i, d, now, ht, hopen, hi, hactive, hresolves, ?_⟩
      split at h
      · rename_i hothers
        rw [if_pos hothers]
        cases h
        rfl
      · rename_i hothers
        rw [if_neg hothers]
        cases h
        rfl
    · rw [run_bind_error hinstance] at h
      cases h
  · rw [completeOpening, run_bind_error htask] at h
    cases h

theorem retryOpening_ok {o : Opening} (h : run w a (retryOpening e id) = ((.ok o, a'), w')) :
    ∃ i f d now, w.store.instance? id = some i ∧ i.isActive = true ∧ i.failure = some f ∧
      Resolves e w i.definitionId d ∧ o = .walks d (f.nodes.map .leave) (pickUp i f now) := by
  rcases activeInstance_cases w a id with ⟨i, hi, hactive, hinstance⟩ | ⟨err, -, hinstance⟩
  · rw [retryOpening, run_bind_ok hinstance] at h
    cases hf : i.failure with
    | none =>
      rw [hf] at h
      cases h
    | some f =>
      rw [hf] at h
      obtain ⟨d, a₁, w₁, hd, h⟩ := of_run_bind_ok h
      obtain ⟨now, a₂, -, h⟩ := of_run_lift_bind_ok h
      cases h
      exact ⟨i, f, d, now, hi, hactive, hf, (definition_ok hd).1, rfl⟩
  · rw [retryOpening, run_bind_error hinstance] at h
    cases h

/-! ### Writes without a walk -/

/-- The step in which an instance is ended. -/
def closing (i : Instance) (ts : List Task) (state : InstanceState) (now : Instant) : Step :=
  Step.close { Step.begin i now with
    updated := (ts.filter Task.isOpen).map fun t =>
      { t with state := .terminated, completedAt := some now } } state

theorem closeTasks_ok {s s' : Step} {ts : List Task} (h : closeTasks e s ts a = (.ok s', a')) :
    s' = { s with updated := s.updated ++ (ts.filter Task.isOpen).map fun t =>
      { t with state := .terminated, completedAt := some s.now } } := by
  induction ts generalizing s a with
  | nil =>
    cases h
    simp
  | cons t ts ih =>
    unfold closeTasks at h
    by_cases hopen : t.isOpen = true
    · simp only [if_pos hopen] at h
      obtain ⟨u, a₁, -, h⟩ := of_bind_ok h
      rw [ih h, List.filter_cons_of_pos hopen]
      simp [Step.update]
    · simp only [if_neg hopen] at h
      rw [ih h, List.filter_cons_of_neg hopen]

theorem refusal_closeTasks {s : Step} {ts : List Task} {err : EngineError}
    (h : (closeTasks e s ts a).1 = .error err) : Refusal e w err := by
  induction ts generalizing s a with
  | nil => cases h
  | cons t ts ih =>
    unfold closeTasks at h
    by_cases hopen : t.isOpen = true
    · simp only [if_pos hopen] at h
      rcases hbind : (notify e.bus (.task (.terminated
          { t with state := .terminated, completedAt := some s.now })) >>= fun _ =>
          closeTasks e (s.update { t with state := .terminated, completedAt := some s.now }) ts) a
        with ⟨r, a'⟩
      rw [hbind] at h
      rcases bind_cases hbind with ⟨err', hfail, rfl⟩ | ⟨u, a₁, -, hrest⟩
      · cases h
        exact refusal_notify (by rw [hfail])
      · exact ih (by rw [hrest, ← h])
    · simp only [if_neg hopen] at h
      exact ih h

/-- An instance is ended by one write, or nothing changes. -/
theorem close_result {ending : Ending} {now : Instant} {r : Except EngineError Unit}
    (h : run w a (close e id ending now) = ((r, a'), w')) :
    ((∃ err, r = .error err ∧ Refusal e w err) ∧ w'.store = w.store) ∨
      r = .ok () ∧ ∃ i, w.store.instance? id = some i ∧ i.isActive = true ∧
        w.store.Committed (closing i (w.store.tasksOf id) ending.state now).commit w'.store := by
  rcases activeInstance_cases w a id with ⟨i, hi, hactive, hinstance⟩ | ⟨err, -, hinstance⟩
  swap
  · rw [close, run_bind_error hinstance] at h
    cases h
    exact Or.inl ⟨⟨err, rfl, failsWith_activeInstance err (by rw [hinstance])⟩, rfl⟩
  rw [close, run_bind_ok hinstance, run_bind_ok run_tasks] at h
  rcases run_lift_bind_cases h with ⟨err, hfail, rfl, rfl⟩ | ⟨s, a₂, hclose, h⟩
  · exact Or.inl ⟨⟨err, rfl, refusal_closeTasks (by rw [hfail])⟩, rfl⟩
  rcases run_lift_bind_cases h with ⟨err, hfail, rfl, rfl⟩ | ⟨u, a₃, -, h⟩
  · exact Or.inl ⟨⟨err, rfl, refusal_notify (by rw [hfail])⟩, rfl⟩
  have hs := closeTasks_ok hclose
  rw [show (Step.begin i now).updated = [] from rfl, List.nil_append] at hs
  rw [hs] at h
  rcases run_bind_cases h with ⟨err, hcommit, rfl⟩ | ⟨revision, a₄, w₄, hcommit, hend⟩
  · rcases commit_result hcommit with ⟨⟨cause, herr⟩, hsame⟩ | ⟨⟨_, hok⟩, -⟩
    · exact Or.inl ⟨⟨err, rfl, Except.error.inj herr ▸ .declined cause⟩, hsame⟩
    · cases hok
  · cases hend
    rcases commit_result hcommit with ⟨⟨cause, herr⟩, -⟩ | ⟨-, hcommitted, -⟩
    · cases herr
    · exact Or.inr ⟨rfl, i, hi, hactive, hcommitted⟩

theorem updateVariables_result (e : Engine) {vars : Variables} {r : Except EngineError Unit}
    (h : run w a (updateVariables id vars) = ((r, a'), w')) :
    ((∃ err, r = .error err ∧ Refusal e w err) ∧ w'.store = w.store) ∨
      r = .ok () ∧ ∃ i now, w.store.instance? id = some i ∧ i.isActive = true ∧
        w'.store = w.store.putInstance { i with vars := i.vars.union vars, updatedAt := now } := by
  rcases activeInstance_cases w a id with ⟨i, hi, hactive, hinstance⟩ | ⟨err, -, hinstance⟩
  swap
  · rw [updateVariables, run_bind_error hinstance] at h
    cases h
    exact Or.inl ⟨⟨err, rfl, failsWith_activeInstance err (by rw [hinstance])⟩, rfl⟩
  rw [updateVariables, run_bind_ok hinstance] at h
  rcases run_lift_bind_cases h with ⟨err, hfail, -, -⟩ | ⟨now, a₂, -, h⟩
  · cases hfail
  have hask := run_ask (w := w) (a := a₂)
    (.saveInstance { i with vars := i.vars.union vars, updatedAt := now })
  cases hc : w.store.saveInstance { i with vars := i.vars.union vars, updatedAt := now } with
  | error cause =>
    simp only [World.answer, World.write, hc] at hask
    rw [run_bind_ok hask] at h
    cases h
    exact Or.inl ⟨⟨_, rfl, .declined cause⟩, rfl⟩
  | ok written =>
    simp only [World.answer, World.write, hc] at hask
    rw [run_bind_ok hask] at h
    cases h
    exact Or.inr ⟨rfl, i, now, hi, hactive, (Store.saveInstance_ok hc).1⟩

/-- A world in which a definition was deployed. -/
def defining (e : Engine) (w : World) (d : Definition) : World :=
  { w with
    store := w.store.putDefinition d
    cache := if e.config.cacheDefinitions then w.cache.put (definitionKey d.id) d.toValue
      else w.cache }

/-- A definition is deployed if it passes the checks. -/
theorem run_deploy (e : Engine) (w : World) (a : Ambient) (d : Definition) : ∃ entries,
    run w a (deploy e d) = (((check e d).mapError .configuration, { a with trace := entries }),
      if check e d = .ok () then defining e w d else w) := by
  obtain ⟨entries, hvalidate⟩ := validate_cases (e := e) d a
  have hlift : run w a (liftM (validate e d) : Action Unit) =
    ((_, { a with trace := entries }), w) := congrArg (·, w) hvalidate
  unfold deploy
  cases hcheck : check e d with
  | error cause =>
    rw [hcheck] at hlift
    exact ⟨entries, (run_bind_error hlift).trans (by rw [if_neg (by rintro ⟨⟩)]; rfl)⟩
  | ok u =>
    rw [hcheck] at hlift
    have hsave : run w { a with trace := entries } (ask (.saveDefinition d)) =
      ((.ok (.ok ()), { a with trace := entries }), { w with store := w.store.putDefinition d }) := rfl
    refine ⟨.remark (.deployed d.id d.version d.nodes.length) :: entries, ?_⟩
    rw [run_bind_ok hlift, run_bind_ok hsave, if_pos rfl]
    exact run_bind_ok (run_keepDefinition e { w with store := w.store.putDefinition d } _ d.id d)

/-- A definition is deployed once it passes the checks, or nothing changes. -/
theorem deploy_cases {d : Definition} {r : Except EngineError Unit}
    (h : run w a (deploy e d) = ((r, a'), w')) :
    (∃ err, r = .error err) ∧ w' = w ∨
      r = .ok () ∧ check e d = .ok () ∧ w' = defining e w d := by
  obtain ⟨entries, hrun⟩ := run_deploy e w a d
  rw [h] at hrun
  simp only [Prod.mk.injEq] at hrun
  obtain ⟨⟨rfl, -⟩, rfl⟩ := hrun
  cases hcheck : check e d with
  | error cause => exact Or.inl ⟨⟨_, rfl⟩, if_neg (by rintro ⟨⟩)⟩
  | ok u => exact Or.inr ⟨rfl, rfl, if_pos rfl⟩

end Engine

end Workflow
