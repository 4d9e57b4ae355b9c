import Workflow.Proofs.Lookup
import Workflow.Proofs.WholeMinutes

/-!
Two engines that differ only in whether they cache definitions do the same from worlds that are alike:
of one store and lock, and of one cache apart from the definitions in it. What differs is the trace,
for an engine without a cache checks a definition again whenever it is looked up.

## Main statements

* `Attempt.alike_follow`: tokens move alike, whatever was traced.
* `agree_definition`: both find the same definition, since copies in the cache can be read back.
* `agree_carryOut`, `agree_close`, `agree_tick`, `agree_deploy`: what the operations do.
-/
namespace Workflow

open Time (Instant Span)

namespace Engine

/-- This engine with definitions in the cache or without. -/
def caching (e : Engine) (b : Bool) : Engine :=
  { e with config := { e.config with cacheDefinitions := b } }

/-- What is noted down, but for the trace. -/
def Ambient.untraced (a : Ambient) : Ambient := { a with trace := [] }

variable {α β : Type} {e : Engine} {d : Definition} {n : Node} {s : Step} {b b' : Bool}

/-! ### Attempts -/

namespace Attempt

theorem exists_of_untraced {a a' : Ambient} (h : a.untraced = a'.untraced) :
    ∃ entries, a' = { a with trace := entries } := by
  obtain ⟨supply, handled, deliveries, asked, entries⟩ := a
  obtain ⟨supply', handled', deliveries', asked', entries'⟩ := a'
  simp only [Ambient.untraced, Ambient.mk.injEq] at h
  obtain ⟨rfl, rfl, rfl, rfl, -⟩ := h
  exact ⟨entries', rfl⟩

/-- Two attempts that come to the same and note the same, but for the trace, whatever was traced before. -/
def Alike (x y : Attempt α) : Prop :=
  ∀ a a' : Ambient, a.untraced = a'.untraced →
    (x a).1 = (y a').1 ∧ (x a).2.untraced = (y a').2.untraced

theorem alike_pure (v : α) : Alike (pure v) (pure v) := fun _ _ h => ⟨rfl, h⟩

theorem alike_throw (err : EngineError) : Alike (throw err : Attempt α) (throw err) :=
  fun _ _ h => ⟨rfl, h⟩

theorem alike_bind {x y : Attempt α} {f g : α → Attempt β} (hx : Alike x y)
    (hf : ∀ v, Alike (f v) (g v)) : Alike (x >>= f) (y >>= g) := by
  intro a a' h
  have hfirst := hx a a' h
  rcases hxa : x a with ⟨r, a₁⟩
  rcases hya : y a' with ⟨r', a₁'⟩
  rw [hxa, hya] at hfirst
  obtain ⟨rfl, hnotes⟩ := hfirst
  cases r with
  | error err =>
    rw [bind_error hxa, bind_error hya]
    exact ⟨rfl, hnotes⟩
  | ok v =>
    rw [bind_ok hxa, bind_ok hya]
    exact hf v a₁ a₁' hnotes

theorem alike_trace (t t' : TraceEntry) : Alike (trace t) (trace t') :=
  fun _ _ h => ⟨rfl, h⟩

theorem alike_remark (r : Remark) : Alike (remark r) (remark r) := alike_trace _ _

theorem alike_now : Alike now now := by
  intro a a' h
  obtain ⟨entries, rfl⟩ := exists_of_untraced h
  exact ⟨rfl, rfl⟩

theorem alike_fresh : Alike fresh fresh := by
  intro a a' h
  obtain ⟨entries, rfl⟩ := exists_of_untraced h
  exact ⟨rfl, rfl⟩

theorem alike_configured (x : Except ConfigurationError α) : Alike (configured x) (configured x) := by
  cases x with
  | ok v => exact alike_pure v
  | error err => exact alike_throw _

theorem alike_notify (bus : Bus) (ev : Event) : Alike (notify bus ev) (notify bus ev) := by
  intro a a' h
  obtain ⟨entries, rfl⟩ := exists_of_untraced h
  rw [notify, bind_ok get_eq, bind_ok get_eq]
  rcases bus.notify a.deliveries ev with ⟨_ | _, deliveries⟩ <;> exact ⟨rfl, rfl⟩

theorem alike_decided (answer : Except Guard.Fault α × List String) :
    Alike (decided answer) (decided answer) := by
  intro a a' h
  obtain ⟨entries, rfl⟩ := exists_of_untraced h
  rcases answer with ⟨_ | _, asked⟩ <;> exact ⟨rfl, rfl⟩

theorem alike_handle (node : String) (run : Nat → Supply → Except String α × Supply) :
    Alike (handle node run) (handle node run) := by
  intro a a' h
  obtain ⟨entries, rfl⟩ := exists_of_untraced h
  rw [handle, bind_ok get_eq, bind_ok get_eq]
  rcases run a.handled a.supply with ⟨_ | _, supply⟩ <;> exact ⟨rfl, rfl⟩

theorem alike_runFlowHandler :
    Alike (runFlowHandler (e.caching b) d n s) (runFlowHandler (e.caching b') d n s) := by
  unfold runFlowHandler
  split
  · exact alike_pure s
  · exact alike_bind (alike_configured _) fun h => alike_bind (alike_handle _ _) fun _ => alike_pure _

theorem alike_createTasks (ts : List Task) :
    Alike (createTasks (e.caching b) n s ts) (createTasks (e.caching b') n s ts) := by
  induction ts generalizing s with
  | nil => exact alike_pure s
  | cons t ts ih =>
    unfold createTasks
    by_cases hown : t.instanceId ≠ s.record.id ∨ t.node ≠ n.id
    · simp only [if_pos hown]
      exact alike_throw _
    · simp only [if_neg hown]
      exact alike_bind (alike_remark _) fun _ => alike_bind (alike_notify _ _) fun _ => ih

theorem alike_enterTask (handler : Option String) :
    Alike (enterTask (e.caching b) d n handler s) (enterTask (e.caching b') d n handler s) := by
  unfold enterTask
  refine alike_bind (alike_configured _) fun h => alike_bind (alike_handle _ _) fun ts => ?_
  split
  · exact alike_bind (alike_remark _) fun _ => alike_pure _
  · exact alike_bind (alike_createTasks _) fun _ => alike_pure _

theorem alike_enterJoin (declared : Option UInt32) :
    Alike (enterJoin d n declared s) (enterJoin d n declared s) := by
  unfold enterJoin
  refine alike_bind (alike_remark _) fun _ => ?_
  split <;> exact alike_pure _

theorem alike_enter : Alike (enter (e.caching b) d n s) (enter (e.caching b') d n s) := by
  unfold enter
  refine alike_bind (alike_remark _) fun _ => alike_bind alike_runFlowHandler fun s => ?_
  split
  · exact alike_pure _
  · exact alike_pure _
  · exact alike_enterTask _
  · exact alike_enterJoin _
  · exact alike_bind (alike_remark _) fun _ => alike_pure _

theorem alike_node (id : String) : Alike (node d id) (node d id) := by
  unfold node
  cases d.node? id with
  | some n => exact alike_pure n
  | none => exact alike_throw _

theorem alike_move (x : Walk) : Alike (move (e.caching b) d x) (move (e.caching b') d x) := by
  obtain ⟨entered, queue, s⟩ := x
  rcases queue with _ | ⟨id | id, queue⟩
  · simp only [move]
    cases starvedJoin? d s.record with
    | none => exact alike_pure _
    | some join => exact alike_bind (alike_remark _) fun _ => alike_pure _
  · change Alike (if entered < e.config.maxVisits.toNat then _ else _)
      (if entered < e.config.maxVisits.toNat then _ else _)
    by_cases hentered : entered < e.config.maxVisits.toNat
    · rw [if_pos hentered, if_pos hentered]
      exact alike_bind (alike_node id) fun n => alike_bind alike_enter fun _ => alike_pure _
    · rw [if_neg hentered, if_neg hentered]
      exact alike_throw _
  · simp only [move]
    refine alike_bind (alike_node id) fun n => alike_bind (alike_decided _) fun targets => ?_
    split
    · exact alike_bind (alike_remark _) fun _ => alike_pure _
    · exact alike_pure _

theorem alike_advance (x : Walk) : Alike (advance (e.caching b) d x) (advance (e.caching b') d x) := by
  have hmoves : ∀ x, Alike (move (e.caching b) d x) (move (e.caching b') d x) := alike_move
  intro a a' h
  induction x, a using advance.induct (e.caching b) d generalizing a' with
  | case1 x a y a₁ hmoved ih =>
    have hmove := hmoves x a a' h
    rcases hmoved' : move (e.caching b') d x a' with ⟨r, a₁'⟩
    rw [hmoved, hmoved'] at hmove
    obtain ⟨rfl, hnotes⟩ := hmove
    have hnext : advance (e.caching b') d x a' = advance (e.caching b') d y a₁' := by
      rw [advance, hmoved']
    rw [hnext, advance, hmoved]
    exact ih a₁' hnotes
  | case2 x a a₁ hmoved =>
    have hmove := hmoves x a a' h
    rcases hmoved' : move (e.caching b') d x a' with ⟨r, a₁'⟩
    rw [hmoved, hmoved'] at hmove
    obtain ⟨rfl, hnotes⟩ := hmove
    have hend : advance (e.caching b') d x a' = (.ok x.step, a₁') := by rw [advance, hmoved']
    rw [hend, advance, hmoved]
    exact ⟨rfl, hnotes⟩
  | case3 x a err a₁ hmoved =>
    have hmove := hmoves x a a' h
    rcases hmoved' : move (e.caching b') d x a' with ⟨r, a₁'⟩
    rw [hmoved, hmoved'] at hmove
    obtain ⟨rfl, hnotes⟩ := hmove
    have hfail : advance (e.caching b') d x a' = (.error err, a₁') := by rw [advance, hmoved']
    rw [hfail, advance, hmoved]
    exact ⟨rfl, hnotes⟩

theorem alike_follow (o : Opening) : Alike (follow (e.caching b) o) (follow (e.caching b') o) := by
  cases o with
  | stays s => exact alike_pure s
  | walks d queue s => exact alike_advance _

theorem alike_notifyFailures (i : Instance) (ns : List String) :
    Alike (notifyFailures (e.caching b) i ns) (notifyFailures (e.caching b') i ns) := by
  induction ns with
  | nil => exact alike_pure _
  | cons n ns ih => exact alike_bind (alike_notify _ _) fun _ => ih

theorem alike_settle : Alike (settle (e.caching b) s) (settle (e.caching b') s) := by
  unfold settle
  split
  · exact alike_bind (alike_remark _) fun _ => alike_bind (alike_notify _ _) fun _ => alike_pure _
  · exact alike_pure s

theorem alike_closeTasks (ts : List Task) :
    Alike (closeTasks (e.caching b) s ts) (closeTasks (e.caching b') s ts) := by
  induction ts generalizing s with
  | nil => exact alike_pure s
  | cons t ts ih =>
    unfold closeTasks
    split
    · exact alike_bind (alike_notify _ _) fun _ => ih
    · exact ih

end Attempt

end Engine

open Engine Engine.Action Engine.Attempt

/-! ### Worlds -/

/-- The world of an engine that caches definitions and that of one that does not: one store and one lock,
and the same in the caches apart from copies of stored definitions, all of which can be read back. -/
structure Twins (e : Engine) (w w' : World) : Prop where
  store : w.store = w'.store
  lock : w.lock = w'.lock
  marks : ∀ k, (∀ n, k ≠ definitionKey n) → w.cache.get? k = w'.cache.get? k
  faithful : Faithful (e.caching true) w
  wholeMinutes : ∀ {n d}, w.store.definition? n = some d → d.InWholeMinutes

/-- A call that has nothing to do with what definitions are cached. -/
def Call.Shared : Call → Prop
  | saveDefinition _ => False
  | lookUp k | remember k _ => ∀ n, k ≠ definitionKey n
  | _ => True

theorem Call.Shared.mirrors {c : Call} (h : c.Shared) (definitions : Dict String Definition) :
    c.Mirrors definitions := by
  cases c with
  | saveDefinition d => exact h
  | remember k v => exact fun n hk => absurd hk (h n)
  | _ => trivial

namespace Twins

variable {e : Engine} {w w' : World}

theorem write {α : Type} (h : Twins e w w') {c : Call} (hc : c.Shared)
    {x : Except StoreError (α × Store)} (hw : (w.answer c).2 = (w.write x).2) :
    (w.write x).1 = (w'.write x).1 ∧ Twins e (w.write x).2 (w'.write x).2 := by
  have hfaithful := h.faithful.answer (hc.mirrors _)
  have hdefinitions := World.definitions_answer (w := w) (hc.mirrors w.store.definitions)
  rw [hw] at hfaithful hdefinitions
  cases x with
  | error cause => exact ⟨rfl, h⟩
  | ok written =>
    refine ⟨rfl, rfl, h.lock, h.marks, hfaithful, fun {n d} hd => h.wholeMinutes (n := n) ?_⟩
    rw [Store.definition?, ← hdefinitions]
    exact hd

theorem answer (h : Twins e w w') {c : Call} (hc : c.Shared) :
    (w.answer c).1 = (w'.answer c).1 ∧ Twins e (w.answer c).2 (w'.answer c).2 := by
  have hfaithful := h.faithful.answer (hc.mirrors _)
  cases c with
  | saveDefinition d => exact hc.elim
  | saveInstance i =>
    simp only [World.answer, ← h.store]
    exact h.write hc rfl
  | commit c =>
    simp only [World.answer, ← h.store]
    exact h.write hc rfl
  | lookUp k => exact ⟨h.marks k hc, h⟩
  | remember k v =>
    refine ⟨rfl, h.store, h.lock, fun k' hk' => ?_, hfaithful, h.wholeMinutes⟩
    change (w.cache.put k v).get? k' = (w'.cache.put k v).get? k'
    rw [Cache.get?_put, Cache.get?_put, h.marks k' hk']
  | acquire =>
    simp only [World.answer, ← h.lock]
    exact ⟨trivial, h.store, rfl, h.marks, hfaithful, h.wholeMinutes⟩
  | release => exact ⟨rfl, h.store, rfl, h.marks, hfaithful, h.wholeMinutes⟩
  | loadDefinition n =>
    simp only [World.answer, ← h.store]
    exact ⟨trivial, h⟩
  | loadInstance id =>
    simp only [World.answer, ← h.store]
    exact ⟨trivial, h⟩
  | listActive =>
    simp only [World.answer, ← h.store]
    exact ⟨trivial, h⟩
  | loadTask id =>
    simp only [World.answer, ← h.store]
    exact ⟨trivial, h⟩
  | listTasks id =>
    simp only [World.answer, ← h.store]
    exact ⟨trivial, h⟩

/-- A definition that is kept in one of the caches makes no difference. -/
theorem keeping {n : String} {d : Definition} (h : Twins e w w')
    (hd : w.store.definition? n = some d) : Twins e (Engine.keeping (e.caching true) w n d) w' := by
  have hmirrors : (Call.remember (definitionKey n) d.toValue).Mirrors w.store.definitions :=
    fun n' hkey => ⟨d, definitionKey_injective hkey ▸ hd, rfl⟩
  refine ⟨h.store, h.lock, fun k hk => ?_, h.faithful.answer hmirrors, h.wholeMinutes⟩
  change (w.cache.put (definitionKey n) d.toValue).get? k = _
  rw [Cache.get?_put, if_neg (hk n), h.marks k hk]

theorem defining {d : Definition} (h : Twins e w w') (hd : check e d = .ok ())
    (hminutes : d.InWholeMinutes) :
    Twins e (Engine.defining (e.caching true) w d) (Engine.defining (e.caching false) w' d) := by
  refine ⟨?_, h.lock, fun k hk => ?_, h.faithful.defining hd, fun {n d'} hd' => ?_⟩
  · change w.store.putDefinition d = w'.store.putDefinition d
    rw [h.store]
  · change (w.cache.put (definitionKey d.id) d.toValue).get? k = _
    rw [Cache.get?_put, if_neg (hk d.id)]
    exact h.marks k hk
  · change (w.store.definitions.insert d.id d).get? n = some d' at hd'
    rw [Dict.get?_insert] at hd'
    split at hd'
    · exact Option.some.inj hd' ▸ hminutes
    · exact h.wholeMinutes hd'

end Twins

/-! ### Actions -/

namespace Engine

variable {α β : Type} {e : Engine} {id : Uuid} {s : Step}

/-- An action of the engine that caches definitions and one of the engine that does not, which do the same
to worlds that are alike. -/
def Action.Agree (e : Engine) (x y : Action α) : Prop :=
  ∀ (w w' : World) (a a' : Ambient), Twins e w w' → a.untraced = a'.untraced →
    (Action.run w a x).1.1 = (Action.run w' a' y).1.1 ∧
      (Action.run w a x).1.2.untraced = (Action.run w' a' y).1.2.untraced ∧
      Twins e (Action.run w a x).2 (Action.run w' a' y).2

theorem agree_pure (v : α) : Agree e (pure v) (pure v) := fun _ _ _ _ hw ha => ⟨rfl, ha, hw⟩

theorem agree_throw (err : EngineError) : Agree e (throw err : Action α) (throw err) :=
  fun _ _ _ _ hw ha => ⟨rfl, ha, hw⟩

theorem agree_bind {x y : Action α} {f g : α → Action β} (hx : Agree e x y)
    (hf : ∀ v, Agree e (f v) (g v)) : Agree e (x >>= f) (y >>= g) := by
  intro w w' a a' hw ha
  have hfirst := hx w w' a a' hw ha
  rcases hxw : Action.run w a x with ⟨⟨r, a₁⟩, w₁⟩
  rcases hyw : Action.run w' a' y with ⟨⟨r', a₁'⟩, w₁'⟩
  rw [hxw, hyw] at hfirst
  obtain ⟨rfl, ha₁, hw₁⟩ := hfirst
  cases r with
  | error err =>
    rw [run_bind_error hxw, run_bind_error hyw]
    exact ⟨rfl, ha₁, hw₁⟩
  | ok v =>
    rw [run_bind_ok hxw, run_bind_ok hyw]
    exact hf v w₁ w₁' a₁ a₁' hw₁ ha₁

theorem agree_lift {x y : Attempt α} (h : Alike x y) : Agree e (liftM x) (liftM y) :=
  fun _ _ a a' hw ha => ⟨(h a a' ha).1, (h a a' ha).2, hw⟩

theorem agree_ask {c : Call} (hc : c.Shared) : Agree e (ask c) (ask c) := by
  intro w w' a a' hw ha
  obtain ⟨hanswer, hworld⟩ := hw.answer hc
  rw [run_ask, run_ask, hanswer]
  exact ⟨rfl, ha, hworld⟩

theorem agree_accepted (x : Except StoreError α) : Agree e (accepted x) (accepted x) := by
  cases x with
  | ok v => exact agree_pure v
  | error cause => exact agree_throw _

theorem agree_resume (x : Except EngineError α) : Agree e (resume x) (resume x) := by
  cases x with
  | ok v => exact agree_pure v
  | error err => exact agree_throw err

theorem agree_discard {x y : Action α} (h : Agree e x y) : Agree e (discard x) (discard y) :=
  agree_bind h fun _ => agree_pure _

theorem agree_outcome {x y : Action α} (h : Agree e x y) : Agree e (outcome x) (outcome y) := by
  intro w w' a a' hw ha
  rw [run_outcome, run_outcome]
  obtain ⟨hresult, hrest⟩ := h w w' a a' hw ha
  exact ⟨congrArg Except.ok hresult, hrest⟩

theorem agree_within {span : SpanKind} {attributes : List (Attribute × String)} {x y : Action α}
    (h : Agree e x y) : Agree e (within span attributes x) (within span attributes y) :=
  agree_bind (agree_lift (alike_trace _ _)) fun _ => agree_bind (agree_outcome h) fun r =>
    agree_bind (agree_lift (alike_trace _ _)) fun _ => agree_resume r

/-! ### Definitions -/

/-- Both find the definition that is stored: a copy of it can be read back, and it still passes the
checks. -/
theorem agree_definition (name : String) :
    Agree e (definition (e.caching true) name) (definition (e.caching false) name) := by
  intro w w' a a' hw ha
  have huncached : cachedCopy? (e.caching false) w' name = none := rfl
  have hstored' := run_definition_of_uncached (a := a') huncached
  rw [← hw.store] at hstored'
  have hread : cachedCopy? (e.caching true) w name =
      (w.cache.get? (definitionKey name)).bind Definition.ofValue? := rfl
  cases hcopy : w.cache.get? (definitionKey name) with
  | some v =>
    obtain ⟨d, hd, rfl⟩ := hw.faithful.copied rfl hcopy
    have hcheck : check (e.caching false) d = .ok () := hw.faithful.checked hd
    rw [hcopy, Option.bind_some, (hw.wholeMinutes hd).ofValue?_toValue] at hread
    rw [hd] at hstored'
    obtain ⟨entries', hstored'⟩ := hstored'
    rw [hcheck] at hstored'
    rw [run_definition_of_cached hread, hstored']
    exact ⟨rfl, ha, hw⟩
  | none =>
    rw [hcopy] at hread
    have hstored := run_definition_of_uncached (a := a) hread
    cases hd : w.store.definition? name with
    | none =>
      rw [hd] at hstored hstored'
      rw [hstored, hstored']
      exact ⟨rfl, ha, hw⟩
    | some d =>
      have hcheck : check e d = .ok () := hw.faithful.checked hd
      rw [hd] at hstored hstored'
      obtain ⟨entries, hstored⟩ := hstored
      obtain ⟨entries', hstored'⟩ := hstored'
      rw [show check (e.caching true) d = .ok () from hcheck] at hstored
      rw [show check (e.caching false) d = .ok () from hcheck] at hstored'
      rw [hstored, hstored']
      exact ⟨rfl, ha, hw.keeping hd⟩

theorem agree_deploy {d : Definition} (hd : d.InWholeMinutes) :
    Agree e (deploy (e.caching true) d) (deploy (e.caching false) d) := by
  intro w w' a a' hw ha
  obtain ⟨entries, hrun⟩ := run_deploy (e.caching true) w a d
  obtain ⟨entries', hrun'⟩ := run_deploy (e.caching false) w' a' d
  rw [hrun, hrun']
  refine ⟨rfl, ha, ?_⟩
  change Twins e (if check e d = .ok () then _ else _) (if check e d = .ok () then _ else _)
  by_cases hcheck : check e d = .ok ()
  · rw [if_pos hcheck, if_pos hcheck]
    exact hw.defining hcheck hd
  · rw [if_neg hcheck, if_neg hcheck]
    exact hw

/-! ### Operations -/

theorem agree_activeInstance : Agree e (activeInstance id) (activeInstance id) := by
  unfold activeInstance findInstance
  refine agree_bind (agree_bind (agree_ask trivial) fun _ => agree_bind (agree_accepted _)
    fun found => ?_) fun i => ?_
  · cases found with
    | some i => exact agree_pure i
    | none => exact agree_throw _
  · split
    · exact agree_throw _
    · exact agree_pure i

theorem agree_tasks : Agree e (tasks id) (tasks id) :=
  agree_bind (agree_ask trivial) fun _ => agree_accepted _

theorem agree_openTask : Agree e (openTask id) (openTask id) := by
  unfold openTask
  refine agree_bind (agree_ask trivial) fun _ => agree_bind (agree_accepted _) fun found => ?_
  cases found with
  | none => exact agree_throw _
  | some t =>
    simp only
    split
    · exact agree_pure t
    · exact agree_throw _

theorem agree_startOpening (name : String) (vars : Variables) :
    Agree e (startOpening (e.caching true) name vars) (startOpening (e.caching false) name vars) := by
  unfold startOpening
  refine agree_bind (agree_definition name) fun d => ?_
  split
  · exact agree_throw _
  · exact agree_bind (agree_lift alike_now) fun now => agree_bind (agree_lift alike_fresh) fun id =>
      agree_bind (agree_lift (alike_trace _ _)) fun _ =>
        agree_bind (agree_lift (alike_remark _)) fun _ =>
          agree_bind (agree_lift (alike_notify _ _)) fun _ => agree_pure _

theorem agree_completeOpening (output : Variables) :
    Agree e (completeOpening (e.caching true) id output)
      (completeOpening (e.caching false) id output) := by
  unfold completeOpening
  refine agree_bind agree_openTask fun t => agree_bind (agree_lift (alike_trace _ _)) fun _ =>
    agree_bind (agree_lift (alike_trace _ _)) fun _ => agree_bind agree_activeInstance fun i =>
      agree_bind (agree_definition _) fun d => agree_bind (agree_lift alike_now) fun now =>
        agree_bind (agree_lift (alike_remark _)) fun _ =>
          agree_bind (agree_lift (alike_notify _ _)) fun _ =>
            agree_bind agree_tasks fun siblings => ?_
  simp only
  split
  · exact agree_bind (agree_lift (alike_remark _)) fun _ => agree_pure _
  · exact agree_pure _

theorem agree_retryOpening :
    Agree e (retryOpening (e.caching true) id) (retryOpening (e.caching false) id) := by
  unfold retryOpening
  refine agree_bind agree_activeInstance fun i => ?_
  split
  · exact agree_throw _
  · exact agree_bind (agree_definition _) fun d => agree_bind (agree_lift alike_now) fun _ =>
      agree_pure _

theorem agree_commit : Agree e (commit s) (commit s) :=
  agree_bind (agree_ask trivial) fun _ => agree_bind (agree_accepted _) fun _ =>
    agree_bind (agree_lift (alike_remark _)) fun _ => agree_pure _

theorem agree_finish : Agree e (finish (e.caching true) s) (finish (e.caching false) s) := by
  unfold finish
  refine agree_bind (agree_lift (alike_notifyFailures _ _)) fun _ =>
    agree_bind (agree_lift alike_settle) fun s => agree_bind agree_commit fun _ =>
      agree_bind (agree_lift (alike_remark _)) fun _ => ?_
  split
  · exact agree_throw _
  · exact agree_pure _

theorem agree_carryOut {opening opening' : Action Opening} (h : Agree e opening opening') :
    Agree e (carryOut (e.caching true) opening) (carryOut (e.caching false) opening') :=
  agree_bind h fun o => agree_bind (agree_lift (alike_follow o)) fun _ =>
    agree_bind agree_finish fun _ => agree_pure _

theorem agree_start (name : String) (vars : Variables) :
    Agree e (start (e.caching true) name vars) (start (e.caching false) name vars) :=
  agree_within (agree_bind (agree_carryOut (agree_startOpening name vars)) fun _ => agree_pure _)

theorem agree_complete (output : Variables) :
    Agree e (complete (e.caching true) id output) (complete (e.caching false) id output) :=
  agree_within (agree_discard (agree_carryOut (agree_completeOpening output)))

theorem agree_retry : Agree e (retry (e.caching true) id) (retry (e.caching false) id) :=
  agree_discard (agree_carryOut agree_retryOpening)

theorem agree_close (ending : Ending) (now : Instant) :
    Agree e (close (e.caching true) id ending now) (close (e.caching false) id ending now) :=
  agree_bind agree_activeInstance fun _ => agree_bind agree_tasks fun _ =>
    agree_bind (agree_lift (alike_closeTasks _)) fun _ =>
      agree_bind (agree_lift (alike_notify _ _)) fun _ => agree_discard agree_commit

theorem agree_terminate : Agree e (terminate (e.caching true) id) (terminate (e.caching false) id) :=
  agree_bind (agree_lift alike_now) fun now => agree_close .termination now

theorem agree_updateVariables (vars : Variables) :
    Agree e (updateVariables id vars) (updateVariables id vars) :=
  agree_bind agree_activeInstance fun _ => agree_bind (agree_lift alike_now) fun _ =>
    agree_bind (agree_ask trivial) fun _ => agree_discard (agree_accepted _)

end Engine

/-! ### Ticks -/

namespace Scheduler

variable {e : Engine} {tolerance : Span} {now : Instant}

theorem agree_send (i : Instance) (source : Source) (occurrence : Instant) :
    Agree e (send ⟨e.caching true, tolerance⟩ i now source occurrence)
      (send ⟨e.caching false, tolerance⟩ i now source occurrence) := by
  have hkey := reminderKey_ne_definitionKey i source occurrence
  unfold send
  refine agree_bind (agree_ask hkey) fun mark => ?_
  cases mark with
  | some _ => exact agree_pure _
  | none =>
    exact agree_bind (agree_bind agree_tasks fun _ => agree_pure _) fun _ =>
      agree_bind (agree_lift (alike_notify _ _)) fun _ => agree_bind (agree_ask hkey) fun _ =>
        agree_pure _

theorem agree_remind (i : Instance) (sent : Nat) (sources : List Source) :
    Agree e (remind ⟨e.caching true, tolerance⟩ i now sent sources)
      (remind ⟨e.caching false, tolerance⟩ i now sent sources) := by
  induction sources generalizing sent with
  | nil => exact agree_pure _
  | cons source rest ih =>
    unfold remind
    refine agree_bind (agree_lift (alike_configured _)) fun rule => ?_
    dsimp only
    split
    · exact agree_pure _
    · exact ih sent
    · refine agree_bind (agree_send i source _) fun told => ?_
      split
      · exact ih _
      · exact ih _

theorem agree_visit (i : Instance) : Agree e (visit ⟨e.caching true, tolerance⟩ i now)
    (visit ⟨e.caching false, tolerance⟩ i now) := by
  unfold visit
  split
  · exact agree_bind (agree_close _ _) fun _ => agree_pure _
  · exact agree_bind (agree_definition _) fun d => agree_remind i 0 _

theorem agree_visitAll (r : TickReport) (is : List Instance) :
    Agree e (visitAll ⟨e.caching true, tolerance⟩ now r is)
      (visitAll ⟨e.caching false, tolerance⟩ now r is) := by
  induction is generalizing r with
  | nil => exact agree_pure _
  | cons i is ih =>
    unfold visitAll
    refine agree_bind (agree_outcome (agree_visit i)) fun v => ?_
    split
    · exact agree_pure _
    · exact ih _

theorem agree_tick :
    Agree e (tick ⟨e.caching true, tolerance⟩ now) (tick ⟨e.caching false, tolerance⟩ now) := by
  unfold tick
  refine agree_bind (agree_ask trivial) fun taken => ?_
  split
  · have hpass : Agree e (pass ⟨e.caching true, tolerance⟩ now) (pass ⟨e.caching false, tolerance⟩ now) :=
      agree_bind (agree_ask trivial) fun _ => agree_bind (agree_accepted _) fun is =>
        agree_visitAll _ is
    exact agree_bind (agree_outcome hpass) fun r => agree_bind (agree_ask trivial) fun _ =>
      agree_resume r
  · exact agree_pure _

end Scheduler

end Workflow
