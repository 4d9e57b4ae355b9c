import Mathlib.Algebra.Group.Nat.Defs
import Mathlib.Data.List.Induction
import Mathlib.Logic.Relation
import Workflow.Proofs.Frame
import Workflow.Proofs.Steps

/-!
Histories of requests, served one after another from an empty store on. A request that moves tokens
writes one step or nothing (`serve_stepping`), every other one makes small changes that move none
(`serve_changes`), and the store stays sound all along (`history_induction`).
-/
namespace Workflow

open Relation
open Time (Instant Span)
open Engine Engine.Action

/-- What callers ask of an engine. -/
inductive Request where
  | deploy (d : Definition)
  | start (definitionId : String) (vars : Variables)
  | complete (taskId : Uuid) (output : Variables)
  | updateVariables (id : Uuid) (vars : Variables)
  | retry (id : Uuid)
  | terminate (id : Uuid)
  | tick (tolerance : Span) (now : Instant)

namespace Request

def perform (e : Engine) : Request → Action Unit
  | deploy d => e.deploy d
  | start definitionId vars => discard (e.start definitionId vars)
  | complete taskId output => e.complete taskId output
  | updateVariables id vars => Engine.updateVariables id vars
  | retry id => e.retry id
  | terminate id => e.terminate id
  | tick tolerance now => discard (Scheduler.tick ⟨e, tolerance⟩ now)

/-- How the step of a request opens, if it is one that moves tokens. -/
def opening? (e : Engine) : Request → Option (Action Opening)
  | start definitionId vars => some (startOpening e definitionId vars)
  | complete taskId output => some (completeOpening e taskId output)
  | retry id => some (retryOpening e id)
  | _ => none

/-- What an engine notes down before the step of a request opens. -/
def noted (a : Ambient) : Request → Ambient
  | start definitionId _ =>
    { a with trace := .opened .start [(.definitionId, definitionId)] :: a.trace }
  | complete taskId _ =>
    { a with trace := .opened .completeTask [(.taskId, taskId.text)] :: a.trace }
  | _ => a

theorem supply_noted (r : Request) (a : Ambient) : (r.noted a).supply = a.supply := by
  cases r <;> rfl

end Request

/-- An engine at work, between two requests. -/
structure Session where
  world : World
  ambient : Ambient

namespace Session

def opened (s : Supply) : Session := ⟨.empty, .ofSupply s⟩

def store (x : Session) : Store := x.world.store

def supply (x : Session) : Supply := x.ambient.supply

/-- A request changes the session whether it fails or not. -/
def serve (e : Engine) (x : Session) (r : Request) : Session :=
  ⟨(Action.run x.world x.ambient (r.perform e)).2, (Action.run x.world x.ambient (r.perform e)).1.2⟩

/-- The result of a request that is served next. -/
def result (e : Engine) (x : Session) (r : Request) : Except EngineError Unit :=
  (Action.run x.world x.ambient (r.perform e)).1.1

end Session

/-- The session after these requests, with a fresh store and this clock and source of ids. -/
def history (e : Engine) (s : Supply) (rs : List Request) : Session :=
  rs.foldl (Session.serve e) (.opened s)

theorem history_concat (e : Engine) (s : Supply) (rs : List Request) (r : Request) :
    history e s (rs ++ [r]) = (history e s rs).serve e r := by
  rw [history, List.foldl_append]
  rfl

namespace Session

variable {e : Engine} {x : Session} {r : Request}

/-! ### Ids -/

/-- A request that moves no tokens runs no handlers. -/
theorem obeys_still {W : World → Prop} {p : Call → Prop} (hp : Permits e W p)
    (hr : r.opening? e = none) (hdeploy : ∀ d, r = .deploy d → Obeys W p (e.deploy d)) :
    Obeys W p (r.perform e) := by
  cases r with
  | deploy d => exact hdeploy d rfl
  | start definitionId vars => cases hr
  | complete taskId output => cases hr
  | updateVariables id vars => exact obeys_updateVariables hp.toAllows hp.saves
  | retry id => cases hr
  | terminate id =>
    exact obeys_bind (obeys_lift Attempt.regular_now) fun _ => obeys_close hp.toAllows hp.commits
  | tick tolerance now =>
    have htick : Allows (Scheduler.mk e tolerance).engine W p := hp.toAllows
    exact obeys_discard (Scheduler.obeys_tick htick hp.marks hp.commits hp.acquires hp.releases)

theorem obeys_perform {W : World → Prop} {p : Call → Prop} (hr : e.registry.Draws)
    (hp : Permits e W p) (r : Request) (hdeploy : ∀ d, r = .deploy d → Obeys W p (e.deploy d)) :
    Obeys W p (r.perform e) := by
  cases r with
  | start definitionId vars =>
    exact obeys_discard (obeys_within (obeys_bind
      (obeys_carryOut hr (obeys_startOpening hp.toAllows) hp.commits) fun _ => obeys_pure _))
  | complete taskId output =>
    exact obeys_within (obeys_discard
      (obeys_carryOut hr (obeys_completeOpening hp.toAllows) hp.commits))
  | retry id => exact obeys_discard (obeys_carryOut hr (obeys_retryOpening hp.toAllows) hp.commits)
  | deploy d => exact obeys_still hp rfl hdeploy
  | updateVariables id vars => exact obeys_still hp rfl hdeploy
  | terminate id => exact obeys_still hp rfl hdeploy
  | tick tolerance now => exact obeys_still hp rfl hdeploy

/-- What every call keeps, a request keeps, and it draws ids in their order. -/
theorem serve_keeps {I : World → Prop} (hr : e.registry.Draws)
    (hI : ∀ w c, I w → I (w.answer c).2) (x : Session) (r : Request) (hx : I x.world) :
    x.supply.Grows (x.serve e r).supply ∧ I (x.serve e r).world := by
  have hp : Permits e (fun _ => True) (fun _ => True) :=
    ⟨⟨fun _ _ => trivial, fun _ _ _ _ _ _ => trivial⟩, fun _ => trivial, fun _ => trivial,
      fun _ _ _ _ => trivial, trivial, trivial⟩
  have hobeys := obeys_perform hr hp r fun _ _ => obeys_deploy trivial trivial
  exact hobeys.run (fun _ _ => trivial) (fun w c _ hw => hI w c hw) hx

theorem grows_serve (hr : e.registry.Draws) (x : Session) (r : Request) :
    x.supply.Grows (x.serve e r).supply :=
  (serve_keeps (I := fun _ => True) hr (fun _ _ h => h) x r trivial).1

theorem grows_history (hr : e.registry.Draws) (s : Supply) (rs : List Request) :
    s.Grows (history e s rs).supply := by
  induction rs using List.reverseRecOn with
  | nil => exact .refl s
  | append_singleton rs r ih =>
    rw [history_concat]
    exact ih.trans (grows_serve hr _ r)

/-! ### Requests that move tokens -/

/-- The opening of a step as the store tells it. -/
inductive Opens (e : Engine) (store : Store) (supply : Supply) : Opening → Supply → Prop where
  | starts {d : Definition} {start : Node} {vars now supply'} (hstart : d.startNode? = some start)
    (hdrawn : supply.drawn < supply'.drawn) :
    Opens e store supply (.walks d [.enter start.id]
      (.begin (newInstance e d supply.fresh.1 vars now) now)) supply'
  | stays {id t i output now supply'} (ht : store.task? id = some t) (hopen : t.isOpen = true)
    (hi : store.instance? t.instanceId = some i) (hactive : i.isActive = true)
    (hothers : othersOpen t (store.tasksOf t.instanceId) = true) :
    Opens e store supply (.stays (completion i t output now)) supply'
  | leaves {d : Definition} {id t i output now supply'} (ht : store.task? id = some t)
    (hopen : t.isOpen = true) (hi : store.instance? t.instanceId = some i)
    (hactive : i.isActive = true) (hlast : othersOpen t (store.tasksOf t.instanceId) = false) :
    Opens e store supply
      (.walks d [.leave t.node] ((completion i t output now).depart t.node)) supply'
  | retries {d : Definition} {id i f now supply'} (hi : store.instance? id = some i)
    (hactive : i.isActive = true) (hf : i.failure = some f) :
    Opens e store supply (.walks d (f.nodes.map .leave) (pickUp i f now)) supply'

theorem opens_of_run {opening : Action Opening} {o : Opening} {w w' : World} {a a' : Ambient}
    (hr : r.opening? e = some opening) (h : Action.run w a opening = ((.ok o, a'), w')) :
    Opens e w.store a.supply o a'.supply := by
  cases r with
  | start definitionId vars =>
    cases hr
    obtain ⟨d, start, now, -, hstart, hdrawn, rfl⟩ := startOpening_ok h
    exact .starts hstart hdrawn
  | complete taskId output =>
    cases hr
    obtain ⟨t, i, d, now, ht, hopen, hi, hactive, -, rfl⟩ := completeOpening_ok h
    cases hothers : othersOpen t (w.store.tasksOf t.instanceId) with
    | true => exact .stays ht hopen hi hactive hothers
    | false => exact .leaves ht hopen hi hactive hothers
  | retry id =>
    cases hr
    obtain ⟨i, f, d, now, hi, hactive, hf, -, rfl⟩ := retryOpening_ok h
    exact .retries hi hactive hf
  | deploy d => cases hr
  | updateVariables id vars => cases hr
  | terminate id => cases hr
  | tick tolerance now => cases hr

theorem obeys_opening {W : World → Prop} {p : Call → Prop} {opening : Action Opening}
    (hp : Allows e W p) (hr : r.opening? e = some opening) : Obeys W p opening := by
  cases r <;> cases hr
  · exact obeys_startOpening hp
  · exact obeys_completeOpening hp
  · exact obeys_retryOpening hp

/-- A step that was carried out for a request and written. -/
structure Stepped (e : Engine) (x : Session) (r : Request) (opening : Action Opening)
    (y : Session) where
  opens : Opening
  before : Ambient
  world : World
  step : Step
  after : Ambient
  run : Action.run x.world (r.noted x.ambient) opening = ((.ok opens, before), world)
  follow : follow e opens before = (.ok step, after)
  committed : x.store.Committed step.settled.commit y.store
  supply : y.supply = after.supply

theorem serve_eq {ret : Except EngineError Unit} {a' : Ambient} {w' : World}
    (h : Action.run x.world x.ambient (r.perform e) = ((ret, a'), w')) : x.serve e r = ⟨w', a'⟩ := by
  unfold serve
  rw [h]

/-- A request does what its step does, and closes the span that it opened. -/
theorem run_perform_notes {opening : Action Opening} {ret : Except EngineError Step} {a' : Ambient}
    {w' : World} (hr : r.opening? e = some opening)
    (h : Action.run x.world (r.noted x.ambient) (carryOut e opening) = ((ret, a'), w')) :
    ∃ entries, Action.run x.world x.ambient (r.perform e) =
      ((ret.map fun _ => (), { a' with trace := entries }), w') := by
  cases r with
  | start definitionId vars =>
    cases hr
    have hid := run_bind_pure (fun s : Step => s.record.id) h
    refine ⟨.closed :: a'.trace, ?_⟩
    refine (run_discard (run_within .start [(.definitionId, definitionId)] _ hid)).trans ?_
    cases ret <;> rfl
  | complete taskId output =>
    cases hr
    exact ⟨_, run_within _ _ _ (run_discard h)⟩
  | retry id =>
    cases hr
    exact ⟨_, run_discard h⟩
  | deploy d => cases hr
  | updateVariables id vars => cases hr
  | terminate id => cases hr
  | tick tolerance now => cases hr

theorem run_perform {opening : Action Opening} {ret : Except EngineError Step} {a' : Ambient}
    {w' : World} (hr : r.opening? e = some opening)
    (h : Action.run x.world (r.noted x.ambient) (carryOut e opening) = ((ret, a'), w')) :
    ∃ a'', Action.run x.world x.ambient (r.perform e) = ((ret.map fun _ => (), a''), w') ∧
      a''.supply = a'.supply := by
  obtain ⟨entries, hperform⟩ := run_perform_notes hr h
  exact ⟨_, hperform, rfl⟩

/-- What the permitted calls keep, a request keeps, whatever its handlers do. -/
theorem world_serve {W : World → Prop} {p : Call → Prop} {I : World → Prop} (hp : Permits e W p)
    (hW : ∀ w, I w → W w) (hI : ∀ w c, p c → I w → I (w.answer c).2)
    (hdeploy : ∀ d, r = .deploy d → Obeys W p (e.deploy d)) (hx : I x.world) :
    I (x.serve e r).world := by
  cases hr : r.opening? e with
  | none => exact ((obeys_still hp hr hdeploy).run hW hI hx).2
  | some opening =>
    rcases hrun : Action.run x.world (r.noted x.ambient) (carryOut e opening) with ⟨⟨ret, a'⟩, w'⟩
    obtain ⟨a'', hperform, -⟩ := run_perform hr hrun
    rw [serve_eq hperform]
    change I w'
    have hopening := (obeys_opening hp.toAllows hr).run (a := r.noted x.ambient) hW hI hx
    rcases run_bind_cases hrun with ⟨err, hfail, -⟩ | ⟨o, a₁, w₁, ho, hrest⟩
    · rw [hfail] at hopening
      exact hopening.2
    · rw [ho] at hopening
      rcases run_lift_bind_cases hrest with ⟨err, -, -, rfl⟩ | ⟨s, a₂, -, hfinish⟩
      · exact hopening.2
      · have hend := (obeys_bind (obeys_finish (e := e) (s := s) hp.commits)
          fun _ => obeys_pure s).run (a := a₂) hW hI hopening.2
        rw [hfinish] at hend
        exact hend.2

/-- A request that moves tokens writes its step and reports what became of them, or else fails and
leaves the store alone. -/
theorem serve_result {opening : Action Opening} (hr : r.opening? e = some opening) :
    ((∃ err, x.result e r = .error err ∧ Unwritten e opening x.world (r.noted x.ambient) err) ∧
        (x.serve e r).store = x.store) ∨
      ∃ st : Stepped e x r opening (x.serve e r), x.result e r = st.step.report := by
  rcases hrun : Action.run x.world (r.noted x.ambient) (carryOut e opening) with ⟨⟨ret, a'⟩, w'⟩
  obtain ⟨a'', hperform, hsupply⟩ := run_perform hr hrun
  have hserve := serve_eq hperform
  have hresult : x.result e r = ret.map fun _ => () := by
    unfold result
    rw [hperform]
  rw [hserve, hresult]
  apply (carryOut_result (obeys_opening allows_keepsStore hr) hrun).imp
  · rintro ⟨⟨err, rfl, hunwritten⟩, hsame⟩
    exact ⟨⟨err, rfl, hunwritten⟩, hsame⟩
  · rintro ⟨o, a₁, w₁, s, a₂, hopens, hfollow, hreport, hcommitted, hsupply'⟩
    exact ⟨⟨o, a₁, w₁, s, a₂, hopens, hfollow, hcommitted, hsupply.trans hsupply'⟩, hreport⟩

/-- A request that moves tokens writes its step, or leaves the store alone. -/
theorem serve_stepping {opening : Action Opening} (hr : r.opening? e = some opening) :
    (x.serve e r).store = x.store ∨ Nonempty (Stepped e x r opening (x.serve e r)) :=
  (serve_result hr).imp (fun h => h.2) fun ⟨st, _⟩ => ⟨st⟩

/-! ### Requests that move none -/

/-- A change to the store in which no token moves. -/
inductive Change : Store → Store → Prop where
  | defines {store} (d : Definition) : Change store (store.putDefinition d)
  | sets {store : Store} {id i now} (vars : Variables) (hi : store.instance? id = some i)
    (hactive : i.isActive = true) :
    Change store (store.putInstance { i with vars := i.vars.union vars, updatedAt := now })
  | closes {store store' : Store} {id i now} (ending : Ending) (hi : store.instance? id = some i)
    (hactive : i.isActive = true)
    (h : store.Committed (closing i (store.tasksOf id) ending.state now).commit store') :
    Change store store'

/-- Whatever the world, an action makes such changes to its store only. -/
def Changes {α : Type} (x : Action α) : Prop :=
  ∀ w a, ReflTransGen Change w.store (Action.run w a x).2.store

theorem changes_of_obeys {α : Type} {x : Action α} (h : Obeys (fun _ => True) Call.KeepsStore x) :
    Changes x := by
  intro w a
  rcases hrun : Action.run w a x with ⟨⟨r, a'⟩, w'⟩
  exact (Action.Obeys.run_keepsStore h hrun).1 ▸ .refl

theorem changes_bind {α β : Type} {x : Action α} {f : α → Action β} (hx : Changes x)
    (hf : ∀ v, Changes (f v)) : Changes (x >>= f) := by
  intro w a
  rcases h : Action.run w a (x >>= f) with ⟨⟨r, a'⟩, w'⟩
  rcases run_bind_cases h with ⟨err, hfail, -⟩ | ⟨v, a₁, w₁, hv, h⟩
  · simpa [hfail] using hx w a
  · have hfirst := hx w a
    have hrest := hf v w₁ a₁
    rw [hv] at hfirst
    rw [h] at hrest
    exact hfirst.trans hrest

theorem changes_outcome {α : Type} {x : Action α} (hx : Changes x) : Changes (outcome x) := by
  intro w a
  rw [run_outcome]
  exact hx w a

theorem changes_close {id : Uuid} {ending : Ending} {now : Instant} :
    Changes (close e id ending now) := by
  intro w a
  rcases h : Action.run w a (close e id ending now) with ⟨⟨r, a'⟩, w'⟩
  rcases close_result h with ⟨-, hsame⟩ | ⟨-, i, hi, hactive, hcommitted⟩
  · rw [hsame]
  · exact .single (.closes ending hi hactive hcommitted)

theorem changes_tick (s : Scheduler) (now : Instant) : Changes (s.tick now) := by
  have hvisit : ∀ i, Changes (s.visit i now) := by
    intro i
    unfold Scheduler.visit
    split
    · exact changes_bind changes_close fun _ => changes_of_obeys (obeys_pure _)
    · exact changes_of_obeys (obeys_bind (obeys_definition allows_keepsStore) fun _ =>
        Scheduler.obeys_remind allows_keepsStore (fun _ _ _ _ _ => rfl) i 0 _)
  have hall : ∀ is r, Changes (s.visitAll now r is) := by
    intro is
    induction is with
    | nil => exact fun r => changes_of_obeys (obeys_pure _)
    | cons i is ih =>
      intro r
      unfold Scheduler.visitAll
      refine changes_bind (changes_outcome (hvisit i)) fun v => ?_
      split
      · exact changes_of_obeys (obeys_pure _)
      · exact ih _
  have hpass : Changes (s.pass now) :=
    changes_bind (changes_of_obeys (obeys_ask fun _ => rfl)) fun _ =>
      changes_bind (changes_of_obeys (obeys_accepted _)) fun is => hall is _
  unfold Scheduler.tick
  refine changes_bind (changes_of_obeys (obeys_ask fun _ => rfl)) fun taken => ?_
  split
  · exact changes_bind (changes_outcome hpass) fun r =>
      changes_of_obeys (obeys_bind (obeys_ask fun _ => rfl) fun _ => obeys_resume r)
  · exact changes_of_obeys (obeys_pure _)

/-- A request that moves no tokens makes other changes, one after another. -/
theorem serve_changes (hr : r.opening? e = none) :
    ReflTransGen Change x.store (x.serve e r).store := by
  rcases hrun : Action.run x.world x.ambient (r.perform e) with ⟨⟨ret, a'⟩, w'⟩
  have hof : Changes (r.perform e) → ReflTransGen Change x.store (x.serve e r).store :=
    fun h => h x.world x.ambient
  cases r with
  | start definitionId vars => cases hr
  | complete taskId output => cases hr
  | retry id => cases hr
  | deploy d =>
    rw [serve_eq hrun]
    change ReflTransGen Change x.world.store w'.store
    rcases deploy_cases hrun with ⟨-, rfl⟩ | ⟨-, -, rfl⟩
    · exact .refl
    · exact .single (.defines d)
  | updateVariables id vars =>
    rw [serve_eq hrun]
    change ReflTransGen Change x.world.store w'.store
    rcases updateVariables_result e hrun with ⟨-, hsame⟩ | ⟨-, i, now, hi, hactive, hput⟩
    · rw [hsame]
    · rw [hput]
      exact .single (.sets vars hi hactive)
  | terminate id =>
    exact hof (changes_bind (changes_of_obeys (obeys_lift Attempt.regular_now)) fun _ =>
      changes_close)
  | tick tolerance now =>
    exact hof (changes_bind (changes_tick _ now) fun _ => changes_of_obeys (obeys_pure _))

/-! ### Soundness -/

theorem foldl_depart (ns : List String) (s : Step) : ns.foldl Step.depart s =
    { s with record.currentNodes := ns.foldl NameSet.erase s.record.currentNodes } := by
  induction ns generalizing s with
  | nil => rfl
  | cons n ns ih =>
    rw [List.foldl_cons, ih]
    rfl

theorem pickUp_eq (i : Instance) (f : Failure) (now : Instant) : pickUp i f now =
    .begin { i with
      failure := none, currentNodes := f.nodes.foldl NameSet.erase i.currentNodes } now := by
  rw [pickUp, foldl_depart]
  rfl

namespace Opens

variable {store : Store} {supply supply' : Supply} {o : Opening}

theorem created_eq (h : Opens e store supply o supply') : o.step.created = [] := by
  cases h with
  | starts hstart hdrawn => rfl
  | stays ht hopen hi hactive hothers => rfl
  | leaves ht hopen hi hactive hlast => rfl
  | retries hi hactive hf =>
    rw [Opening.step, pickUp_eq]
    rfl

theorem updated_closed (h : Opens e store supply o supply') (hs : store.Sound) {t : Task}
    (ht : t ∈ o.step.updated) : t.isOpen = false ∧ t.instanceId = o.step.record.id ∧
      ∀ u, store.task? t.id = some u → u.instanceId = o.step.record.id := by
  have hcompletion : ∀ {id : Uuid} {t u : Task} {i : Instance} {output now},
      store.task? id = some t → store.instance? t.instanceId = some i →
      u ∈ (completion i t output now).updated → u.isOpen = false ∧ u.instanceId = i.id ∧
        ∀ v, store.task? u.id = some v → v.instanceId = i.id := by
    intro id t u i output now ht hi hu
    obtain rfl : u = handedIn t output now := by simpa [completion, Step.update, Step.begin] using hu
    have hid : t.id = id := hs.tasks ht
    have howner : i.id = t.instanceId := hs.instances hi
    refine ⟨rfl, howner.symm, fun v hv => ?_⟩
    have hvt : v = t := by simpa [handedIn, hid, ht] using hv.symm
    rw [hvt, howner]
  cases h with
  | starts hstart hdrawn => cases ht
  | stays ht' hopen hi hactive hothers =>
    have hclosed := hcompletion ht' hi ht
    exact hclosed
  | leaves ht' hopen hi hactive hlast =>
    have hclosed := hcompletion ht' hi ht
    exact hclosed
  | retries hi hactive hf =>
    rw [Opening.step, pickUp_eq] at ht
    cases ht

/-- The step of a request closes tasks of its own instance only. -/
theorem closes_own {s : Step} (h : Opens e store supply o supply') (hs : store.Sound)
    (hm : o.step.Moved s) {t : Task} (ht : t ∈ s.settled.commit.updated) :
    t.isOpen = false ∧ t.instanceId = s.settled.commit.record.id ∧
      ∀ u, store.task? t.id = some u → u.instanceId = s.settled.commit.record.id := by
  have hid : s.settled.commit.record.id = o.step.record.id := by
    rw [← hm.id_eq, ← s.id_settled]
    rfl
  have hupdated : s.settled.commit.updated = o.step.updated := by
    rw [← hm.updated, ← s.updated_settled]
    rfl
  rw [hid]
  exact h.updated_closed hs (hupdated ▸ ht)

/-- The step of a request closes tasks of its own instance only, and creates tasks of new ids. -/
theorem orderly {supply'' : Supply} {s : Step} (h : Opens e store supply o supply')
    (hs : store.Sound) (hf : Frame supply' o.step supply'' s) (hd : supply''.Distinct) :
    store.Orderly s.settled.commit := by
  refine ⟨fun t ht => (h.closes_own hs hf.moved ht).1, fun t ht => (h.closes_own hs hf.moved ht).2, ?_⟩
  obtain ⟨ts, hts, -, hminted⟩ := hf.created
  rw [h.created_eq, List.nil_append] at hts
  change (s.settled.created.map Task.id).Nodup
  rw [s.created_settled, hts]
  exact hminted.nodup hf.grows hd

end Opens

namespace Stepped

variable {opening : Action Opening} {y : Session}

theorem opens_store (st : Stepped e x r opening y) (hr : r.opening? e = some opening) :
    Opens e x.store x.supply st.opens st.before.supply := by
  have h := opens_of_run hr st.run
  rwa [r.supply_noted] at h

theorem frame (st : Stepped e x r opening y) (hm : e.registry.Mints) :
    Frame st.before.supply st.opens.step y.supply st.step := by
  rw [st.supply]
  exact follow_frame hm st.follow

end Stepped

theorem orderly_closing {store : Store} {id : Uuid} {i : Instance} {state : InstanceState}
    {now : Instant} (hs : store.Sound) (hi : store.instance? id = some i) :
    store.Orderly (closing i (store.tasksOf id) state now).commit := by
  have hid : i.id = id := hs.instances hi
  refine ⟨fun t ht => ?_, fun t ht => ?_, .nil⟩
  · obtain ⟨u, -, rfl⟩ := List.mem_map.1 ht
    rfl
  · obtain ⟨u, hu, rfl⟩ := List.mem_map.1 ht
    obtain ⟨hu, howner⟩ := hs.mem_tasksOf.1 (List.mem_filter.1 hu).1
    refine ⟨howner.trans hid.symm, fun v hv => ?_⟩
    have hvu : v = u := Option.some.inj (hv.symm.trans hu)
    rw [hvu, howner]
    exact hid.symm

theorem Change.sound {store store' : Store} (h : Change store store') (hs : store.Sound) :
    store'.Sound := by
  cases h with
  | defines d => exact hs.putDefinition
  | sets vars hi hactive => exact hs.putInstance
  | closes ending hi hactive hcommitted => exact hcommitted.sound (orderly_closing hs hi) hs

/-- What an instance keeps from its start on. -/
structure SameOrigin (i j : Instance) : Prop where
  definitionId : j.definitionId = i.definitionId
  reminder : j.reminder = i.reminder
  createdAt : j.createdAt = i.createdAt
  deadline : j.deadline = i.deadline

theorem SameOrigin.trans {i j k : Instance} (h : SameOrigin i j) (h' : SameOrigin j k) :
    SameOrigin i k where
  definitionId := h'.definitionId.trans h.definitionId
  reminder := h'.reminder.trans h.reminder
  createdAt := h'.createdAt.trans h.createdAt
  deadline := h'.deadline.trans h.deadline

/-- An instance before and after a change in which none of its tokens moves; if it was ended, it has
lost what had arrived at joins. -/
structure Still (i j : Instance) : Prop extends SameOrigin i j where
  currentNodes : j.currentNodes = i.currentNodes
  failure : j.failure = i.failure
  joinArrivals : j.joinArrivals = i.joinArrivals ∧ j.isActive = i.isActive ∨
    j.joinArrivals = ∅ ∧ j.isActive = false

theorem Still.refl (i : Instance) : Still i i :=
  ⟨⟨rfl, rfl, rfl, rfl⟩, rfl, rfl, Or.inl ⟨rfl, rfl⟩⟩

theorem Change.still {store store' : Store} {id : Uuid} {j : Instance} (h : Change store store')
    (hs : store.Sound) (hj : store'.instance? id = some j) :
    ∃ i, store.instance? id = some i ∧ Still i j := by
  cases h with
  | defines d => exact ⟨j, hj, .refl j⟩
  | @sets id' i now vars hi hactive =>
    rw [Store.instance?_putInstance] at hj
    split at hj
    · rename_i hid
      have hid' : i.id = id' := hs.instances hi
      cases hj
      exact ⟨i, by rwa [hid.trans hid'], ⟨rfl, rfl, rfl, rfl⟩, rfl, rfl, Or.inl ⟨rfl, rfl⟩⟩
    · exact ⟨j, hj, .refl j⟩
  | @closes _ id' i now ending hi hactive hcommitted =>
    rw [hcommitted.record] at hj
    split at hj
    · rename_i hid
      have hid' : i.id = id' := hs.instances hi
      cases hj
      refine ⟨i, by rwa [hid.trans hid'], ⟨rfl, rfl, rfl, rfl⟩, rfl, rfl, Or.inr ⟨rfl, ?_⟩⟩
      cases ending <;> rfl
    · exact ⟨j, hj, .refl j⟩

theorem changes_keep {P : Store → Prop} {store store' : Store} (h : ReflTransGen Change store store')
    (hchange : ∀ {store store'}, Change store store' → store.Sound → P store → P store')
    (hs : store.Sound) (hP : P store) : store'.Sound ∧ P store' := by
  induction h with
  | refl => exact ⟨hs, hP⟩
  | tail _ hlast ih => exact ⟨hlast.sound ih.1, hchange hlast ih.1 ih.2⟩

/-- Histories request by request: one that leaves the store alone, one that makes changes in which no
token moves, or one that writes a step. -/
theorem history_induction {P : List Request → Session → Prop} {s : Supply}
    (hm : e.registry.Mints) (hempty : P [] (opened s))
    (hsame : ∀ {rs x r y}, x = history e s rs → y = x.serve e r → y.store = x.store → P rs x →
      P (rs ++ [r]) y)
    (hchange : ∀ {rs x r y}, x = history e s rs → y = x.serve e r → r.opening? e = none →
      ReflTransGen Change x.store y.store → x.store.Sound → P rs x → P (rs ++ [r]) y)
    (hstep : ∀ {rs x r y opening}, x = history e s rs → y = x.serve e r →
      r.opening? e = some opening → Stepped e x r opening y → x.store.Sound → y.supply.Distinct →
      P rs x → P (rs ++ [r]) y)
    {rs : List Request} (hd : (history e s rs).supply.Distinct) :
    (history e s rs).store.Sound ∧ P rs (history e s rs) := by
  induction rs using List.reverseRecOn with
  | nil => exact ⟨Store.sound_empty, hempty⟩
  | append_singleton rs r ih =>
    rw [history_concat] at hd ⊢
    -- ids that are distinct in the end were distinct all along
    obtain ⟨hs, hP⟩ := ih (hd.of_grows (grows_serve hm.draws _ r))
    cases hr : r.opening? e with
    | none =>
      have hchanges := serve_changes (x := history e s rs) hr
      exact ⟨(changes_keep (P := fun _ => True) hchanges (fun _ _ _ => trivial) hs trivial).1,
        hchange rfl rfl hr hchanges hs hP⟩
    | some opening =>
      rcases serve_stepping (x := history e s rs) hr with hstore | ⟨⟨st⟩⟩
      · exact ⟨hstore ▸ hs, hsame rfl rfl hstore hP⟩
      · have horderly := (st.opens_store hr).orderly hs (st.frame hm) hd
        exact ⟨st.committed.sound horderly hs, hstep rfl rfl hr st hs hd hP⟩

/-- What is there at the start, what every step keeps and what every other change keeps, is there after
every history. -/
theorem history_keeps {P : Store → Prop} {s : Supply} (hm : e.registry.Mints) (hempty : P ∅)
    (hchange : ∀ {store store'}, Change store store' → store.Sound → P store → P store')
    (hstep : ∀ {x r opening y}, r.opening? e = some opening → Stepped e x r opening y →
      x.store.Sound → y.supply.Distinct → P x.store → P y.store)
    {rs : List Request} (hd : (history e s rs).supply.Distinct) :
    (history e s rs).store.Sound ∧ P (history e s rs).store :=
  history_induction (P := fun _ x => P x.store) hm hempty (fun _ _ hstore hP => hstore ▸ hP)
    (fun _ _ _ hchanges hs hP => (changes_keep hchanges hchange hs hP).2)
    (fun _ _ hr st hs hd hP => hstep hr st hs hd hP) hd

/-! ### A plain engine -/

/-- An engine without handlers of its own and without listeners. -/
def plainEngine : Engine := ⟨.standard, .standard, ∅, .default⟩

/-- A clock that stands still, and the ids one after another. -/
def countedIds : Supply := .ofSequences (fun _ => ⟨0, 0⟩) fun n => ⟨BitVec.ofNat 128 n⟩

theorem plainEngine_mints : plainEngine.registry.Mints := Registry.mints_of_standard rfl

theorem distinct_of_draws (hdraws : e.registry.Draws) {rs : List Request} {n : Nat}
    (hn : n ≤ 2 ^ 128) (h : (history e countedIds rs).supply.drawn = n) :
    (history e countedIds rs).supply.Distinct := by
  intro j k hj hk hjk
  rw [(grows_history hdraws countedIds rs).ids] at hjk
  have hbits : BitVec.ofNat 128 j = BitVec.ofNat 128 k := congrArg Uuid.bits hjk
  have hmod := congrArg BitVec.toNat hbits
  rw [BitVec.toNat_ofNat, BitVec.toNat_ofNat] at hmod
  omega

theorem distinct_countedIds {rs : List Request} {n : Nat} (hn : n ≤ 2 ^ 128)
    (h : (history plainEngine countedIds rs).supply.drawn = n) :
    (history plainEngine countedIds rs).supply.Distinct :=
  distinct_of_draws plainEngine_mints.draws hn h

end Session

end Workflow
