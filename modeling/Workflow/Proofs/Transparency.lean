import Workflow.Proofs.Agreement

/-!
The cache of definitions makes no difference to callers: an engine that caches definitions and one that
does not give the same replies to the same requests and leave the same store
(`Session.cache_transparent`). Which definition an id stands for can be told from the replies alone: it
is the one that was last deployed with success (`Session.definition?_after`).
-/
namespace Workflow

open Time (Span)
open Engine Engine.Action

/-- What a caller is told when a request succeeds. -/
inductive Reply where
  | done
  | started (id : Uuid)
  | ticked (outcome : TickOutcome)
deriving DecidableEq, Repr

/-- A request that is performed with all that it is answered. -/
def Request.reply (e : Engine) : Request → Action Reply
  | deploy d => do
    e.deploy d
    return .done
  | start definitionId vars => do return .started (← e.start definitionId vars)
  | complete taskId output => do
    e.complete taskId output
    return .done
  | updateVariables id vars => do
    Engine.updateVariables id vars
    return .done
  | retry id => do
    e.retry id
    return .done
  | terminate id => do
    e.terminate id
    return .done
  | tick tolerance now => do return .ticked (← Scheduler.tick ⟨e, tolerance⟩ now)

/-- The definition that a request deployed under a name, if it did so with success. -/
def deployedAs (name : String) : Request × Except EngineError Reply → Option Definition
  | (.deploy d, .ok _) => if d.id = name then some d else none
  | _ => none

/-- The definition that was deployed last under a name. -/
def lastDeployed (name : String) (log : List (Request × Except EngineError Reply)) :
    Option Definition :=
  log.reverse.findSome? (deployedAs name)

theorem lastDeployed_cons (name : String) (entry : Request × Except EngineError Reply)
    (log : List (Request × Except EngineError Reply)) :
    lastDeployed name (entry :: log) = (lastDeployed name log).or (deployedAs name entry) := by
  unfold lastDeployed
  rw [List.reverse_cons, List.findSome?_append]
  cases hentry : deployedAs name entry <;> simp [hentry]

namespace Session

def reply (e : Engine) (x : Session) (r : Request) : Except EngineError Reply :=
  (Action.run x.world x.ambient (r.reply e)).1.1

/-- The requests with their replies, served one after another. -/
def log (e : Engine) (x : Session) : List Request → List (Request × Except EngineError Reply)
  | [] => []
  | r :: rs => (r, x.reply e r) :: (x.serve e r).log e rs

def after (e : Engine) (x : Session) (rs : List Request) : Session := rs.foldl (serve e) x

/-- What looking up a definition comes to. -/
def finds (e : Engine) (x : Session) (name : String) : Except EngineError Definition :=
  (Action.run x.world x.ambient (definition e name)).1.1

/-- A session whose store has definitions that the engine could have deployed, and whose cache is empty. -/
structure Begins (e : Engine) (x : Session) : Prop where
  named : ∀ {n d}, x.store.definition? n = some d → d.id = n
  checked : ∀ {n d}, x.store.definition? n = some d → check e d = .ok ()
  wholeMinutes : ∀ {n d}, x.store.definition? n = some d → d.InWholeMinutes
  cache : x.world.cache = ∅

theorem begins_opened (e : Engine) (s : Supply) : Begins e (opened s) :=
  ⟨(fun h => nomatch h), (fun h => nomatch h), (fun h => nomatch h), rfl⟩

variable {e : Engine} {x y : Session} {r : Request} {rs : List Request} {name : String}

/-! ### Replies -/

/-- Who asks for the reply performs the request. -/
theorem run_perform_eq (e : Engine) (x : Session) (r : Request) :
    Action.run x.world x.ambient (r.perform e) =
      (((x.reply e r).map fun _ => (), (Action.run x.world x.ambient (r.reply e)).1.2),
        (Action.run x.world x.ambient (r.reply e)).2) := by
  have htold : ∀ {α : Type} {z : Action α} {f : α → Reply},
      Action.run x.world x.ambient (r.perform e) = Action.run x.world x.ambient (discard z) →
      (r.reply e = z >>= fun v => pure (f v)) →
      Action.run x.world x.ambient (r.perform e) =
        (((x.reply e r).map fun _ => (), (Action.run x.world x.ambient (r.reply e)).1.2),
          (Action.run x.world x.ambient (r.reply e)).2) := by
    intro α z f hperform hreply
    rcases hrun : Action.run x.world x.ambient z with ⟨⟨ret, a⟩, w⟩
    rw [reply, hperform, hreply, run_bind_pure _ hrun, run_discard hrun]
    cases ret <;> rfl
  -- there is nothing to discard of what is merely done
  have hdone : ∀ z : Action Unit,
      Action.run x.world x.ambient z = Action.run x.world x.ambient (discard z) := by
    intro z
    rcases hrun : Action.run x.world x.ambient z with ⟨⟨ret, a⟩, w⟩
    rw [run_discard hrun]
    cases ret <;> rfl
  cases r with
  | start definitionId vars => exact htold rfl rfl
  | tick tolerance now => exact htold rfl rfl
  | deploy d => exact htold (hdone _) rfl
  | complete taskId output => exact htold (hdone _) rfl
  | updateVariables id vars => exact htold (hdone _) rfl
  | retry id => exact htold (hdone _) rfl
  | terminate id => exact htold (hdone _) rfl

theorem serve_eq_of_reply (e : Engine) (x : Session) (r : Request) :
    x.serve e r = ⟨(Action.run x.world x.ambient (r.reply e)).2,
      (Action.run x.world x.ambient (r.reply e)).1.2⟩ :=
  serve_eq (run_perform_eq e x r)

theorem reply_deploy (d : Definition) : x.reply e (.deploy d) =
    ((check e d).mapError .configuration).map fun _ => .done := by
  obtain ⟨entries, hrun⟩ := run_deploy e x.world x.ambient d
  exact congrArg (fun o => o.1.1) (run_bind_pure (fun _ => Reply.done) hrun)

/-! ### Definitions -/

/-- A deployment that succeeds puts its definition into the store, and nothing else does. -/
theorem definition?_serve_eq : (x.serve e r).store.definition? name =
    (deployedAs name (r, x.reply e r)).or (x.store.definition? name) := by
  by_cases hdeploy : ∃ d, r = .deploy d
  · obtain ⟨d, rfl⟩ := hdeploy
    obtain ⟨entries, hrun⟩ := run_deploy e x.world x.ambient d
    rw [serve_eq hrun, reply_deploy]
    cases hcheck : check e d with
    | error cause => rfl
    | ok u =>
      rw [if_pos rfl]
      change (x.store.definitions.insert d.id d).get? name = (if d.id = name then some d else none).or _
      rw [Dict.get?_insert]
      by_cases hname : d.id = name
      · rw [if_pos hname, if_pos hname.symm]
        rfl
      · rw [if_neg hname, if_neg fun h => hname h.symm]
        rfl
  · have hsame := (mirrors_serve (e := e) (x := x) (I := fun _ => True)
      (fun d hd => hdeploy ⟨d, hd⟩) (fun _ _ _ _ => trivial) trivial).1
    have hnone : deployedAs name (r, x.reply e r) = none := by
      cases r with
      | deploy d => exact absurd ⟨d, rfl⟩ hdeploy
      | _ => rfl
    rw [hnone, Store.definition?, hsame]
    rfl

theorem definition?_after (e : Engine) (x : Session) (rs : List Request) (name : String) :
    (x.after e rs).store.definition? name =
      (lastDeployed name (x.log e rs)).or (x.store.definition? name) := by
  induction rs generalizing x with
  | nil => rfl
  | cons r rs ih =>
    change ((x.serve e r).after e rs).store.definition? name = _
    rw [ih, definition?_serve_eq, log, lastDeployed_cons, Option.or_assoc]

/-! ### Two engines -/

/-- The session of an engine that caches definitions, and that of one that does not. -/
structure Beside (e : Engine) (x y : Session) : Prop where
  world : Twins e x.world y.world
  ambient : x.ambient.untraced = y.ambient.untraced

theorem Begins.beside (h : Begins e x) : Beside e x x where
  world := ⟨rfl, rfl, fun _ _ => rfl, ⟨h.named, h.checked, fun _ {n v} hv => by
    rw [h.cache] at hv
    cases hv⟩, h.wholeMinutes⟩
  ambient := rfl

theorem agree_reply (hr : ∀ d, r = .deploy d → d.InWholeMinutes) :
    Agree e (r.reply (e.caching true)) (r.reply (e.caching false)) := by
  cases r with
  | deploy d => exact agree_bind (agree_deploy (hr d rfl)) fun _ => agree_pure _
  | start definitionId vars => exact agree_bind (agree_start _ _) fun _ => agree_pure _
  | complete taskId output => exact agree_bind (agree_complete _) fun _ => agree_pure _
  | updateVariables id vars => exact agree_bind (agree_updateVariables _) fun _ => agree_pure _
  | retry id => exact agree_bind agree_retry fun _ => agree_pure _
  | terminate id => exact agree_bind agree_terminate fun _ => agree_pure _
  | tick tolerance now => exact agree_bind Scheduler.agree_tick fun _ => agree_pure _

namespace Beside

theorem serve (h : Beside e x y) (hr : ∀ d, r = .deploy d → d.InWholeMinutes) :
    x.reply (e.caching true) r = y.reply (e.caching false) r ∧
      Beside e (x.serve (e.caching true) r) (y.serve (e.caching false) r) := by
  obtain ⟨hreply, hambient, hworld⟩ := agree_reply hr _ _ _ _ h.world h.ambient
  rw [serve_eq_of_reply, serve_eq_of_reply]
  exact ⟨hreply, hworld, hambient⟩

theorem after (h : Beside e x y) (hrs : ∀ d, .deploy d ∈ rs → d.InWholeMinutes) :
    x.log (e.caching true) rs = y.log (e.caching false) rs ∧
      Beside e (x.after (e.caching true) rs) (y.after (e.caching false) rs) := by
  induction rs generalizing x y with
  | nil => exact ⟨rfl, h⟩
  | cons r rs ih =>
    obtain ⟨hreply, hserved⟩ := h.serve (r := r) fun d hd => hrs d (hd ▸ List.mem_cons_self)
    obtain ⟨hlog, hafter⟩ := ih hserved fun d hd => hrs d (List.mem_cons_of_mem _ hd)
    exact ⟨by rw [log, log, hreply, hlog], hafter⟩

theorem finds_eq (h : Beside e x y) (name : String) :
    x.finds (e.caching true) name = y.finds (e.caching false) name :=
  (agree_definition name _ _ _ _ h.world h.ambient).1

/-- The engine without a cache finds what is stored. -/
theorem finds_of_uncached (h : Beside e x y) (name : String) :
    y.finds (e.caching false) name = match y.store.definition? name with
      | some d => .ok d
      | none => .error (.notFound (.definition name)) := by
  have huncached : cachedCopy? (e.caching false) y.world name = none := rfl
  unfold finds store
  rw [result_definition, lookedUp, huncached]
  cases hd : y.world.store.definition? name with
  | none => rfl
  | some d =>
    have hcheck : check (e.caching false) d = .ok () :=
      h.world.faithful.checked (n := name) (by rw [h.world.store, hd])
    simp only
    rw [hcheck]
    rfl

end Beside

/-- Requests that are answered alike with and without definitions in the cache. -/
structure CacheTransparent (e : Engine) (x : Session) (rs : List Request) : Prop where
  replies : x.log (e.caching true) rs = x.log (e.caching false) rs
  store : (x.after (e.caching true) rs).store = (x.after (e.caching false) rs).store
  /-- The same readings of the clock, ids, handler runs and deliveries. -/
  ambient : (x.after (e.caching true) rs).ambient.untraced =
    (x.after (e.caching false) rs).ambient.untraced
  /-- An id stands for the definition that was deployed last, or that was there from the beginning. -/
  finds : ∀ cached name, (x.after (e.caching cached) rs).finds (e.caching cached) name =
    match (lastDeployed name (x.log (e.caching cached) rs)).or (x.store.definition? name) with
    | some d => .ok d
    | none => .error (.notFound (.definition name))

/-- Whether definitions are cached makes no difference, as long as work times are in whole minutes. -/
theorem cache_transparent (hx : Begins e x) (hrs : ∀ d, .deploy d ∈ rs → d.InWholeMinutes) :
    CacheTransparent e x rs := by
  obtain ⟨hlog, hafter⟩ := hx.beside.after hrs
  have hplain : ∀ name, (x.after (e.caching false) rs).finds (e.caching false) name =
      match (lastDeployed name (x.log (e.caching false) rs)).or (x.store.definition? name) with
      | some d => .ok d
      | none => .error (.notFound (.definition name)) := by
    intro name
    rw [hafter.finds_of_uncached, definition?_after]
  refine ⟨hlog, hafter.world.store, hafter.ambient, fun cached name => ?_⟩
  cases cached with
  | false => exact hplain name
  | true => rw [hafter.finds_eq, hlog, hplain]

/-- A definition with a reminder on every hour, of every day or of the work time. -/
def hourly (version : UInt32) (workTime : Option WorkTime) : Definition :=
  { id := "hourly", version, name := none, description := none, reminder := none
    timeoutSeconds := none
    nodes := [
      ⟨"start", none, .start, none, [.plain "report"]⟩,
      ⟨"report", none, .task ["ann"] none (some ⟨"0 0 * * * *", [], workTime⟩), none, [.plain "end"]⟩,
      ⟨"end", none, .stop, none, []⟩] }

def workingHours : WorkTime := ⟨.ofHms 9 0 0, .ofHms 17 30 0⟩

/-- An instance is started before the reminders are limited to working hours. -/
def limiting : List Request :=
  [.deploy (hourly 1 none), .start "hourly" ∅, .deploy (hourly 2 (some workingHours)),
    .tick (Span.ofSeconds 60) ⟨60, 0⟩]

theorem cache_transparent_limiting : Begins plainEngine (opened countedIds) ∧
    (∀ d, .deploy d ∈ limiting → d.InWholeMinutes) ∧
    CacheTransparent plainEngine (opened countedIds) limiting ∧
    ∀ cached, ((opened countedIds).after (plainEngine.caching cached) limiting).finds
      (plainEngine.caching cached) "hourly" = .ok (hourly 2 (some workingHours)) := by
  have hminutes : ∀ d, .deploy d ∈ limiting → d.InWholeMinutes := by
    intro d hd
    simp only [limiting, List.mem_cons, Request.deploy.injEq, List.not_mem_nil, reduceCtorEq, or_false,
      false_or] at hd
    rcases hd with rfl | rfl <;> decide
  have hbegins := begins_opened plainEngine countedIds
  have hcheck : check plainEngine (hourly 2 (some workingHours)) = .ok () := by
    have hvalid : (hourly 2 (some workingHours)).validate = .ok () := by cbv
    have hreminders : (hourly 2 (some workingHours)).validateReminders = .ok () := by decide +kernel
    unfold check checkUse
    rw [hvalid, hreminders]
    rfl
  have htransparent := cache_transparent hbegins hminutes
  refine ⟨hbegins, hminutes, htransparent, fun cached => ?_⟩
  have hreply : ∀ x : Session, x.reply (plainEngine.caching cached)
      (.deploy (hourly 2 (some workingHours))) = .ok .done := by
    intro x
    rw [reply_deploy, show check (plainEngine.caching cached) _ = .ok () from hcheck]
    rfl
  rw [htransparent.finds]
  simp only [log, limiting, lastDeployed_cons, hreply]
  rfl

end Session

end Workflow
