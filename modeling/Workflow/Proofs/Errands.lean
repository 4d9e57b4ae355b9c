import Workflow.Proofs.Listings
import Workflow.Proofs.Reminding
import Workflow.Proofs.Reporting
import Workflow.Proofs.Whereabouts

/-!
What listeners hear while instances are started, worked on and ended. They hear of all that is written and
of nothing else, and all that they hear adds up, just if no step creates a task twice, closes one twice or
starts an instance that is there (`informed_iff`). Where no id is drawn twice this is always so
(`informed_of_distinct`).
-/
namespace Workflow

open Relation
open Time (Instant)
open Engine Engine.Action

/-- What is asked of an engine about instances, and told to listeners. -/
inductive Errand where
  | start (definitionId : String) (vars : Variables)
  | complete (taskId : Uuid) (output : Variables)
  | retry (id : Uuid)
  | terminate (id : Uuid)
  | timeOut (id : Uuid) (now : Instant)

namespace Errand

def perform (e : Engine) : Errand → Action Unit
  | start definitionId vars => discard (e.start definitionId vars)
  | complete taskId output => e.complete taskId output
  | retry id => e.retry id
  | terminate id => e.terminate id
  | timeOut id now => e.close id .timeout now

/-- The request for it, if it moves tokens. -/
def request? : Errand → Option Request
  | start definitionId vars => some (.start definitionId vars)
  | complete taskId output => some (.complete taskId output)
  | retry id => some (.retry id)
  | _ => none

/-- The instance that it ends. -/
def ends? : Errand → Option Uuid
  | terminate id => some id
  | timeOut id _ => some id
  | _ => none

end Errand

namespace Session

def obey (e : Engine) (x : Session) (d : Errand) : Session :=
  ⟨(Action.run x.world x.ambient (d.perform e)).2, (Action.run x.world x.ambient (d.perform e)).1.2⟩

/-- Whether an errand is written: it succeeds, or tells of a token that found no way out. -/
def writes (e : Engine) (x : Session) (d : Errand) : Bool :=
  match (Action.run x.world x.ambient (d.perform e)).1.1 with
  | .ok _ => true
  | .error (.routing _ _) => true
  | .error _ => false

/-- The nodes at which tokens get stuck on an errand, in order. -/
def stuck (e : Engine) (x : Session) (d : Errand) : List String :=
  match d.request?.bind (x.written? e) with
  | some w => w.opening.stuck e w.before
  | none => []

/-- Whether an errand creates no task twice, closes none twice, and starts no instance under the id of
another one. -/
structure Fresh (e : Engine) (x : Session) (d : Errand) : Prop where
  created : ∀ r w, d.request? = some r → x.written? e r = some w → (w.step.created.map Task.id).Nodup
  closed : ∀ id, d.ends? = some id → (((x.store.tasksOf id).filter Task.isOpen).map Task.id).Nodup
  absent : ∀ r w, d.request? = some r → x.written? e r = some w → r.starts = true →
    x.store.instance? w.owner = none

/-- What a listener hears of errands that are written. -/
def news (e : Engine) (listener : Nat) (x : Session) : List Errand → List Event
  | [] => []
  | d :: ds => (if x.writes e d then x.heard listener (x.obey e d) else []) ++
    news e listener (x.obey e d) ds

variable {e : Engine} {x y : Session} {r : Request} {d : Errand} {opening : Action Opening}

/-! ### Steps -/

/-- What a step of a request closes was open, and its instance was active unless it starts one. -/
theorem takesUp_of_run {o : Opening} {w w' : World} {a a' : Ambient} (hk : w.store.Keyed)
    (hr : r.opening? e = some opening) (h : Action.run w a opening = ((.ok o, a'), w')) :
    (∀ t ∈ o.step.updated, t.isOpen = false ∧ ∃ u, w.store.task? t.id = some u ∧ u.isOpen = true) ∧
      (o.step.updated = [] ∨ ∃ t, o.step.updated = [t]) ∧
      (r.starts = false → ∃ i, w.store.instance? o.step.record.id = some i ∧ i.isActive = true) := by
  cases r with
  | start name vars =>
    cases hr
    obtain ⟨d, start, now, -, -, -, rfl⟩ := startOpening_ok h
    exact ⟨(fun t ht => nomatch ht), Or.inl rfl, fun hstarts => nomatch hstarts⟩
  | complete taskId output =>
    cases hr
    obtain ⟨t, i, d, now, ht, hopen, hi, hactive, -, hopens⟩ := completeOpening_ok h
    have htask : t.id = taskId := hk.tasks ht
    have hstep : o.step.updated = [handedIn t output now] ∧ o.step.record.id = i.id := by
      rw [hopens]
      split <;> exact ⟨rfl, rfl⟩
    rw [hstep.1, hstep.2, hk.instances hi]
    refine ⟨fun u hu => ?_, Or.inr ⟨_, rfl⟩, fun _ => ⟨i, hi, hactive⟩⟩
    rw [List.mem_singleton.1 hu]
    exact ⟨rfl, t, (congrArg w.store.task? htask).trans ht, hopen⟩
  | retry id =>
    cases hr
    obtain ⟨i, f, d, now, hi, hactive, -, -, rfl⟩ := retryOpening_ok h
    rw [Opening.step, pickUp_eq]
    refine ⟨?_, Or.inl rfl, fun _ => ⟨i, ?_, hactive⟩⟩
    · rintro _ ⟨⟩
    · exact (congrArg w.store.instance? (hk.instances hi)).trans hi
  | deploy d => cases hr
  | updateVariables id vars => cases hr
  | terminate id => cases hr
  | tick tolerance now => cases hr

/-- A step of a request closes one task at most. -/
theorem Stepped.closes (hk : x.store.Keyed) (hr : r.opening? e = some opening)
    (st : Stepped e x r opening y) :
    Closes x.store st.step.settled.commit r.starts y.store ∧
      (st.step.settled.commit.updated.map Task.id).Nodup := by
  obtain ⟨hclosed, hone, hactive⟩ := takesUp_of_run hk hr st.run
  have hmoved := follow_moved st.follow
  have hupdated : st.step.settled.commit.updated = st.opens.step.updated :=
    st.step.updated_settled.trans hmoved.updated
  have hid : st.step.settled.commit.record.id = st.opens.step.record.id :=
    st.step.id_commit.trans hmoved.id_eq
  rw [← hupdated] at hclosed hone
  rw [← hid] at hactive
  refine ⟨⟨st.committed, hclosed, fun t ht u hu _ => ?_, hactive⟩, ?_⟩
  · rcases hone with hnone | ⟨v, hv⟩
    · rw [hnone] at ht
      cases ht
    · rw [hv] at ht hu
      rw [List.mem_singleton.1 ht, List.mem_singleton.1 hu]
  · rcases hone with hnone | ⟨v, hv⟩
    · rw [hnone]
      exact .nil
    · rw [hv]
      exact List.nodup_singleton _

/-- The step that ends an instance closes open tasks, each in one way. -/
theorem closes_closing {x y : Store} {id : Uuid} {i : Instance} {ending : Ending} {now : Instant}
    (hk : x.Keyed) (hi : x.instance? id = some i) (hactive : i.isActive = true)
    (h : x.Committed (closing i (x.tasksOf id) ending.state now).commit y) :
    Closes x (closing i (x.tasksOf id) ending.state now).commit false y := by
  have hid : x.instance? i.id = some i := (congrArg x.instance? (hk.instances hi)).trans hi
  have hended : ∀ t ∈ (closing i (x.tasksOf id) ending.state now).commit.updated,
      ∃ u, x.task? u.id = some u ∧ u.isOpen = true ∧ t = u.ended now := by
    intro t ht
    obtain ⟨u, hu, rfl⟩ := List.mem_map.1 ht
    obtain ⟨hlisted, hopen⟩ := List.mem_filter.1 hu
    obtain ⟨key, -, hkey⟩ := List.mem_filterMap.1 hlisted
    exact ⟨u, (congrArg x.task? (hk.tasks hkey)).trans hkey, hopen, rfl⟩
  refine ⟨h, fun t ht => ?_, fun t ht u hu hsame => ?_, fun _ => ⟨i, hid, hactive⟩⟩
  · obtain ⟨u, hu, hopen, rfl⟩ := hended t ht
    exact ⟨rfl, u, hu, hopen⟩
  · obtain ⟨v, hv, -, rfl⟩ := hended t ht
    obtain ⟨w, hw, -, rfl⟩ := hended u hu
    rw [show v.id = w.id from hsame, hw] at hv
    rw [Option.some.inj hv]

/-! ### One errand -/

/-- An errand that is written, by the step that it writes. -/
structure Executed (e : Engine) (x : Session) (d : Errand) (c : Commit) (starts : Bool) : Prop where
  closes : Closes x.store c starts (x.obey e d).store
  tells : e.bus.Tells x.ambient.deliveries (c.events starts (x.stuck e d))
    (x.obey e d).ambient.deliveries
  fresh : x.Fresh e d ↔ (c.created.map Task.id).Nodup ∧ (c.updated.map Task.id).Nodup ∧
    (starts = true → x.store.instance? c.record.id = none)

theorem writes_iff : x.writes e d = true ↔
    (Action.run x.world x.ambient (d.perform e)).1.1 = .ok () ∨
      ∃ id n, (Action.run x.world x.ambient (d.perform e)).1.1 = .error (.routing id n) := by
  unfold writes
  split
  · rename_i u h
    simp [h]
  · rename_i id n h
    simp [h]
  · rename_i err hne h
    simp only [Bool.false_eq_true, h, reduceCtorEq, false_or, false_iff]
    rintro ⟨id, n, hrouting⟩
    exact hne id n (Except.error.inj hrouting)

theorem obey_request (hd : d.request? = some r) : x.obey e d = x.serve e r ∧
    (x.writes e d = true ↔ x.Commits e r) ∧ d.ends? = none ∧ ∃ opening, r.opening? e = some opening := by
  rw [writes_iff]
  cases d with
  | start definitionId vars =>
    cases hd
    exact ⟨rfl, Iff.rfl, rfl, _, rfl⟩
  | complete taskId output =>
    cases hd
    exact ⟨rfl, Iff.rfl, rfl, _, rfl⟩
  | retry id =>
    cases hd
    exact ⟨rfl, Iff.rfl, rfl, _, rfl⟩
  | terminate id => cases hd
  | timeOut id now => cases hd

theorem obey_ending {id : Uuid} (hd : d.ends? = some id) : d.request? = none ∧
    ∃ a ending now, a.deliveries = x.ambient.deliveries ∧ x.supply.Grows a.supply ∧
      Action.run x.world x.ambient (d.perform e) = Action.run x.world a (close e id ending now) := by
  cases d with
  | start definitionId vars => cases hd
  | complete taskId output => cases hd
  | retry id' => cases hd
  | terminate id' =>
    cases hd
    exact ⟨rfl, { x.ambient with supply := x.supply.now.2 }, .termination, x.supply.now.1, rfl,
      ⟨rfl, Nat.le_refl _⟩, run_bind_ok rfl⟩
  | timeOut id' now =>
    cases hd
    exact ⟨rfl, x.ambient, .timeout, now, rfl, .refl _, rfl⟩

theorem request_or_ending (d : Errand) :
    (∃ r, d.request? = some r) ∨ ∃ id, d.ends? = some id := by
  cases d with
  | start definitionId vars => exact Or.inl ⟨_, rfl⟩
  | complete taskId output => exact Or.inl ⟨_, rfl⟩
  | retry id => exact Or.inl ⟨_, rfl⟩
  | terminate id => exact Or.inr ⟨_, rfl⟩
  | timeOut id now => exact Or.inr ⟨_, rfl⟩

theorem executed_of_request (hk : x.store.Keyed) (hd : d.request? = some r) (hw : x.writes e d = true) :
    ∃ c, Executed e x d c r.starts := by
  obtain ⟨hobey, hwrites, hends, opening, hr⟩ := obey_request (e := e) (x := x) hd
  have hc := hwrites.1 hw
  obtain ⟨st⟩ := stepped_of_commits hr hc
  obtain ⟨hcloses, hupdated⟩ := st.closes hk hr
  have hsame : (x.obey e d).store = (x.serve e r).store := by rw [hobey]
  have hwritten := st.written?_eq hr
  have hstuck : x.stuck e d = st.opens.stuck e st.before := by
    rw [stuck, hd, Option.bind_some, hwritten]
  refine ⟨st.step.settled.commit, hsame ▸ hcloses, ?_, ?_⟩
  · rw [hobey, hstuck]
    exact st.tells hr hc
  · have hcreated : st.step.settled.commit.created = st.step.created := st.step.created_settled
    rw [hcreated, st.step.id_commit]
    constructor
    · intro hfresh
      exact ⟨hfresh.created r _ hd hwritten, hupdated, hfresh.absent r _ hd hwritten⟩
    · rintro ⟨hnodup, -, habsent⟩
      refine ⟨fun r' w hr' hw' => ?_, fun id hid => ?_, fun r' w hr' hw' => ?_⟩
      · rw [Option.some.inj (hr'.symm.trans hd), hwritten] at hw'
        rw [← Option.some.inj hw']
        exact hnodup
      · rw [hends] at hid
        cases hid
      · rw [Option.some.inj (hr'.symm.trans hd)]
        rw [Option.some.inj (hr'.symm.trans hd), hwritten] at hw'
        rw [← Option.some.inj hw']
        exact habsent

theorem executed_of_ending {id : Uuid} (hk : x.store.Keyed) (hd : d.ends? = some id)
    (hw : x.writes e d = true) : ∃ c, Executed e x d c false := by
  obtain ⟨hrequest, a, ending, now, hpast, -, hrun⟩ := obey_ending (e := e) (x := x) hd
  have hstuck : x.stuck e d = [] := by rw [stuck, hrequest, Option.bind_none]
  rcases hclose : Action.run x.world a (close e id ending now) with ⟨⟨ret, a'⟩, w'⟩
  have hobey : x.obey e d = ⟨w', a'⟩ := by rw [obey, hrun, hclose]
  rw [writes_iff, hrun, hclose] at hw
  rcases hw with rfl | ⟨id', n, rfl⟩
  swap
  · -- an end is turned away or written, but never reports a token
    rcases close_result hclose with ⟨⟨err, herr, hrefusal⟩, -⟩ | ⟨hok, -⟩
    · exact absurd (Except.error.inj herr).symm (hrefusal.not_routing id' n)
    · cases hok
  obtain ⟨i, hi, hactive, hcommitted, htells⟩ := close_tells hk hclose
  rw [hpast] at htells
  refine ⟨(closing i (x.store.tasksOf id) ending.state now).commit, ?_, ?_, ?_⟩
  · rw [hobey]
    exact closes_closing hk hi hactive hcommitted
  · rw [hobey, hstuck]
    exact htells
  · have hids : (closing i (x.store.tasksOf id) ending.state now).commit.updated.map Task.id =
        ((x.store.tasksOf id).filter Task.isOpen).map Task.id := List.map_map ..
    rw [hids]
    constructor
    · exact fun hfresh => ⟨.nil, hfresh.closed id hd, (fun h => nomatch h)⟩
    · rintro ⟨-, hnodup, -⟩
      refine ⟨fun r w hr => ?_, fun id' hid => ?_, fun r w hr => ?_⟩
      · rw [hrequest] at hr
        cases hr
      · rwa [Option.some.inj (hid.symm.trans hd)]
      · rw [hrequest] at hr
        cases hr

/-- An errand that is not written leaves the store alone. -/
theorem store_obey (hw : x.writes e d = false) : (x.obey e d).store = x.store := by
  rcases request_or_ending d with ⟨r, hd⟩ | ⟨id, hd⟩
  · obtain ⟨hobey, hwrites, -, opening, hr⟩ := obey_request (e := e) (x := x) hd
    rw [hobey]
    rcases serve_result (x := x) hr with ⟨-, hsame⟩ | ⟨st, hresult⟩
    · exact hsame
    · have hc : x.Commits e r := by
        rw [Commits, hresult]
        refine st.step.report_eq.imp_right ?_
        rintro ⟨n, -, hn⟩
        exact ⟨_, n, hn⟩
      rw [hwrites.2 hc] at hw
      cases hw
  · obtain ⟨-, a, ending, now, -, -, hrun⟩ := obey_ending (e := e) (x := x) hd
    rcases hclose : Action.run x.world a (close e id ending now) with ⟨⟨ret, a'⟩, w'⟩
    have hobey : x.obey e d = ⟨w', a'⟩ := by rw [obey, hrun, hclose]
    rw [hobey]
    rcases close_result hclose with ⟨-, hsame⟩ | ⟨rfl, -⟩
    · exact hsame
    · rw [writes_iff.2 (Or.inl (by rw [hrun, hclose]))] at hw
      cases hw

theorem exists_executed (hk : x.store.Keyed) (hw : x.writes e d = true) :
    ∃ c starts, Executed e x d c starts := by
  rcases request_or_ending d with ⟨r, hd⟩ | ⟨id, hd⟩
  · obtain ⟨c, h⟩ := executed_of_request hk hd hw
    exact ⟨c, r.starts, h⟩
  · obtain ⟨c, h⟩ := executed_of_ending hk hd hw
    exact ⟨c, false, h⟩

theorem keyed_obey (hk : x.store.Keyed) (d : Errand) : (x.obey e d).store.Keyed := by
  cases hw : x.writes e d with
  | false => rwa [store_obey hw]
  | true =>
    obtain ⟨c, starts, h⟩ := exists_executed hk hw
    exact h.closes.committed.keyed hk

/-- What a listener hears of an errand, if that is written, agrees with what it changes. -/
def Accords (e : Engine) (listener : Nat) (x : Session) (d : Errand) : Prop :=
  x.writes e d = true →
    Agrees x.store (x.stuck e d) (x.heard listener (x.obey e d)) (x.obey e d).store

theorem accords_iff {p : Nat} (hp : e.bus.Hears p) (hk : x.store.Keyed) :
    x.Accords e p d ↔ (x.writes e d = true → x.Fresh e d) := by
  refine imp_congr_right fun hw => ?_
  obtain ⟨c, starts, h⟩ := exists_executed hk hw
  have hheard : x.heard p (x.obey e d) = c.events starts (x.stuck e d) := by
    rw [heard_of_tells p h.tells]
    refine List.filter_eq_self.2 fun ev hev => ?_
    have hfits := fits_of_mem_events (fun t ht => (h.closes.closed t ht).1) hev
    obtain ⟨l, hl, htask, hrecord⟩ := hp
    rw [hl, Option.any_some]
    cases ev with
    | task ev => exact htask
    | instanceRecord ev => exact hrecord
    | reminder ev => exact hfits.elim
  rw [hheard, h.closes.agrees_iff, h.fresh]

/-! ### Runs -/

def obeyAll (e : Engine) (x : Session) (ds : List Errand) : Session := ds.foldl (obey e) x

/-- Whether something holds of every errand of a run, in the session in which it is obeyed. -/
def Throughout (e : Engine) (P : Session → Errand → Prop) (x : Session) (ds : List Errand) : Prop :=
  ∀ earlier d later, ds = earlier ++ d :: later → P (x.obeyAll e earlier) d

/-- What a listener hears agrees with what each errand changes, and adds up. -/
structure Informed (e : Engine) (listener : Nat) (x : Session) (ds : List Errand) : Prop where
  accords : Throughout e (Accords e listener) x ds
  adds : Tallies x.store (x.news e listener ds) (x.obeyAll e ds).store

/-- Whether every errand that is written is fresh. -/
def StaysFresh (e : Engine) (x : Session) (ds : List Errand) : Prop :=
  Throughout e (fun y d => y.writes e d = true → y.Fresh e d) x ds

theorem throughout_cons {P : Session → Errand → Prop} {ds : List Errand}
    (h : Throughout e P x (d :: ds)) : P x d ∧ Throughout e P (x.obey e d) ds := by
  refine ⟨h [] d ds rfl, fun earlier d' later hds => ?_⟩
  exact h (d :: earlier) d' later (congrArg (d :: ·) hds)

theorem keyed_obeyAll (hk : x.store.Keyed) (ds : List Errand) : (x.obeyAll e ds).store.Keyed := by
  induction ds generalizing x with
  | nil => exact hk
  | cons d ds ih => exact ih (keyed_obey hk d)

theorem throughout_accords_iff {p : Nat} {ds : List Errand} (hp : e.bus.Hears p)
    (hk : x.store.Keyed) : Throughout e (Accords e p) x ds ↔ x.StaysFresh e ds :=
  forall₃_congr fun earlier _ _ => imp_congr_right fun _ =>
    accords_iff hp (keyed_obeyAll hk earlier)

/-- What agrees errand by errand adds up over the run. -/
theorem tallies_of_throughout {p : Nat} {ds : List Errand}
    (h : Throughout e (Accords e p) x ds) :
    Tallies x.store (x.news e p ds) (x.obeyAll e ds).store := by
  induction ds generalizing x with
  | nil => exact .refl _
  | cons d ds ih =>
    -- an errand that is not written adds nothing, whatever was told of it
    obtain ⟨hfirst, hrest⟩ := throughout_cons h
    have hlater := ih hrest
    rw [news]
    refine Tallies.trans ?_ hlater
    cases hw : x.writes e d with
    | false =>
      rw [store_obey hw]
      exact .refl _
    | true => exact (hfirst hw).tallies

theorem informed_of_fresh {p : Nat} {ds : List Errand} (hp : e.bus.Hears p) (hk : x.store.Keyed)
    (h : x.StaysFresh e ds) : x.Informed e p ds :=
  have haccords := (throughout_accords_iff hp hk).2 h
  ⟨haccords, tallies_of_throughout haccords⟩

/-- Whatever the store and whatever is asked for, a listener of all tasks and instances hears of what
each errand changes that is written, as it is stored afterwards, and all that it hears adds up, just if
no errand that is written creates a task twice, closes one twice, or starts an instance that is there. -/
theorem informed_iff {p : Nat} {ds : List Errand} (hp : e.bus.Hears p) (hk : x.store.Keyed) :
    x.Informed e p ds ↔ x.StaysFresh e ds := by
  constructor
  · exact fun h => (throughout_accords_iff hp hk).1 h.accords
  · exact informed_of_fresh hp hk

/-! ### Where no id is drawn twice -/

/-- A session in which tasks and instances are where they belong, each task being listed once. -/
structure Tidy (x : Session) : Prop where
  sound : x.store.Sound
  housed : Housed x.supply x.store
  once : ∀ owner, (x.store.order owner).Nodup

theorem nodup_of_committed {x y : Store} {c : Commit} (hs : x.Sound)
    (hcreated : (c.created.map Task.id).Nodup) (h : x.Committed c y)
    (hx : ∀ owner, (x.order owner).Nodup) (owner : Uuid) : (y.order owner).Nodup := by
  rw [h.listing]
  split
  · refine List.nodup_append'.2 ⟨hx owner, hcreated, fun id hold hnew => ?_⟩
    obtain ⟨t, ht, rfl⟩ := List.mem_map.1 hnew
    obtain ⟨u, hu, -⟩ := hs.owned hold
    rw [(h.fresh t ht).2] at hu
    cases hu
  · exact hx owner

theorem nodup_of_change {store store' : Store} (h : Change store store') (hs : store.Sound)
    (hx : ∀ owner, (store.order owner).Nodup) : ∀ owner, (store'.order owner).Nodup := by
  cases h with
  | defines d => exact hx
  | sets vars hi hactive => exact hx
  | closes ending hi hactive hcommitted =>
    refine nodup_of_committed hs ?_ hcommitted hx
    exact List.nodup_nil

theorem Tidy.changes (h : Tidy x) (hgrows : x.supply.Grows y.supply)
    (hchanges : ReflTransGen Change x.store y.store) : Tidy y := by
  obtain ⟨hs, hhoused, honce⟩ := changes_keep
    (P := fun store => Housed x.supply store ∧ ∀ owner, (store.order owner).Nodup) hchanges
    (fun hchange hs hP => ⟨hP.1.change hchange hs, nodup_of_change hchange hs hP.2⟩) h.sound
    ⟨h.housed, h.once⟩
  exact ⟨hs, hhoused.grows hgrows, honce⟩

theorem Tidy.serve (h : Tidy x) (hm : e.registry.Mints) (hd : (x.serve e r).supply.Distinct) :
    Tidy (x.serve e r) := by
  refine ⟨sound_serve h.sound, housed_serve hm.draws h.sound h.housed, ?_⟩
  cases hr : r.opening? e with
  | none => exact (h.changes (grows_serve hm.draws x r) (serve_changes hr)).once
  | some opening =>
    rcases serve_stepping (x := x) hr with hsame | ⟨⟨st⟩⟩
    · exact hsame ▸ h.once
    · have horderly := (st.opens_store hr).orderly h.sound (st.frame hm) hd
      exact nodup_of_committed h.sound horderly.distinct st.committed h.once

theorem grows_obey (hdraws : e.registry.Draws) (x : Session) (d : Errand) :
    x.supply.Grows (x.obey e d).supply := by
  rcases request_or_ending d with ⟨r, hd⟩ | ⟨id, hd⟩
  · rw [(obey_request hd).1]
    exact grows_serve hdraws x r
  · obtain ⟨-, a, ending, now, -, hgrows, hrun⟩ := obey_ending (e := e) (x := x) hd
    have hallows : Allows e (fun _ => True) fun _ => True :=
      ⟨fun _ _ => trivial, fun _ _ _ _ _ _ => trivial⟩
    have hobeys : Obeys (fun _ => True) (fun _ => True) (close e id ending now) :=
      obeys_close hallows fun _ => trivial
    have hclose := hobeys.run (w := x.world) (a := a) (I := fun _ => True) (fun _ _ => trivial)
      (fun _ _ _ _ => trivial) trivial
    rw [← hrun] at hclose
    exact hgrows.trans hclose.1

theorem Tidy.obey (h : Tidy x) (hm : e.registry.Mints) (hd : (x.obey e d).supply.Distinct) :
    Tidy (x.obey e d) := by
  rcases request_or_ending d with ⟨r, hrequest⟩ | ⟨id, hends⟩
  · rw [(obey_request hrequest).1] at hd ⊢
    exact h.serve hm hd
  · obtain ⟨-, a, ending, now, -, -, hrun⟩ := obey_ending (e := e) (x := x) hends
    refine h.changes (grows_obey hm.draws x d) ?_
    have hclose : Changes (close e id ending now) := changes_close
    have hchanges := hclose x.world a
    rw [← hrun] at hchanges
    exact hchanges

theorem map_id_sublist {store : Store} (hk : store.Keyed) (ids : List Uuid) :
    ((ids.filterMap store.task?).map Task.id).Sublist ids := by
  induction ids with
  | nil => exact .slnil
  | cons id ids ih =>
    cases ht : store.task? id with
    | none =>
      rw [List.filterMap_cons_none ht]
      exact ih.cons id
    | some t =>
      rw [List.filterMap_cons_some ht, List.map_cons, hk.tasks ht]
      exact ih.cons_cons id

/-- Where no id is drawn twice, what is written is fresh. -/
theorem Tidy.fresh (h : Tidy x) (hm : e.registry.Mints) (hd : (x.obey e d).supply.Distinct)
    (hw : x.writes e d = true) : x.Fresh e d := by
  -- the ids of a step, and of the instance if it starts one, are drawn while it is made
  have hstep : ∀ r w, d.request? = some r → x.written? e r = some w →
      (w.step.created.map Task.id).Nodup ∧
        (r.starts = true → x.store.instance? w.owner = none) := by
    intro r w hrequest hwritten
    obtain ⟨hobey, hwrites, -, opening, hr⟩ := obey_request (e := e) (x := x) hrequest
    obtain ⟨st⟩ := stepped_of_commits hr (hwrites.1 hw)
    rw [st.written?_eq hr] at hwritten
    rw [hobey] at hd
    rw [← Option.some.inj hwritten]
    refine ⟨?_, fun hstarts => ?_⟩
    · have horderly := (st.opens_store hr).orderly h.sound (st.frame hm) hd
      have hcreated : st.step.settled.commit.created = st.step.created := st.step.created_settled
      exact hcreated ▸ horderly.distinct
    · cases r with
      | start name vars =>
        cases hr
        exact st.absent_of_start hm.draws h.housed (grows_serve hm.draws x _) hd
      | _ => cases hstarts
  refine ⟨fun r w hr hwritten => (hstep r w hr hwritten).1, fun id _ => ?_,
    fun r w hr hwritten => (hstep r w hr hwritten).2⟩
  -- the open tasks of an instance come in the order in which they are listed
  have hlisted := map_id_sublist h.sound.toKeyed (x.store.order id)
  have hopen := (List.filter_sublist (p := Task.isOpen) (l := x.store.tasksOf id)).map Task.id
  exact (hopen.trans hlisted).nodup (h.once id)

theorem grows_obeyAll (hdraws : e.registry.Draws) (x : Session) (ds : List Errand) :
    x.supply.Grows (x.obeyAll e ds).supply := by
  induction ds generalizing x with
  | nil => exact .refl _
  | cons d ds ih => exact (grows_obey hdraws x d).trans (ih _)

theorem Tidy.staysFresh {ds : List Errand} (h : Tidy x) (hm : e.registry.Mints)
    (hd : (x.obeyAll e ds).supply.Distinct) : x.StaysFresh e ds := by
  intro earlier d later hds
  subst hds
  induction earlier generalizing x with
  | nil => exact h.fresh hm (hd.of_grows (grows_obeyAll hm.draws _ later))
  | cons d' earlier ih =>
    exact ih (h.obey hm (hd.of_grows (grows_obeyAll hm.draws _ _))) hd

theorem tidy_history {s : Supply} {rs : List Request} (hm : e.registry.Mints)
    (hd : (history e s rs).supply.Distinct) : Tidy (history e s rs) := by
  induction rs using List.reverseRecOn with
  | nil => exact ⟨Store.sound_empty, ⟨(fun hi => nomatch hi), (fun ht => nomatch ht)⟩, fun _ => .nil⟩
  | append_singleton rs r ih =>
    rw [history_concat] at hd ⊢
    exact (ih (hd.of_grows (grows_serve hm.draws _ r))).serve hm hd

/-- Whatever is asked of an engine after any history, its listeners hear of just what it does, as long
as no id is drawn twice. -/
theorem informed_of_distinct {s : Supply} {rs : List Request} {ds : List Errand} {p : Nat}
    (hm : e.registry.Mints) (hp : e.bus.Hears p)
    (hd : ((history e s rs).obeyAll e ds).supply.Distinct) : (history e s rs).Informed e p ds := by
  have htidy := tidy_history hm (hd.of_grows (grows_obeyAll hm.draws _ ds))
  exact informed_of_fresh hp htidy.sound.toKeyed (htidy.staysFresh hm hd)

/-! ### A task that is listed twice -/

theorem hears_heardEngine : heardEngine.bus.Hears 0 := ⟨_, rfl, rfl, rfl⟩

/-- From its start to its end one heard of an instance and its task. -/
theorem informed_desk :
    heardEngine.bus.Hears 0 ∧ (history heardEngine countedIds [.deploy desk]).store.Keyed ∧
      (history heardEngine countedIds [.deploy desk]).Informed heardEngine 0
        [.start "desk" ∅, .complete ⟨1⟩ ∅] ∧
      ((history heardEngine countedIds [.deploy desk]).news heardEngine 0
        [.start "desk" ∅, .complete ⟨1⟩ ∅]).map Event.type =
        ["started", "created", "completed", "completed"] := by
  have hm : heardEngine.registry.Mints := plainEngine_mints
  have hk := (sound_history (e := heardEngine) (s := countedIds) [.deploy desk]).toKeyed
  have hdrawn : (history heardEngine countedIds [.deploy desk, .start "desk" ∅,
      .complete ⟨1⟩ ∅]).supply.drawn = 2 := by cbv
  have hd : ((history heardEngine countedIds [.deploy desk]).obeyAll heardEngine
      [.start "desk" ∅, .complete ⟨1⟩ ∅]).supply.Distinct :=
    distinct_of_draws hm.draws (by omega) hdrawn
  have htidy := tidy_history hm (hd.of_grows (grows_obeyAll hm.draws _ _))
  refine ⟨hears_heardEngine, hk, (informed_iff hears_heardEngine hk).2 (htidy.staysFresh hm hd), ?_⟩
  cbv

/-- An instance with one task that is listed twice. -/
def doubled : Session := ⟨(Journal.after Journal.twice).world, .ofSupply countedIds⟩

/-- When it is terminated one hears twice of the end of the task. -/
theorem not_informed_doubled : ¬ doubled.Informed heardEngine 0 [.terminate ⟨0⟩] := by
  intro h
  have hwrites : doubled.writes heardEngine (.terminate ⟨0⟩) = true := by cbv
  have hheard : (closedTasks (doubled.heard 0 (doubled.obey heardEngine (.terminate ⟨0⟩)))).map
      Task.id = [⟨1⟩, ⟨1⟩] := by cbv
  have honce := (h.accords [] (.terminate ⟨0⟩) [] rfl hwrites).closedOnce
  change ((closedTasks (doubled.heard 0 (doubled.obey heardEngine (.terminate ⟨0⟩)))).map
      Task.id).Nodup at honce
  rw [hheard] at honce
  exact absurd honce (by decide)

end Session

end Workflow
