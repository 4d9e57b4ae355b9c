import Workflow.Proofs.Confinement
import Workflow.Proofs.Validation

/-!
What can go wrong during a tick. A tick counts the visits that fail (`Scheduler.tick_cases`), and none of
them fails because something does not suit the engine (`Scheduler.configured_of_mem_visits`): all
definitions and all reminders that instances carry have passed the checks (`Session.compiling_history`).
-/
namespace Workflow

open Time (Instant)
open Engine Engine.Action

/-! ### Errors of the configuration -/

/-- An error that does not lie in the configuration. -/
def EngineError.Configured (err : EngineError) : Prop := ∀ cause, err ≠ .configuration cause

namespace Faithful

variable {e : Engine} {w : World} {d : Definition} {n : String}

theorem usable_of_resolves (h : Faithful e w) (hd : Resolves e w n d) : d.Usable e := by
  obtain ⟨d', hd', hsame⟩ := h.exists_of_resolves hd
  exact (Definition.usable_of_check (h.checked hd')).of_anytime hsame

/-- Where all stored definitions have passed the checks, nothing is refused for the configuration. -/
theorem configured_of_refusal {err : EngineError} (h : Faithful e w) (hr : Refusal e w err) :
    err.Configured := by
  intro cause
  cases hr with
  | unusable hd hcheck =>
    rw [h.checked hd] at hcheck
    cases hcheck
  | noStart hd hs =>
    obtain ⟨start, hstart⟩ := (h.usable_of_resolves hd).start
    rw [hs] at hstart
    cases hstart
  | _ => exact fun h => nomatch h

theorem of_obeys {α : Type} {x : Action α} {a : Ambient} (h : Faithful e w)
    (hx : Obeys (fun v => v.store.definitions = w.store.definitions)
      (Call.Mirrors w.store.definitions) x) : Faithful e (Action.run w a x).2 := by
  refine (hx.run (I := fun v => v.store.definitions = w.store.definitions ∧ Faithful e v)
    (fun _ hv => hv.1) (fun v c hc hv => ?_) ⟨rfl, h⟩).2.2
  rw [← hv.1] at hc
  exact ⟨(World.definitions_answer hc).trans hv.1, hv.2.answer hc⟩

end Faithful

/-! ### Visits -/

namespace Scheduler

variable {s : Scheduler} {now : Instant} {w : World} {a : Ambient} {i : Instance}

theorem failsWith_send {v : World} (source : Source) (occurrence : Instant) :
    FailsWith (Refusal s.engine v) w a (s.send i now source occurrence) := by
  unfold send openTasks tasks
  refine failsWith_bind (failsWith_ask _) fun mark _ _ _ => ?_
  cases mark with
  | some _ => exact failsWith_pure _
  | none =>
    refine failsWith_bind (failsWith_bind (failsWith_bind (failsWith_ask _) fun _ _ _ _ =>
      failsWith_accepted fun cause => .declined cause) fun _ _ _ _ => failsWith_pure _) fun _ _ _ _ => ?_
    exact failsWith_lift_bind (fun _ h => refusal_notify h) fun _ _ =>
      failsWith_bind (failsWith_ask _) fun _ _ _ _ => failsWith_pure _

theorem failsWith_remind {v : World} {sources : List Source} {sent : Nat}
    (hs : ∀ source ∈ sources, source.param.Compiles) :
    FailsWith (Refusal s.engine v) w a (s.remind i now sent sources) := by
  induction sources generalizing sent w a with
  | nil => exact failsWith_pure _
  | cons source rest ih =>
    have hrest : ∀ {sent w a}, FailsWith (Refusal s.engine v) w a (s.remind i now sent rest) :=
      ih fun source' hmem => hs source' (List.mem_cons_of_mem _ hmem)
    obtain ⟨rule, hrule⟩ := hs source (List.mem_cons_self ..)
    unfold remind
    rw [hrule]
    refine failsWith_lift_bind (by rintro _ ⟨⟩) fun rule' _ => ?_
    split
    · exact failsWith_pure _
    · exact hrest
    · refine failsWith_bind (failsWith_send source _) fun told _ _ _ => ?_
      split <;> exact hrest

/-- The reminders of an instance and of the nodes where it waits compile if its own does and its
definition can be used. -/
theorem compiles_of_mem_sources {e : Engine} {d : Definition} {source : Source}
    (hd : d.Usable e) (hi : ∀ p, i.reminder = some p → p.Compiles) (h : source ∈ sources d i) :
    source.param.Compiles := by
  rcases List.mem_append.1 h with hown | hnode
  · obtain ⟨p, hp, rfl⟩ := List.mem_map.1 (Option.toList_map .. ▸ hown)
    exact hi p (Option.mem_toList.1 hp)
  · obtain ⟨id, -, hsource⟩ := List.mem_filterMap.1 hnode
    obtain ⟨n, hn, hsource⟩ := Option.bind_eq_some_iff.1 hsource
    obtain ⟨p, hp, hsource⟩ := Option.bind_eq_some_iff.1 hsource
    cases hsource
    exact (hd.nodes n (node?_spec hn).1).reminder p hp

theorem failsWith_visit (hw : Faithful s.engine w) (hi : ∀ p, i.reminder = some p → p.Compiles) :
    FailsWith (Refusal s.engine w) w a (s.visit i now) := by
  unfold visit
  split
  · refine failsWith_bind (fun err h => ?_) fun _ _ _ _ => failsWith_pure _
    rcases hrun : Action.run w a (close s.engine i.id .timeout now) with ⟨⟨r, a'⟩, w'⟩
    rw [hrun] at h
    change r = .error err at h
    rcases close_result hrun with ⟨⟨err', hr, hrefusal⟩, -⟩ | ⟨hr, -⟩
    · rw [Except.error.inj (h.symm.trans hr)]
      exact hrefusal
    · rw [hr] at h
      cases h
  · refine failsWith_bind failsWith_definition fun d a₁ w₁ hd => ?_
    have husable := hw.usable_of_resolves (definition_ok hd).1
    exact failsWith_remind fun source hmem => compiles_of_mem_sources husable hi hmem

/-! ### Ticks -/

/-- What the visits to instances come to, one after another, up to one that ends the tick. -/
def visits (s : Scheduler) (now : Instant) (w : World) (a : Ambient) :
    List Instance → List (Except EngineError Visit)
  | [] => []
  | i :: is =>
    let out := Action.run w a (s.visit i now)
    match out.1.1 with
    | .ok .abandoned => [.ok .abandoned]
    | v => v :: visits s now out.2 out.1.2 is

section Rows

variable {is : List Instance} {v : Except EngineError Visit} {a₁ : Ambient} {w₁ : World}
  (h : Action.run w a (s.visit i now) = ((v, a₁), w₁)) (hv : v ≠ .ok .abandoned)
include h hv

theorem visits_cons : s.visits now w a (i :: is) = v :: s.visits now w₁ a₁ is := by
  rw [visits, h]
  match v, hv with
  | .error _, _ => rfl
  | .ok .timedOut, _ => rfl
  | .ok (.reminded _), _ => rfl

theorem run_visitAll_cons (r : TickReport) : Action.run w a (s.visitAll now r (i :: is)) =
    Action.run w₁ a₁ (s.visitAll now (counted r i v) is) := by
  rw [visitAll, run_bind_ok (run_outcome _), h]
  match v, hv with
  | .error _, _ => rfl
  | .ok .timedOut, _ => rfl
  | .ok (.reminded _), _ => rfl

omit h in
theorem errors_counted (r : TickReport) :
    (counted r i v).errors = r.errors + [v].countP fun v => !v.isOk := by
  match v, hv with
  | .error _, _ => rfl
  | .ok .timedOut, _ => rfl
  | .ok (.reminded _), _ => rfl

end Rows

/-- A row of visits reports as many errors as there are visits that fail. -/
theorem visitAll_cases (s : Scheduler) (now : Instant) (w : World) (a : Ambient) (r : TickReport)
    (is : List Instance) :
    ∃ outcome a' w', Action.run w a (s.visitAll now r is) = ((.ok outcome, a'), w') ∧
      ∀ report, outcome = .ran report →
        report.errors = r.errors + (s.visits now w a is).countP fun v => !v.isOk := by
  induction is generalizing r w a with
  | nil =>
    refine ⟨.ran r, a, w, rfl, ?_⟩
    rintro _ ⟨⟩
    rfl
  | cons i is ih =>
    rcases hrun : Action.run w a (s.visit i now) with ⟨⟨v, a₁⟩, w₁⟩
    by_cases hv : v = .ok .abandoned
    · refine ⟨.abandoned, a₁, w₁, ?_, fun _ h => nomatch h⟩
      rw [visitAll, run_bind_ok (run_outcome _), hrun, hv]
      rfl
    · obtain ⟨outcome, a', w', hrest, herrors⟩ := ih w₁ a₁ (counted r i v)
      refine ⟨outcome, a', w', (run_visitAll_cons hrun hv r).trans hrest, fun report hreport => ?_⟩
      rw [herrors report hreport, errors_counted hv, visits_cons hrun hv, Nat.add_assoc,
        ← List.countP_append, List.singleton_append]

/-- No visit in a row fails for the configuration. -/
theorem configured_of_mem_visits {is : List Instance} {v : Except EngineError Visit}
    (hw : Faithful s.engine w) (hi : ∀ i ∈ is, ∀ p, i.reminder = some p → p.Compiles)
    (hmem : v ∈ s.visits now w a is) {err : EngineError} (herr : v = .error err) :
    err.Configured := by
  induction is generalizing w a with
  | nil => cases hmem
  | cons i is ih =>
    have hfails : FailsWith (Refusal s.engine w) w a (s.visit i now) :=
      failsWith_visit hw (hi i (List.mem_cons_self ..))
    have hpermits : Permits s.engine (fun v => v.store.definitions = w.store.definitions)
      (Call.Mirrors w.store.definitions) := permits_mirrors
    have hlater : Faithful s.engine (Action.run w a (s.visit i now)).2 :=
      hw.of_obeys (obeys_visit hpermits.toAllows hpermits.marks hpermits.commits i)
    rcases hrun : Action.run w a (s.visit i now) with ⟨⟨v', a₁⟩, w₁⟩
    rw [hrun] at hlater
    by_cases hv : v' = .ok .abandoned
    · rw [visits, hrun, hv] at hmem
      rw [List.mem_singleton.1 hmem] at herr
      cases herr
    · rw [visits_cons hrun hv] at hmem
      rcases List.mem_cons.1 hmem with rfl | hmem
      · exact hw.configured_of_refusal (hfails err (by rw [hrun, herr]))
      · exact ih hlater (fun j hj => hi j (List.mem_cons_of_mem _ hj)) hmem

/-- What the visits of a tick come to. -/
def tickVisits (s : Scheduler) (now : Instant) (w : World) (a : Ambient) :
    List (Except EngineError Visit) :=
  s.visits now (w.answer .acquire).2 a w.store.activeInstances

/-- A tick does not fail; its report counts the visits that did. -/
theorem tick_cases (s : Scheduler) (now : Instant) (w : World) (a : Ambient) :
    ∃ outcome a' w', Action.run w a (s.tick now) = ((.ok outcome, a'), w') ∧
      ∀ report, outcome = .ran report →
        report.errors = (s.tickVisits now w a).countP fun v => !v.isOk := by
  unfold tick
  rw [run_bind_ok (run_ask _)]
  split
  · obtain ⟨outcome, a', w', hrun, herrors⟩ := s.visitAll_cases now (w.answer .acquire).2 a
      ⟨0, [], 0, 0⟩ w.store.activeInstances
    have hpass : Action.run (w.answer .acquire).2 a (s.pass now) = ((.ok outcome, a'), w') := hrun
    rw [run_bind_ok (run_outcome _), hpass]
    refine ⟨outcome, a', (w'.answer .release).2, rfl, fun report hreport => ?_⟩
    rw [herrors report hreport, tickVisits]
    exact Nat.zero_add _
  · exact ⟨.skipped, a, _, rfl, fun _ h => nomatch h⟩

end Scheduler

namespace Session

variable {e : Engine} {x : Session} {r : Request}

/-! ### The reminders of instances -/

/-- The reminders that instances carry compile. -/
def Compiling (store : Store) : Prop :=
  ∀ id i, store.instance? id = some i → ∀ p, i.reminder = some p → p.Compiles

theorem compiling_serve (hs : x.store.Sound) (hw : Faithful e x.world) (hx : Compiling x.store) :
    Compiling (x.serve e r).store := by
  intro id j hj
  rcases serve_origin hs hj with ⟨i, hi, hsame⟩ | ⟨name, vars, rfl, st, rfl⟩
  · rw [hsame.reminder]
    exact hx id i hi
  · obtain ⟨d, start, now, hresolves, -, -, hopens⟩ := startOpening_ok st.run
    have hrecord := record_of_committed st.committed hj
    rw [st.step.record_settled, (follow_moved st.follow).record, hopens] at hrecord
    rw [hrecord]
    exact (hw.usable_of_resolves hresolves).reminder

theorem compiling_history {s : Supply} (rs : List Request) : Compiling (history e s rs).store := by
  induction rs using List.reverseRecOn with
  | nil => exact fun _ _ hi => nomatch hi
  | append_singleton rs r ih =>
    rw [history_concat]
    exact compiling_serve (sound_history rs) (faithful_history rs) ih

end Session

end Workflow
