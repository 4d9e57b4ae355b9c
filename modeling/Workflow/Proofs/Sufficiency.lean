import Workflow.Proofs.Pending
import Workflow.Proofs.Ticks
import Workflow.Proofs.Whereabouts

/-!
The checks at deployment suffice. As long as a definition stays in force, nothing is missing when its
instances run, and nothing unreadable: all that can go wrong with the definition is a guard whose text was
accepted, for the variables that it is asked about (`deployed_suffices`).
-/
namespace Workflow

open Relation
open Time (Instant Span)
open Engine Engine.Action

namespace Definition.Usable

variable {e : Engine} {d : Definition} {a : String} {start : Node}

theorem hasNode_of_fromStart (hd : d.Usable e) (h : d.FromStart a) : d.hasNode a = true := by
  obtain ⟨start, hs, hpath⟩ := h
  induction hpath with
  | refl => exact hasNode_iff.2 ⟨start, List.mem_of_find?_eq_some hs, rfl⟩
  | tail _ hbc _ =>
    obtain ⟨n, hn, -, hc⟩ := leads_iff.1 hbc
    exact (hd.nodes n hn).targets _ hc

/-- What is behind the start node is found by a search from there. -/
theorem mem_reachableFrom (hd : d.Usable e) (hs : d.startNode? = some start) (h : d.FromStart a) :
    a ∈ d.reachableFrom start.id := by
  have hnode := hd.hasNode_of_fromStart h
  obtain ⟨start', hs', hpath⟩ := h
  obtain rfl : start' = start := Option.some.inj (hs'.symm.trans hs)
  exact Definition.mem_reachableFrom.2 ⟨hd.hasNode_of_fromStart ⟨start', hs, .refl⟩, hnode, hpath⟩

end Definition.Usable

namespace Engine

variable {e : Engine} {d d' : Definition}

/-- A fault that an accepted text comes to for some variables, other than that it does not parse. -/
def Faults (e : Engine) (f : Guard.Fault) : Prop :=
  f.isUnreadable = false ∧
    ∃ text vars, e.evaluator.check text = .ok () ∧
      e.evaluator.atom (e.evaluator.context vars) text = .error f

/-- A walk through a usable definition halts for its guards only, as far as the configuration goes. -/
theorem Halt.faults {x : Walk} {cause : ConfigurationError} (hev : e.evaluator.ReadsChecked)
    (hd : d.Usable e) (hq : ∀ t ∈ x.queue, d.hasNode t.node = true)
    (h : Halt e d x (.configuration cause)) : ∃ f, cause = .guard f ∧ e.Faults f := by
  cases h with
  | @lost t queue hqueue hn =>
    have hnode := hq t (hqueue ▸ List.mem_cons_self ..)
    obtain ⟨n, hmem, hid⟩ := Definition.hasNode_iff.1 hnode
    exact absurd (beq_iff_eq.2 hid) (List.find?_eq_none.1 hn n hmem)
  | lacksFlow hqueue hn hname hflow =>
    obtain ⟨f, hf⟩ := (hd.nodes _ (node?_spec hn).1).flow hname
    rw [hf] at hflow
    cases hflow
  | lacksTask hqueue hn hk htask =>
    obtain ⟨f, hf⟩ := (hd.nodes _ (node?_spec hn).1).task hk
    rw [hf] at htask
    cases htask
  | @undecided id queue n f hqueue hn hroute =>
    obtain ⟨t, ht, c, hc, text, hmem, hf⟩ := exists_atom_of_route hroute
    have hchecked := (hd.nodes n (node?_spec hn).1).guards t ht c hc text hmem
    exact ⟨f, rfl, hev hchecked hf, text, _, hchecked, hf⟩

/-- So does a walk from what is behind the start node. -/
theorem advance_faults {queue : List Token} {s : Step} {a a' : Ambient} {cause : ConfigurationError}
    (hev : e.evaluator.ReadsChecked) (hd' : d'.Usable e) (hsame : d'.anytime = d.anytime)
    (ho : (Opening.walks d' queue s).Within d.FromStart)
    (h : advance e d' ⟨0, queue, s⟩ a = (.error (.configuration cause), a')) :
    ∃ f, cause = .guard f ∧ e.Faults f := by
  obtain ⟨-, hqueue, hcovers⟩ := fromStart_covers hsame ho
  obtain ⟨y, hy, hhalt⟩ := advance_halt (P := fun x => Confined (Region.fromStart d') s x)
    (fun hm hx => hm.confined hx hcovers) (.of_queue hqueue) h
  -- where it halts, the tokens are still at nodes behind the start node
  refine hhalt.faults hev hd' fun t ht => ?_
  have hallowed := hy.queue t ht
  cases t <;> exact hd'.hasNode_of_fromStart hallowed

end Engine

namespace Session

variable {e : Engine} {x : Session} {r : Request} {d : Definition} {older : Store}

/-- A request that moves no tokens and deploys nothing fails as lookups and writes do. -/
theorem refusal_of_result {err : EngineError} (hr : r.opening? e = none) (hdeploy : ∀ d, r ≠ .deploy d)
    (h : x.result e r = .error err) : Refusal e x.world err := by
  rcases hrun : Action.run x.world x.ambient (r.perform e) with ⟨⟨ret, a'⟩, w'⟩
  have hret : ret = .error err := by rwa [result, hrun] at h
  subst hret
  cases r with
  | start name vars => cases hr
  | complete taskId output => cases hr
  | retry id => cases hr
  | deploy d => exact absurd rfl (hdeploy d)
  | updateVariables id vars =>
    rcases updateVariables_result e hrun with ⟨⟨err', herr, hrefusal⟩, -⟩ | ⟨hok, -⟩
    · exact Except.error.inj herr ▸ hrefusal
    · cases hok
  | terminate id =>
    rcases run_lift_bind_cases hrun with ⟨err', hfail, -, -⟩ | ⟨now, a₁, -, hclose⟩
    · cases hfail
    rcases close_result hclose with ⟨⟨err', herr, hrefusal⟩, -⟩ | ⟨hok, -⟩
    · exact Except.error.inj herr ▸ hrefusal
    · cases hok
  | tick tolerance now =>
    obtain ⟨outcome, a₁, w₁, htick, -⟩ := Scheduler.tick_cases ⟨e, tolerance⟩ now x.world x.ambient
    have hok := run_discard htick
    rw [show Action.run x.world x.ambient (discard _) = _ from hrun] at hok
    cases hok

/-- A request about an instance of a definition in force fails for its guards only, as far as the
configuration goes. -/
theorem faults_of_result {cause : ConfigurationError} (hev : e.evaluator.ReadsChecked)
    (hx : InForce e d x) (hwhere : Whereabouts older d x.store) (habout : r.About older d x.store)
    (h : x.result e r = .error (.configuration cause)) : ∃ f, cause = .guard f ∧ e.Faults f := by
  have hnone : ∀ {w}, Faithful e w → ¬ Refusal e w (.configuration cause) :=
    fun hw hrefusal => hw.configured_of_refusal hrefusal cause rfl
  cases hr : r.opening? e with
  | some opening =>
    rcases serve_result (x := x) hr with ⟨⟨err, hresult, hunwritten⟩, -⟩ | ⟨st, hresult⟩
    · obtain rfl : err = .configuration cause := Except.error.inj (hresult.symm.trans h)
      cases hunwritten with
      | opening hopening => exact absurd (opening_refusal hr hopening) (hnone hx.faithful)
      | @walking o a₁ w₁ _ a₂ hopening hfollow =>
        cases o with
        | stays s => cases hfollow
        | walks d' queue s =>
          obtain ⟨hwithin, hname⟩ := opening_within hx hwhere hr habout hopening
          have hresolves := resolves_of_opening hx.faithful hr hopening
          exact advance_faults hev (hx.faithful.usable_of_resolves hresolves)
            (hx.anytime (hname ▸ hresolves)) hwithin hfollow
      | finishing hrefusal => exact absurd (hrefusal x.world) (hnone hx.faithful)
    · rw [hresult] at h
      rcases st.step.report_eq with hok | ⟨n, -, hn⟩
      · rw [hok] at h
        cases h
      · rw [hn] at h
        cases h
  | none =>
    have hdeploy : ∀ d', r ≠ .deploy d' := by
      rintro d' rfl
      cases habout with
      | operation hi hconcerns => exact hconcerns.elim
    exact absurd (refusal_of_result hr hdeploy h) (hnone hx.faithful)

/-- A definition that is deployed is stored, and nothing else changes in the store. -/
theorem store_of_deployed (h : x.result e (.deploy d) = .ok ()) :
    (x.serve e (.deploy d)).store = x.store.putDefinition d := by
  rcases hrun : Action.run x.world x.ambient (e.deploy d) with ⟨⟨ret, a'⟩, w'⟩
  have hret : ret = .ok () := by
    rw [← h, result, show Action.run x.world x.ambient (Request.perform e (.deploy d)) = _ from hrun]
  rw [serve_eq hrun]
  rcases deploy_cases hrun with ⟨⟨err, herr⟩, -⟩ | ⟨-, -, rfl⟩
  · rw [hret] at herr
    cases herr
  · rfl

/-- What can be relied on in a session for the instances of a definition that were not there in an
earlier store. -/
structure Suffices (e : Engine) (d : Definition) (older : Store) (x : Session) : Prop where
  /-- All that waits in an instance, and all its tasks, are at nodes reachable from the start node. -/
  nodes : ∃ start, d.startNode? = some start ∧ ∀ i, StartedSince older d x.store i →
    i.Within (· ∈ d.reachableFrom start.id) ∧
      ∀ t ∈ x.store.tasksOf i.id, t.node ∈ d.reachableFrom start.id
  /-- As far as the configuration goes, only guards make a request fail, and not by their texts. -/
  results : ∀ r cause, r.About older d x.store → x.result e r = .error (.configuration cause) →
    ∃ f, cause = .guard f ∧ e.Faults f
  /-- No visit of a tick fails for the configuration. -/
  visits : ∀ tolerance now cause, .error (.configuration cause) ∉
    Scheduler.tickVisits ⟨e, tolerance⟩ now x.world x.ambient
  /-- The errors that a tick counts are its visits that fail. -/
  errors : ∀ tolerance now report a w,
    Action.run x.world x.ambient (Scheduler.tick ⟨e, tolerance⟩ now) = ((.ok (.ran report), a), w) →
      report.errors =
        (Scheduler.tickVisits ⟨e, tolerance⟩ now x.world x.ambient).countP fun v => !v.isOk

theorem InForce.suffices_of_whereabouts (hev : e.evaluator.ReadsChecked) (hx : InForce e d x)
    (hc : Compiling x.store) (hwhere : Whereabouts older d x.store) : Suffices e d older x where
  nodes := by
    have husable : d.Usable e := Definition.usable_of_check (hx.faithful.checked hx.stored)
    obtain ⟨start, hstart⟩ := husable.start
    refine ⟨start, hstart, fun i hi => ?_⟩
    obtain ⟨⟨hlisted, harrived, hstuck⟩, htasks⟩ := hwhere i hi
    have hfound := fun {n} (hn : d.FromStart n) => husable.mem_reachableFrom hstart hn
    exact ⟨⟨fun n hn => hfound (hlisted n hn), fun n hn => hfound (harrived n hn),
      fun n hn => hfound (hstuck n hn)⟩, fun t ht => hfound (htasks t ht)⟩
  results r cause habout h := faults_of_result hev hx hwhere habout h
  visits tolerance now cause hmem := by
    have htaken : Faithful e (x.world.answer .acquire).2 := hx.faithful.answer trivial
    refine Scheduler.configured_of_mem_visits (s := ⟨e, tolerance⟩) htaken (fun i hi => ?_) hmem rfl
      cause rfl
    obtain ⟨id, hi⟩ := Store.exists_of_mem_activeInstances hi
    exact hc id i hi
  errors tolerance now report a w hrun := by
    obtain ⟨outcome, a', w', hrun', herrors⟩ := Scheduler.tick_cases ⟨e, tolerance⟩ now x.world x.ambient
    rw [hrun'] at hrun
    cases hrun
    exact herrors report rfl

/-- The checks at deployment suffice for all instances that are started from a definition as long as no
other one is deployed in its place. -/
theorem deployed_suffices {s : Supply} {earlier later : List Request} (hdraws : e.registry.Draws)
    (hev : e.evaluator.ReadsChecked) (hdeploy : (history e s earlier).result e (.deploy d) = .ok ())
    (hl : d.Stands later)
    (hd : (history e s (earlier ++ .deploy d :: later)).supply.Distinct) :
    Suffices e d (history e s earlier).store (history e s (earlier ++ .deploy d :: later)) := by
  have hdeployed : (history e s (earlier ++ [.deploy d])).store =
      (history e s earlier).store.putDefinition d := by
    rw [history_concat]
    exact store_of_deployed hdeploy
  rw [List.append_cons] at hd ⊢
  obtain ⟨hforce, -, hwhere⟩ := InForce.induction (e := e) (s := s) (d := d)
    (P := fun x => Housed x.supply x.store ∧
      (x.supply.Distinct → Whereabouts (history e s earlier).store d x.store))
    (fun {x r} hx hP => ⟨housed_serve hdraws hx.sound hP.1, fun hd =>
      whereabouts_serve hdraws hx hP.1 hd (hP.2 (hd.of_grows (grows_serve hdraws x r)))⟩)
    (by rw [hdeployed]; exact Dict.get?_insert_self _ _ _) hl
    ⟨housed_history hdraws _, fun _ i hi => by
      -- nothing was started yet
      have hstored := hi.stored
      rw [hdeployed] at hstored
      cases hi.absent.symm.trans hstored⟩
  exact hforce.suffices_of_whereabouts hev (compiling_history _) (hwhere hd)

section Gate

theorem deploy_gated : (history plainEngine countedIds []).result plainEngine (.deploy gated) =
    .ok () := by
  rw [plainEngine_eq]
  cbv

/-- Without a verdict, the gate cannot be decided. -/
theorem start_undecided : (history plainEngine countedIds [.deploy gated]).result plainEngine
    (.start "gated" ∅) = .error (.configuration (.guard (.failed "ok" (.undefined "ok")))) := by
  rw [plainEngine_eq]
  have hrun : (fun out : (Except EngineError Unit × Ambient) × World => out.1.1) (Action.run
      (history ⟨gateEvaluator, .standard, ∅, .default⟩ countedIds [.deploy gated]).world
      (history ⟨gateEvaluator, .standard, ∅, .default⟩ countedIds [.deploy gated]).ambient
      (Request.perform ⟨gateEvaluator, .standard, ∅, .default⟩ (.start "gated" ∅))) =
        .error (.configuration (.guard (.failed "ok" (.undefined "ok")))) := by
    simp only [history, List.foldl, serve, Request.perform, Engine.start, carryOut]
    rw [follow_eq_followFor _ 12]
    cbv
  exact hrun

/-- With one, an instance is started. -/
theorem start_gated :
    ((history plainEngine countedIds [.deploy gated, .start "gated" (verdict false)]).store.instance?
      ⟨0⟩).map (fun i => (i.id, i.definitionId, i.failure.map Failure.nodes)) =
        some (⟨0⟩, "gated", some ["gate"]) ∧
    ((history plainEngine countedIds [.deploy gated, .start "gated" (verdict false)]).store.tasksOf
      ⟨0⟩).map Task.node = ["work"] ∧
    (history plainEngine countedIds [.deploy gated]).supply.drawn = 0 ∧
    (history plainEngine countedIds [.deploy gated, .start "gated" (verdict false)]).supply.drawn =
      2 := by
  rw [plainEngine_eq]
  have hboth : (fun x y : Session => ((x.store.instance? ⟨0⟩).map fun i =>
      (i.id, i.definitionId, i.failure.map Failure.nodes), (x.store.tasksOf ⟨0⟩).map Task.node,
      y.supply.drawn, x.supply.drawn))
      (history ⟨gateEvaluator, .standard, ∅, .default⟩ countedIds
        [.deploy gated, .start "gated" (verdict false)])
      (history ⟨gateEvaluator, .standard, ∅, .default⟩ countedIds [.deploy gated]) =
        (some (⟨0⟩, "gated", some ["gate"]), ["work"], 0, 2) := by
    simp only [history, List.foldl, serve, Request.perform, Engine.start, carryOut]
    rw [follow_eq_followFor _ 12]
    cbv
  simp only [Prod.mk.injEq] at hboth
  exact hboth

/-- A start may be refused for the guard of the gate, and an instance may be stuck there. -/
theorem deployed_suffices_gated :
    Suffices plainEngine gated (history plainEngine countedIds []).store
        (history plainEngine countedIds [.deploy gated]) ∧
      (history plainEngine countedIds [.deploy gated]).result plainEngine (.start "gated" ∅) =
        .error (.configuration (.guard (.failed "ok" (.undefined "ok")))) ∧
      Suffices plainEngine gated (history plainEngine countedIds []).store
        (history plainEngine countedIds [.deploy gated, .start "gated" (verdict false)]) ∧
      ∃ i, StartedSince (history plainEngine countedIds []).store gated
          (history plainEngine countedIds [.deploy gated, .start "gated" (verdict false)]).store i ∧
        i.StuckAt "gate" ∧ ((history plainEngine countedIds
          [.deploy gated, .start "gated" (verdict false)]).store.tasksOf i.id).map Task.node =
            ["work"] := by
  obtain ⟨hinstance, htasks, hbefore, hdrawn⟩ := start_gated
  obtain ⟨i, hi, hsame⟩ := Option.map_eq_some_iff.1 hinstance
  simp only [Prod.mk.injEq] at hsame
  obtain ⟨hid, hname, hfailure⟩ := hsame
  obtain ⟨f, hf, hnodes⟩ := Option.map_eq_some_iff.1 hfailure
  have hstands : gated.Stands [.start "gated" (verdict false)] := fun d' hmem _ => by simp at hmem
  refine ⟨?_, start_undecided, ?_, i, ⟨rfl, hid ▸ hi, hname⟩, ⟨f, hf, by simp [hnodes]⟩,
    hid ▸ htasks⟩
  · exact @deployed_suffices plainEngine gated countedIds [] [] plainEngine_mints.draws
      Guard.Evaluator.readsChecked_standard deploy_gated (fun d' hmem _ => by simp at hmem)
      (distinct_countedIds (by omega) hbefore)
  · exact @deployed_suffices plainEngine gated countedIds [] [.start "gated" (verdict false)]
      plainEngine_mints.draws Guard.Evaluator.readsChecked_standard deploy_gated hstands
      (distinct_countedIds (by omega) hdrawn)

end Gate

end Session

end Workflow
