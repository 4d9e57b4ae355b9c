import Workflow.Proofs.Traversal

/-!
Which ways a token takes out of a node, for every way of deciding guards. A gateway takes one at most,
the first whose guard is true or else the first without a guard, and decides no guard after a true one
(`Chooses`); any other node takes all that are open (`Forks`). Both fail only because a guard does.
-/
namespace Workflow.Engine

/-- The answer to a guard, and the expressions asked for it. -/
abbrev Decider := Condition → Except Guard.Fault Bool × List String

section Answers

variable (decide : Decider)

/-- The answer to the guard of a transition, if it has one. -/
def answer? (t : Transition) : Option (Except Guard.Fault Bool) :=
  t.condition.map fun guard => (decide guard).1

/-- The expressions asked when the guards of these transitions are decided in turn. -/
def asked (ts : List Transition) : List String :=
  (ts.filterMap (·.condition)).flatMap fun guard => (decide guard).2

/-- Whether a gateway looks further than this transition. -/
def IsPassed (t : Transition) : Prop :=
  answer? decide t = none ∨ answer? decide t = some (.ok false)

def isOpen (t : Transition) : Bool :=
  match answer? decide t with
  | none | some (.ok true) => true
  | _ => false

/-- Whether the guard of a transition can be decided. -/
def IsDecided (t : Transition) : Prop := ∀ f, answer? decide t ≠ some (.error f)

/-- The targets of the transitions without a guard or with a true one. -/
def opened (ts : List Transition) : List String := (ts.filter (isOpen decide)).map (·.target)

/-- The target of the first transition without a guard. -/
def default? (ts : List Transition) : Option String :=
  (ts.find? (·.condition.isNone)).map (·.target)

/-- Where a gateway with these transitions sends a token. -/
inductive Chooses (ts : List Transition) : Routing → Prop
  | takes {passed t later} (hts : ts = passed ++ t :: later)
    (hpassed : ∀ u ∈ passed, IsPassed decide u) (ht : answer? decide t = some (.ok true)) :
    Chooses ts (.ok [t.target], asked decide (passed ++ [t]))
  | breaks {passed t later f} (hts : ts = passed ++ t :: later)
    (hpassed : ∀ u ∈ passed, IsPassed decide u) (ht : answer? decide t = some (.error f)) :
    Chooses ts (.error f, asked decide (passed ++ [t]))
  | falls (hpassed : ∀ u ∈ ts, IsPassed decide u) :
    Chooses ts (.ok (default? ts).toList, asked decide ts)

/-- Where a node that is neither a gateway nor an end sends its tokens. -/
inductive Forks (ts : List Transition) : Routing → Prop
  | opens (hts : ∀ t ∈ ts, IsDecided decide t) : Forks ts (.ok (opened decide ts), asked decide ts)
  | breaks {earlier t later f} (hts : ts = earlier ++ t :: later)
    (hearlier : ∀ u ∈ earlier, IsDecided decide u) (ht : answer? decide t = some (.error f)) :
    Forks ts (.error f, asked decide (earlier ++ [t]))

/-- Where a token goes from a node, its guards decided like this. -/
def routeBy (n : Node) : Routing :=
  match n.kind with
  | .condition => takeFirst decide none n.transitions
  | .stop => (.ok [], [])
  | _ => takeAll decide n.transitions

end Answers

variable {decide : Decider} {ts : List Transition} {r : Routing}

theorem route_eq_routeBy (ev : Guard.Evaluator) (n : Node) (vars : Variables) :
    route ev n vars = routeBy (ev.evaluate · vars) n := rfl

theorem asked_append (ts us : List Transition) :
    asked decide (ts ++ us) = asked decide ts ++ asked decide us := by
  simp [asked]

theorem default?_append (ts us : List Transition) :
    default? (ts ++ us) = (default? ts).or (default? us) := by
  rw [default?, List.find?_append, Option.map_or]
  rfl

theorem forall_or_first (P : Transition → Prop) (ts : List Transition) : (∀ t ∈ ts, P t) ∨
    ∃ earlier t later, ts = earlier ++ t :: later ∧ (∀ u ∈ earlier, P u) ∧ ¬ P t := by
  classical
  cases h : ts.find? fun t => ¬ P t with
  | none => exact Or.inl (by simpa using h)
  | some t =>
    obtain ⟨ht, earlier, later, hts, hearlier⟩ := List.find?_eq_some_iff_append.1 h
    exact Or.inr ⟨earlier, t, later, hts, by simpa using hearlier, by simpa using ht⟩

/-! ### Gateways -/

theorem takeFirst_of_passed {t : Transition} (h : IsPassed decide t) (fallback : Option String)
    (ts : List Transition) : takeFirst decide fallback (t :: ts) =
      ((takeFirst decide (fallback.or (default? [t])) ts).1,
        asked decide [t] ++ (takeFirst decide (fallback.or (default? [t])) ts).2) := by
  obtain ⟨target, condition⟩ := t
  cases condition with
  | none => rfl
  | some guard =>
    have hfalse : (decide guard).1 = .ok false := by simpa [IsPassed, answer?] using h
    have hnone : fallback.or (default? [⟨target, some guard⟩]) = fallback := Option.or_none
    rw [hnone, takeFirst, show decide guard = (.ok false, (decide guard).2) from Prod.ext hfalse rfl]
    simp [asked]

theorem takeFirst_append {passed : List Transition} (h : ∀ u ∈ passed, IsPassed decide u)
    (fallback : Option String) (ts : List Transition) : takeFirst decide fallback (passed ++ ts) =
      ((takeFirst decide (fallback.or (default? passed)) ts).1,
        asked decide passed ++ (takeFirst decide (fallback.or (default? passed)) ts).2) := by
  induction passed generalizing fallback with
  | nil => simp [default?, asked]
  | cons u passed ih =>
    have hsplit : default? (u :: passed) = (default? [u]).or (default? passed) :=
      default?_append [u] passed
    have hasked : asked decide (u :: passed) = asked decide [u] ++ asked decide passed :=
      asked_append [u] passed
    rw [List.cons_append, takeFirst_of_passed (h u List.mem_cons_self),
      ih fun v hv => h v (List.mem_cons_of_mem _ hv), hsplit, hasked, Option.or_assoc,
      List.append_assoc]

theorem takeFirst_of_true {t : Transition} (h : answer? decide t = some (.ok true))
    (fallback : Option String) (ts : List Transition) :
    takeFirst decide fallback (t :: ts) = (.ok [t.target], asked decide [t]) := by
  obtain ⟨target, condition⟩ := t
  obtain ⟨guard, rfl, hguard⟩ := Option.map_eq_some_iff.1 h
  rw [takeFirst, show decide guard = (.ok true, (decide guard).2) from Prod.ext hguard rfl]
  simp [asked]

theorem takeFirst_of_error {t : Transition} {f : Guard.Fault}
    (h : answer? decide t = some (.error f)) (fallback : Option String) (ts : List Transition) :
    takeFirst decide fallback (t :: ts) = (.error f, asked decide [t]) := by
  obtain ⟨target, condition⟩ := t
  obtain ⟨guard, rfl, hguard⟩ := Option.map_eq_some_iff.1 h
  rw [takeFirst, show decide guard = (.error f, (decide guard).2) from Prod.ext hguard rfl]
  simp [asked]

theorem error_or_true_of_not_passed {t : Transition} (h : ¬ IsPassed decide t) :
    answer? decide t = some (.ok true) ∨ ∃ f, answer? decide t = some (.error f) := by
  rcases ht : answer? decide t with _ | f | _ | _
  · exact absurd (Or.inl ht) h
  · exact Or.inr ⟨f, rfl⟩
  · exact absurd (Or.inr ht) h
  · exact Or.inl rfl

theorem Chooses.takeFirst_eq (h : Chooses decide ts r) : takeFirst decide none ts = r := by
  cases h with
  | takes hts hpassed ht =>
    rw [hts, takeFirst_append hpassed, takeFirst_of_true ht, asked_append]
  | breaks hts hpassed ht =>
    rw [hts, takeFirst_append hpassed, takeFirst_of_error ht, asked_append]
  | falls hpassed =>
    have hall := takeFirst_append hpassed none []
    rw [List.append_nil] at hall
    rw [hall]
    simp [takeFirst]

theorem takeFirst_eq_iff : takeFirst decide none ts = r ↔ Chooses decide ts r := by
  -- some case applies to any transitions, and what a case says is what is done
  refine ⟨fun h => ?_, Chooses.takeFirst_eq⟩
  obtain ⟨r', hr'⟩ : ∃ r', Chooses decide ts r' := by
    rcases forall_or_first (IsPassed decide) ts with hall | ⟨passed, t, later, hts, hpassed, ht⟩
    · exact ⟨_, .falls hall⟩
    · rcases error_or_true_of_not_passed ht with ht | ⟨f, ht⟩
      · exact ⟨_, .takes hts hpassed ht⟩
      · exact ⟨_, .breaks hts hpassed ht⟩
  exact h ▸ hr'.takeFirst_eq ▸ hr'

theorem takeFirst_atMostOne {targets : List String}
    (h : (takeFirst decide none ts).1 = .ok targets) : ∃ next : Option String, targets = next.toList := by
  have hchooses : Chooses decide ts (takeFirst decide none ts) := takeFirst_eq_iff.1 rfl
  rcases hr : takeFirst decide none ts with ⟨answer, told⟩
  rw [hr] at hchooses h
  cases hchooses with
  | takes =>
    cases h
    exact ⟨some _, rfl⟩
  | breaks => cases h
  | falls =>
    cases h
    exact ⟨_, rfl⟩

variable {earlier later : List Transition} {t : Transition}

/-- At a transition that a gateway does not look past, it stops there or before. -/
theorem exists_stop (ht : ¬ IsPassed decide t) : ∃ u ∈ earlier ++ [t], ∃ passed rest,
    earlier ++ t :: later = passed ++ u :: rest ∧ (∀ v ∈ passed, IsPassed decide v) ∧
      ¬ IsPassed decide u := by
  rcases forall_or_first (IsPassed decide) earlier with hall | ⟨passed, u, rest, rfl, hpassed, hu⟩
  · exact ⟨t, by simp, earlier, later, rfl, hall, ht⟩
  · exact ⟨u, by simp, passed, rest ++ t :: later, by simp, hpassed, hu⟩

/-- A gateway fails exactly when a guard fails and none before it is true. -/
theorem takeFirst_fails_iff : (∃ f, (takeFirst decide none ts).1 = .error f) ↔
    ∃ earlier t later f, ts = earlier ++ t :: later ∧ answer? decide t = some (.error f) ∧
      ∀ u ∈ earlier, answer? decide u ≠ some (.ok true) := by
  constructor
  · rintro ⟨f, hf⟩
    have hchooses : Chooses decide ts (takeFirst decide none ts) := takeFirst_eq_iff.1 rfl
    rcases hr : takeFirst decide none ts with ⟨answer, told⟩
    rw [hr] at hchooses hf
    cases hchooses with
    | @breaks passed t later f hts hpassed ht =>
      refine ⟨passed, t, later, f, hts, ht, fun u hu => ?_⟩
      rcases hpassed u hu with hnone | hfalse
      · simp [hnone]
      · simp [hfalse]
    | takes => cases hf
    | falls => cases hf
  · rintro ⟨earlier, t, later, f, rfl, ht, htrue⟩
    have hstop : ¬ IsPassed decide t := by simp [IsPassed, ht]
    obtain ⟨u, hu, passed, rest, hts, hpassed, hstop⟩ := exists_stop hstop
    -- no guard up to that of `t` is true, so that what stops the gateway fails
    have hnot : answer? decide u ≠ some (.ok true) := by
      rcases List.mem_append.1 hu with hu | hu
      · exact htrue u hu
      · simp [List.mem_singleton.1 hu, ht]
    obtain ⟨g, hg⟩ := (error_or_true_of_not_passed hstop).resolve_left hnot
    exact ⟨g, congrArg Prod.fst (Chooses.breaks hts hpassed hg).takeFirst_eq⟩

/-- Where a guard is true and the gateway does not fail, it takes a transition with a true guard, no
later than that one. -/
theorem takeFirst_of_mem_true (ht : answer? decide t = some (.ok true)) {targets : List String}
    (h : (takeFirst decide none (earlier ++ t :: later)).1 = .ok targets) :
    ∃ u ∈ earlier ++ [t], answer? decide u = some (.ok true) ∧ targets = [u.target] := by
  have hstop : ¬ IsPassed decide t := by simp [IsPassed, ht]
  obtain ⟨u, hu, passed, rest, hts, hpassed, hstop⟩ := exists_stop hstop
  rcases error_or_true_of_not_passed hstop with htrue | ⟨f, hf⟩
  · rw [(Chooses.takes hts hpassed htrue).takeFirst_eq] at h
    cases h
    exact ⟨u, hu, htrue, rfl⟩
  · rw [(Chooses.breaks hts hpassed hf).takeFirst_eq] at h
    cases h

/-! ### Forks -/

theorem takeAll_of_decided (ht : IsDecided decide t) (ts : List Transition) :
    takeAll decide (t :: ts) = ((takeAll decide ts).1.map (opened decide [t] ++ ·),
      asked decide [t] ++ (takeAll decide ts).2) := by
  obtain ⟨target, condition⟩ := t
  cases condition with
  | none => rfl
  | some guard =>
    rcases hguard : decide guard with ⟨f | holds, told⟩
    · exact absurd (by simp [answer?, hguard]) (ht f)
    · cases holds with
      | true => simp [takeAll, hguard, opened, isOpen, answer?, asked]
      | false =>
        have hnone : (takeAll decide ts).1.map ([] ++ ·) = (takeAll decide ts).1 := by
          cases (takeAll decide ts).1 <;> rfl
        simpa [takeAll, hguard, opened, isOpen, answer?, asked] using hnone.symm

theorem takeAll_append (h : ∀ u ∈ earlier, IsDecided decide u) (ts : List Transition) :
    takeAll decide (earlier ++ ts) = ((takeAll decide ts).1.map (opened decide earlier ++ ·),
      asked decide earlier ++ (takeAll decide ts).2) := by
  induction earlier with
  | nil => cases hr : (takeAll decide ts).1 <;> simp [Except.map, opened, asked, Prod.ext_iff, hr]
  | cons u earlier ih =>
    have hopened : opened decide (u :: earlier) = opened decide [u] ++ opened decide earlier := by
      rw [opened, opened, opened, ← List.map_append, ← List.filter_append]
      rfl
    have hasked : asked decide (u :: earlier) = asked decide [u] ++ asked decide earlier :=
      asked_append [u] earlier
    rw [List.cons_append, takeAll_of_decided (h u List.mem_cons_self),
      ih fun v hv => h v (List.mem_cons_of_mem _ hv), hopened, hasked, List.append_assoc]
    cases (takeAll decide ts).1 with
    | error f => rfl
    | ok targets => simp [Except.map]

theorem takeAll_of_error {f : Guard.Fault} (h : answer? decide t = some (.error f))
    (ts : List Transition) : takeAll decide (t :: ts) = (.error f, asked decide [t]) := by
  obtain ⟨target, condition⟩ := t
  obtain ⟨guard, rfl, hguard⟩ := Option.map_eq_some_iff.1 h
  rw [takeAll, show decide guard = (.error f, (decide guard).2) from Prod.ext hguard rfl]
  simp [asked]

theorem Forks.takeAll_eq (h : Forks decide ts r) : takeAll decide ts = r := by
  cases h with
  | opens hts =>
    have hall := takeAll_append hts []
    rw [List.append_nil] at hall
    rw [hall]
    simp [takeAll, Except.map]
  | breaks hts hearlier ht =>
    rw [hts, takeAll_append hearlier, takeAll_of_error ht, asked_append]
    rfl

theorem takeAll_eq_iff : takeAll decide ts = r ↔ Forks decide ts r := by
  refine ⟨fun h => ?_, Forks.takeAll_eq⟩
  obtain ⟨r', hr'⟩ : ∃ r', Forks decide ts r' := by
    rcases forall_or_first (IsDecided decide) ts with hall | ⟨earlier, t, later, hts, hearlier, ht⟩
    · exact ⟨_, .opens hall⟩
    · obtain ⟨f, hf⟩ := Classical.not_forall_not.1 ht
      exact ⟨_, .breaks hts hearlier hf⟩
  exact h ▸ hr'.takeAll_eq ▸ hr'

/-- A fork fails exactly when a guard does. -/
theorem takeAll_fails_iff : (∃ f, (takeAll decide ts).1 = .error f) ↔
    ∃ t ∈ ts, ∃ f, answer? decide t = some (.error f) := by
  have hforks : Forks decide ts (takeAll decide ts) := takeAll_eq_iff.1 rfl
  rcases hr : takeAll decide ts with ⟨answer, told⟩
  rw [hr] at hforks
  cases hforks with
  | opens hts =>
    constructor
    · rintro ⟨f, hf⟩
      cases hf
    · rintro ⟨t, ht, f, hf⟩
      exact absurd hf (hts t ht f)
  | @breaks earlier t later f hts hearlier ht =>
    exact ⟨fun _ => ⟨t, by simp [hts], f, ht⟩, fun _ => ⟨f, rfl⟩⟩

/-! ### Tokens -/

/-- A token that leaves a gateway goes on along one transition at most; without one it stays. -/
theorem Move.gateway {e : Engine} {d : Definition} {n : Node} {id : String} {entered : Nat}
    {queue : List Token} {s : Step} {supply supply' : Supply} {y : Walk}
    (hn : d.node? id = some n) (hkind : n.kind = .condition)
    (h : Move e d supply ⟨entered, .leave id :: queue, s⟩ supply' y) :
    ∃ next : Option String,
      y = ⟨entered, queue ++ next.toList.map .enter, leave n next.toList s⟩ := by
  cases h with
  | @leaves _ _ _ _ m targets _ hm htargets =>
    obtain rfl : n = m := Option.some.inj (hn.symm.trans hm)
    rw [route_eq_routeBy, routeBy, hkind] at htargets
    obtain ⟨next, rfl⟩ := takeFirst_atMostOne htargets
    exact ⟨next, rfl⟩

/-- What routing comes to, for every node and every way of deciding guards, which may fail on any of
them. An evaluator is one such way, with the variables in hand. -/
theorem routing_exact (e : Engine) (decide : Decider) (n : Node) (vars : Variables) :
    route e.evaluator n vars = routeBy (e.evaluator.evaluate · vars) n ∧
    (n.kind = .condition →
      (∀ r, routeBy decide n = r ↔ Chooses decide n.transitions r) ∧
      ((∃ f, (routeBy decide n).1 = .error f) ↔ ∃ earlier t later f,
        n.transitions = earlier ++ t :: later ∧ answer? decide t = some (.error f) ∧
          ∀ u ∈ earlier, answer? decide u ≠ some (.ok true)) ∧
      (∀ earlier t later targets, n.transitions = earlier ++ t :: later →
        answer? decide t = some (.ok true) → (routeBy decide n).1 = .ok targets →
          ∃ u ∈ earlier ++ [t], answer? decide u = some (.ok true) ∧ targets = [u.target])) ∧
    (n.kind ≠ .condition → n.kind ≠ .stop →
      (∀ r, routeBy decide n = r ↔ Forks decide n.transitions r) ∧
      ((∃ f, (routeBy decide n).1 = .error f) ↔
        ∃ t ∈ n.transitions, ∃ f, answer? decide t = some (.error f))) ∧
    (n.kind = .condition → ∀ d id entered queue s a y a', Definition.node? d id = some n →
      move e d ⟨entered, .leave id :: queue, s⟩ a = (.ok (some y), a') → ∃ next : Option String,
        y = ⟨entered, queue ++ next.toList.map .enter, leave n next.toList s⟩) := by
  have hgateway : n.kind = .condition → routeBy decide n = takeFirst decide none n.transitions := by
    intro hkind
    rw [routeBy, hkind]
  have hfork : n.kind ≠ .condition → n.kind ≠ .stop →
      routeBy decide n = takeAll decide n.transitions := by
    intro hcondition hstop
    unfold routeBy
    split
    · exact absurd ‹_› hcondition
    · exact absurd ‹_› hstop
    · rfl
  refine ⟨rfl, fun hkind => ?_, fun hcondition hstop => ?_, fun hkind => ?_⟩
  · rw [hgateway hkind]
    refine ⟨fun r => takeFirst_eq_iff, takeFirst_fails_iff, ?_⟩
    intro earlier t later targets hts ht h
    rw [hts] at h
    exact takeFirst_of_mem_true ht h
  · rw [hfork hcondition hstop]
    exact ⟨fun r => takeAll_eq_iff, takeAll_fails_iff⟩
  · intro d id entered queue s a y a' hn h
    exact (move_cases h).gateway hn hkind

end Workflow.Engine
