import Workflow.Guard.Condition

/-!
What a condition answers and which expressions it asks, for every way of answering them, which may fail
on any. A group is asked up to its first expression that is not true (`heard`), a condition up to its
first group that is true or fails (`reached`). Whatever stops the asking was asked last, so a fault is
the answer if an expression asked has one (`comesFrom_askAny`). An answer rests on the expressions asked
and on no others (`askAny_congr`), and one other than false stays as it is when more groups follow
(`askAny_append_of_settled`).
-/
namespace Workflow.Condition

variable {ε : Type u}

/-! ### Lists up to where the answers change -/

section Through

variable {α : Type v} {answer : α → Except ε Bool} {b : Bool} {a : α}

/-- Whether an item is answered with this truth value. -/
def isAnswered (b : Bool) (answer : α → Except ε Bool) (a : α) : Bool :=
  match answer a with
  | .ok b' => b' == b
  | .error _ => false

theorem isAnswered_iff : isAnswered b answer a = true ↔ answer a = .ok b := by
  unfold isAnswered
  split
  · simp [*]
  · simp [*]

/-- The items at the head of a list that are answered with `b`, and the first that is not. -/
def through (b : Bool) (answer : α → Except ε Bool) (l : List α) : List α :=
  l.takeWhile (isAnswered b answer) ++ (l.dropWhile (isAnswered b answer)).take 1

/-- The answer of the first item that is not answered with `b`, or else `otherwise`. -/
def firstOther (b : Bool) (answer : α → Except ε Bool) (otherwise : Bool) (l : List α) :
    Except ε Bool :=
  (l.dropWhile (isAnswered b answer)).head?.elim (.ok otherwise) answer

theorem through_cons_of_eq (h : answer a = .ok b) (l : List α) :
    through b answer (a :: l) = a :: through b answer l := by
  have ha := isAnswered_iff.2 h
  rw [through, List.takeWhile_cons_of_pos ha, List.dropWhile_cons_of_pos ha, List.cons_append, ← through]

theorem through_cons_of_ne (h : answer a ≠ .ok b) (l : List α) :
    through b answer (a :: l) = [a] := by
  have ha := mt isAnswered_iff.1 h
  rw [through, List.takeWhile_cons_of_neg ha, List.dropWhile_cons_of_neg ha]
  rfl

theorem firstOther_cons_of_eq (h : answer a = .ok b) (otherwise : Bool) (l : List α) :
    firstOther b answer otherwise (a :: l) = firstOther b answer otherwise l := by
  rw [firstOther, List.dropWhile_cons_of_pos (isAnswered_iff.2 h), ← firstOther]

theorem firstOther_cons_of_ne (h : answer a ≠ .ok b) (otherwise : Bool) (l : List α) :
    firstOther b answer otherwise (a :: l) = answer a := by
  rw [firstOther, List.dropWhile_cons_of_neg (mt isAnswered_iff.1 h)]
  rfl

theorem isPrefix_through (b : Bool) (answer : α → Except ε Bool) (l : List α) :
    through b answer l <+: l := by
  have h : through b answer l <+:
      l.takeWhile (isAnswered b answer) ++ l.dropWhile (isAnswered b answer) :=
    (List.prefix_append_right_inj _).2 <| List.take_prefix 1 _
  rwa [List.takeWhile_append_dropWhile] at h

end Through

/-! ### What is asked -/

variable (atom : String → Except ε Bool)

/-- The expressions of a group up to the first that is not true. -/
def heard (g : List String) : List String := through true atom g

/-- The answer of a group: that of its first expression that is not true. Without one the group is true
if it has any expressions. -/
def verdict (g : List String) : Except ε Bool := firstOther true atom (!g.isEmpty) g

/-- The groups up to the first that is true or fails. -/
def reached (gs : List (List String)) : List (List String) := through false (verdict atom) gs

/-- A group with expressions, all of them true. -/
def Whole (g : List String) : Prop := g ≠ [] ∧ ∀ a ∈ g, atom a = .ok true

/-- An expression that is true or false. -/
def Answers (a : String) : Prop := ∃ b, atom a = .ok b

/-- Expressions of which the last one fails with `e` and the others do not fail. -/
def BreaksWith (e : ε) (asked : List String) : Prop :=
  ∃ earlier a, asked = earlier ++ [a] ∧ (∀ b ∈ earlier, Answers atom b) ∧ atom a = .error e

/-- That an answer comes from these expressions: none of them fails, or the last one does, with the fault
that is the answer. -/
def ComesFrom (asked : List String) : Except ε Bool → Prop
  | .ok _ => ∀ a ∈ asked, Answers atom a
  | .error e => BreaksWith atom e asked

variable {atom} {atom' : String → Except ε Bool} {a : String} {e : ε} {r : Except ε Bool}
  {earlier asked g : List String} {gs : List (List String)}

theorem ComesFrom.append (h : ComesFrom atom asked r) (hearlier : ∀ a ∈ earlier, Answers atom a) :
    ComesFrom atom (earlier ++ asked) r := by
  cases r with
  | ok b =>
    intro a ha
    rcases List.mem_append.1 ha with ha | ha
    · exact hearlier a ha
    · exact h a ha
  | error e =>
    -- the fault stays the last one
    obtain ⟨before, a, rfl, hbefore, ha⟩ := h
    refine ⟨earlier ++ before, a, (List.append_assoc ..).symm, fun b hb => ?_, ha⟩
    rcases List.mem_append.1 hb with hb | hb
    · exact hearlier b hb
    · exact hbefore b hb

theorem ComesFrom.eq_error (h : ComesFrom atom asked r) (he : BreaksWith atom e asked) :
    r = .error e := by
  obtain ⟨earlier, a, rfl, -, ha⟩ := he
  cases r with
  | ok b =>
    obtain ⟨b', hb⟩ := h a (List.mem_append_right _ List.mem_cons_self)
    cases hb.symm.trans ha
  | error e' =>
    obtain ⟨earlier', a', hasked, -, ha'⟩ := h
    obtain rfl : a = a' := List.singleton_inj.1 (List.append_inj_right' hasked rfl)
    exact congrArg _ (Except.error.inj (ha'.symm.trans ha))

theorem not_breaksWith (h : ∀ a ∈ asked, Answers atom a) : ¬ BreaksWith atom e asked := fun he =>
  nomatch ComesFrom.eq_error (r := .ok true) h he

theorem comesFrom_singleton (a : String) : ComesFrom atom [a] (atom a) := by
  cases h : atom a with
  | ok b =>
    intro a' ha
    rw [List.mem_singleton.1 ha]
    exact ⟨b, h⟩
  | error e => exact ⟨[], a, rfl, fun b hb => absurd hb List.not_mem_nil, h⟩

/-! ### A group -/

theorem askAll_cons_of_true (h : atom a = .ok true) (g : List String) :
    askAll atom (a :: g) = ((askAll atom g).1, a :: (askAll atom g).2) := by
  rw [askAll, h]

theorem askAll_cons_of_ne (h : atom a ≠ .ok true) (g : List String) :
    askAll atom (a :: g) = (atom a, [a]) := by
  rw [askAll]
  split
  · exact absurd ‹_› h
  · rfl

theorem askAll_eq (g : List String) : askAll atom g = (firstOther true atom true g, heard atom g) := by
  induction g with
  | nil => rfl
  | cons a g ih =>
    by_cases h : atom a = .ok true
    · rw [askAll_cons_of_true h, firstOther_cons_of_eq h, heard, through_cons_of_eq h, ih, heard]
    · rw [askAll_cons_of_ne h, firstOther_cons_of_ne h, heard, through_cons_of_ne h]

/-- A group with expressions answers with its verdict. -/
theorem askAll_eq_verdict (h : g ≠ []) : askAll atom g = (verdict atom g, heard atom g) := by
  rw [askAll_eq, verdict, List.isEmpty_eq_false_iff.2 h, Bool.not_false]

theorem askAll_eq_true_iff : (askAll atom g).1 = .ok true ↔ ∀ a ∈ g, atom a = .ok true := by
  induction g with
  | nil => simp [askAll]
  | cons a g ih =>
    by_cases h : atom a = .ok true
    · simp [askAll_cons_of_true h, ih, h]
    · simp [askAll_cons_of_ne h, h]

theorem comesFrom_askAll (g : List String) : ComesFrom atom (askAll atom g).2 (askAll atom g).1 := by
  induction g with
  | nil => exact fun a ha => nomatch ha
  | cons a g ih =>
    by_cases h : atom a = .ok true
    · rw [askAll_cons_of_true h]
      have ha : ∀ b ∈ [a], Answers atom b := by
        intro b hb
        rw [List.mem_singleton.1 hb]
        exact ⟨true, h⟩
      exact ih.append ha
    · rw [askAll_cons_of_ne h]
      exact comesFrom_singleton a

theorem askAll_congr (h : ∀ a ∈ (askAll atom g).2, atom' a = atom a) :
    askAll atom' g = askAll atom g := by
  induction g with
  | nil => rfl
  | cons a g ih =>
    by_cases ha : atom a = .ok true
    · rw [askAll_cons_of_true ha] at h ⊢
      have ha' : atom' a = .ok true := (h a List.mem_cons_self).trans ha
      rw [askAll_cons_of_true ha', ih fun b hb => h b (List.mem_cons_of_mem _ hb)]
    · rw [askAll_cons_of_ne ha] at h ⊢
      have heq : atom' a = atom a := h a List.mem_cons_self
      rw [askAll_cons_of_ne (heq ▸ ha), heq]

theorem verdict_eq_true_iff : verdict atom g = .ok true ↔ Whole atom g := by
  by_cases h : g = []
  · subst h
    exact ⟨(nomatch ·), fun h => absurd rfl h.1⟩
  · have hfst : (askAll atom g).1 = verdict atom g := by rw [askAll_eq_verdict h]
    rw [← hfst, askAll_eq_true_iff, Whole, and_iff_right h]

theorem comesFrom_verdict (g : List String) : ComesFrom atom (heard atom g) (verdict atom g) := by
  by_cases h : g = []
  · subst h
    exact fun a ha => nomatch ha
  · have hgroup : ComesFrom atom (askAll atom g).2 (askAll atom g).1 := comesFrom_askAll g
    rwa [askAll_eq_verdict h] at hgroup

theorem verdict_congr (h : ∀ a ∈ heard atom g, atom' a = atom a) :
    verdict atom' g = verdict atom g ∧ heard atom' g = heard atom g := by
  by_cases hg : g = []
  · subst hg
    exact ⟨rfl, rfl⟩
  · have hgroup : askAll atom' g = askAll atom g :=
      askAll_congr (by rwa [askAll_eq_verdict hg])
    rw [askAll_eq_verdict hg, askAll_eq_verdict hg] at hgroup
    exact Prod.mk.inj hgroup

/-! ### A condition -/

theorem askAny_cons_of_false (h : verdict atom g = .ok false) (gs : List (List String)) :
    askAny atom (g :: gs) = ((askAny atom gs).1, heard atom g ++ (askAny atom gs).2) := by
  cases g with
  | nil => rfl
  | cons a g =>
    rw [askAny, askAll_eq_verdict (List.cons_ne_nil a g), h]
    exact List.cons_ne_nil a g

theorem askAny_cons_of_ne (h : verdict atom g ≠ .ok false) (gs : List (List String)) :
    askAny atom (g :: gs) = (verdict atom g, heard atom g) := by
  cases g with
  | nil => exact absurd rfl h
  | cons a g =>
    rw [askAny, askAll_eq_verdict (List.cons_ne_nil a g)]
    · split
      · exact absurd (Prod.mk.inj ‹_›).1 h
      · rfl
    · exact List.cons_ne_nil a g

theorem askAny_eq (gs : List (List String)) : askAny atom gs =
    (firstOther false (verdict atom) false gs, (reached atom gs).flatMap (heard atom)) := by
  induction gs with
  | nil => rfl
  | cons g gs ih =>
    by_cases h : verdict atom g = .ok false
    · rw [askAny_cons_of_false h, firstOther_cons_of_eq h, reached, through_cons_of_eq h, ih, reached,
        List.flatMap_cons]
    · rw [askAny_cons_of_ne h, firstOther_cons_of_ne h, reached, through_cons_of_ne h,
        List.flatMap_singleton]

theorem comesFrom_askAny (gs : List (List String)) :
    ComesFrom atom (askAny atom gs).2 (askAny atom gs).1 := by
  induction gs with
  | nil => exact fun a ha => nomatch ha
  | cons g gs ih =>
    have hgroup : ComesFrom atom (heard atom g) (verdict atom g) := comesFrom_verdict g
    by_cases h : verdict atom g = .ok false
    · rw [h] at hgroup
      rw [askAny_cons_of_false h]
      exact ih.append hgroup
    · rw [askAny_cons_of_ne h]
      exact hgroup

theorem askAny_congr (h : ∀ a ∈ (askAny atom gs).2, atom' a = atom a) :
    askAny atom' gs = askAny atom gs := by
  induction gs with
  | nil => rfl
  | cons g gs ih =>
    by_cases hg : verdict atom g = .ok false
    · rw [askAny_cons_of_false hg] at h ⊢
      obtain ⟨hverdict, hheard⟩ := verdict_congr fun a ha => h a (List.mem_append_left _ ha)
      rw [askAny_cons_of_false (hverdict.trans hg), hheard,
        ih fun a ha => h a (List.mem_append_right _ ha)]
    · rw [askAny_cons_of_ne hg] at h ⊢
      obtain ⟨hverdict, hheard⟩ := verdict_congr h
      rw [askAny_cons_of_ne (hverdict ▸ hg), hverdict, hheard]

theorem askAny_append_of_false (h : (askAny atom gs).1 = .ok false) (more : List (List String)) :
    askAny atom (gs ++ more) = ((askAny atom more).1, (askAny atom gs).2 ++ (askAny atom more).2) := by
  induction gs with
  | nil => rfl
  | cons g gs ih =>
    by_cases hg : verdict atom g = .ok false
    · rw [askAny_cons_of_false hg] at h ⊢
      rw [List.cons_append, askAny_cons_of_false hg, ih h, List.append_assoc]
    · rw [askAny_cons_of_ne hg] at h
      exact absurd h hg

theorem askAny_append_of_settled (h : (askAny atom gs).1 ≠ .ok false) (more : List (List String)) :
    askAny atom (gs ++ more) = askAny atom gs := by
  induction gs with
  | nil => exact absurd rfl h
  | cons g gs ih =>
    by_cases hg : verdict atom g = .ok false
    · rw [askAny_cons_of_false hg] at h ⊢
      rw [List.cons_append, askAny_cons_of_false hg, ih h]
    · rw [List.cons_append, askAny_cons_of_ne hg, askAny_cons_of_ne hg]

/-- The groups before the one that settles the answer are all false. -/
theorem exists_settling (h : (askAny atom gs).1 ≠ .ok false) :
    ∃ earlier g later, gs = earlier ++ g :: later ∧ (askAny atom earlier).1 = .ok false ∧
      verdict atom g = (askAny atom gs).1 := by
  induction gs with
  | nil => exact absurd rfl h
  | cons g gs ih =>
    by_cases hg : verdict atom g = .ok false
    · rw [askAny_cons_of_false hg] at h ⊢
      obtain ⟨earlier, g', later, rfl, hearlier, hg'⟩ := ih h
      refine ⟨g :: earlier, g', later, rfl, ?_, hg'⟩
      rwa [askAny_cons_of_false hg]
    · exact ⟨[], g, gs, rfl, rfl, by rw [askAny_cons_of_ne hg]⟩

theorem askAny_eq_error_iff :
    (askAny atom gs).1 = .error e ↔ BreaksWith atom e (askAny atom gs).2 := by
  have hcomes : ComesFrom atom (askAny atom gs).2 (askAny atom gs).1 := comesFrom_askAny gs
  constructor
  · intro h
    rwa [h] at hcomes
  · exact hcomes.eq_error

theorem askAny_eq_true_iff : (askAny atom gs).1 = .ok true ↔ ∃ earlier g later,
    gs = earlier ++ g :: later ∧ Whole atom g ∧ ∀ a ∈ (askAny atom earlier).2, Answers atom a := by
  constructor
  · intro h
    have hsettled : (askAny atom gs).1 ≠ .ok false := h ▸ nofun
    obtain ⟨earlier, g, later, hgs, hearlier, hg⟩ := exists_settling hsettled
    have hcomes : ComesFrom atom (askAny atom earlier).2 (askAny atom earlier).1 :=
      comesFrom_askAny earlier
    rw [hearlier] at hcomes
    exact ⟨earlier, g, later, hgs, verdict_eq_true_iff.1 (hg.trans h), hcomes⟩
  · rintro ⟨earlier, g, later, rfl, hg, hasked⟩
    have htrue := verdict_eq_true_iff.2 hg
    -- the groups before it may have settled the answer, but not by failing
    cases hearlier : (askAny atom earlier).1 with
    | error e => exact absurd (askAny_eq_error_iff.1 hearlier) (not_breaksWith hasked)
    | ok b =>
      cases b with
      | true => rw [askAny_append_of_settled (hearlier ▸ nofun), hearlier]
      | false => rw [askAny_append_of_false hearlier, askAny_cons_of_ne (htrue ▸ nofun), htrue]

theorem askAny_eq_false_iff : (askAny atom gs).1 = .ok false ↔
    (∀ g ∈ gs, ¬ Whole atom g) ∧ ∀ a ∈ (askAny atom gs).2, Answers atom a := by
  have hcomes : ComesFrom atom (askAny atom gs).2 (askAny atom gs).1 := comesFrom_askAny gs
  constructor
  · intro h
    rw [h] at hcomes
    refine ⟨fun g hg hwhole => ?_, hcomes⟩
    have htrue := verdict_eq_true_iff.2 hwhole
    obtain ⟨earlier, later, rfl⟩ := List.append_of_mem hg
    -- asking comes as far as the true group, unless something else than false stops it before
    by_cases hearlier : (askAny atom earlier).1 = .ok false
    · rw [askAny_append_of_false hearlier, askAny_cons_of_ne (htrue ▸ nofun), htrue] at h
      cases h
    · rw [askAny_append_of_settled hearlier] at h
      exact hearlier h
  · rintro ⟨hnone, hasked⟩
    cases h : (askAny atom gs).1 with
    | error e => exact absurd (askAny_eq_error_iff.1 h) (not_breaksWith hasked)
    | ok b =>
      cases b with
      | false => rfl
      | true =>
        obtain ⟨earlier, g, later, rfl, hg, -⟩ := askAny_eq_true_iff.1 h
        exact absurd hg (hnone g (by simp))

theorem flatMap_heard_sublist (gs : List (List String)) : (gs.flatMap (heard atom)).Sublist gs.flatten := by
  induction gs with
  | nil => exact .slnil
  | cons g gs ih => exact (isPrefix_through true atom g).sublist.append ih

/-- The expressions are asked in the order in which they stand, each where it stands at most once. -/
theorem asked_sublist_atoms (c : Condition) : (c.ask atom).2.Sublist c.atoms := by
  obtain ⟨rest, hrest⟩ := isPrefix_through false (verdict atom) c.groups
  have hasked : (c.ask atom).2 = (reached atom c.groups).flatMap (heard atom) := by rw [ask, askAny_eq]
  have hatoms : c.atoms = (reached atom c.groups).flatten ++ rest.flatten := by
    rw [← List.flatten_append, reached, hrest, atoms]
  rw [hasked, hatoms]
  exact (flatMap_heard_sublist _).trans (List.sublist_append_left _ _)

/-- What asking a condition comes to, for every condition and every way of answering its expressions: which
of them are asked, when the answer is true, a fault or false, and that nothing else matters to it. -/
theorem ask_exact (c : Condition) (atom : String → Except ε Bool) :
    c.ask atom = (firstOther false (verdict atom) false c.groups,
      (reached atom c.groups).flatMap (heard atom)) ∧
    (c.ask atom).2.Sublist c.atoms ∧
    ((c.ask atom).1 = .ok true ↔ ∃ earlier g later, c.groups = earlier ++ g :: later ∧ Whole atom g ∧
      ∀ a ∈ (ask ⟨earlier⟩ atom).2, Answers atom a) ∧
    (∀ e, (c.ask atom).1 = .error e ↔ BreaksWith atom e (c.ask atom).2) ∧
    ((c.ask atom).1 = .ok false ↔
      (∀ g ∈ c.groups, ¬ Whole atom g) ∧ ∀ a ∈ (c.ask atom).2, Answers atom a) ∧
    (∀ atom' : String → Except ε Bool, (∀ a ∈ (c.ask atom).2, atom' a = atom a) →
      c.ask atom' = c.ask atom) ∧
    ∀ more, (c.ask atom).1 ≠ .ok false → ask ⟨c.groups ++ more⟩ atom = c.ask atom :=
  ⟨askAny_eq c.groups, asked_sublist_atoms c, askAny_eq_true_iff, fun _ => askAny_eq_error_iff,
    askAny_eq_false_iff, fun _ => askAny_congr, fun more h => askAny_append_of_settled h more⟩

section Fallback

/-- Answers to the expressions of `fallback`; any other one is unknown. -/
def signals : String → Except String Bool
  | "ready" => .ok true
  | "late" => .ok false
  | a => .error a

/-- A group that is false at its first expression, one without expressions, and one that is true. -/
def fallback : Condition := ⟨[["late", "lost"], [], ["ready", "ready"]]⟩

theorem ask_exact_fallback : fallback.ask signals = (.ok true, ["late", "ready", "ready"]) ∧
    ask ⟨fallback.groups ++ [["lost"]]⟩ signals = fallback.ask signals :=
  have hsettled : (fallback.ask signals).1 ≠ .ok false := nofun
  ⟨rfl, (ask_exact fallback signals).2.2.2.2.2.2 _ hsettled⟩

end Fallback

end Workflow.Condition
