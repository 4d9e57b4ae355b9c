import Workflow.Engine.Routing
import Workflow.Proofs.Asking

/-!
What routes are made of: targets of the node that a token leaves (`mem_targets_of_route`), and faults
that an expression on one of its transitions answers with (`exists_atom_of_route`). An expression that
the standard evaluator accepts beforehand parses whenever it is asked (`readsChecked_standard`).
-/
namespace Workflow

/-! ### Expressions -/

namespace Guard

/-- A result that is not told as a text which does not parse. -/
def Readable {α : Type} (r : Except EvalError α) : Prop := r ≠ .error .unparsable

section Readable

variable {α β : Type} {r : Except EvalError α}

theorem readable_ok (v : α) : Readable (.ok v : Except EvalError α) := fun h => nomatch h

theorem readable_map {f : α → β} (h : Readable r) : Readable (r.map f) := by
  cases r with
  | ok v => exact readable_ok _
  | error err => exact fun herr => h (congrArg Except.error (Except.error.inj herr))

theorem readable_bind {f : α → Except EvalError β} (h : Readable r) (hf : ∀ v, Readable (f v)) :
    Readable (r >>= f) := by
  cases r with
  | ok v => exact hf v
  | error err => exact fun herr => h (congrArg Except.error (Except.error.inj herr))

theorem readable_apply (op : Operator) (a b : Value) : Readable (op.apply a b) := by
  unfold Operator.apply
  split
  · exact readable_ok _
  · split
    · exact readable_ok _
    · exact fun h => nomatch h
  · split
    · exact readable_ok _
    · exact fun h => nomatch h

end Readable

namespace Expr

variable (ctx : Value)

mutual

/-- An expression is evaluated without a word of texts that do not parse. -/
theorem readable_eval : ∀ x : Expr, Readable (x.eval ctx)
  | .null => by rw [eval]; exact readable_ok _
  | .bool b => by rw [eval]; exact readable_ok _
  | .number x => by rw [eval]; exact readable_ok _
  | .string s => by rw [eval]; exact readable_ok _
  | .ident name => by
    rw [eval]
    split
    · exact readable_ok _
    · exact fun h => nomatch h
  | .list items => by
    rw [eval]
    exact readable_map (readable_evalItems items)
  | .record fields => by
    rw [eval]
    exact readable_map (readable_evalFields ∅ fields)
  | .connect .either left right => by
    rw [eval]
    split
    · exact readable_eval left
    · exact readable_eval right
  | .connect .both left right => by
    rw [eval]
    split
    · exact readable_eval right
    · exact readable_eval left
  | .operate op left right => by
    rw [eval]
    exact readable_bind (readable_eval left) fun l =>
      readable_bind (readable_eval right) fun r => readable_apply op l r
  | .choose condition yes no => by
    rw [eval]
    split
    · exact readable_eval yes
    · exact readable_eval no
  | .transform subject name args => by
    rw [eval]
    refine readable_bind (readable_eval subject) fun s =>
      readable_bind (readable_evalItems args) fun as => ?_
    split
    · exact readable_ok _
    · exact fun h => nomatch h
  | .index subject key => by
    rw [eval]
    refine readable_bind (readable_eval subject) fun s => readable_bind (readable_eval key) fun k => ?_
    split
    · exact readable_ok _
    · exact readable_ok _
    · exact fun h => nomatch h
  | .member subject name => by
    rw [eval]
    exact readable_bind (readable_eval subject) fun s => readable_ok _
  | .filter subject name op right => by
    rw [eval]
    refine readable_bind (readable_eval subject) fun s => ?_
    split
    · exact readable_bind (readable_eval right) fun r => readable_ok _
    · exact fun h => nomatch h

theorem readable_evalItems : ∀ xs : List Expr, Readable (evalItems ctx xs)
  | [] => by rw [evalItems]; exact readable_ok _
  | x :: xs => by
    rw [evalItems]
    exact readable_bind (readable_eval x) fun v =>
      readable_bind (readable_evalItems xs) fun vs => readable_ok _

theorem readable_evalFields (done : Dict String Value) :
    ∀ fields : List (String × Expr), Readable (evalFields ctx done fields)
  | [] => by rw [evalFields]; exact readable_ok _
  | (k, x) :: fields => by
    rw [evalFields]
    split
    · exact fun h => nomatch h
    · exact readable_bind (readable_eval x) fun v => readable_evalFields (done.insert k v) fields

end

end Expr

/-- Whether a fault is that of a text which does not parse. -/
def Fault.isUnreadable : Fault → Bool
  | failed _ cause => cause == .unparsable
  | blank | unparsable _ => true
  | reported _ => false

namespace Evaluator

/-- A text that passes the check parses, whatever the variables are. -/
def ReadsChecked (ev : Evaluator) : Prop :=
  ∀ {text}, ev.check text = .ok () → ∀ {ctx f}, ev.atom ctx text = .error f → f.isUnreadable = false

theorem readsChecked_standard : standard.ReadsChecked := by
  intro text hcheck ctx f hf
  change checkAtom text = .ok () at hcheck
  change evalAtom ctx text = .error f at hf
  unfold checkAtom at hcheck
  split at hcheck
  · cases hcheck
  · cases hparse : Expr.parse? text with
    | none =>
      rw [hparse] at hcheck
      cases hcheck
    | some x =>
      rw [evalAtom, evalText, hparse] at hf
      dsimp only at hf
      cases heval : x.eval ctx with
      | ok v =>
        rw [heval] at hf
        cases hf
      | error cause =>
        rw [heval] at hf
        cases hf
        exact beq_false_of_ne fun hcause => Expr.readable_eval ctx x (hcause ▸ heval)

end Evaluator

end Guard

/-! ### Conditions -/

namespace Condition

variable {ε : Type} {atom : String → Except ε Bool} {f : ε}

/-- A condition fails as one of its expressions does. -/
theorem exists_of_ask {c : Condition} (h : (c.ask atom).1 = .error f) :
    ∃ a ∈ c.atoms, atom a = .error f := by
  obtain ⟨earlier, a, hasked, -, hf⟩ := askAny_eq_error_iff.1 h
  have ha : a ∈ (c.ask atom).2 := by
    change a ∈ (askAny atom c.groups).2
    rw [hasked]
    exact List.mem_append_right _ List.mem_cons_self
  exact ⟨a, (asked_sublist_atoms c).subset ha, hf⟩

end Condition

/-! ### Routes -/

namespace Engine

variable {decide : Condition → Except Guard.Fault Bool × List String} {ts : List Transition}
  {targets : List String} {target : String} {f : Guard.Fault}

theorem mem_of_takeFirst {fallback : Option String}
    (h : (takeFirst decide fallback ts).1 = .ok targets) (ht : target ∈ targets) :
    fallback = some target ∨ target ∈ ts.map (·.target) := by
  induction ts generalizing fallback with
  | nil =>
    cases h
    exact Or.inl (Option.mem_toList.1 ht)
  | cons t ts ih =>
    obtain ⟨dest, condition⟩ := t
    have hrest : ∀ {fallback'}, (takeFirst decide fallback' ts).1 = .ok targets →
        (fallback' = some target → fallback = some target ∨ dest = target) →
          fallback = some target ∨ target ∈ (⟨dest, condition⟩ :: ts).map (·.target) := by
      intro fallback' h hfallback
      rcases ih h with hback | hmem
      · apply (hfallback hback).imp_right
        rintro rfl
        exact List.mem_cons_self ..
      · exact Or.inr (List.mem_cons_of_mem _ hmem)
    cases condition with
    | none =>
      refine hrest h fun hback => ?_
      cases fallback with
      | none => exact Or.inr (Option.some.inj hback)
      | some m => exact Or.inl hback
    | some guard =>
      rw [takeFirst] at h
      rcases hd : decide guard with ⟨answer, asked⟩
      rw [hd] at h
      match answer, h with
      | .error g, h => cases h
      | .ok true, h =>
        cases h
        rw [List.mem_singleton.1 ht]
        exact Or.inr (List.mem_cons_self ..)
      | .ok false, h => exact hrest h Or.inl

theorem mem_of_takeAll (h : (takeAll decide ts).1 = .ok targets) (ht : target ∈ targets) :
    target ∈ ts.map (·.target) := by
  induction ts generalizing targets with
  | nil =>
    cases h
    cases ht
  | cons t ts ih =>
    obtain ⟨dest, condition⟩ := t
    have hrest : ∀ {r : Except Guard.Fault (List String)}, (takeAll decide ts).1 = r →
        r.map (dest :: ·) = .ok targets → target ∈ dest :: ts.map (·.target) := by
      intro r hr hmap
      cases r with
      | error g => cases hmap
      | ok ms =>
        cases hmap
        rcases List.mem_cons.1 ht with rfl | ht
        · exact List.mem_cons_self ..
        · exact List.mem_cons_of_mem _ (ih hr ht)
    cases condition with
    | none => exact hrest rfl h
    | some guard =>
      rw [takeAll] at h
      rcases hd : decide guard with ⟨answer, asked⟩
      rw [hd] at h
      match answer, h with
      | .error g, h => cases h
      | .ok true, h => exact hrest rfl h
      | .ok false, h => exact List.mem_cons_of_mem _ (ih h ht)

/-- A token leaves a node for targets of its transitions only. -/
theorem mem_targets_of_route {ev : Guard.Evaluator} {n : Node} {vars : Variables}
    (h : (route ev n vars).1 = .ok targets) (ht : target ∈ targets) : target ∈ n.targets := by
  unfold route at h
  split at h
  · exact (mem_of_takeFirst h ht).resolve_left fun h => nomatch h
  · cases h
    cases ht
  · exact mem_of_takeAll h ht

theorem exists_of_takeFirst {fallback : Option String}
    (h : (takeFirst decide fallback ts).1 = .error f) :
    ∃ t ∈ ts, ∃ c, t.condition = some c ∧ (decide c).1 = .error f := by
  induction ts generalizing fallback with
  | nil => cases h
  | cons t ts ih =>
    obtain ⟨dest, condition⟩ := t
    have hrest : ∀ {fallback'}, (takeFirst decide fallback' ts).1 = .error f →
        ∃ t ∈ ⟨dest, condition⟩ :: ts, ∃ c, t.condition = some c ∧ (decide c).1 = .error f := by
      intro fallback' h
      obtain ⟨t, ht, hc⟩ := ih h
      exact ⟨t, List.mem_cons_of_mem _ ht, hc⟩
    cases condition with
    | none => exact hrest h
    | some guard =>
      rw [takeFirst] at h
      rcases hd : decide guard with ⟨answer, asked⟩
      rw [hd] at h
      match answer, h with
      | .error g, h =>
        cases h
        exact ⟨_, List.mem_cons_self .., guard, rfl, by rw [hd]⟩
      | .ok true, h => cases h
      | .ok false, h => exact hrest h

theorem exists_of_takeAll (h : (takeAll decide ts).1 = .error f) :
    ∃ t ∈ ts, ∃ c, t.condition = some c ∧ (decide c).1 = .error f := by
  induction ts with
  | nil => cases h
  | cons t ts ih =>
    obtain ⟨dest, condition⟩ := t
    have hrest : (takeAll decide ts).1 = .error f →
        ∃ t ∈ ⟨dest, condition⟩ :: ts, ∃ c, t.condition = some c ∧ (decide c).1 = .error f := by
      intro h
      obtain ⟨t, ht, hc⟩ := ih h
      exact ⟨t, List.mem_cons_of_mem _ ht, hc⟩
    have hmap : ((takeAll decide ts).1.map (dest :: ·)) = .error f →
        ∃ t ∈ ⟨dest, condition⟩ :: ts, ∃ c, t.condition = some c ∧ (decide c).1 = .error f := by
      intro h
      apply hrest
      cases hr : (takeAll decide ts).1 with
      | error g =>
        rw [hr] at h
        exact congrArg Except.error (Except.error.inj h)
      | ok ms =>
        rw [hr] at h
        cases h
    cases condition with
    | none => exact hmap h
    | some guard =>
      rw [takeAll] at h
      rcases hd : decide guard with ⟨answer, asked⟩
      rw [hd] at h
      match answer, h with
      | .error g, h =>
        cases h
        exact ⟨_, List.mem_cons_self .., guard, rfl, by rw [hd]⟩
      | .ok true, h => exact hmap h
      | .ok false, h => exact hrest h

/-- A route fails as an expression on one of the transitions does. -/
theorem exists_atom_of_route {ev : Guard.Evaluator} {n : Node} {vars : Variables}
    (h : (route ev n vars).1 = .error f) : ∃ t ∈ n.transitions, ∃ c, t.condition = some c ∧
      ∃ a ∈ c.atoms, ev.atom (ev.context vars) a = .error f := by
  have hcondition : ∃ t ∈ n.transitions, ∃ c, t.condition = some c ∧
      (ev.evaluate c vars).1 = .error f := by
    unfold route at h
    split at h
    · exact exists_of_takeFirst h
    · cases h
    · exact exists_of_takeAll h
  obtain ⟨t, ht, c, hc, hf⟩ := hcondition
  exact ⟨t, ht, c, hc, Condition.exists_of_ask hf⟩

end Engine

end Workflow
