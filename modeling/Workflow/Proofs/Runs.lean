import Workflow.Engine.Action

/-!
How scripts and actions run piece by piece, and what the calls of a script say about its runs.
-/
namespace Workflow

/-- A supply from which some more ids may have been drawn. -/
structure Supply.Grows (s s' : Supply) : Prop where
  ids : s'.ids = s.ids
  drawn : s.drawn ≤ s'.drawn

namespace Supply.Grows

variable {s s' s'' : Supply}

theorem refl (s : Supply) : s.Grows s := ⟨rfl, Nat.le_refl _⟩

theorem trans (h : s.Grows s') (h' : s'.Grows s'') : s.Grows s'' :=
  ⟨h'.ids.trans h.ids, Nat.le_trans h.drawn h'.drawn⟩

end Supply.Grows

namespace Script

variable {α β σ : Type}

theorem runWith_bind (answer : σ → (c : Call) → c.Answer × σ) (s : σ) (x : Script α)
    (f : α → Script β) : (x >>= f).runWith answer s =
      (f (x.runWith answer s).1).runWith answer (x.runWith answer s).2 := by
  induction x generalizing s with
  | done a => rfl
  | call c next ih => exact ih _ _

/-- Whichever worlds of `W` answer the calls, one this call and another the next, the calls satisfy `p`
and the end satisfies `q`. -/
def All (W : World → Prop) (p : Call → Prop) (q : α → Prop) : Script α → Prop
  | done a => q a
  | call c next => p c ∧ ∀ w, W w → (next (w.answer c).1).All W p q

section All

variable {W W' : World → Prop} {p p' : Call → Prop} {x : Script α}

theorem All.imp {q q' : α → Prop} (h : x.All W p q) (hW : ∀ w, W' w → W w)
    (hp : ∀ c, p c → p' c) (hq : ∀ a, q a → q' a) : x.All W' p' q' := by
  induction x with
  | done a => exact hq a h
  | call c next ih => exact ⟨hp c h.1, fun w hw => ih _ (h.2 w (hW w hw))⟩

theorem all_bind {q : β → Prop} {f : α → Script β} :
    (x >>= f).All W p q ↔ x.All W p fun a => (f a).All W p q := by
  induction x with
  | done a => rfl
  | call c next ih => exact and_congr Iff.rfl (forall₂_congr fun _ _ => ih _)

/-- What the calls keep, a whole run keeps. -/
theorem All.run {I : World → Prop} {q : α → Prop} (h : x.All W p q) (hW : ∀ w, I w → W w)
    (hp : ∀ w c, p c → I w → I (w.answer c).2) {w : World} (hw : I w) :
    q (x.run w).1 ∧ I (x.run w).2 := by
  induction x generalizing w with
  | done a => exact ⟨h, hw⟩
  | call c next ih => exact ih _ (h.2 w (hW w hw)) (hp w c h.1 hw)

end All

end Script

namespace Engine

variable {α β : Type} {w w' : World} {a a' a₁ : Ambient} {e : EngineError} {v : α}

namespace Attempt

/-- An attempt that draws ids in their order, and that never fails for the state of an instance. -/
def Regular (x : Attempt α) : Prop :=
  ∀ a : Ambient, a.supply.Grows (x a).2.supply ∧ ∀ cause, (x a).1 ≠ .error (.state cause)

variable {x : Attempt α} {f : α → Attempt β}

theorem regular_pure (v : α) : Regular (pure v) :=
  fun a => ⟨.refl a.supply, fun _ h => nomatch h⟩

theorem regular_throw (h : ∀ cause, e ≠ .state cause) : Regular (throw e : Attempt α) :=
  fun a => ⟨.refl a.supply, fun cause he => h cause (Except.error.inj he)⟩

theorem regular_bind (hx : Regular x) (hf : ∀ v, Regular (f v)) : Regular (x >>= f) := by
  intro a
  have hfirst := hx a
  rcases h : (x >>= f) a with ⟨r, a'⟩
  rcases bind_cases h with ⟨e, he, rfl⟩ | ⟨v, a₁, hv, h⟩
  · rw [he] at hfirst
    exact ⟨hfirst.1, fun cause hr => hfirst.2 cause (congrArg Except.error (Except.error.inj hr))⟩
  · have hrest := hf v a₁
    rw [hv] at hfirst
    rw [h] at hrest
    exact ⟨hfirst.1.trans hrest.1, hrest.2⟩

theorem regular_trace (t : TraceEntry) : Regular (trace t) :=
  fun a => ⟨.refl a.supply, fun _ h => nomatch h⟩

theorem regular_remark (r : Remark) : Regular (remark r) := regular_trace _

theorem regular_now : Regular now := fun _ => ⟨⟨rfl, Nat.le_refl _⟩, fun _ h => nomatch h⟩

theorem regular_fresh : Regular fresh := fun _ => ⟨⟨rfl, Nat.le_succ _⟩, fun _ h => nomatch h⟩

theorem regular_configured (x : Except ConfigurationError α) : Regular (configured x) := by
  cases x with
  | ok v => exact regular_pure v
  | error e => exact regular_throw fun _ h => nomatch h

theorem regular_notify (b : Bus) (ev : Event) : Regular (notify b ev) := by
  intro a
  have hget : (get : Attempt Ambient) a = (.ok a, a) := rfl
  rw [notify, bind_ok hget]
  rcases b.notify a.deliveries ev with ⟨_ | _, deliveries⟩ <;>
    exact ⟨.refl a.supply, fun _ h => nomatch h⟩

theorem regular_decided (answer : Except Guard.Fault α × List String) :
    Regular (decided answer) := by
  rcases answer with ⟨_ | _, asked⟩ <;> exact fun a => ⟨.refl a.supply, fun _ h => nomatch h⟩

theorem regular_handle {node : String} {run : Nat → Supply → Except String α × Supply}
    (h : ∀ n (s : Supply), s.Grows (run n s).2) : Regular (handle node run) := by
  intro a
  have hget : (get : Attempt Ambient) a = (.ok a, a) := rfl
  have hrun := h a.handled a.supply
  rw [handle, bind_ok hget]
  rcases hr : run a.handled a.supply with ⟨_ | _, supply⟩ <;> rw [hr] at hrun <;>
    exact ⟨hrun, fun _ h => nomatch h⟩

end Attempt

namespace Action

@[simp] theorem run_lift (x : Attempt α) : run w a (liftM x) = (x a, w) := rfl

@[simp] theorem run_ask (c : Call) :
    run w a (ask c) = ((.ok (w.answer c).1, a), (w.answer c).2) := rfl

theorem run_resume (x : Except EngineError α) : run w a (resume x) = ((x, a), w) := by
  cases x <;> rfl

theorem run_bind_ok {x : Action α} {f : α → Action β} {w₁ : World}
    (h : run w a x = ((.ok v, a₁), w₁)) : run w a (x >>= f) = run w₁ a₁ (f v) := by
  have hb := Script.runWith_bind World.answer w (x a) fun r => ExceptT.bindCont f r.1 r.2
  have hx : (x a).runWith World.answer w = ((.ok v, a₁), w₁) := h
  rw [hx] at hb
  exact hb

theorem run_bind_error {x : Action α} {f : α → Action β} {w₁ : World}
    (h : run w a x = ((.error e, a₁), w₁)) : run w a (x >>= f) = ((.error e, a₁), w₁) := by
  have hb := Script.runWith_bind World.answer w (x a) fun r => ExceptT.bindCont f r.1 r.2
  have hx : (x a).runWith World.answer w = ((.error e, a₁), w₁) := h
  rw [hx] at hb
  exact hb

/-- An action in two parts fails in the first one or goes through it. -/
theorem run_bind_cases {x : Action α} {f : α → Action β} {r : Except EngineError β}
    (h : run w a (x >>= f) = ((r, a'), w')) :
    (∃ e, run w a x = ((.error e, a'), w') ∧ r = .error e) ∨
      ∃ v a₁ w₁, run w a x = ((.ok v, a₁), w₁) ∧ run w₁ a₁ (f v) = ((r, a'), w') := by
  rcases hx : run w a x with ⟨⟨e | v, a₁⟩, w₁⟩
  · rw [run_bind_error hx] at h
    simp only [Prod.mk.injEq] at h
    obtain ⟨⟨rfl, rfl⟩, rfl⟩ := h
    exact Or.inl ⟨e, rfl, rfl⟩
  · exact Or.inr ⟨v, a₁, w₁, rfl, by rw [← h, run_bind_ok hx]⟩

theorem of_run_bind_ok {x : Action α} {f : α → Action β} {r : β}
    (h : run w a (x >>= f) = ((.ok r, a'), w')) :
    ∃ v a₁ w₁, run w a x = ((.ok v, a₁), w₁) ∧ run w₁ a₁ (f v) = ((.ok r, a'), w') := by
  rcases run_bind_cases h with ⟨e, -, he⟩ | h
  · cases he
  · exact h

/-- Work without calls leaves the world to what comes after it. -/
theorem run_lift_bind_cases {x : Attempt α} {f : α → Action β} {r : Except EngineError β}
    (h : run w a (liftM x >>= f) = ((r, a'), w')) :
    (∃ e, x a = (.error e, a') ∧ r = .error e ∧ w' = w) ∨
      ∃ v a₁, x a = (.ok v, a₁) ∧ run w a₁ (f v) = ((r, a'), w') := by
  rcases run_bind_cases h with ⟨e, hx, hr⟩ | ⟨v, a₁, w₁, hx, hf⟩
  · rw [run_lift, Prod.mk.injEq] at hx
    exact Or.inl ⟨e, hx.1, hr, hx.2.symm⟩
  · rw [run_lift, Prod.mk.injEq] at hx
    exact Or.inr ⟨v, a₁, hx.1, hx.2 ▸ hf⟩

theorem of_run_lift_bind_ok {x : Attempt α} {f : α → Action β} {r : β}
    (h : run w a (liftM x >>= f) = ((.ok r, a'), w')) :
    ∃ v a₁, x a = (.ok v, a₁) ∧ run w a₁ (f v) = ((.ok r, a'), w') := by
  rcases run_lift_bind_cases h with ⟨e, -, he, -⟩ | h
  · cases he
  · exact h

theorem run_outcome (x : Action α) :
    run w a (outcome x) = ((.ok (run w a x).1.1, (run w a x).1.2), (run w a x).2) := by
  exact Script.runWith_bind World.answer w (x a) fun r =>
    .done ((.ok r.1 : Except EngineError (Except EngineError α)), r.2)

theorem run_bind_pure {x : Action α} (f : α → β) {r : Except EngineError α}
    (h : run w a x = ((r, a₁), w')) :
    run w a (x >>= fun v => pure (f v)) = ((r.map f, a₁), w') := by
  cases r with
  | error e => exact run_bind_error h
  | ok v => exact run_bind_ok h

theorem run_discard {x : Action α} {r : Except EngineError α} (h : run w a x = ((r, a₁), w')) :
    run w a (discard x) = ((r.map fun _ => (), a₁), w') :=
  run_bind_pure _ h

theorem run_within (span : SpanKind) (attributes : List (Attribute × String)) (x : Action α)
    {r : Except EngineError α}
    (h : run w { a with trace := .opened span attributes :: a.trace } x = ((r, a₁), w')) :
    run w a (within span attributes x) =
      ((r, { a₁ with trace := .closed :: a₁.trace }), w') := by
  have hopen : run w a (liftM (Attempt.trace (.opened span attributes)) : Action Unit) =
      ((.ok (), { a with trace := .opened span attributes :: a.trace }), w) := rfl
  have hclose : run w' a₁ (liftM (Attempt.trace .closed) : Action Unit) =
      ((.ok (), { a₁ with trace := .closed :: a₁.trace }), w') := rfl
  unfold within
  rw [run_bind_ok hopen, run_bind_ok (run_outcome x), h, run_bind_ok hclose, run_resume]

/-- Whichever worlds of `W` answer, the calls of an action satisfy a condition and ids are drawn in
their order. -/
def Obeys (W : World → Prop) (p : Call → Prop) (x : Action α) : Prop :=
  ∀ a : Ambient, (x a).All W p fun r => a.supply.Grows r.2.supply

section Obeys

variable {W : World → Prop} {p : Call → Prop}

theorem obeys_pure (v : α) : Obeys W p (pure v) := fun a => .refl a.supply

theorem obeys_throw (e : EngineError) : Obeys W p (throw e : Action α) := fun a => .refl a.supply

theorem obeys_lift {x : Attempt α} (h : Attempt.Regular x) : Obeys W p (liftM x : Action α) :=
  fun a => (h a).1

theorem obeys_ask {c : Call} (h : p c) : Obeys W p (ask c) :=
  fun a => ⟨h, fun _ _ => .refl a.supply⟩

theorem obeys_accepted (x : Except StoreError α) : Obeys W p (accepted x) := by
  cases x with
  | ok v => exact obeys_pure v
  | error e => exact obeys_throw _

theorem obeys_resume (x : Except EngineError α) : Obeys W p (resume x) := by
  cases x with
  | ok v => exact obeys_pure v
  | error e => exact obeys_throw _

theorem obeys_bind {x : Action α} {f : α → Action β} (hx : Obeys W p x)
    (hf : ∀ v, Obeys W p (f v)) : Obeys W p (x >>= f) := by
  intro a
  refine Script.all_bind.2 ((hx a).imp (fun _ h => h) (fun _ h => h) fun r hr => ?_)
  rcases r with ⟨_ | v, a₁⟩
  · exact hr
  · exact (hf v a₁).imp (fun _ h => h) (fun _ h => h) fun _ h => hr.trans h

/-- What is done with the answer to a call may build on the world that gave it. -/
theorem obeys_ask_bind {c : Call} {f : c.Answer → Action β} (hc : p c)
    (hf : ∀ w, W w → Obeys W p (f (w.answer c).1)) : Obeys W p (ask c >>= f) :=
  fun a => ⟨hc, fun w hw => hf w hw a⟩

theorem obeys_accepted_bind {x : Except StoreError α} {f : α → Action β}
    (hf : ∀ v, x = .ok v → Obeys W p (f v)) : Obeys W p (accepted x >>= f) := by
  cases x with
  | ok v => exact hf v rfl
  | error e => exact obeys_throw _

theorem obeys_discard {x : Action α} (hx : Obeys W p x) : Obeys W p (discard x) :=
  obeys_bind hx fun _ => obeys_pure _

theorem obeys_outcome {x : Action α} (hx : Obeys W p x) : Obeys W p (outcome x) :=
  fun a => Script.all_bind.2 ((hx a).imp (fun _ h => h) (fun _ h => h) fun _ h => h)

theorem obeys_within {span : SpanKind} {attributes : List (Attribute × String)} {x : Action α}
    (hx : Obeys W p x) : Obeys W p (within span attributes x) :=
  obeys_bind (obeys_lift (Attempt.regular_trace _)) fun _ => obeys_bind (obeys_outcome hx) fun _ =>
    obeys_bind (obeys_lift (Attempt.regular_trace _)) fun _ => obeys_resume _

theorem Obeys.run {x : Action α} {I : World → Prop} (h : Obeys W p x) (hW : ∀ w, I w → W w)
    (hp : ∀ w c, p c → I w → I (w.answer c).2) (hw : I w) :
    a.supply.Grows (run w a x).1.2.supply ∧ I (run w a x).2 :=
  (h a).run hW hp hw

end Obeys

/-- Whatever the answers are, an action ends with a result that satisfies a condition. -/
def Ends (q : Except EngineError α → Prop) (x : Action α) : Prop :=
  ∀ a, (x a).All (fun _ => True) (fun _ => True) fun r => q r.1

theorem ends_pure {q : Except EngineError α → Prop} (h : q (.ok v)) : Ends q (pure v) := fun _ => h

theorem ends_bind {q : Except EngineError β → Prop} {x : Action α} {f : α → Action β}
    (he : ∀ e, q (.error e)) (hf : ∀ v, Ends q (f v)) : Ends q (x >>= f) := by
  intro a
  have hx : ∀ y : Script (Except EngineError α × Ambient),
      y.All (fun _ => True) (fun _ => True) fun _ => True := by
    intro y
    induction y with
    | done r => trivial
    | call c next ih => exact ⟨trivial, fun _ _ => ih _⟩
  refine Script.all_bind.2 ((hx (x a)).imp (fun _ h => h) (fun _ h => h) fun r _ => ?_)
  rcases r with ⟨e | v, a₁⟩
  · exact he e
  · exact hf v a₁

theorem Ends.run {q : Except EngineError α → Prop} {x : Action α} (h : Ends q x) :
    q (run w a x).1.1 :=
  ((h a).run (I := fun _ => True) (fun _ h => h) (fun _ _ _ h => h) trivial).1

/-- From this world, an action fails with errors of a kind only. -/
def FailsWith (p : EngineError → Prop) (w : World) (a : Ambient) (x : Action α) : Prop :=
  ∀ err, (run w a x).1.1 = .error err → p err

section FailsWith

variable {p : EngineError → Prop}

theorem failsWith_pure (v : α) : FailsWith p w a (pure v) := fun _ h => nomatch h

theorem failsWith_throw (h : p e) : FailsWith p w a (throw e : Action α) :=
  fun _ herr => Except.error.inj herr ▸ h

theorem failsWith_lift {x : Attempt α} (h : ∀ err, (x a).1 = .error err → p err) :
    FailsWith p w a (liftM x : Action α) := h

theorem failsWith_ask (c : Call) : FailsWith p w a (ask c) := fun _ h => nomatch h

theorem failsWith_accepted {x : Except StoreError α} (h : ∀ cause, p (.store cause)) :
    FailsWith p w a (accepted x) := by
  cases x with
  | ok v => exact failsWith_pure v
  | error cause => exact failsWith_throw (h cause)

theorem failsWith_bind {x : Action α} {f : α → Action β} (hx : FailsWith p w a x)
    (hf : ∀ v a₁ w₁, run w a x = ((.ok v, a₁), w₁) → FailsWith p w₁ a₁ (f v)) :
    FailsWith p w a (x >>= f) := by
  intro err h
  rcases hrun : run w a (x >>= f) with ⟨⟨r, a'⟩, w'⟩
  rw [hrun] at h
  rcases run_bind_cases hrun with ⟨err', hfail, rfl⟩ | ⟨v, a₁, w₁, hv, hrest⟩
  · cases h
    exact hx err (by rw [hfail])
  · exact hf v a₁ w₁ hv err (by rw [hrest, h])

/-- Work without calls that cannot fail, before the rest. -/
theorem failsWith_lift_bind {x : Attempt α} {f : α → Action β}
    (hx : ∀ err, (x a).1 = .error err → p err) (hf : ∀ v a₁, FailsWith p w a₁ (f v)) :
    FailsWith p w a (liftM x >>= f) := by
  refine failsWith_bind (failsWith_lift hx) fun v a₁ w₁ hv => ?_
  have hw : w = w₁ := congrArg Prod.snd hv
  exact hw ▸ hf v a₁

theorem failsWith_bind_ok {x : Action α} {f : α → Action β} {w₁ : World}
    (hx : run w a x = ((.ok v, a₁), w₁)) (hf : FailsWith p w₁ a₁ (f v)) :
    FailsWith p w a (x >>= f) := by
  intro err
  rw [run_bind_ok hx]
  exact hf err

theorem failsWith_discard {x : Action α} (hx : FailsWith p w a x) : FailsWith p w a (discard x) :=
  failsWith_bind hx fun _ _ _ _ => failsWith_pure _

theorem failsWith_within {span : SpanKind} {attributes : List (Attribute × String)} {x : Action α}
    (hx : FailsWith p w { a with trace := .opened span attributes :: a.trace } x) :
    FailsWith p w a (within span attributes x) := by
  intro err h
  rcases hrun : run w { a with trace := .opened span attributes :: a.trace } x with ⟨⟨r, a'⟩, w'⟩
  rw [run_within span attributes x hrun] at h
  exact hx err (by rw [hrun, h])

end FailsWith

end Action

end Engine

end Workflow
