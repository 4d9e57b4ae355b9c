import Workflow.Engine.Error
import Workflow.Engine.Trace
import Workflow.Guard.Evaluator
import Workflow.Listener
import Workflow.Supply

/-!
The part of an engine's work that needs no store: it draws on the clock and on new ids, reaches the
listeners, and notes down what it does. All that is noted stands latest first.
-/
namespace Workflow.Engine

open Time (Instant)

structure Ambient where
  supply : Supply
  /-- How often handlers ran. -/
  handled : Nat
  deliveries : List Delivery
  /-- The guard expressions that were asked. -/
  asked : List String
  trace : List TraceEntry

def Ambient.ofSupply (s : Supply) : Ambient := ⟨s, 0, [], [], []⟩

abbrev Attempt := ExceptT EngineError (StateM Ambient)

namespace Attempt

def now : Attempt Instant := do
  let a ← get
  let (t, supply) := a.supply.now
  set { a with supply }
  return t

def fresh : Attempt Uuid := do
  let a ← get
  let (id, supply) := a.supply.fresh
  set { a with supply }
  return id

def trace (e : TraceEntry) : Attempt Unit := modify fun a => { a with trace := e :: a.trace }

def remark (r : Remark) : Attempt Unit := trace (.remark r)

/-- Hands an event to the listeners. -/
def notify (b : Bus) (e : Event) : Attempt Unit := do
  let a ← get
  let (answer, deliveries) := b.notify a.deliveries e
  set { a with deliveries }
  match answer with
  | .ok () => return
  | .error m => throw (.listener m)

/-- The answer of a guard, with what was asked for it noted down. -/
def decided (answer : Except Guard.Fault α × List String) : Attempt α := do
  modify fun a => { a with asked := answer.2.reverse ++ a.asked }
  match answer.1 with
  | .ok r => return r
  | .error f => throw (.configuration (.guard f))

/-- Runs a handler, which learns how many ran before it, on the supply. -/
def handle (node : String) (run : (earlier : Nat) → Supply → Except String α × Supply) :
    Attempt α := do
  let a ← get
  let (answer, supply) := run a.handled a.supply
  set { a with supply, handled := a.handled + 1 }
  match answer with
  | .ok r => return r
  | .error m => throw (.handler node m)

def configured (x : Except ConfigurationError α) : Attempt α :=
  match x with
  | .ok r => return r
  | .error e => throw (.configuration e)

section Parts

variable {a a' a₁ : Ambient} {v : α} {x : Attempt α} {f : α → Attempt β}

theorem bind_ok (h : x a = (.ok v, a₁)) : (x >>= f) a = f v a₁ := by
  change ExceptT.bindCont f (x a).1 (x a).2 = _
  rw [h]
  rfl

theorem bind_error {e : EngineError} (h : x a = (.error e, a₁)) :
    (x >>= f) a = (.error e, a₁) := by
  change ExceptT.bindCont f (x a).1 (x a).2 = _
  rw [h]
  rfl

/-- An attempt in two parts fails in the first one or goes through it. -/
theorem bind_cases {r : Except EngineError β} (h : (x >>= f) a = (r, a')) :
    (∃ e, x a = (.error e, a') ∧ r = .error e) ∨
      ∃ v a₁, x a = (.ok v, a₁) ∧ f v a₁ = (r, a') := by
  cases hx : x a with
  | mk v a₁ =>
    cases v with
    | error e =>
      rw [bind_error hx, Prod.mk.injEq] at h
      exact Or.inl ⟨e, by rw [h.2], h.1.symm⟩
    | ok v => exact Or.inr ⟨v, a₁, rfl, by rw [← h, bind_ok hx]⟩

theorem of_bind_ok {r : β} (h : (x >>= f) a = (.ok r, a')) :
    ∃ v a₁, x a = (.ok v, a₁) ∧ f v a₁ = (.ok r, a') := by
  rcases bind_cases h with ⟨e, -, he⟩ | h
  · cases he
  · exact h

end Parts

end Attempt

end Workflow.Engine
