import Workflow.Instance.Event

/-!
Listeners and the events that reach them. An event goes to the listeners of its kind in the order in
which they were added, and no further than to the first one that fails.
-/
namespace Workflow

structure Listener where
  hears : EventKind → Bool
  /-- The answer to an event, given what the listener has heard before, latest first. -/
  respond : (heard : List Event) → Event → Except String Unit

/-- That an event reached the listener at a position. -/
structure Delivery where
  listener : Nat
  event : Event
deriving DecidableEq, Repr

/-- What a listener has heard, latest first if the deliveries are. -/
def heardBy (listener : Nat) (past : List Delivery) : List Event :=
  (past.filter fun d => d.listener == listener).map Delivery.event

structure Bus where
  listeners : List Listener

namespace Bus

def empty : Bus := ⟨[]⟩

instance : EmptyCollection Bus := ⟨empty⟩
instance : Inhabited Bus := ⟨empty⟩

def add (b : Bus) (l : Listener) : Bus := ⟨b.listeners ++ [l]⟩

/-- How many listeners hear events of a kind. -/
def count (b : Bus) (k : EventKind) : Nat := (b.listeners.filter (·.hears k)).length

def hasListeners (b : Bus) (k : EventKind) : Bool := b.listeners.any (·.hears k)

def text (b : Bus) : String :=
  s!"ListenerBus \x7b task: {b.count .task}, instance: {b.count .instanceRecord}, " ++
    s!"reminder: {b.count .reminder} \x7d"

/-- Hands an event to the listeners from a position on; the deliveries grow at their front. -/
def deliver (e : Event) (past : List Delivery) :
    (position : Nat) → List Listener → Except String Unit × List Delivery
  | _, [] => (.ok (), past)
  | i, l :: ls =>
    if l.hears e.kind then
      match l.respond (heardBy i past) e with
      | .ok () => deliver e (⟨i, e⟩ :: past) (i + 1) ls
      | .error m => (.error m, ⟨i, e⟩ :: past)
    else deliver e past (i + 1) ls

def notify (b : Bus) (past : List Delivery) (e : Event) : Except String Unit × List Delivery :=
  deliver e past 0 b.listeners

end Bus

end Workflow
