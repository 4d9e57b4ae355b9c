import Workflow.Cache
import Workflow.Engine.Attempt
import Workflow.Lock
import Workflow.Store.Basic

/-!
Work that goes back and forth with the outside: a script makes one call after another, each chosen by
the answers to the calls before. Whoever answers the calls may let those of several scripts take
turns. A `World` answers them from a store, a cache and a lock.
-/
namespace Workflow

inductive Call where
  | loadDefinition (id : String)
  | saveDefinition (d : Definition)
  | loadInstance (id : Uuid)
  | saveInstance (i : Instance)
  | listActive
  | loadTask (id : Uuid)
  | listTasks (instanceId : Uuid)
  | commit (c : Commit)
  /-- Asks the cache. -/
  | lookUp (key : String)
  | remember (key : String) (v : Value)
  /-- Tries to take the lock, with a guard. -/
  | acquire
  /-- Drops the guard of the lock. -/
  | release
deriving DecidableEq, Repr

@[reducible] def Call.Answer : Call → Type
  | loadDefinition _ => Except StoreError (Option Definition)
  | saveDefinition _ => Except StoreError Unit
  | loadInstance _ => Except StoreError (Option Instance)
  | saveInstance _ => Except StoreError UInt64
  | listActive => Except StoreError (List Instance)
  | loadTask _ => Except StoreError (Option Task)
  | listTasks _ => Except StoreError (List Task)
  | commit _ => Except StoreError UInt64
  | lookUp _ => Option Value
  | remember _ _ => Unit
  | acquire => Bool
  | release => Unit

structure World where
  store : Store
  cache : Cache
  lock : Lock
deriving DecidableEq, Repr

namespace World

def empty : World := ⟨∅, ∅, .free⟩

instance : Inhabited World := ⟨empty⟩

/-- A write to the store, which leaves it as it was when it is refused. -/
def write (w : World) (x : Except StoreError (α × Store)) : Except StoreError α × World :=
  match x with
  | .ok (a, store) => (.ok a, { w with store })
  | .error e => (.error e, w)

def answer (w : World) : (c : Call) → c.Answer × World
  | .loadDefinition id => (.ok (w.store.definition? id), w)
  | .saveDefinition d => (.ok (), { w with store := w.store.putDefinition d })
  | .loadInstance id => (.ok (w.store.instance? id), w)
  | .saveInstance i => w.write (w.store.saveInstance i)
  | .listActive => (.ok w.store.activeInstances, w)
  | .loadTask id => (.ok (w.store.task? id), w)
  | .listTasks id => (.ok (w.store.tasksOf id), w)
  | .commit c => w.write (w.store.commit c)
  | .lookUp k => (w.cache.get? k, w)
  | .remember k v => ((), { w with cache := w.cache.put k v })
  | .acquire =>
    let (taken, lock) := w.lock.acquire
    (taken, { w with lock })
  | .release => ((), { w with lock := w.lock.unlock })

end World

inductive Script (α : Type) where
  | done (a : α)
  | call (c : Call) (next : c.Answer → Script α)

namespace Script

def bind (x : Script α) (f : α → Script β) : Script β :=
  match x with
  | done a => f a
  | call c next => call c fun r => (next r).bind f

instance : Monad Script where
  pure := done
  bind := bind

/-- Runs a script with somebody who answers the calls. -/
def runWith (answer : σ → (c : Call) → c.Answer × σ) (s : σ) : Script α → α × σ
  | done a => (a, s)
  | call c next =>
    let (r, s) := answer s c
    runWith answer s (next r)

def run (w : World) (x : Script α) : α × World := x.runWith World.answer w

end Script

end Workflow
