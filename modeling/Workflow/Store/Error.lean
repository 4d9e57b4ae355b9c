import Workflow.Uuid

/-!
Why a store refuses a call.
-/
namespace Workflow

inductive StoreError where
  | connection
  | notFound
  /-- The task belongs to `owner`, and was to be created for another instance. -/
  | foreignTask (task owner instanceId : Uuid)
  /-- A write of a later revision of an instance that is not there. -/
  | missing (instanceId : Uuid) (revision : UInt64)
  /-- A write that was based on another revision than the stored one. -/
  | stale (instanceId : Uuid) (stored base : UInt64)
  | taskExists (task : Uuid)
  /-- In the words of the store. -/
  | badQuery (message : String)
  | badWrite (message : String)
deriving DecidableEq, Repr

namespace StoreError

inductive Kind where
  | connection | query | notFound | conflict
deriving DecidableEq, Repr

def kind : StoreError → Kind
  | connection => .connection
  | notFound => .notFound
  | foreignTask _ _ _ | badQuery _ => .query
  | missing _ _ | stale _ _ _ | taskExists _ | badWrite _ => .conflict

def message : StoreError → String
  | connection => "storage connection error"
  | notFound => "entity not found"
  | foreignTask task owner i => s!"query error: task {task} belongs to instance {owner}, not {i}"
  | badQuery m => s!"query error: {m}"
  | missing i revision =>
    s!"conflict: instance {i} expected at revision {revision.toNat} but is not stored"
  | stale i stored base =>
    s!"conflict: instance {i} is at revision {stored.toNat}, write was based on {base.toNat}"
  | taskExists task => s!"conflict: task {task} already exists"
  | badWrite m => s!"conflict: {m}"

end StoreError

end Workflow
