import Workflow.Definition.Codec

/-!
The settings of an engine. Each has a default.
-/
namespace Workflow

structure Config where
  /-- The most node visits in one step. -/
  maxVisits : UInt32
  /-- Seconds between two ticks of the scheduler. -/
  reminderInterval : UInt64
  /-- How many seconds a tick looks back for occurrences. -/
  reminderTolerance : UInt64
  /-- For instances whose definition sets none, in seconds. -/
  defaultTimeout : Option UInt64
  /-- Whether definitions that passed the checks are kept in the cache. -/
  cacheDefinitions : Bool
deriving DecidableEq, Repr

namespace Config

def default : Config := ⟨1000, 60, 60, none, true⟩

instance : Inhabited Config := ⟨default⟩

def members : List (List String) :=
  [["max_steps_per_traversal"], ["reminder_interval_secs"], ["reminder_tolerance_secs"],
    ["default_timeout_secs"], ["cache_definitions"]]

def toValue (c : Config) : Value :=
  .object ([("max_steps_per_traversal", wholeNumber c.maxVisits.toNat),
      ("reminder_interval_secs", wholeNumber c.reminderInterval.toNat),
      ("reminder_tolerance_secs", wholeNumber c.reminderTolerance.toNat)] ++
    optionalField "default_timeout_secs" (fun n => wholeNumber n.toNat) c.defaultTimeout ++
    [("cache_definitions", .bool c.cacheDefinitions)])

def ofDocument? (d : Document) : Option Config :=
  match d.members? members with
  | some [visits, interval, tolerance, timeout, cache] => do
    let visits ← Record.defaulting default.maxVisits Document.word32? visits
    let interval ← Record.defaulting default.reminderInterval Document.word64? interval
    let tolerance ← Record.defaulting default.reminderTolerance Document.word64? tolerance
    let timeout ← Document.optional Document.word64? timeout
    let cache ← Record.defaulting default.cacheDefinitions Document.bool? cache
    some ⟨visits, interval, tolerance, timeout, cache⟩
  | _ => none

def ofValue? (v : Value) : Option Config := ofDocument? (.ofValue v)

end Config

end Workflow
