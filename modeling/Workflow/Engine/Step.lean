import Workflow.Store.Basic

/-!
The changes that one step gathers before they are written.
-/
namespace Workflow.Engine

open Time (Instant)

/-- What is still to be done for a token. -/
inductive Token where
  | enter (node : String)
  | leave (node : String)
deriving DecidableEq, Repr

def Token.isLeave : Token → Bool
  | leave _ => true
  | enter _ => false

structure Step where
  record : Instance
  created : List Task
  updated : List Task
  /-- The nodes that a token could not leave, in order. -/
  failures : List String
  now : Instant
deriving DecidableEq, Repr

namespace Step

def begin (i : Instance) (now : Instant) : Step := ⟨i, [], [], [], now⟩

/-- Lets a token wait at a node. -/
def wait (s : Step) (node : String) : Step :=
  { s with record.currentNodes := s.record.currentNodes.insert node }

def depart (s : Step) (node : String) : Step :=
  { s with record.currentNodes := s.record.currentNodes.erase node }

def create (s : Step) (t : Task) : Step := { s with created := s.created ++ [t] }

def update (s : Step) (t : Task) : Step := { s with updated := s.updated ++ [t] }

/-- A failure with one more node, which is listed once. -/
def failureWith (node : String) (now : Instant) (f : Option Failure) : Failure :=
  let earlier := (f.map Failure.nodes).getD []
  { nodes := if earlier.contains node then earlier else earlier ++ [node]
    message := s!"no satisfied transition out of node '{node}'"
    time := now }

/-- Lets a token wait at a node that it could not leave. -/
def flag (s : Step) (node : String) : Step :=
  { s.wait node with
    record.failure := some (failureWith node s.now s.record.failure)
    failures := s.failures ++ [node] }

/-- Counts a token at a join; the count comes back. -/
def arrive (s : Step) (join : String) : UInt32 × Step :=
  let arrivals := (s.record.joinArrivals.get? join).getD 0 + 1
  (arrivals, { s with record.joinArrivals := s.record.joinArrivals.insert join arrivals })

/-- Takes all tokens from a join. -/
def release (s : Step) (join : String) : Step :=
  { s.depart join with record.joinArrivals := s.record.joinArrivals.erase join }

def close (s : Step) (state : InstanceState) : Step :=
  { s with record.state := state, record.joinArrivals := ∅ }

def commit (s : Step) : Commit := ⟨{ s.record with updatedAt := s.now }, s.created, s.updated⟩

end Step

end Workflow.Engine
