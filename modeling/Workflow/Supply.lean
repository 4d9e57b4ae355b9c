import Workflow.Time.Instant
import Workflow.Uuid

/-!
The clock and the source of new ids. Both are sequences, of which each reading takes the next entry.
-/
namespace Workflow

open Time (Instant)

structure Supply where
  clock : Nat → Instant
  ids : Nat → Uuid
  /-- How often the clock was read. -/
  readings : Nat
  /-- How many ids were drawn. -/
  drawn : Nat

namespace Supply

def ofSequences (clock : Nat → Instant) (ids : Nat → Uuid) : Supply := ⟨clock, ids, 0, 0⟩

/-- An id that starts with a moment in milliseconds; the rest of it comes from a number. -/
def timedId (t : Instant) (n : Nat) : Uuid :=
  let milliseconds := (t.seconds * 1000 + t.nanos / 1000000).toNat
  let version := 0x7000
  let variant := 0x8000000000000000
  let high := milliseconds % 0x1000000000000 * 0x10000 + version + n / UInt64.size % 0x1000
  ⟨BitVec.ofNat 128 (high * UInt64.size + variant + n % 0x4000000000000000)⟩

/-- A clock that stands at a moment, and ids of that moment from a number on. -/
def ofMoment (t : Instant) (seed : Nat) : Supply :=
  .ofSequences (fun _ => t) fun n => timedId t (seed + n)

def now (s : Supply) : Instant × Supply :=
  (s.clock s.readings, { s with readings := s.readings + 1 })

def fresh (s : Supply) : Uuid × Supply := (s.ids s.drawn, { s with drawn := s.drawn + 1 })

end Supply

end Workflow
