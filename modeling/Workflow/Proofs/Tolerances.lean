import Workflow.CommandLine.Remind
import Workflow.Proofs.DueChecks

/-!
Tolerances that due checks break on. A check breaks off if the reminder is in force and the window reaches
out of the calendar (`Reminder.Rule.breaks_iff`), and the command with it. In the years from 1 to 9999 this
comes about with just the tolerances beyond the reach of the calendar before the year 1, whether the
settings ask for them or the command line (`Reminder.Rule.answers_iff`).
-/
namespace Workflow

open Time

namespace Reminder.Rule

/-- Checks come to an answer with a tolerance, whatever the reminder, in the years from 1 to 9999. -/
def Answers (tolerance : Span) : Prop :=
  ∀ p r, compile p = .ok r → ∀ now : Instant, now.Proper → 1 ≤ now.date.year →
    now.date.year ≤ 9999 → ∃ found, r.dueOccurrence now tolerance = .ok found

/-- The seconds from the first instant of the calendar to the beginning of the year 1. -/
def reach : Nat := ((Date.toDays ⟨1, 1, 1⟩ - Date.toDays ⟨Instant.minYear, 1, 1⟩) * 86400).toNat

example : reach = 8272465632000 := by decide

variable {r : Rule} {now : Instant} {tolerance : Span}

theorem breaks_iff : r.dueOccurrence now tolerance = .error .outOfCalendar ↔
    r.allows now = true ∧ (now.shift (-tolerance)).inRange = false := by
  rw [← Instant.shift?_eq_none_iff]
  cases h : now.shift? (-tolerance) with
  | some start =>
    rw [dueOccurrence_of_inCalendar h]
    exact iff_of_false (fun h => nomatch h) fun h => nomatch h.2
  | none =>
    unfold dueOccurrence
    rw [h]
    split
    · exact iff_of_true rfl ⟨‹_›, rfl⟩
    · exact iff_of_false (fun h => nomatch h) fun h => absurd h.1 ‹_›

/-- What is not broken off is answered. -/
theorem answer_of_not_breaks (h : r.dueOccurrence now tolerance ≠ .error .outOfCalendar) :
    ∃ found, r.dueOccurrence now tolerance = .ok found := by
  cases hdue : r.dueOccurrence now tolerance with
  | ok found => exact ⟨found, rfl⟩
  | error e =>
    cases e
    exact absurd hdue h

theorem seconds_shift_ofSeconds (hnow : now.Proper) (n : Nat) :
    now.seconds - n ≤ (now.shift (-Span.ofSeconds n)).seconds ∧
      (now.shift (-Span.ofSeconds n)).seconds ≤ now.seconds := by
  have hspan : -Span.ofSeconds n = -(n * 1000000000 : Int) := rfl
  unfold Instant.Proper at hnow
  rw [hspan]
  by_cases hleap : now.nanos < 1000000000
  · rw [Instant.shift_of_regular hleap]
    simp only [Instant.ofTotal, Instant.total]
    omega
  · rw [Instant.shift_of_leap (by omega) hnow]
    unfold Instant.ofTotal Instant.total
    split
    · simp only
      omega
    · rw [if_neg (by omega)]
      simp only
      omega

theorem inRange_iff {t : Instant} :
    t.inRange = true ↔ -96465292 * 86400 ≤ t.seconds ∧ t.seconds < 95026237 * 86400 := by
  have hfirst : Date.toDays ⟨Instant.minYear, 1, 1⟩ = -96465292 := by decide
  have hlast : Date.toDays ⟨Instant.maxYear, 12, 31⟩ = 95026236 := by decide
  have htotal := t.seconds_eq
  have htime := t.timeOfDay_lt
  unfold Instant.inRange
  rw [Bool.and_eq_true, decide_eq_true_eq, decide_eq_true_eq, hfirst, hlast]
  omega

theorem answers_of_le {n : Nat} (h : n ≤ reach) : Answers (Span.ofSeconds n) := by
  intro p r _ now hnow hlow hhigh
  apply answer_of_not_breaks
  rw [ne_eq, breaks_iff, Bool.eq_false_iff]
  rintro ⟨-, hout⟩
  have hreach : reach = 8272465632000 := by decide
  have hfirst : ¬ now.days < Date.toDays ⟨1, 1, 1⟩ := fun hlt =>
    absurd (Date.year_lt_iff.2 hlt) (Int.not_lt.2 hlow)
  have hlast : now.days < Date.toDays ⟨10000, 1, 1⟩ :=
    Date.year_lt_iff.1 (Int.lt_add_one_of_le hhigh)
  have hone : Date.toDays ⟨1, 1, 1⟩ = -719162 := by decide
  have hmyriad : Date.toDays ⟨10000, 1, 1⟩ = 2932897 := by decide
  have htotal := now.seconds_eq
  have htime := now.timeOfDay_lt
  have hshift := seconds_shift_ofSeconds hnow n
  refine hout (inRange_iff.2 ?_)
  omega

theorem not_answers_of_lt {n : Nat} (h : reach < n) : ¬ Answers (Span.ofSeconds n) := by
  intro hanswers
  have hreach : reach = 8272465632000 := by decide
  -- every minute, at the beginning of the year 1
  obtain ⟨found, hfound⟩ := hanswers minutely ⟨perMinute, minutely⟩ compile_minutely
    ⟨-62135596800, 0⟩ (show (0 : Nat) < 2000000000 by decide) (by decide) (by decide)
  have hshift : Instant.shift ⟨-62135596800, 0⟩ (-Span.ofSeconds n) = ⟨-62135596800 - n, 0⟩ := by
    have hspan : -Span.ofSeconds n = Span.ofSeconds (-n) := (Int.neg_mul _ _).symm
    rw [hspan, Instant.shift_ofSeconds (show (0 : Nat) < 1000000000 by decide)]
    rfl
  have hout : (Instant.shift ⟨-62135596800, 0⟩ (-Span.ofSeconds n)).inRange = false := by
    rw [hshift, Bool.eq_false_iff, ne_eq, inRange_iff]
    simp only
    omega
  have hbreaks := breaks_iff.2 (⟨rfl, hout⟩ : allows ⟨perMinute, minutely⟩ ⟨-62135596800, 0⟩ = true ∧ _)
  rw [hbreaks] at hfound
  cases hfound

theorem answers_ofSeconds_iff {n : Nat} : Answers (Span.ofSeconds n) ↔ n ≤ reach := by
  refine ⟨fun h => ?_, answers_of_le⟩
  by_contra hlt
  exact not_answers_of_lt (Nat.not_le.1 hlt) h

/-- A check breaks off just where it would have to look at a window that reaches out of the calendar. In
the years from 1 to 9999 the settings bring that about with just the tolerances between the reach of the
calendar and what a span can hold, and so does the command line. -/
theorem answers_iff (r : Rule) (now : Instant) (tolerance : Span) (c : Config) (seconds : UInt64) :
    ((∃ found, r.dueOccurrence now tolerance = .ok found) ↔
      ¬ (r.allows now = true ∧ (now.shift (-tolerance)).inRange = false)) ∧
    (Answers (Scheduler.configuredTolerance c) ↔
      c.reminderTolerance.toNat ≤ reach ∨ Span.maxSeconds < c.reminderTolerance.toNat) ∧
    ((∀ asked, CommandLine.readTolerance seconds = .ok asked → Answers asked) ↔
      seconds.toNat ≤ reach ∨ Span.maxSeconds < seconds.toNat) := by
  refine ⟨?_, ?_, ?_⟩
  · rw [← breaks_iff]
    constructor
    · rintro ⟨found, hfound⟩ hbreaks
      rw [hfound] at hbreaks
      cases hbreaks
    · exact answer_of_not_breaks
  · unfold Scheduler.configuredTolerance Span.ofSeconds?
    by_cases hspan : c.reminderTolerance.toNat ≤ Span.maxSeconds
    · rw [if_pos hspan]
      exact answers_ofSeconds_iff.trans (or_iff_left (by omega)).symm
    · rw [if_neg hspan]
      refine iff_of_true (answers_of_le (n := 60) (by decide)) (Or.inr (by omega))
  · unfold CommandLine.readTolerance Span.ofSeconds?
    by_cases hspan : seconds.toNat ≤ Span.maxSeconds
    · rw [if_pos hspan]
      simp only [Except.ok.injEq, forall_eq']
      exact answers_ofSeconds_iff.trans (or_iff_left (by omega)).symm
    · rw [if_neg hspan]
      refine iff_of_true (fun asked h => nomatch h) (Or.inr (by omega))

/-- The answer of the command, at nine o'clock every day, breaks off on a tolerance that it takes. -/
theorem not_answers_far : ∃ r, compile ⟨"0 9 * * *", [], none⟩ = .ok r ∧
    CommandLine.readTolerance 10000000000000 = .ok (Span.ofSeconds 10000000000000) ∧
    (⟨1704186000, 0⟩ : Instant).date.year = 2024 ∧
    r.dueOccurrence ⟨1704186000, 0⟩ (Span.ofSeconds 10000000000000) = .error .outOfCalendar ∧
    ¬ Answers (Span.ofSeconds 10000000000000) := by
  have hcompiled : (compile ⟨"0 9 * * *", [], none⟩).toOption.isSome = true := by
    decide +kernel
  obtain ⟨r, hr⟩ := Option.isSome_iff_exists.1 hcompiled
  have hr := compile_of_toOption hr
  have hbreaks : r.dueOccurrence ⟨1704186000, 0⟩ (Span.ofSeconds 10000000000000) =
      .error .outOfCalendar :=
    breaks_iff.2 ⟨(allows_iff hr).2 ⟨rfl, rfl⟩, by decide⟩
  refine ⟨r, hr, rfl, by decide, hbreaks, fun hanswers => ?_⟩
  obtain ⟨found, hfound⟩ := hanswers _ r hr ⟨1704186000, 0⟩ (show (0 : Nat) < 2000000000 by decide)
    (by decide) (by decide)
  rw [hbreaks] at hfound
  cases hfound

end Reminder.Rule

namespace CommandLine

/-- The command breaks off just where the check does that it is asked for. -/
theorem remind_broken_iff {config : Config} {present : Instant} {json : Bool}
    {request : RemindRequest} : remind config present json request = .broken ↔
      ∃ q, request.read config present = .ok q ∧ q.rule.allows q.moment = true ∧
        (q.moment.shift (-q.tolerance)).inRange = false := by
  unfold remind
  cases request.read config present with
  | error e =>
    refine iff_of_false (fun h => ?_) (fun ⟨_, h, _⟩ => nomatch h)
    simp [Outcome.failed, Outcome.broken] at h
  | ok q =>
    simp only [Except.ok.injEq, exists_eq_left', ← Reminder.Rule.breaks_iff]
    unfold RemindQuestion.answer
    cases q.rule.dueOccurrence q.moment q.tolerance with
    | error e =>
      cases e
      exact iff_of_true rfl rfl
    | ok found =>
      refine iff_of_false (fun h => ?_) fun h => nomatch h
      simp [Outcome.done, Outcome.broken, bind, Except.bind, pure, Except.pure] at h

end CommandLine

end Workflow
