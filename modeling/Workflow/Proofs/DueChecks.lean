import Workflow.Proofs.NextDue

/-!
When a reminder is due. A check looks back over a window that ends now, and finds the first occurrence in
it (`Reminder.Rule.due_checks`). The windows of ticks that follow each other at the tolerance have each
occurrence once between them, and an occurrence that was announced as the next one makes the reminder due.
-/
namespace Workflow

open Time

namespace Reminder

/-! ### Windows -/

/-- What a check looks back over. -/
def window (now : Instant) (tolerance : Span) : Set Instant :=
  {t | now.shift (-tolerance) < t ∧ t ≤ now}

theorem mem_window_iff {now t : Instant} {tolerance : Span} (hwhole : t.nanos = 0) :
    t ∈ window now tolerance ↔
      (now.shift (-tolerance)).seconds < t.seconds ∧ t.seconds ≤ now.seconds := by
  change _ < t ∧ t ≤ now ↔ _
  rw [Instant.lt_iff, Instant.le_iff]
  omega

theorem window_mono {now t : Instant} (hnow : now.Proper) {tolerance tolerance' : Span}
    (hle : tolerance ≤ tolerance') (hwhole : t.nanos = 0) (h : t ∈ window now tolerance) :
    t ∈ window now tolerance' := by
  rw [mem_window_iff hwhole] at *
  have hmono := hnow.seconds_shift_mono (Int.neg_le_neg hle)
  omega

theorem mem_window_self {t : Instant} (hwhole : t.nanos = 0) {tolerance : Span}
    (hpos : 0 < tolerance) : t ∈ window t tolerance := by
  rw [mem_window_iff hwhole, Instant.shift_of_regular (by omega)]
  simp only [Instant.ofTotal, Instant.total]
  have hpos : (0 : Int) < tolerance := hpos
  omega

section Ticks

variable {tolerance : Span} {ticks : Nat → Instant} {last : Nat}
  (hticks : ∀ k < last, ticks (k + 1) = (ticks k).shift tolerance) (hfirst : (ticks 0).Proper)
include hticks hfirst

theorem proper_tick {k : Nat} (hk : k ≤ last) : (ticks k).Proper := by
  induction k with
  | zero => exact hfirst
  | succ k ih =>
    rw [hticks k hk]
    exact (ih (Nat.le_of_succ_le hk)).shift tolerance

variable (hpos : 0 < tolerance)
include hpos

theorem tick_le {j k : Nat} (hjk : j ≤ k) (hk : k ≤ last) : (ticks j).seconds ≤ (ticks k).seconds := by
  induction hjk with
  | refl => exact Int.le_refl _
  | step hle ih =>
    rename_i k
    have hstep := (proper_tick hticks hfirst (Nat.le_of_succ_le hk)).seconds_le_shift hpos
    rw [hticks k hk]
    exact Int.le_trans (ih (Nat.le_of_succ_le hk)) hstep

/-- The window of a tick begins where that of the tick before it ends. -/
theorem seconds_window {k : Nat} (hk : k < last) :
    ((ticks (k + 1)).shift (-tolerance)).seconds = (ticks k).seconds := by
  rw [hticks k hk]
  exact (proper_tick hticks hfirst (Nat.le_of_lt hk)).seconds_shift_back hpos

theorem existsUnique_tick {t : Instant} (hwhole : t.nanos = 0)
    (hlow : (ticks 0).shift (-tolerance) < t) (hhigh : t ≤ ticks last) :
    ∃! k, k ≤ last ∧ t ∈ window (ticks k) tolerance := by
  have hlow : ((ticks 0).shift (-tolerance)).seconds < t.seconds := by
    rw [Instant.lt_iff] at hlow
    omega
  have hhigh : t.seconds ≤ (ticks last).seconds := by
    rw [Instant.le_iff] at hhigh
    omega
  have hexists : ∃ k, t.seconds ≤ (ticks k).seconds := ⟨last, hhigh⟩
  have hspec := Nat.find_spec hexists
  have hlast : Nat.find hexists ≤ last := Nat.find_min' hexists hhigh
  refine ⟨Nat.find hexists, ⟨hlast, (mem_window_iff hwhole).2 ⟨?_, hspec⟩⟩, ?_⟩
  · -- the first tick that is not before the occurrence has it in its window
    cases hk : Nat.find hexists with
    | zero => exact hlow
    | succ k =>
      have hbefore := Nat.find_min hexists (m := k) (by omega)
      rw [seconds_window hticks hfirst hpos (by omega)]
      omega
  · rintro k ⟨hk, hmem⟩
    rw [mem_window_iff hwhole] at hmem
    have hle : Nat.find hexists ≤ k := Nat.find_min' hexists hmem.2
    by_contra hne
    obtain ⟨j, rfl⟩ : ∃ j, k = j + 1 := ⟨k - 1, by omega⟩
    have hstart := seconds_window hticks hfirst hpos (k := j) (by omega)
    have hmono := tick_le hticks hfirst hpos (j := Nat.find hexists) (k := j) (by omega) (by omega)
    omega

end Ticks

/-! ### Checks -/

/-- What comes first after the start of a window comes first in it, if it is in it. -/
theorem first_until {occurs : Instant → Prop} {start : Instant} {o : Option Instant}
    (h : First {t | occurs t ∧ start < t} o) (now : Instant) :
    First {t | occurs t ∧ start < t ∧ t ≤ now} (o.filter (· ≤ now)) := by
  apply (h.filter (p := fun t => decide (t ≤ now)) _).congr
  · intro t
    change (_ ∧ _) ∧ _ ↔ _
    rw [decide_eq_true_eq, and_assoc]
    rfl
  · intro t _ u _ hle hu
    exact decide_eq_true (Instant.le_trans hle (of_decide_eq_true hu))

/-- The occurrences that make a reminder due: those in the window, if the instant suits the reminder. -/
def dueAt (p : ReminderParam) (occurs : Instant → Prop) (now : Instant) (tolerance : Span) :
    Set Instant :=
  {t | (p.allowsWeekday now.weekday = true ∧ p.allowsTime now.timeOfDay = true) ∧
    occurs t ∧ t ∈ window now tolerance}

namespace Rule

/-- The occurrence that makes the reminder due, by a search that is given. -/
def dueWith (search : Cron → Listing) (r : Rule) (now : Instant) (tolerance : Span) :
    Except DueError (Option Instant) :=
  if r.allows now then
    match now.shift? (-tolerance) with
    | none => .error .outOfCalendar
    | some start => .ok (((search r.cron).after? start).filter (· ≤ now))
  else .ok none

def isDueWith (search : Cron → Listing) (r : Rule) (now : Instant) (tolerance : Span) :
    Except DueError Bool :=
  (r.dueWith search now tolerance).map Option.isSome

variable {r : Rule} {p : ReminderParam} {search : Cron → Listing} {occurs : Instant → Prop}
  {now start : Instant} {tolerance : Span}

theorem dueWith_of_inCalendar (h : now.shift? (-tolerance) = some start) :
    r.dueWith search now tolerance =
      .ok (if r.allows now then ((search r.cron).after? start).filter (· ≤ now) else none) := by
  unfold dueWith
  rw [h]
  split <;> rfl

theorem dueOccurrence_eq (r : Rule) (now : Instant) (tolerance : Span) :
    r.dueOccurrence now tolerance = r.dueWith Cron.listing now tolerance := by
  unfold dueOccurrence dueWith
  rfl

theorem dueOccurrence_of_inCalendar (h : now.shift? (-tolerance) = some start) :
    r.dueOccurrence now tolerance =
      .ok (if r.allows now then (r.cron.after? start).filter (· ≤ now) else none) :=
  (dueOccurrence_eq r now tolerance).trans (dueWith_of_inCalendar h)

theorem isDue_eq (r : Rule) (now : Instant) (tolerance : Span) :
    r.isDue now tolerance = r.isDueWith Cron.listing now tolerance := by
  rw [isDue, isDueWith, dueOccurrence_eq]

theorem allows_iff (hr : compile p = .ok r) : r.allows now = true ↔
    p.allowsWeekday now.weekday = true ∧ p.allowsTime now.timeOfDay = true := by
  unfold allows
  rw [param_of_compile hr, Bool.and_eq_true]

/-- A search that finds the first occurrence from the start of the window on gives the first one in
the window. -/
theorem first_dueAt (hr : compile p = .ok r) (hstart : now.shift (-tolerance) = start)
    {o : Option Instant} (h : First {t | occurs t ∧ start < t ∧ t ≤ now} o) :
    First (dueAt p occurs now tolerance) (if r.allows now then o else none) := by
  split
  · apply h.congr
    intro t
    rw [← hstart]
    exact ⟨fun ⟨ht, hwindow⟩ => ⟨(allows_iff hr).1 ‹_›, ht, hwindow⟩, fun ⟨_, ht, hwindow⟩ => ⟨ht, hwindow⟩⟩
  · apply First.none_of_forall
    rintro t ⟨hsuits, -⟩
    exact absurd ((allows_iff hr).2 hsuits) ‹_›

variable {t : Instant}

/-- With all occurrences listed, a check finds the first one in the window. -/
theorem dueWith_first (hr : compile p = .ok r) (hl : (search r.cron).Lists occurs start)
    (hstart : now.shift? (-tolerance) = some start) : ∃ found,
      r.dueWith search now tolerance = .ok found ∧ First (dueAt p occurs now tolerance) found := by
  refine ⟨_, dueWith_of_inCalendar hstart,
    first_dueAt hr (Instant.shift?_eq_some_iff.1 hstart).1 ?_⟩
  exact first_until hl.first now

/-- The program's own check finds the first occurrence in a window that starts at a whole second and
ends before the last year. -/
theorem dueOccurrence_first (hr : compile p = .ok r) (hwhole : start.nanos = 0)
    (hearly : now.date.year < Cron.lastYear) (hstart : now.shift? (-tolerance) = some start) :
    ∃ found, r.dueOccurrence now tolerance = .ok found ∧
      First (dueAt p r.cron.Occurs now tolerance) found := by
  have hsame : ∀ t : Instant, t ≤ now → t.date.year < Cron.lastYear := by
    intro t hle
    refine Int.lt_of_le_of_lt (Cron.year_le ?_) hearly
    rw [Instant.le_iff] at hle
    omega
  have hfilter : (r.cron.after? start).filter (· ≤ now) =
      ((r.cron.after? start).filter fun t => t.date.year < Cron.lastYear).filter (· ≤ now) := by
    rw [Option.filter_filter]
    congr 1
    funext t
    rw [← Bool.decide_and, decide_eq_decide]
    exact ⟨fun hle => ⟨hsame t hle, hle⟩, fun h => h.2⟩
  refine ⟨_, dueOccurrence_of_inCalendar hstart,
    first_dueAt hr (Instant.shift?_eq_some_iff.1 hstart).1 ?_⟩
  rw [hfilter]
  exact first_until (Cron.after?_occurs hwhole) now

end Rule

/-- Whether a reminder that is not compiled yet is due, by a search that is given. -/
def isDueWith (search : Cron → Listing) (p : ReminderParam) (now : Instant) (tolerance : Span) :
    Except ReminderError (Except Rule.DueError Bool) :=
  (Rule.compile p).map fun r => r.isDueWith search now tolerance

theorem isDue_eq (p : ReminderParam) (now : Instant) (tolerance : Span) :
    isDue p now tolerance = isDueWith Cron.listing p now tolerance := by
  unfold isDue isDueWith
  simp only [Rule.isDue_eq]

/-- What holds of due checks with a search that lists all occurrences. -/
structure Rule.DueLaws (search : Cron → Listing) (p : ReminderParam) (r : Rule)
    (occurs : Instant → Prop) : Prop where
  /-- Within the calendar, the first occurrence in the window is found, and all checks agree. -/
  finds : ∀ now tolerance start, now.shift? (-tolerance) = some start → ∃ found,
    r.dueWith search now tolerance = .ok found ∧ First (dueAt p occurs now tolerance) found ∧
    r.isDueWith search now tolerance = .ok found.isSome ∧
    Reminder.isDueWith search p now tolerance = .ok (.ok found.isSome)
  /-- A greater tolerance keeps a reminder due. -/
  grows : ∀ now tolerance tolerance' start, now.Proper → tolerance ≤ tolerance' →
    now.shift? (-tolerance') = some start → r.isDueWith search now tolerance = .ok true →
    r.isDueWith search now tolerance' = .ok true
  /-- Ticks that follow each other at the tolerance see each occurrence once. -/
  once : ∀ (tolerance : Span) (ticks : Nat → Instant) (last : Nat), 0 < tolerance →
    (ticks 0).Proper → (∀ k < last, ticks (k + 1) = (ticks k).shift tolerance) →
    ∀ t, occurs t → (ticks 0).shift (-tolerance) < t → t ≤ ticks last →
      ∃! k, k ≤ last ∧ t ∈ window (ticks k) tolerance
  /-- What is announced as the next occurrence is later, and makes the reminder due. -/
  announced : ∀ after t, r.nextWith search after = some t → after < t ∧
    ∀ tolerance start, 0 < tolerance → t.shift? (-tolerance) = some start →
      r.isDueWith search t tolerance = .ok true

namespace Rule

variable {r : Rule} {p : ReminderParam} {search : Cron → Listing} {occurs : Instant → Prop}
  {now start : Instant} {tolerance : Span}

/-- A reminder is due just if an occurrence is in the window. -/
theorem isDueWith_iff (hr : compile p = .ok r) (hl : ∀ start, (search r.cron).Lists occurs start)
    (hstart : now.shift? (-tolerance) = some start) :
    r.isDueWith search now tolerance = .ok true ↔ (dueAt p occurs now tolerance).Nonempty := by
  obtain ⟨found, hfound, hfirst⟩ := dueWith_first hr (hl start) hstart
  unfold isDueWith
  rw [hfound]
  cases found with
  | none =>
    refine iff_of_false (fun h => nomatch h) ?_
    rintro ⟨t, ht⟩
    exact hfirst.notMem t ht
  | some t => exact iff_of_true rfl ⟨t, hfirst.1⟩

theorem inCalendar_of_isDueWith (h : r.isDueWith search now tolerance = .ok true) :
    ∃ start, now.shift? (-tolerance) = some start := by
  cases hstart : now.shift? (-tolerance) with
  | some start => exact ⟨start, rfl⟩
  | none =>
    unfold isDueWith dueWith at h
    rw [hstart] at h
    split at h <;> cases h

theorem dueLaws (hr : compile p = .ok r) (hl : ∀ start, (search r.cron).Lists occurs start)
    (hwhole : ∀ t, occurs t → t.nanos = 0) : DueLaws search p r occurs where
  finds now tolerance start hstart := by
    obtain ⟨found, hfound, hfirst⟩ := dueWith_first hr (hl start) hstart
    have hdue : r.isDueWith search now tolerance = .ok found.isSome := by
      rw [isDueWith, hfound]
      rfl
    refine ⟨found, hfound, hfirst, hdue, ?_⟩
    rw [Reminder.isDueWith, hr, ← hdue]
    rfl
  grows now tolerance tolerance' start' hnow hle hstart' hdue := by
    obtain ⟨start, hstart⟩ := inCalendar_of_isDueWith hdue
    rw [isDueWith_iff hr hl hstart] at hdue
    rw [isDueWith_iff hr hl hstart']
    obtain ⟨t, hsuits, ht, hmem⟩ := hdue
    exact ⟨t, hsuits, ht, window_mono hnow hle (hwhole t ht) hmem⟩
  once tolerance ticks last hpos hfirst hticks t ht hlow hhigh :=
    existsUnique_tick hticks hfirst hpos (hwhole t ht) hlow hhigh
  announced after t hnext := by
    obtain ⟨n, -, h⟩ := nextWith_eq_some_iff.1 hnext
    obtain ⟨ht, hlater⟩ := ((hl after).listed_iff t).1 ⟨n, h.entry⟩
    refine ⟨hlater, fun tolerance start hpos hstart => ?_⟩
    rw [isDueWith_iff hr hl hstart]
    -- it is the last instant of its own window
    exact ⟨t, (allows_iff hr).1 h.allowed, ht, mem_window_self (hwhole t ht) hpos⟩

/-- Due checks with a search that lists all occurrences are exact, grow with the tolerance, see each
occurrence at one of the ticks, and agree with what is announced. The program's checks are the same with
its own search, and exact where the window starts at a whole second and ends before the last year. -/
theorem due_checks (hr : compile p = .ok r) :
    (∀ (search : Cron → Listing) (occurs : Instant → Prop),
      (∀ start, (search r.cron).Lists occurs start) → (∀ t, occurs t → t.nanos = 0) →
      DueLaws search p r occurs) ∧
    (∀ now tolerance, r.dueOccurrence now tolerance = r.dueWith Cron.listing now tolerance ∧
      r.isDue now tolerance = r.isDueWith Cron.listing now tolerance ∧
      Reminder.isDue p now tolerance = Reminder.isDueWith Cron.listing p now tolerance) ∧
    (∀ now tolerance start, now.shift? (-tolerance) = some start → start.nanos = 0 →
      now.date.year < Cron.lastYear → ∃ found, r.dueOccurrence now tolerance = .ok found ∧
        First (dueAt p r.cron.Occurs now tolerance) found) := by
  refine ⟨fun search occurs hl hwhole => dueLaws hr hl hwhole, fun now tolerance => ?_, ?_⟩
  · exact ⟨dueOccurrence_eq r now tolerance, isDue_eq r now tolerance,
      Reminder.isDue_eq p now tolerance⟩
  · intro now tolerance start hstart hwhole hearly
    exact dueOccurrence_first hr hwhole hearly hstart

/-! ### A reminder for every minute -/

/-- Every minute, on every day and at every time. -/
def minutely : ReminderParam := ⟨"* * * * *", [], none⟩

theorem compile_minutely : compile minutely = .ok ⟨perMinute, minutely⟩ := by
  apply compile_of_toOption
  decide +kernel

def OnMinute (t : Instant) : Prop := t.nanos = 0 ∧ t.seconds % 60 = 0

/-- The full minutes without an end. -/
def minutes : Listing where
  after? t := some ⟨60 * (t.seconds / 60 + 1), 0⟩
  following? t := some ⟨60 * (t.seconds / 60 + 1), 0⟩

theorem lists_minutes (start : Instant) : minutes.Lists OnMinute start := by
  have hfirst : ∀ t, First {u | OnMinute u ∧ t < u} (some ⟨60 * (t.seconds / 60 + 1), 0⟩) := by
    intro t
    refine ⟨⟨⟨rfl, by simp only; omega⟩, Instant.lt_iff.2 (by simp only; omega)⟩, ?_⟩
    rintro u ⟨⟨hwhole, hminute⟩, hlt⟩
    rw [Instant.lt_iff] at hlt
    exact Instant.le_iff.2 (by simp only; omega)
  exact Listing.lists_of_first (fun _ h => h.1) (hfirst start) fun t _ => hfirst t

/-- Checks within a minute find the minute that began last, as the program's own do. -/
theorem due_checks_minutely :
    compile minutely = .ok ⟨perMinute, minutely⟩ ∧
    (∀ start, minutes.Lists OnMinute start) ∧ (∀ t, OnMinute t → t.nanos = 0) ∧
    perMinute.after? ⟨1704103170, 0⟩ = minutes.after? ⟨1704103170, 0⟩ ∧
    IsLeast (dueAt minutely OnMinute ⟨1704103230, 0⟩ (Span.ofSeconds 60)) ⟨1704103200, 0⟩ ∧
    IsLeast (dueAt minutely perMinute.Occurs ⟨1704103230, 0⟩ (Span.ofSeconds 60))
      ⟨1704103200, 0⟩ ∧
    ∃! k, k ≤ 2 ∧ (⟨1704103200, 0⟩ : Instant) ∈
      window ⟨1704103170 + 60 * (k : Nat), 0⟩ (Span.ofSeconds 60) := by
  obtain ⟨hany, -, hown⟩ := due_checks compile_minutely
  have hlaws := hany (fun _ => minutes) OnMinute lists_minutes fun _ h => h.1
  have hstart : Instant.shift? ⟨1704103230, 0⟩ (-Span.ofSeconds 60) = some ⟨1704103170, 0⟩ := by
    decide +kernel
  have hfound : dueWith (fun _ => minutes) ⟨perMinute, minutely⟩ ⟨1704103230, 0⟩
      (Span.ofSeconds 60) = .ok (some ⟨1704103200, 0⟩) := by
    decide +kernel
  have hfoundOwn : dueOccurrence ⟨perMinute, minutely⟩ ⟨1704103230, 0⟩ (Span.ofSeconds 60) =
      .ok (some ⟨1704103200, 0⟩) := by
    decide +kernel
  refine ⟨compile_minutely, lists_minutes, fun _ h => h.1, by decide +kernel, ?_, ?_, ?_⟩
  · obtain ⟨found, h, hfirst, -⟩ := hlaws.finds _ _ _ hstart
    rw [hfound] at h
    cases h
    exact hfirst
  · obtain ⟨found, h, hfirst⟩ := hown _ _ _ hstart rfl (by decide)
    rw [hfoundOwn] at h
    cases h
    exact hfirst
  · refine hlaws.once (Span.ofSeconds 60) (fun k => ⟨1704103170 + 60 * (k : Nat), 0⟩) 2 (by decide)
      (show (0 : Nat) < 2000000000 by decide) (fun k _ => ?_) ⟨1704103200, 0⟩ ⟨rfl, by decide⟩
      (by decide) (by decide)
    rw [Instant.shift_ofSeconds (show (0 : Nat) < 1000000000 by decide), Instant.ext_iff]
    exact ⟨by push_cast; omega, rfl⟩

end Rule

end Reminder

end Workflow
