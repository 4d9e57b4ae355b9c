import Workflow.Proofs.Searches

/-!
When a reminder is due next. The occurrences after an instant are gone through as a search lists them, and
the first one that suits the reminder is found, if it is among the first `scanLimit` of them
(`Reminder.Rule.next_within_scan`). The search is a parameter here; the program's own is one of them.
-/
namespace Workflow

open Time

namespace Reminder

/-! ### The next occurrence that suits a reminder -/

/-- The occurrences after an instant that suit a reminder. -/
def suited (p : ReminderParam) (occurs : Instant → Prop) (after : Instant) : Set Instant :=
  {t | occurs t ∧ after < t ∧ p.allowsWeekday t.weekday = true ∧ p.allowsTime t.timeOfDay = true}

/-- The occurrences between two instants. -/
def between (occurs : Instant → Prop) (after before : Instant) : Set Instant :=
  {t | occurs t ∧ after < t ∧ t < before}

namespace Rule

variable {r : Rule} {l : Listing} {occurs : Instant → Prop} {start t u : Instant}

theorem param_of_compile {p : ReminderParam} (h : compile p = .ok r) : r.param = p := by
  unfold compile at h
  split at h
  · cases h
  · split at h
    · cases h
    · split at h
      · cases h
      · cases h
        rfl

theorem compile_of_toOption {p : ReminderParam} (h : (compile p).toOption = some r) :
    compile p = .ok r := by
  cases hr : compile p with
  | error e =>
    rw [hr] at h
    cases h
  | ok r' =>
    rw [hr] at h
    exact congrArg Except.ok (Option.some.inj h)

/-- The first one that suits the reminder among an occurrence and so many listed behind it. -/
def allowedIn (r : Rule) (l : Listing) (t : Instant) : (others : Nat) → Option Instant
  | 0 => if r.allows t then some t else none
  | n + 1 => if r.allows t then some t else (l.following? t).bind fun u => allowedIn r l u n

/-- When a reminder is due next, by a search that is given. -/
def nextWith (search : Cron → Listing) (r : Rule) (after : Instant) : Option Instant :=
  ((search r.cron).after? after).bind fun t => r.allowedIn (search r.cron) t (scanLimit - 1)

theorem nextDue?_eq (r : Rule) (after : Instant) :
    r.nextDue? after = r.nextWith Cron.listing after := by
  have hfrom (t : Instant) (n : Nat) : r.allowedFrom? t n = r.allowedIn r.cron.listing t n := by
    induction n generalizing t with
    | zero => rw [allowedFrom?, allowedIn]
    | succ n ih =>
      rw [allowedFrom?, allowedIn]
      simp only [ih]
      rfl
  unfold nextDue? nextWith
  simp only [hfrom]
  rfl

/-- The entry of this number is the first to suit the reminder, from one of the entries on. -/
structure PicksFrom (r : Rule) (l : Listing) (start : Instant) (first n : Nat) (t : Instant) :
    Prop where
  le : first ≤ n
  entry : l.listed? start n = some t
  allowed : r.allows t = true
  passed : ∀ m u, first ≤ m → m < n → l.listed? start m = some u → r.allows u = false

section PicksFrom

variable {k n : Nat} (hk : l.listed? start k = some u)
include hk

theorem picksFrom_of_allowed (hu : r.allows u = true) :
    r.PicksFrom l start k n t ↔ n = k ∧ u = t := by
  constructor
  · intro h
    have hn : n = k := by
      by_contra hne
      have hle := h.le
      have hnot := h.passed k u (Nat.le_refl k) (by omega) hk
      rw [hu] at hnot
      cases hnot
    subst hn
    exact ⟨rfl, Option.some.inj (hk.symm.trans h.entry)⟩
  · rintro ⟨rfl, rfl⟩
    exact ⟨Nat.le_refl _, hk, hu, fun m v hle hlt => by omega⟩

theorem picksFrom_of_not_allowed (hu : ¬ r.allows u = true) :
    r.PicksFrom l start k n t ↔ r.PicksFrom l start (k + 1) n t := by
  constructor
  · intro h
    have hne : k ≠ n := by
      rintro rfl
      obtain rfl : u = t := Option.some.inj (hk.symm.trans h.entry)
      exact hu h.allowed
    have hle := h.le
    exact ⟨by omega, h.entry, h.allowed, fun m v hm => h.passed m v (by omega)⟩
  · intro h
    refine ⟨by have := h.le; omega, h.entry, h.allowed, fun m v hm hlt hv => ?_⟩
    rcases Nat.lt_or_eq_of_le hm with hm | rfl
    · exact h.passed m v hm hlt hv
    · obtain rfl : u = v := Option.some.inj (hk.symm.trans hv)
      exact Bool.eq_false_iff.2 hu

theorem allowedIn_eq_some_iff {others : Nat} :
    r.allowedIn l u others = some t ↔ ∃ n, n ≤ k + others ∧ r.PicksFrom l start k n t := by
  induction others generalizing k u with
  | zero =>
    rw [allowedIn]
    split
    · simp only [picksFrom_of_allowed hk ‹_›, Option.some.injEq]
      constructor
      · intro h
        exact ⟨k, Nat.le_refl _, rfl, h⟩
      · rintro ⟨n, -, -, h⟩
        exact h
    · simp only [picksFrom_of_not_allowed hk ‹_›]
      refine iff_of_false (fun h => nomatch h) ?_
      rintro ⟨n, hn, h⟩
      have hle := h.le
      omega
  | succ others ih =>
    rw [allowedIn]
    split
    · simp only [picksFrom_of_allowed hk ‹_›, Option.some.injEq]
      constructor
      · intro h
        exact ⟨k, Nat.le_add_right _ _, rfl, h⟩
      · rintro ⟨n, -, -, h⟩
        exact h
    · simp only [picksFrom_of_not_allowed hk ‹_›]
      cases hnext : l.following? u with
      | none =>
        refine iff_of_false (fun h => nomatch h) ?_
        rintro ⟨n, -, h⟩
        obtain ⟨v, hv⟩ := Listing.exists_earlier h.entry h.le
        rw [Listing.listed?, hk] at hv
        exact nomatch hnext.symm.trans hv
      | some v =>
        have hv : l.listed? start (k + 1) = some v := by
          rw [Listing.listed?, hk]
          exact hnext
        rw [show k + (others + 1) = k + 1 + others by omega]
        exact ih hv

end PicksFrom

variable {search : Cron → Listing}

theorem nextWith_eq_some_iff : r.nextWith search start = some t ↔
    ∃ n, n < scanLimit ∧ r.PicksFrom (search r.cron) start 0 n t := by
  have hlimit : scanLimit = scanLimit - 1 + 1 := rfl
  unfold nextWith
  generalize scanLimit - 1 = others at *
  cases hfirst : (search r.cron).after? start with
  | none =>
    refine iff_of_false (fun h => nomatch h) ?_
    rintro ⟨n, -, h⟩
    obtain ⟨v, hv⟩ := Listing.exists_earlier h.entry h.le
    exact nomatch hfirst.symm.trans hv
  | some u =>
    have hu : (search r.cron).listed? start 0 = some u := hfirst
    rw [Option.bind_some, allowedIn_eq_some_iff hu]
    simp only [hlimit, Nat.zero_add, Nat.lt_succ_iff]

section Lists

variable {p : ReminderParam} (hr : compile p = .ok r) (hl : (search r.cron).Lists occurs start)
include hr hl

theorem mem_suited_iff {n : Nat} (ht : (search r.cron).listed? start n = some t) :
    t ∈ suited p occurs start ↔ r.allows t = true := by
  obtain ⟨hoccurs, hlater⟩ := (hl.listed_iff t).1 ⟨n, ht⟩
  unfold allows
  rw [param_of_compile hr, Bool.and_eq_true]
  exact ⟨fun h => h.2.2, fun h => ⟨hoccurs, hlater, h⟩⟩

theorem picksFrom_iff {n : Nat} : r.PicksFrom (search r.cron) start 0 n t ↔
    IsLeast (suited p occurs start) t ∧ (search r.cron).listed? start n = some t := by
  constructor
  · intro h
    refine ⟨⟨(mem_suited_iff hr hl h.entry).2 h.allowed, ?_⟩, h.entry⟩
    intro u hu
    obtain ⟨m, hm⟩ := (hl.listed_iff u).2 ⟨hu.1, hu.2.1⟩
    by_contra hlt
    have hnot := h.passed m u (Nat.zero_le m) ((hl.lt_iff hm h.entry).1 hlt) hm
    rw [(mem_suited_iff hr hl hm).1 hu] at hnot
    cases hnot
  · rintro ⟨⟨ht, hleast⟩, hn⟩
    refine ⟨Nat.zero_le n, hn, (mem_suited_iff hr hl hn).1 ht, fun m u _ hlt hm => ?_⟩
    by_contra hu
    have hle := hleast ((mem_suited_iff hr hl hm).2 (Bool.not_eq_false _ ▸ hu))
    exact (hl.lt_iff hm hn).2 hlt hle

/-- The next occurrence that suits the reminder is found, unless too many others come before it. -/
theorem nextWith_least_iff : r.nextWith search start = some t ↔
    IsLeast (suited p occurs start) t ∧ (between occurs start t).encard < scanLimit := by
  rw [nextWith_eq_some_iff]
  constructor
  · rintro ⟨n, hn, h⟩
    obtain ⟨hleast, hentry⟩ := (picksFrom_iff hr hl).1 h
    refine ⟨hleast, ?_⟩
    rw [between, hl.encard_before hentry]
    exact_mod_cast hn
  · rintro ⟨hleast, hcount⟩
    obtain ⟨n, hn⟩ := (hl.listed_iff t).2 ⟨hleast.1.1, hleast.1.2.1⟩
    rw [between, hl.encard_before hn] at hcount
    exact ⟨n, by exact_mod_cast hcount, (picksFrom_iff hr hl).2 ⟨hleast, hn⟩⟩

/-- None is found just if too many others come before each occurrence that suits. -/
theorem nextWith_none_iff : r.nextWith search start = none ↔
    ∀ t ∈ suited p occurs start, scanLimit ≤ (between occurs start t).encard := by
  constructor
  · intro hnone t ht
    by_contra hlt
    -- of the entries that suit, the first one is found
    have hexists : ∃ n u, (search r.cron).listed? start n = some u ∧ r.allows u = true := by
      obtain ⟨n, hn⟩ := (hl.listed_iff t).2 ⟨ht.1, ht.2.1⟩
      exact ⟨n, t, hn, (mem_suited_iff hr hl hn).1 ht⟩
    classical
    obtain ⟨u, hu, hallowed⟩ := Nat.find_spec hexists
    have hpicked : r.PicksFrom (search r.cron) start 0 (Nat.find hexists) u :=
      ⟨Nat.zero_le _, hu, hallowed, fun m v _ hm hv =>
        Bool.eq_false_iff.2 fun hv' => Nat.find_min hexists hm ⟨v, hv, hv'⟩⟩
    have hleast := ((picksFrom_iff hr hl).1 hpicked).1
    have hfewer : (between occurs start u).encard ≤ (between occurs start t).encard := by
      apply Set.encard_le_encard
      rintro v ⟨hv, hlater, hvu⟩
      exact ⟨hv, hlater, Instant.lt_of_lt_of_le hvu (hleast.2 ht)⟩
    have hfound := (nextWith_least_iff hr hl).2
      ⟨hleast, lt_of_le_of_lt hfewer (lt_of_not_ge hlt)⟩
    rw [hnone] at hfound
    cases hfound
  · intro hmany
    by_contra hsome
    obtain ⟨t, ht⟩ := Option.ne_none_iff_exists'.1 hsome
    obtain ⟨hleast, hcount⟩ := (nextWith_least_iff hr hl).1 ht
    exact absurd (hmany t hleast.1) (not_le_of_gt hcount)

end Lists

/-- What the program finds before the last year is what the search finds that is over then. -/
theorem nextDue?_early_iff (hwhole : start.nanos = 0) (hearly : t.date.year < Cron.lastYear) :
    r.nextDue? start = some t ↔ r.nextWith (fun c => c.listing.untilLast) start = some t := by
  have hsame : ∀ {n}, r.cron.listing.listed? start n = some t → ∀ m ≤ n,
      r.cron.listing.untilLast.listed? start m = r.cron.listing.listed? start m := fun hn m hm =>
    Cron.listed?_untilLast hwhole hn hearly hm
  have hentry : ∀ n u, r.cron.listing.untilLast.listed? start n = some u →
      r.cron.listing.listed? start n = some u := by
    intro n
    induction n with
    | zero =>
      intro u hu
      exact (Option.filter_eq_some_iff.1 hu).1
    | succ n ih =>
      intro u hu
      obtain ⟨v, hv, hu⟩ := Option.bind_eq_some_iff.1 hu
      rw [Listing.listed?, ih v hv]
      exact (Option.filter_eq_some_iff.1 hu).1
  rw [nextDue?_eq, nextWith_eq_some_iff, nextWith_eq_some_iff]
  constructor
  · rintro ⟨n, hn, h⟩
    refine ⟨n, hn, h.le, (hsame h.entry n (Nat.le_refl n)).trans h.entry, h.allowed, ?_⟩
    exact fun m u hm hlt hu => h.passed m u hm hlt (hentry m u hu)
  · rintro ⟨n, hn, h⟩
    have hlisted := hentry n t h.entry
    refine ⟨n, hn, h.le, hlisted, h.allowed, fun m u hm hlt hu => ?_⟩
    exact h.passed m u hm hlt ((hsame hlisted m (Nat.le_of_lt hlt)).trans hu)

/-- The next occurrence that suits a reminder is found if fewer than `scanLimit` others come before it,
and none is found just if that many come before each that suits. This holds of every search that lists
all occurrences, and of the program's own up to the last year. -/
theorem next_within_scan {p : ReminderParam} (hr : compile p = .ok r) (after : Instant) :
    (∀ (search : Cron → Listing) (occurs : Instant → Prop), (search r.cron).Lists occurs after →
      (∀ t, r.nextWith search after = some t ↔ IsLeast (suited p occurs after) t ∧
        (between occurs after t).encard < scanLimit) ∧
      (r.nextWith search after = none ↔
        ∀ t ∈ suited p occurs after, scanLimit ≤ (between occurs after t).encard)) ∧
    r.nextDue? after = r.nextWith Cron.listing after ∧
    (r.cron.Apart → after.nanos = 0 → ∀ t, t.date.year < Cron.lastYear →
      (r.nextDue? after = some t ↔ IsLeast (suited p r.cron.Occurs after) t ∧
        (between r.cron.Occurs after t).encard < scanLimit)) := by
  refine ⟨fun search occurs hl => ?_, nextDue?_eq r after, fun hapart hwhole t hearly => ?_⟩
  · exact ⟨fun t => nextWith_least_iff hr hl, nextWith_none_iff hr hl⟩
  · rw [nextDue?_early_iff hwhole hearly]
    exact nextWith_least_iff hr (Cron.lists_untilLast hapart hwhole)

/-- At nine o'clock on working days. -/
def workdays : ReminderParam := ⟨"0 9 * * *", [1, 2, 3, 4, 5], none⟩

/-- Over a weekend: behind ten o'clock on a Friday, the next one is at nine on Monday. -/
theorem next_within_scan_workdays : ∃ r, compile workdays = .ok r ∧
    r.cron.listing.untilLast.Lists r.cron.Occurs ⟨1704448800, 0⟩ ∧ r.cron.Apart ∧
    IsLeast (suited workdays r.cron.Occurs ⟨1704448800, 0⟩) ⟨1704704400, 0⟩ ∧
    (between r.cron.Occurs ⟨1704448800, 0⟩ ⟨1704704400, 0⟩).encard < scanLimit ∧
    r.nextWith (fun c => c.listing.untilLast) ⟨1704448800, 0⟩ = some ⟨1704704400, 0⟩ := by
  have hfound : ((compile workdays).toOption.bind fun r => (r.nextDue? ⟨1704448800, 0⟩).map
      fun t => (r.cron.seconds.marks, t)) = some ([(0, .plain)], ⟨1704704400, 0⟩) := by
    decide +kernel
  cases hr : compile workdays with
  | error e =>
    rw [hr] at hfound
    cases hfound
  | ok r =>
    rw [hr] at hfound
    obtain ⟨t, hnext, hfacts⟩ := Option.map_eq_some_iff.1 (show (r.nextDue? ⟨1704448800, 0⟩).map
      (fun t => (r.cron.seconds.marks, t)) = _ from hfound)
    obtain ⟨hseconds, rfl⟩ := Prod.mk.inj hfacts
    have hapart : r.cron.Apart := Cron.apart_of_second (s := 0) fun n hn => by
      unfold Field.has at hn
      rw [hseconds] at hn
      simpa using hn
    have hlists : r.cron.listing.untilLast.Lists r.cron.Occurs ⟨1704448800, 0⟩ :=
      Cron.lists_untilLast hapart rfl
    obtain ⟨hany, -, hown⟩ := next_within_scan hr ⟨1704448800, 0⟩
    obtain ⟨hleast, hcount⟩ := (hown hapart rfl ⟨1704704400, 0⟩ (by decide)).1 hnext
    exact ⟨r, rfl, hlists, hapart, hleast, hcount,
      ((hany (fun c => c.listing.untilLast) r.cron.Occurs hlists).1 _).2 ⟨hleast, hcount⟩⟩

/-! ### Beyond the scan -/

/-- Every minute, but only at ten o'clock on Mondays. -/
def mondays : ReminderParam := ⟨"* * * * *", [1], some ⟨⟨36000, 0⟩, ⟨36000, 0⟩⟩⟩

/-- Every minute. -/
def perMinute : Cron where
  seconds := ⟨[(0, .plain)], false, false⟩
  minutes := ⟨(List.range 60).map (·, .plain), false, true⟩
  hours := ⟨(List.range 24).map (·, .plain), false, true⟩
  days := ⟨((List.range 32).drop 1).map (·, .plain), false, true⟩
  months := ⟨((List.range 13).drop 1).map (·, .plain), false, true⟩
  weekdays := ⟨(List.range 7 ++ [0]).map (·, .plain), false, true⟩
  strict := false

theorem compile_mondays : compile mondays = .ok ⟨perMinute, mondays⟩ := by
  apply compile_of_toOption
  decide +kernel

theorem apart_perMinute : perMinute.Apart :=
  Cron.apart_of_second (s := 0) fun n hn => by
    simpa [perMinute, Field.has] using hn

theorem occurs_perMinute {t : Instant} (hwhole : t.nanos = 0) (hminute : t.seconds % 60 = 0)
    (hlate : Cron.firstYear ≤ t.date.year) (hearly : t.date.year < Cron.lastYear) :
    perMinute.Occurs t := by
  have hvalid : t.date.Valid := Date.valid_ofDays t.days
  have hlast : daysInMonth t.date.year t.date.month ≤ 31 := by
    unfold daysInMonth
    split
    · split <;> decide
    · split <;> decide
  have hmonth : ∀ m, 1 ≤ m → m ≤ 12 → perMinute.monthFits m = true := by decide
  have hday : ∀ k, 1 ≤ k → k ≤ 31 → perMinute.days.has k .plain = true := by decide
  have hhour : ∀ h < 24, perMinute.hours.has h .plain = true := by decide
  have hminutes : ∀ m < 60, perMinute.minutes.has m .plain = true := by decide
  have hlt := t.timeOfDay_lt
  have htotal := t.seconds_eq
  refine ⟨hwhole, ?_, hlate, hearly⟩
  simp only [Cron.fits, Cron.timeFits, Bool.and_eq_true]
  refine ⟨⟨hmonth _ hvalid.month.1 hvalid.month.2, ?_⟩, ⟨hhour _ ?_, hminutes _ ?_⟩, ?_⟩
  · rw [Cron.dateFits, if_pos (by rfl), Cron.dayFits,
      hday _ hvalid.day.1 (Nat.le_trans hvalid.day.2 hlast)]
    rfl
  · unfold TimeOfDay.hour
    omega
  · unfold TimeOfDay.minute
    omega
  · rw [show t.timeOfDay.second = 0 by unfold TimeOfDay.second; omega]
    rfl

theorem minute_of_occurs {t : Instant} (h : perMinute.Occurs t) : t.seconds % 60 = 0 :=
  h.second (s := 0) fun n hn => by
    simpa [perMinute, Field.has] using hn

/-- The next occurrence is a minute later. -/
theorem next_perMinute {t : Instant} (ht : perMinute.Occurs t)
    (hearly : (⟨t.seconds + 60, 0⟩ : Instant).date.year < Cron.lastYear) {o : Option Instant}
    (h : First {u | perMinute.Occurs u ∧ t < u} (o.filter fun u => u.date.year < Cron.lastYear)) :
    o = some ⟨t.seconds + 60, 0⟩ := by
  have hminute := minute_of_occurs ht
  have hlate : t.date.year ≤ (⟨t.seconds + 60, 0⟩ : Instant).date.year :=
    Cron.year_le (by simp only; omega)
  have hleast : IsLeast {u | perMinute.Occurs u ∧ t < u} ⟨t.seconds + 60, 0⟩ := by
    refine ⟨⟨occurs_perMinute rfl (by simp only; omega) (Int.le_trans ht.late hlate) hearly, ?_⟩, ?_⟩
    · exact Instant.lt_iff.2 (by simp only; omega)
    · rintro u ⟨hu, hlt⟩
      have hminute' := minute_of_occurs hu
      rw [Cron.lt_iff_of_whole ht.whole hu.whole] at hlt
      exact Instant.le_iff.2 (by simp only; omega)
  exact (Option.filter_eq_some_iff.1 ((h.some_iff fun _ _ => Instant.le_antisymm).2 hleast)).1

theorem suits_mondays_iff {t : Instant} : mondays.allowsWeekday t.weekday = true ∧
    mondays.allowsTime t.timeOfDay = true ↔ (t.seconds - 1704103200) % 604800 = 0 ∧ t.nanos = 0 := by
  have hday : mondays.allowsWeekday t.weekday = true ↔ (t.days + 3) % 7 = 0 := by
    have hweek : Int.fmod (t.days + 3) 7 = (t.days + 3) % 7 :=
      Int.fmod_eq_emod_of_nonneg _ (by decide)
    simp only [ReminderParam.allowsWeekday, mondays, List.isEmpty_cons, Bool.false_or,
      List.any_cons, List.any_nil, Bool.or_false, beq_iff_eq, Instant.weekday,
      Date.weekdayOfDays, hweek]
    change 1 = ((t.days + 3) % 7).toNat + 1 ↔ _
    omega
  have htime : mondays.allowsTime t.timeOfDay = true ↔
      t.timeOfDay.seconds = 36000 ∧ t.nanos = 0 := by
    change WorkTime.contains ⟨⟨36000, 0⟩, ⟨36000, 0⟩⟩ t.timeOfDay = true ↔ _
    have hnanos : t.timeOfDay.nanos = t.nanos := rfl
    rw [WorkTime.contains, if_pos (by decide), Bool.and_eq_true, decide_eq_true_eq,
      decide_eq_true_eq]
    change TimeOfDay.le _ _ = true ∧ TimeOfDay.le _ _ = true ↔ _
    simp only [TimeOfDay.le, Bool.or_eq_true, Bool.and_eq_true, decide_eq_true_eq, beq_iff_eq]
    omega
  have htotal := t.seconds_eq
  have hlt := t.timeOfDay_lt
  rw [hday, htime]
  omega

/-- Within the week, no occurrence suits. -/
theorem allowedFrom?_mondays {t : Instant} {n : Nat} (ht : perMinute.Occurs t)
    (hlow : 1704103200 < t.seconds) (hhigh : t.seconds + 60 * n < 1704708000) :
    allowedFrom? ⟨perMinute, mondays⟩ t n = none := by
  have hnot : ∀ {t : Instant}, 1704103200 < t.seconds → t.seconds < 1704708000 →
      ¬ allows ⟨perMinute, mondays⟩ t = true := by
    intro t hlow hhigh hallows
    unfold allows at hallows
    rw [Bool.and_eq_true, suits_mondays_iff] at hallows
    omega
  induction n generalizing t with
  | zero => rw [allowedFrom?, if_neg (hnot hlow (by omega))]
  | succ n ih =>
    have hyear : (⟨t.seconds + 60, 0⟩ : Instant).date.year ≤ (⟨1704708000, 0⟩ : Instant).date.year :=
      Cron.year_le (by simp only; omega)
    have hearly : (⟨t.seconds + 60, 0⟩ : Instant).date.year < Cron.lastYear :=
      Int.lt_of_le_of_lt hyear (by decide)
    have hnext := next_perMinute ht hearly (Cron.following?_occurs apart_perMinute ht)
    have hoccurs : perMinute.Occurs ⟨t.seconds + 60, 0⟩ := by
      have hminute := minute_of_occurs ht
      have hlate : t.date.year ≤ (⟨t.seconds + 60, 0⟩ : Instant).date.year :=
        Cron.year_le (by simp only; omega)
      exact occurs_perMinute rfl (by simp only; omega) (Int.le_trans ht.late hlate) hearly
    rw [allowedFrom?, if_neg (hnot hlow (by omega)), hnext]
    exact ih hoccurs (by simp only; omega) (by simp only; omega)

/-- The scan ends on the way: a week has more minutes. -/
theorem not_next_beyond_scan :
    compile mondays = .ok ⟨perMinute, mondays⟩ ∧
    perMinute.listing.untilLast.Lists perMinute.Occurs ⟨1704103200, 0⟩ ∧
    IsLeast (suited mondays perMinute.Occurs ⟨1704103200, 0⟩) ⟨1704708000, 0⟩ ∧
    nextDue? ⟨perMinute, mondays⟩ ⟨1704103200, 0⟩ = none := by
  have hstart : perMinute.Occurs ⟨1704103200, 0⟩ :=
    occurs_perMinute rfl (by decide) (by decide) (by decide)
  have hstop : perMinute.Occurs ⟨1704708000, 0⟩ :=
    occurs_perMinute rfl (by decide) (by decide) (by decide)
  refine ⟨compile_mondays, Cron.lists_untilLast apart_perMinute rfl, ⟨⟨hstop, by decide, ?_⟩, ?_⟩, ?_⟩
  · exact suits_mondays_iff.2 (by decide)
  · rintro u ⟨hu, hlt, hsuits⟩
    have hweek := suits_mondays_iff.1 hsuits
    rw [Cron.lt_iff_of_whole rfl hu.whole] at hlt
    exact Instant.le_iff.2 (by simp only at *; omega)
  · have hsecond : perMinute.Occurs ⟨1704103200 + 60, 0⟩ :=
      occurs_perMinute rfl (by decide) (by decide) (by decide)
    have hsearch := Cron.after?_occurs (c := perMinute) (t := ⟨1704103200, 0⟩) rfl
    have hfirst := next_perMinute hstart hsecond.early hsearch
    rw [nextDue?, hfirst, Option.bind_some]
    refine allowedFrom?_mondays hsecond (by decide) ?_
    simp only [scanLimit]
    omega

end Rule

end Reminder

end Workflow
