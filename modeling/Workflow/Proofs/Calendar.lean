import Mathlib.Tactic.IntervalCases
import Workflow.Proofs.ReminderKeys

/-!
The calendar. Dates and their counts of days determine each other (`Date.toDays_ofDays`,
`Date.ofDays_toDays`), and later days are not of earlier years. Instants are ordered by their seconds
first. A shift adds nanoseconds, save that a leap second is counted as none once it is left
(`Instant.shift_of_regular`, `Instant.shift_of_leap`).
-/
namespace Workflow.Time

/-! ### Years from March to March -/

/-- The days from the March of the year 0 on to that of another year. -/
def marchDays (y : Int) : Int := 365 * y + y / 4 - y / 100 + y / 400

theorem marchDays_succ (y : Int) : marchDays (y + 1) =
    marchDays y + 365 + (if isLeap (y + 1) then 1 else 0) := by
  unfold marchDays isLeap
  by_cases h4 : (y + 1) % 4 = 0 <;> by_cases h100 : (y + 1) % 100 = 0 <;>
    by_cases h400 : (y + 1) % 400 = 0 <;> simp [h4, h100, h400] <;> omega

theorem marchDays_mono {y y' : Int} (h : y ≤ y') : marchDays y ≤ marchDays y' := by
  unfold marchDays
  omega

/-- The days from the beginning of March to that of another month. -/
def sinceMarch (m : Nat) : Nat := (153 * ((m + 9) % 12) + 2) / 5

namespace Date

/-- Whether a date is one of the calendar's. -/
structure Valid (d : Date) : Prop where
  month : 1 ≤ d.month ∧ d.month ≤ 12
  day : 1 ≤ d.day ∧ d.day ≤ daysInMonth d.year d.month

/-- The year that a date belongs to if years begin in March. -/
def marchYear (d : Date) : Int := if d.month ≤ 2 then d.year - 1 else d.year

theorem toDays_eq (d : Date) :
    d.toDays = marchDays d.marchYear + sinceMarch d.month + d.day - 719469 := by
  unfold toDays marchDays marchYear sinceMarch
  simp only [Int.fdiv_eq_ediv_of_nonneg _ (show (0 : Int) ≤ 400 by decide)]
  generalize (if d.month ≤ 2 then d.year - 1 else d.year) = y
  omega

theorem toDays_day (y : Int) (m k : Nat) : toDays ⟨y, m, k⟩ = toDays ⟨y, m, 1⟩ + k - 1 := by
  have hk := toDays_eq ⟨y, m, k⟩
  have hone := toDays_eq ⟨y, m, 1⟩
  simp only [marchYear] at hk hone
  omega

theorem toDays_month {y : Int} {m : Nat} (hlow : 1 ≤ m) (hhigh : m < 12) :
    toDays ⟨y, m + 1, 1⟩ = toDays ⟨y, m, 1⟩ + daysInMonth y m := by
  have hleap := marchDays_succ (y - 1)
  rw [Int.sub_add_cancel] at hleap
  rw [toDays_eq, toDays_eq]
  unfold marchYear sinceMarch daysInMonth
  interval_cases m <;> simp <;> split at hleap <;> simp_all <;> omega

theorem toDays_year (y : Int) : toDays ⟨y + 1, 1, 1⟩ = toDays ⟨y, 12, 1⟩ + 31 := by
  rw [toDays_eq, toDays_eq]
  simp [marchYear, sinceMarch]
  omega

/-! ### The date of a day -/

theorem toDays_ofDays (n : Int) : (ofDays n).toDays = n := by
  obtain ⟨era, yoe, mp, day, h⟩ := Date.exists_counted n
  have hyears := h.years
  have hmonths := h.months
  have hdays := h.days
  have htotal := h.total
  have hmarch : marchDays (yoe + era * 400) = era * 146097 + 365 * yoe + yoe / 4 - yoe / 100 := by
    unfold marchDays
    omega
  rw [h.date, toDays_eq]
  by_cases hmp : mp < 10
  · simp only [if_pos hmp, marchYear, sinceMarch]
    rw [if_neg (by omega), Int.add_zero, hmarch, show ((mp + 3).toNat + 9) % 12 = mp.toNat by omega]
    omega
  · simp only [if_neg hmp, marchYear, sinceMarch]
    rw [if_pos (by omega), Int.add_sub_cancel, hmarch,
      show ((mp - 9).toNat + 9) % 12 = mp.toNat by omega]
    omega

/-- The last day of a year that begins in March is a leap day if it is the 366th one. -/
theorem isLeap_of_lastDay {era doe yoe : Int} (hlow : 0 ≤ doe) (hhigh : doe ≤ 146096)
    (hyoe : yoe = (doe - doe / 1460 + doe / 36524 - doe / 146096) / 365)
    (hlast : doe = 365 * yoe + yoe / 4 - yoe / 100 + 365) : isLeap (yoe + era * 400 + 1) = true := by
  have hyears : 0 ≤ yoe ∧ yoe ≤ 399 := by omega
  have hleaps : yoe / 100 ≤ yoe / 4 ∧ yoe / 4 ≤ 99 ∧ 0 ≤ yoe / 100 ∧ yoe / 100 ≤ 3 := by omega
  have hcenturies : 36524 * (yoe / 100) ≤ doe := by omega
  have hcount : yoe / 100 + doe / 146096 ≤ doe / 36524 := by
    by_cases hend : doe = 146096
    · rw [hend]
      omega
    · rw [show doe / 146096 = 0 by omega]
      omega
  have hfour : (yoe + 1) % 4 = 0 := by
    by_contra hne
    have hpart : yoe = 4 * (yoe / 4) + yoe % 4 ∧ yoe % 4 ≤ 2 := by omega
    have hyears : 1460 * (yoe / 4) ≤ doe ∧ doe < 1460 * (yoe / 4) + 1460 := by omega
    rw [show doe / 1460 = yoe / 4 by omega] at hyoe
    omega
  have hcentury : ¬ (yoe = 99 ∨ yoe = 199 ∨ yoe = 299) := by
    rintro (rfl | rfl | rfl) <;> omega
  unfold isLeap
  simp only [Bool.and_eq_true, Bool.or_eq_true, decide_eq_true_eq, ne_eq]
  omega

theorem valid_ofDays (n : Int) : (ofDays n).Valid := by
  have hera : Int.fdiv (n + 719468) 146097 = (n + 719468) / 146097 :=
    Int.fdiv_eq_ediv_of_nonneg _ (by decide)
  obtain ⟨doe, hdoe⟩ : ∃ doe, doe = n + 719468 - (n + 719468) / 146097 * 146097 := ⟨_, rfl⟩
  obtain ⟨yoe, hyoe⟩ : ∃ yoe, yoe = (doe - doe / 1460 + doe / 36524 - doe / 146096) / 365 :=
    ⟨_, rfl⟩
  obtain ⟨doy, hdoy⟩ : ∃ doy, doy = doe - (365 * yoe + yoe / 4 - yoe / 100) := ⟨_, rfl⟩
  obtain ⟨mp, hmp⟩ : ∃ mp, mp = (5 * doy + 2) / 153 := ⟨_, rfl⟩
  obtain ⟨hyears, hlow, hhigh⟩ := Date.dayOfYear_range (by omega) (by omega) hyoe hdoy
  have hleap : doy = 365 → isLeap (yoe + (n + 719468) / 146097 * 400 + 1) = true := fun hlast =>
    isLeap_of_lastDay (by omega) (by omega) hyoe (by omega)
  have hdate : ofDays n = ⟨yoe + (n + 719468) / 146097 * 400 +
      (if (if mp < 10 then mp + 3 else mp - 9) ≤ 2 then 1 else 0),
      (if mp < 10 then mp + 3 else mp - 9).toNat, (doy - (153 * mp + 2) / 5 + 1).toNat⟩ := by
    simp only [ofDays, hera, ← hdoe, ← hyoe, ← hdoy, ← hmp]
  obtain ⟨hmlow, hmhigh⟩ : 0 ≤ mp ∧ mp ≤ 11 := by omega
  rw [hdate]
  clear hdate hyoe hdoy hera
  interval_cases mp <;> refine ⟨by simp, ?_⟩ <;> simp [daysInMonth] <;> (try split) <;>
    first | omega | (simp_all; omega)

/-! ### The day of a date -/

/-- The days of a month are those until the next one. -/
theorem Valid.day_lt {d : Date} (h : d.Valid) :
    sinceMarch d.month + d.day ≤ (153 * ((d.month + 9) % 12 + 1) + 2) / 5 := by
  obtain ⟨y, m, k⟩ := d
  obtain ⟨⟨hlow, hhigh⟩, hday⟩ := h
  simp only [daysInMonth, sinceMarch] at *
  interval_cases m <;> simp at * <;> (try split at hday) <;> omega

theorem Valid.between {d : Date} (h : d.Valid) :
    marchDays d.marchYear ≤ d.toDays + 719468 ∧ d.toDays + 719468 < marchDays (d.marchYear + 1) := by
  have hmonth := h.month
  have hday := h.day
  have hlt := h.day_lt
  have hsucc := marchDays_succ d.marchYear
  rw [toDays_eq]
  by_cases hm : d.month = 2
  · -- the last month of the year has a leap day or not
    have hyear : d.marchYear + 1 = d.year := by
      simp [marchYear, hm]
    have hsince : sinceMarch d.month = 337 := by rw [hm]; rfl
    rw [daysInMonth, if_pos hm] at hday
    rw [hyear] at hsucc ⊢
    split at hsucc <;> rename_i hleap <;> simp only [hleap] at hday <;> simp at hday <;> omega
  · have hsince : sinceMarch d.month + d.day ≤ 337 := by omega
    split at hsucc <;> omega

theorem Valid.eq_of_toDays {d d' : Date} (h : d.Valid) (h' : d'.Valid) (heq : d.toDays = d'.toDays) :
    d = d' := by
  have hbetween := h.between
  have hbetween' := h'.between
  have hyear : d.marchYear = d'.marchYear := by
    rcases Int.lt_trichotomy d.marchYear d'.marchYear with hlt | hsame | hlt
    · have hmono := marchDays_mono (show d.marchYear + 1 ≤ d'.marchYear from hlt)
      omega
    · exact hsame
    · have hmono := marchDays_mono (show d'.marchYear + 1 ≤ d.marchYear from hlt)
      omega
  have hlt := h.day_lt
  have hlt' := h'.day_lt
  have hmonths := h.month
  have hmonths' := h'.month
  have hdays := h.day
  have hdays' := h'.day
  rw [toDays_eq, toDays_eq, hyear] at heq
  have hsum : sinceMarch d.month + d.day = sinceMarch d'.month + d'.day := by omega
  unfold sinceMarch at hlt hlt' hsum
  have hmonth : d.month = d'.month := by omega
  rw [hmonth] at hsum
  unfold marchYear at hyear
  rw [hmonth] at hyear
  obtain ⟨y, m, k⟩ := d
  obtain ⟨y', m', k'⟩ := d'
  simp only [Date.mk.injEq] at *
  refine ⟨?_, hmonth, by omega⟩
  split at hyear <;> omega

theorem ofDays_toDays {d : Date} (h : d.Valid) : ofDays d.toDays = d :=
  (valid_ofDays _).eq_of_toDays h (toDays_ofDays _)

/-- Later days are not of earlier years. -/
theorem year_mono {n n' : Int} (h : n ≤ n') : (ofDays n).year ≤ (ofDays n').year := by
  have hd := valid_ofDays n
  have hd' := valid_ofDays n'
  rw [← toDays_ofDays n, ← toDays_ofDays n'] at h
  generalize ofDays n = d at *
  generalize ofDays n' = d' at *
  have hbetween := hd.between
  have hbetween' := hd'.between
  have hmarch : d.marchYear ≤ d'.marchYear := by
    by_contra hlt
    have hmono := marchDays_mono (show d'.marchYear + 1 ≤ d.marchYear by omega)
    omega
  by_contra hlt
  -- the two lie in one year from March to March, the later one before January and the other not
  have hyears : d.marchYear = d'.marchYear ∧ d.month ≤ 2 ∧ 2 < d'.month := by
    unfold marchYear at *
    split at hmarch <;> split at hmarch <;> omega
  have hmonths := hd.month
  have hdays := hd.day
  have hlast := hd'.day_lt
  have hmonths' := hd'.month
  rw [toDays_eq, toDays_eq, hyears.1] at h
  unfold sinceMarch at *
  omega

/-- A year has not begun on just the days before its first one. -/
theorem year_lt_iff {n y : Int} : (ofDays n).year < y ↔ n < toDays ⟨y, 1, 1⟩ := by
  have hfirst : (ofDays (toDays ⟨y, 1, 1⟩)).year = y :=
    congrArg year (ofDays_toDays (d := ⟨y, 1, 1⟩) ⟨by simp, by simp, by simp [daysInMonth]⟩)
  have hlast : (ofDays (toDays ⟨y - 1, 12, 31⟩)).year = y - 1 :=
    congrArg year (ofDays_toDays (d := ⟨y - 1, 12, 31⟩) ⟨by simp, by simp, by simp [daysInMonth]⟩)
  have hnext := toDays_year (y - 1)
  rw [Int.sub_add_cancel] at hnext
  have hday := toDays_day (y - 1) 12 31
  constructor
  · intro hlt
    by_contra hle
    have hmono := year_mono (show toDays ⟨y, 1, 1⟩ ≤ n by omega)
    omega
  · intro hlt
    have hmono := year_mono (show n ≤ toDays ⟨y - 1, 12, 31⟩ by omega)
    omega

end Date

namespace Instant

/-! ### The order of instants -/

theorem le_iff {s t : Instant} :
    s ≤ t ↔ s.seconds < t.seconds ∨ s.seconds = t.seconds ∧ s.nanos ≤ t.nanos := by
  change s.le t = true ↔ _
  simp [le]

theorem lt_iff {s t : Instant} :
    s < t ↔ s.seconds < t.seconds ∨ s.seconds = t.seconds ∧ s.nanos < t.nanos := by
  change ¬ t ≤ s ↔ _
  rw [le_iff]
  omega

theorem lt_irrefl (t : Instant) : ¬ t < t := by
  rw [lt_iff]
  omega

theorem lt_trans {s t u : Instant} (h : s < t) (h' : t < u) : s < u := by
  rw [lt_iff] at *
  omega

theorem le_of_lt {s t : Instant} (h : s < t) : s ≤ t := by
  rw [lt_iff] at h
  rw [le_iff]
  omega

theorem lt_of_lt_of_le {s t u : Instant} (h : s < t) (h' : t ≤ u) : s < u := by
  rw [lt_iff] at *
  rw [le_iff] at h'
  omega

theorem le_trans {s t u : Instant} (h : s ≤ t) (h' : t ≤ u) : s ≤ u := by
  rw [le_iff] at *
  omega

theorem ext_iff {s t : Instant} : s = t ↔ s.seconds = t.seconds ∧ s.nanos = t.nanos := by
  rw [← mk.injEq]

theorem le_antisymm {s t : Instant} (h : s ≤ t) (h' : t ≤ s) : s = t := by
  rw [le_iff] at h h'
  rw [ext_iff]
  omega

theorem lt_or_eq_of_le {s t : Instant} (h : s ≤ t) : s < t ∨ s = t := by
  rw [le_iff] at h
  rw [lt_iff, ext_iff]
  omega

/-! ### Dates and times of day -/

theorem seconds_eq (t : Instant) : t.seconds = t.days * 86400 + t.timeOfDay.seconds := by
  have hmod := Int.fmod_nonneg_of_pos t.seconds (show (0 : Int) < 86400 by decide)
  have hsum := Int.mul_fdiv_add_fmod t.seconds 86400
  simp only [days, timeOfDay, secondsPerDay]
  omega

theorem timeOfDay_lt (t : Instant) : t.timeOfDay.seconds < 86400 := by
  have hmod := Int.fmod_lt_of_pos t.seconds (show (0 : Int) < 86400 by decide)
  have hnonneg := Int.fmod_nonneg_of_pos t.seconds (show (0 : Int) < 86400 by decide)
  simp only [timeOfDay, secondsPerDay]
  omega

section OfDate

variable {d : Date} {s nanos : Nat}

theorem days_ofDate (hs : s < 86400) : (ofDate d ⟨s, nanos⟩).days = d.toDays := by
  have h := seconds_eq (ofDate d ⟨s, nanos⟩)
  have hlt := timeOfDay_lt (ofDate d ⟨s, nanos⟩)
  have hseconds : (ofDate d ⟨s, nanos⟩).seconds = d.toDays * 86400 + s := rfl
  omega

theorem timeOfDay_ofDate (hs : s < 86400) : (ofDate d ⟨s, nanos⟩).timeOfDay = ⟨s, nanos⟩ := by
  have h := seconds_eq (ofDate d ⟨s, nanos⟩)
  rw [days_ofDate hs] at h
  have hseconds : (ofDate d ⟨s, nanos⟩).seconds = d.toDays * 86400 + s := rfl
  have hsame : (ofDate d ⟨s, nanos⟩).timeOfDay.seconds = s := by omega
  exact congrArg (TimeOfDay.mk · nanos) hsame

theorem date_ofDate (hd : d.Valid) (hs : s < 86400) : (ofDate d ⟨s, nanos⟩).date = d := by
  rw [date, days_ofDate hs, Date.ofDays_toDays hd]

end OfDate

/-! ### Shifts -/

/-- Nanoseconds since the start of 1970, leap seconds aside. -/
def total (t : Instant) : Int := t.seconds * 1000000000 + t.nanos

def ofTotal (n : Int) : Instant := ⟨n / 1000000000, (n % 1000000000).toNat⟩

theorem nanos_ofTotal_lt (n : Int) : (ofTotal n).nanos < 1000000000 := by
  simp only [ofTotal]
  omega

theorem total_ofTotal (n : Int) : (ofTotal n).total = n := by
  simp only [ofTotal, total]
  omega

/-- Nanoseconds that leave their second by less than another one are carried over. -/
theorem carried_eq {seconds nanos n : Int} (hlow : -1000000000 ≤ nanos) (hhigh : nanos < 2000000000)
    (hn : seconds * 1000000000 + nanos = n) :
    (if nanos < 0 then ⟨seconds - 1, (nanos + 1000000000).toNat⟩
      else if 1000000000 ≤ nanos then ⟨seconds + 1, (nanos - 1000000000).toNat⟩
      else ⟨seconds, nanos.toNat⟩ : Instant) = ofTotal n := by
  unfold ofTotal
  split
  · exact congrArg₂ mk (by omega) (by omega)
  · split
    · exact congrArg₂ mk (by omega) (by omega)
    · exact congrArg₂ mk (by omega) (by omega)

theorem shift_of_regular {t : Instant} (h : t.nanos < 1000000000) (delta : Int) :
    t.shift delta = ofTotal (t.total + delta) := by
  obtain ⟨seconds, nanos⟩ := t
  have hsum := Int.mul_tdiv_add_tmod delta 1000000000
  have hlow := Int.lt_tmod_of_pos delta (show (0 : Int) < 1000000000 by decide)
  have hhigh := Int.tmod_lt_of_pos delta (show (0 : Int) < 1000000000 by decide)
  unfold shift billion total
  simp only at *
  rw [if_neg (by omega)]
  apply carried_eq <;> omega

/-- Within a leap second, an instant keeps its second. -/
theorem shift_of_leap {t : Instant} (h : 1000000000 ≤ t.nanos) (h' : t.nanos < 2000000000)
    (delta : Int) : t.shift delta =
      if -1000000000 < delta ∧ t.nanos + delta < 2000000000 then
        ⟨t.seconds, (t.nanos + delta).toNat⟩
      else if 0 < delta then ofTotal (t.total + delta - 1000000000)
      else ofTotal (t.total + delta) := by
  obtain ⟨seconds, nanos⟩ := t
  have hsum := Int.mul_tdiv_add_tmod delta 1000000000
  have hlow := Int.lt_tmod_of_pos delta (show (0 : Int) < 1000000000 by decide)
  have hhigh := Int.tmod_lt_of_pos delta (show (0 : Int) < 1000000000 by decide)
  have hpos : 0 ≤ delta → 0 ≤ delta.tmod 1000000000 := Int.tmod_nonneg _
  have hneg : delta ≤ 0 → delta.tmod 1000000000 ≤ 0 := fun hdelta => by
    have hnonneg := Int.tmod_nonneg 1000000000 (show 0 ≤ -delta by omega)
    rw [Int.neg_tmod] at hnonneg
    omega
  have hsign : 0 ≤ delta ∧ 0 ≤ delta.tmod 1000000000 ∨ delta < 0 ∧ delta.tmod 1000000000 ≤ 0 := by
    omega
  clear hpos hneg
  unfold shift billion total
  simp only at *
  generalize delta.tdiv 1000000000 = whole at *
  generalize delta.tmod 1000000000 = part at *
  rw [if_pos (by omega)]
  by_cases hstay : -1000000000 < delta ∧ nanos + delta < 2000000000
  · rw [if_pos hstay, if_neg (by omega), if_neg (by omega)]
    exact congrArg₂ mk rfl (by omega)
  · rw [if_neg hstay]
    by_cases hfwd : 0 < delta
    · rw [if_pos hfwd, if_pos (by omega)]
      apply carried_eq <;> omega
    · rw [if_neg hfwd, if_neg (by omega), if_pos (by omega)]
      apply carried_eq <;> omega

theorem shift_ofSeconds {t : Instant} (h : t.nanos < 1000000000) (n : Int) :
    t.shift (Span.ofSeconds n) = ⟨t.seconds + n, t.nanos⟩ := by
  rw [shift_of_regular h, ext_iff]
  simp only [ofTotal, total, Span.ofSeconds, billion]
  omega

theorem shift?_eq_some_iff {t u : Instant} {delta : Int} :
    t.shift? delta = some u ↔ t.shift delta = u ∧ u.inRange = true := by
  simp only [shift?, Option.ite_none_right_eq_some, Option.some.injEq]
  constructor
  · rintro ⟨hrange, rfl⟩
    exact ⟨rfl, hrange⟩
  · rintro ⟨rfl, hrange⟩
    exact ⟨hrange, rfl⟩

theorem shift?_eq_none_iff {t : Instant} {delta : Int} :
    t.shift? delta = none ↔ (t.shift delta).inRange = false := by
  simp only [shift?, ite_eq_right_iff, reduceCtorEq, imp_false, Bool.not_eq_true]

/-- The nanoseconds do not go beyond those of a leap second. -/
def Proper (t : Instant) : Prop := t.nanos < 2000000000

section Proper

variable {t : Instant} (h : t.Proper)
include h

/-- A shift by more does not lead to an earlier second. -/
theorem Proper.seconds_shift_mono {delta delta' : Int} (hle : delta ≤ delta') :
    (t.shift delta).seconds ≤ (t.shift delta').seconds := by
  unfold Proper at h
  by_cases hleap : t.nanos < 1000000000
  · rw [shift_of_regular hleap, shift_of_regular hleap]
    simp only [ofTotal]
    omega
  · rw [shift_of_leap (by omega) h, shift_of_leap (by omega) h]
    unfold ofTotal total
    split <;> split <;> (try split) <;> (try split) <;> simp only <;> omega

theorem Proper.seconds_le_shift {delta : Int} (hpos : 0 < delta) :
    t.seconds ≤ (t.shift delta).seconds := by
  unfold Proper at h
  by_cases hleap : t.nanos < 1000000000
  · rw [shift_of_regular hleap]
    simp only [ofTotal, total]
    omega
  · rw [shift_of_leap (by omega) h, if_pos hpos]
    unfold ofTotal total
    split <;> simp only <;> omega

theorem Proper.shift (delta : Int) : (t.shift delta).Proper := by
  unfold Proper at *
  by_cases hleap : t.nanos < 1000000000
  · rw [shift_of_regular hleap]
    exact Nat.lt_trans (nanos_ofTotal_lt _) (by decide)
  · rw [shift_of_leap (by omega) h]
    split
    · simp only
      omega
    · split
      · exact Nat.lt_trans (nanos_ofTotal_lt _) (by decide)
      · exact Nat.lt_trans (nanos_ofTotal_lt _) (by decide)

/-- A step forth and back ends in the second in which it began. -/
theorem Proper.seconds_shift_back {delta : Int} (hpos : 0 < delta) :
    ((t.shift delta).shift (-delta)).seconds = t.seconds := by
  unfold Proper at h
  by_cases hleap : t.nanos < 1000000000
  · rw [shift_of_regular hleap, shift_of_regular (nanos_ofTotal_lt _), total_ofTotal]
    simp only [ofTotal, total]
    omega
  · rw [shift_of_leap (by omega) h]
    by_cases hstay : -1000000000 < delta ∧ t.nanos + delta < 2000000000
    · -- the leap second is not left, on either way
      rw [if_pos hstay, shift_of_leap (by simp only; omega) (by simp only; omega),
        if_pos (by simp only; omega)]
    · rw [if_neg hstay, if_pos hpos, shift_of_regular (nanos_ofTotal_lt _), total_ofTotal]
      simp only [ofTotal, total]
      omega

end Proper

end Instant

end Workflow.Time
