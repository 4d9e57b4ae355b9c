import Mathlib.Algebra.Group.Nat.Defs
import Mathlib.Data.List.Basic
import Workflow.Scheduler

/-!
The marks of reminders. A mark is named for an instance, a place in it and a minute, and two marks have
one name only if they agree in all three (`Scheduler.reminderKey_inj`). The place of a node is its id,
and that of the instance itself is a hyphen.
-/
namespace Workflow

namespace Time

/-! ### Dates -/

/-- Within four centuries, the years that are counted off leave the days of one year. -/
theorem Date.dayOfYear_range {doe yoe doy : Int} (hlow : 0 ≤ doe) (hhigh : doe ≤ 146096)
    (hyoe : yoe = (doe - doe / 1460 + doe / 36524 - doe / 146096) / 365)
    (hdoy : doy = doe - (365 * yoe + yoe / 4 - yoe / 100)) :
    (0 ≤ yoe ∧ yoe ≤ 399) ∧ 0 ≤ doy ∧ doy ≤ 365 := by
  have hyears : 0 ≤ yoe ∧ yoe ≤ 399 := by omega
  -- the leap days are counted century by century
  have hdays : doe / 36524 = 0 ∨ doe / 36524 = 1 ∨ doe / 36524 = 2 ∨ doe / 36524 = 3 ∨
      doe / 36524 = 4 := by omega
  have hcentury : yoe / 100 = 0 ∨ yoe / 100 = 1 ∨ yoe / 100 = 2 ∨ yoe / 100 = 3 := by omega
  refine ⟨hyears, ?_⟩
  rcases hdays with hc | hc | hc | hc | hc <;> rw [hc] at hyoe <;>
    rcases hcentury with hg | hg | hg | hg <;> rw [hg] at hdoy <;> omega

/-- The day of a date, as it is counted off. -/
structure Date.Counted (n era yoe mp day : Int) : Prop where
  years : 0 ≤ yoe ∧ yoe ≤ 399
  months : 0 ≤ mp ∧ mp ≤ 11
  days : 1 ≤ day ∧ day ≤ 31
  total : n = era * 146097 + (365 * yoe + yoe / 4 - yoe / 100 + (153 * mp + 2) / 5 + day - 1) - 719468
  date : Date.ofDays n = ⟨yoe + era * 400 + (if mp < 10 then 0 else 1),
    (if mp < 10 then mp + 3 else mp - 9).toNat, day.toNat⟩

theorem Date.exists_counted (n : Int) : ∃ era yoe mp day, Date.Counted n era yoe mp day := by
  have hera : Int.fdiv (n + 719468) 146097 = (n + 719468) / 146097 :=
    Int.fdiv_eq_ediv_of_nonneg _ (by decide)
  obtain ⟨doe, hdoe⟩ : ∃ doe, doe = n + 719468 - (n + 719468) / 146097 * 146097 := ⟨_, rfl⟩
  obtain ⟨yoe, hyoe⟩ : ∃ yoe, yoe = (doe - doe / 1460 + doe / 36524 - doe / 146096) / 365 :=
    ⟨_, rfl⟩
  obtain ⟨doy, hdoy⟩ : ∃ doy, doy = doe - (365 * yoe + yoe / 4 - yoe / 100) := ⟨_, rfl⟩
  obtain ⟨mp, hmp⟩ : ∃ mp, mp = (5 * doy + 2) / 153 := ⟨_, rfl⟩
  obtain ⟨day, hday⟩ : ∃ day, day = doy - (153 * mp + 2) / 5 + 1 := ⟨_, rfl⟩
  obtain ⟨hyears, hlow, hhigh⟩ := Date.dayOfYear_range (by omega) (by omega) hyoe hdoy
  refine ⟨(n + 719468) / 146097, yoe, mp, day, hyears, by omega, by omega, by omega, ?_⟩
  simp only [Date.ofDays, hera, ← hdoe, ← hyoe, ← hdoy, ← hmp, ← hday]
  congr 2
  by_cases hm : mp < 10
  · simp only [if_pos hm]
    split <;> omega
  · simp only [if_neg hm]
    split <;> omega

theorem Date.ofDays_ranges (n : Int) : (Date.ofDays n).month < 100 ∧ (Date.ofDays n).day < 100 := by
  obtain ⟨era, yoe, mp, day, h⟩ := Date.exists_counted n
  have hmonths := h.months
  have hdays := h.days
  rw [h.date]
  constructor
  · change (if mp < 10 then mp + 3 else mp - 9).toNat < 100
    split <;> omega
  · change day.toNat < 100
    omega

theorem Date.ofDays_inj {n n' : Int} (h : Date.ofDays n = Date.ofDays n') : n = n' := by
  obtain ⟨era, yoe, mp, day, hn⟩ := Date.exists_counted n
  obtain ⟨era', yoe', mp', day', hn'⟩ := Date.exists_counted n'
  have hyears := hn.years
  have hyears' := hn'.years
  have hmonths := hn.months
  have hmonths' := hn'.months
  have hdays := hn.days
  have hdays' := hn'.days
  rw [hn.date, hn'.date, Date.mk.injEq] at h
  obtain ⟨hyear, hmonth, hday⟩ := h
  have hmonth : mp = mp' := by
    split at hmonth <;> split at hmonth <;> omega
  subst hmonth
  have hday : day = day' := by omega
  have hyear : yoe + era * 400 = yoe' + era' * 400 := by omega
  have hera : era = era' := by omega
  have hyoe : yoe = yoe' := by omega
  rw [hn.total, hn'.total, hera, hyoe, hday]

/-! ### Minutes -/

/-- Leading zeros do not count. -/
theorem ofDigitChars_padded (width n : Nat) : Nat.ofDigitChars 10 (padded width n) 0 = n := by
  have hzeros : ∀ (k : Nat) (ds : List Char),
      Nat.ofDigitChars 10 (List.replicate k '0' ++ ds) 0 = Nat.ofDigitChars 10 ds 0 := by
    intro k ds
    induction k with
    | zero => rfl
    | succ k ih => exact ih
  rw [padded, hzeros, Nat.ofDigitChars_toDigits (by decide) (by decide)]

/-- The digits of a number say which one it is, whatever the width. -/
theorem padded_inj {width n n' : Nat} (h : padded width n = padded width n') : n = n' := by
  rw [← ofDigitChars_padded width n, h, ofDigitChars_padded]

theorem length_padded {width n : Nat} (hwidth : 0 < width) (h : n < 10 ^ width) :
    (padded width n).length = width := by
  have hdigits := (Nat.length_toDigits_le_iff (by decide) hwidth).2 h
  rw [padded, List.length_append, List.length_replicate]
  omega

theorem length_two {n : Nat} (h : n < 100) : (two n).length = 2 := length_padded (by decide) h

theorem isDigit_of_mem_padded {width n : Nat} {c : Char} (h : c ∈ padded width n) :
    c.isDigit = true := by
  rcases List.mem_append.1 h with h | h
  · rw [List.eq_of_mem_replicate h]
    rfl
  · exact Nat.isDigit_of_mem_toDigits (by decide) (by decide) h

theorem yearText_inj {y y' : Int} (h : yearText y = yearText y') : y = y' := by
  have hsign : ∀ {width n c l}, padded width n = c :: l → c.isDigit = true := fun heq =>
    isDigit_of_mem_padded (heq ▸ List.mem_cons_self)
  have hmark : ∀ y : Int, (if y < 0 then '-' else '+').isDigit = false := by
    intro y
    split <;> rfl
  unfold yearText at h
  by_cases hy : 0 ≤ y ∧ y ≤ 9999 <;> by_cases hy' : 0 ≤ y' ∧ y' ≤ 9999
  · rw [if_pos hy, if_pos hy'] at h
    have := padded_inj h
    omega
  · rw [if_pos hy, if_neg hy'] at h
    have hdigit := hsign h
    rw [hmark] at hdigit
    cases hdigit
  · rw [if_neg hy, if_pos hy'] at h
    have hdigit := hsign h.symm
    rw [hmark] at hdigit
    cases hdigit
  · rw [if_neg hy, if_neg hy', List.cons.injEq] at h
    obtain ⟨hmarks, hdigits⟩ := h
    have habs := padded_inj hdigits
    by_cases hneg : y < 0 <;> by_cases hneg' : y' < 0
    · omega
    · rw [if_pos hneg, if_neg hneg'] at hmarks
      cases hmarks
    · rw [if_neg hneg, if_pos hneg'] at hmarks
      cases hmarks
    · omega

namespace Instant

/-- The minutes from the start of 1970. -/
def minute (t : Instant) : Int := t.seconds / 60

variable {t u : Instant}

theorem days_eq (t : Instant) : t.days = t.minute / 1440 := by
  rw [days, secondsPerDay, Int.fdiv_eq_ediv_of_nonneg _ (by decide), minute,
    Int.ediv_ediv_of_nonneg (by decide)]
  rfl

theorem hour_eq (t : Instant) : (t.timeOfDay.hour : Int) = t.minute % 1440 / 60 := by
  have hfmod : Int.fmod t.seconds 86400 = t.seconds % 86400 :=
    Int.fmod_eq_emod_of_nonneg _ (by decide)
  simp only [timeOfDay, TimeOfDay.hour, secondsPerDay, hfmod, minute]
  omega

theorem minute_eq (t : Instant) : (t.timeOfDay.minute : Int) = t.minute % 60 := by
  have hfmod : Int.fmod t.seconds 86400 = t.seconds % 86400 :=
    Int.fmod_eq_emod_of_nonneg _ (by decide)
  simp only [timeOfDay, TimeOfDay.minute, secondsPerDay, hfmod, minute]
  omega

/-- A stamp tells a minute from all others. -/
theorem minuteStamp_inj : t.minuteStamp = u.minuteStamp ↔ t.minute = u.minute := by
  constructor
  · intro h
    have hlist := String.ofList_injective h
    have hlength : ∀ t : Instant, (two t.date.month).length = 2 ∧ (two t.date.day).length = 2 ∧
        (two t.timeOfDay.hour).length = 2 ∧ (two t.timeOfDay.minute).length = 2 := by
      intro t
      have hdate := Date.ofDays_ranges t.days
      have hhour := t.hour_eq
      have hminute := t.minute_eq
      exact ⟨length_two hdate.1, length_two hdate.2, length_two (by omega), length_two (by omega)⟩
    obtain ⟨hm, hd, hh, hmin⟩ := hlength t
    obtain ⟨hm', hd', hh', hmin'⟩ := hlength u
    obtain ⟨hlist, hminute⟩ := List.append_inj' hlist (hmin.trans hmin'.symm)
    obtain ⟨hlist, hhour⟩ := List.append_inj' hlist (hh.trans hh'.symm)
    obtain ⟨hlist, hday⟩ := List.append_inj' hlist (hd.trans hd'.symm)
    obtain ⟨hyear, hmonth⟩ := List.append_inj' hlist (hm.trans hm'.symm)
    have hdate : t.date = u.date := by
      cases ht : t.date
      cases hu : u.date
      rw [ht, hu] at hyear hmonth hday
      rw [Date.mk.injEq]
      exact ⟨yearText_inj hyear, padded_inj hmonth, padded_inj hday⟩
    have hdays : t.days = u.days := Date.ofDays_inj hdate
    have hhour := padded_inj hhour
    have hminute := padded_inj hminute
    have := t.hour_eq
    have := u.hour_eq
    have := t.minute_eq
    have := u.minute_eq
    rw [days_eq, days_eq] at hdays
    omega
  · intro h
    have hdate : t.date = u.date := by rw [date, date, days_eq, days_eq, h]
    have hhour : t.timeOfDay.hour = u.timeOfDay.hour := by
      have := t.hour_eq
      have := u.hour_eq
      omega
    have hminute : t.timeOfDay.minute = u.timeOfDay.minute := by
      have := t.minute_eq
      have := u.minute_eq
      omega
    rw [minuteStamp, minuteStamp, hdate, hhour, hminute]

theorem isDigit_or_sign_of_mem_minuteStamp {c : Char} (h : c ∈ t.minuteStamp.toList) :
    c.isDigit = true ∨ c = '-' ∨ c = '+' := by
  rw [minuteStamp, String.toList_ofList] at h
  simp only [List.mem_append, two] at h
  rcases h with (((h | h) | h) | h) | h
  · unfold yearText at h
    split at h
    · exact Or.inl (isDigit_of_mem_padded h)
    · rcases List.mem_cons.1 h with rfl | h
      · split
        · exact Or.inr (Or.inl rfl)
        · exact Or.inr (Or.inr rfl)
      · exact Or.inl (isDigit_of_mem_padded h)
  · exact Or.inl (isDigit_of_mem_padded h)
  · exact Or.inl (isDigit_of_mem_padded h)
  · exact Or.inl (isDigit_of_mem_padded h)
  · exact Or.inl (isDigit_of_mem_padded h)

end Instant

end Time

/-! ### Ids -/

namespace Uuid

variable {u v : Uuid}

theorem length_hexDigits (n count : Nat) : (hexDigits n count).length = count := by
  induction count generalizing n with
  | zero => rfl
  | succ count ih => rw [hexDigits, List.length_append, ih, List.length_singleton]

theorem hexDigits_inj {n n' count : Nat} (h : hexDigits n count = hexDigits n' count) :
    n % 16 ^ count = n' % 16 ^ count := by
  induction count generalizing n n' with
  | zero => omega
  | succ count ih =>
    rw [hexDigits, hexDigits] at h
    obtain ⟨hrest, hlast⟩ := List.append_inj' h rfl
    have hdigit : ∀ a < 16, ∀ b < 16, Nat.digitChar a = Nat.digitChar b → a = b := by decide
    have hlast := hdigit _ (Nat.mod_lt n (by decide)) _ (Nat.mod_lt n' (by decide))
      (List.singleton_inj.1 hlast)
    rw [Nat.pow_succ, Nat.mul_comm, Nat.mod_mul, Nat.mod_mul, ih hrest, hlast]

theorem length_text (u : Uuid) : u.text.toList.length = 36 := by
  have hlength := length_hexDigits u.bits.toNat 32
  simp [text, hlength]

theorem text_inj (h : u.text = v.text) : u = v := by
  have hlist := String.ofList_injective h
  have hlength : ∀ u : Uuid, (hexDigits u.bits.toNat 32).length = 32 :=
    fun u => length_hexDigits u.bits.toNat 32
  have hu := hlength u
  have hv := hlength v
  have hdigits : hexDigits u.bits.toNat 32 = hexDigits v.bits.toNat 32 := by
    generalize hexDigits u.bits.toNat 32 = ds at hlist hu
    generalize hexDigits v.bits.toNat 32 = ds' at hlist hv
    have hjoin : ∀ {m k : Nat}, (ds.drop m).take k = (ds'.drop m).take k →
        ds.drop (m + k) = ds'.drop (m + k) → ds.drop m = ds'.drop m := by
      intro m k htake hdrop
      rw [← List.take_append_drop k (ds.drop m), htake, List.drop_drop, hdrop, ← List.drop_drop,
        List.take_append_drop]
    -- group by group, from the last one
    obtain ⟨hlist, h20⟩ := List.append_inj' hlist (by simp [hu, hv])
    obtain ⟨hlist, -⟩ := List.append_inj' hlist rfl
    obtain ⟨hlist, h16⟩ := List.append_inj' hlist (by simp [hu, hv])
    obtain ⟨hlist, -⟩ := List.append_inj' hlist rfl
    obtain ⟨hlist, h12⟩ := List.append_inj' hlist (by simp [hu, hv])
    obtain ⟨hlist, -⟩ := List.append_inj' hlist rfl
    obtain ⟨hlist, h8⟩ := List.append_inj' hlist (by simp [hu, hv])
    obtain ⟨h0, -⟩ := List.append_inj' hlist rfl
    exact hjoin (m := 0) (k := 8) h0 (hjoin h8 (hjoin h12 (hjoin h16 h20)))
  have hbits := hexDigits_inj hdigits
  have hsize : 16 ^ 32 = 2 ^ 128 := by decide
  rw [hsize, Nat.mod_eq_of_lt u.bits.isLt, Nat.mod_eq_of_lt v.bits.isLt] at hbits
  cases u
  cases v
  exact congrArg Uuid.mk (BitVec.eq_of_toNat_eq hbits)

end Uuid

/-! ### Marks -/

namespace Scheduler

open Time (Instant)

/-- The place of a source in its instance, as marks name it. -/
def Source.place (source : Source) : String := source.node.getD "-"

variable {i j : Instance} {source source' : Source} {t u : Instant}

theorem toList_reminderKey : (reminderKey i source t).toList =
    "remind:".toList ++ (i.id.text.toList ++ (':' :: (source.place.toList ++
      ':' :: t.minuteStamp.toList))) := by
  simp [reminderKey, Source.place, String.toList_append, toString]

/-- What is behind the last colon says what is in front of it. -/
theorem append_colon_inj {a b s s' : List Char} (hs : ':' ∉ s) (hs' : ':' ∉ s')
    (h : a ++ ':' :: s = b ++ ':' :: s') : a = b ∧ s = s' := by
  have hnil : ∀ {l s s' : List Char}, ':' ∉ s → ':' :: s = l ++ ':' :: s' → l = [] := by
    intro l s s' hs h
    cases l with
    | nil => rfl
    | cons c l =>
      rw [List.cons_append, List.cons.injEq] at h
      exact absurd (h.2 ▸ List.mem_append_right l List.mem_cons_self) hs
  rcases List.append_eq_append_iff.1 h with ⟨l, rfl, hl⟩ | ⟨l, rfl, hl⟩
  · obtain rfl := hnil hs hl
    exact ⟨(List.append_nil a).symm, (List.cons.inj hl).2⟩
  · obtain rfl := hnil hs' hl
    exact ⟨List.append_nil b, (List.cons.inj hl).2.symm⟩

/-- Marks have one name only if they are of one instance, one place and one minute. -/
theorem reminderKey_inj : reminderKey i source t = reminderKey j source' u ↔
    i.id = j.id ∧ source.place = source'.place ∧ t.minute = u.minute := by
  constructor
  · intro h
    have hlist := congrArg String.toList h
    rw [toList_reminderKey, toList_reminderKey] at hlist
    have hcolon : ∀ t : Instant, ':' ∉ t.minuteStamp.toList := by
      intro t hmem
      rcases Instant.isDigit_or_sign_of_mem_minuteStamp hmem with h | h | h <;> cases h
    obtain ⟨hid, hrest⟩ := List.append_inj (List.append_cancel_left hlist)
      (i.id.length_text.trans j.id.length_text.symm)
    obtain ⟨hplace, hstamp⟩ := append_colon_inj (hcolon t) (hcolon u) (List.cons.inj hrest).2
    exact ⟨Uuid.text_inj (String.toList_inj.1 hid), String.toList_inj.1 hplace,
      Instant.minuteStamp_inj.1 (String.toList_inj.1 hstamp)⟩
  · rintro ⟨hid, hplace, hminute⟩
    rw [← String.toList_inj, toList_reminderKey, toList_reminderKey, hid, hplace,
      Instant.minuteStamp_inj.2 hminute]

end Scheduler

end Workflow
