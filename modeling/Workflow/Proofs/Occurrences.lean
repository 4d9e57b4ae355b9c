import Mathlib.Order.Bounds.Defs
import Workflow.Proofs.Calendar

/-!
The search for occurrences. Seconds, days and months are gone through in order, each search the first
one of its kind (`First`). From a whole second on it finds the first occurrence of a line, up to the last
year (`Reminder.Cron.from?_occurs`), and so do the searches behind an instant and behind an occurrence,
where no two occurrences are a second apart.
-/
namespace Workflow

/-! ### First members -/

/-- The least member of a set, or none where the set is empty. -/
def First {α : Type} [LE α] (S : Set α) : Option α → Prop
  | some a => IsLeast S a
  | none => S = ∅

namespace First

theorem congr {α : Type} [LE α] {S S' : Set α} {o : Option α} (h : First S o)
    (hS : ∀ a, a ∈ S ↔ a ∈ S') : First S' o := by
  obtain rfl : S = S' := Set.ext hS
  exact h

theorem none_of_forall {α : Type} [LE α] {S : Set α} (h : ∀ a, a ∉ S) : First S none :=
  Set.eq_empty_of_forall_notMem h

theorem notMem {α : Type} [LE α] {S : Set α} (h : First S none) (a : α) : a ∉ S := by
  obtain rfl : S = ∅ := h
  exact Set.notMem_empty a

/-- In an ascending list, the first one that is looked for is the least one. -/
theorem find? {l : List Nat} (hl : l.Pairwise (· < ·)) (p : Nat → Bool) :
    First {n | n ∈ l ∧ p n = true} (l.find? p) := by
  induction l with
  | nil =>
    apply First.none_of_forall
    rintro n ⟨hn, -⟩
    exact List.not_mem_nil hn
  | cons a l ih =>
    obtain ⟨hhead, htail⟩ := List.pairwise_cons.1 hl
    by_cases ha : p a = true
    · rw [List.find?_cons_of_pos ha]
      refine ⟨⟨List.mem_cons_self, ha⟩, ?_⟩
      rintro n ⟨hn, -⟩
      rcases List.mem_cons.1 hn with rfl | hn
      · exact Nat.le_refl _
      · exact Nat.le_of_lt (hhead n hn)
    · rw [List.find?_cons_of_neg ha]
      refine (ih htail).congr fun n => ?_
      constructor
      · rintro ⟨hn, hp⟩
        exact ⟨List.mem_cons_of_mem _ hn, hp⟩
      · rintro ⟨hn, hp⟩
        rcases List.mem_cons.1 hn with rfl | hn
        · exact absurd hp ha
        · exact ⟨hn, hp⟩

/-- Searches one after another, where what a later one looks for comes later. -/
theorem findSome? {l : List Nat} {f : Nat → Option Nat} {S : Nat → Set Nat}
    (hl : l.Pairwise (· < ·)) (hf : ∀ a ∈ l, First (S a) (f a))
    (hS : ∀ a b, a < b → ∀ x ∈ S a, ∀ y ∈ S b, x ≤ y) :
    First {x | ∃ a ∈ l, x ∈ S a} (l.findSome? f) := by
  induction l with
  | nil =>
    apply First.none_of_forall
    rintro n ⟨a, ha, -⟩
    exact List.not_mem_nil ha
  | cons a l ih =>
    obtain ⟨hhead, htail⟩ := List.pairwise_cons.1 hl
    have hfirst := hf a List.mem_cons_self
    rw [List.findSome?_cons]
    cases hfa : f a with
    | some x =>
      rw [hfa] at hfirst
      refine ⟨⟨a, List.mem_cons_self, hfirst.1⟩, ?_⟩
      rintro y ⟨b, hb, hy⟩
      rcases List.mem_cons.1 hb with rfl | hb
      · exact hfirst.2 hy
      · exact hS a b (hhead b hb) x hfirst.1 y hy
    | none =>
      rw [hfa] at hfirst
      refine (ih htail fun b hb => hf b (List.mem_cons_of_mem _ hb)).congr fun x => ?_
      constructor
      · rintro ⟨b, hb, hx⟩
        exact ⟨b, List.mem_cons_of_mem _ hb, hx⟩
      · rintro ⟨b, hb, hx⟩
        rcases List.mem_cons.1 hb with rfl | hb
        · exact absurd hx (hfirst.notMem x)
        · exact ⟨b, hb, hx⟩

theorem filter {α : Type} [LE α] {S : Set α} {o : Option α} (h : First S o) {p : α → Bool}
    (hp : ∀ a ∈ S, ∀ b ∈ S, a ≤ b → p b = true → p a = true) :
    First {a | a ∈ S ∧ p a = true} (o.filter p) := by
  cases o with
  | none =>
    apply First.none_of_forall
    rintro a ⟨ha, -⟩
    exact h.notMem a ha
  | some a =>
    obtain ⟨ha, hleast⟩ := h
    by_cases hpa : p a = true
    · rw [Option.filter_some_pos hpa]
      exact ⟨⟨ha, hpa⟩, fun b hb => hleast hb.1⟩
    · rw [Option.filter_some_neg (Bool.eq_false_iff.2 hpa)]
      apply First.none_of_forall
      rintro b ⟨hb, hpb⟩
      exact hpa (hp a ha b hb (hleast hb) hpb)

theorem some_iff {α : Type} [LE α] {S : Set α} {o : Option α} (h : First S o)
    (hanti : ∀ a b : α, a ≤ b → b ≤ a → a = b) {a : α} : o = some a ↔ IsLeast S a := by
  cases o with
  | none =>
    constructor
    · intro heq
      cases heq
    · rintro ⟨ha, -⟩
      exact absurd ha (h.notMem a)
  | some b =>
    constructor
    · intro heq
      cases heq
      exact h
    · intro ha
      exact congrArg some (hanti b a (h.2 ha.1) (ha.2 h.1))

end First

namespace Reminder

open Time

theorem Field.mem_values {f : Field} {max n : Nat} :
    n ∈ f.values max ↔ n ≤ max ∧ f.has n .plain = true := by
  rw [values, List.mem_filter, List.mem_range, Nat.lt_succ_iff]

theorem Field.values_ascend (f : Field) (max : Nat) : (f.values max).Pairwise (· < ·) :=
  List.pairwise_lt_range.filter _

namespace Cron

variable {c : Cron}

/-! ### The seconds of a day -/

/-- The seconds of a minute, from a given one on, that the line names. -/
def ofMinute (c : Cron) (start h m : Nat) : Set Nat :=
  {v | v / 60 = h * 60 + m ∧ start ≤ v ∧ c.seconds.has (v % 60) .plain = true}

def ofHour (c : Cron) (start h : Nat) : Set Nat :=
  {v | v / 3600 = h ∧ start ≤ v ∧ c.minutes.has (v / 60 % 60) .plain = true ∧
    c.seconds.has (v % 60) .plain = true}

def ofDay (c : Cron) (start : Nat) : Set Nat :=
  {v | v < 86400 ∧ start ≤ v ∧ c.timeFits ⟨v, 0⟩ = true}

theorem ofMinute_first {start h m : Nat} (hm : m ≤ 59)
    (hlater : ¬ (h < start / 3600 ∨ h = start / 3600 ∧ m < start / 60 % 60)) :
    First (c.ofMinute start h m) ((c.seconds.values 59).findSome? fun s =>
      if h = start / 3600 ∧ m = start / 60 % 60 ∧ s < start % 60 then none
      else some (h * 3600 + m * 60 + s)) := by
  apply (First.findSome? (S := fun s => {v | v = h * 3600 + m * 60 + s ∧ start ≤ v})
    (Field.values_ascend _ _) _ _).congr
  · intro v
    constructor
    · rintro ⟨s, hs, rfl, hv⟩
      obtain ⟨hs59, hs⟩ := Field.mem_values.1 hs
      refine ⟨by omega, hv, ?_⟩
      rwa [show (h * 3600 + m * 60 + s) % 60 = s by omega]
    · rintro ⟨hv, hle, hs⟩
      exact ⟨v % 60, Field.mem_values.2 ⟨by omega, hs⟩, by omega, hle⟩
  · intro s hs
    have hs59 := (Field.mem_values.1 hs).1
    split
    · apply First.none_of_forall
      rintro v ⟨rfl, hv⟩
      omega
    · refine ⟨⟨rfl, by omega⟩, ?_⟩
      rintro v ⟨rfl, -⟩
      exact Nat.le_refl _
  · rintro s s' hlt v ⟨rfl, -⟩ v' ⟨rfl, -⟩
    omega

theorem ofHour_first {start h : Nat} (hlater : ¬ h < start / 3600) :
    First (c.ofHour start h) ((c.minutes.values 59).findSome? fun m =>
      if h = start / 3600 ∧ m < start / 60 % 60 then none
      else (c.seconds.values 59).findSome? fun s =>
        if h = start / 3600 ∧ m = start / 60 % 60 ∧ s < start % 60 then none
        else some (h * 3600 + m * 60 + s)) := by
  apply (First.findSome? (S := c.ofMinute start h) (Field.values_ascend _ _) _ _).congr
  · intro v
    constructor
    · rintro ⟨m, hm, hv, hle, hs⟩
      obtain ⟨hm59, hm⟩ := Field.mem_values.1 hm
      refine ⟨by omega, hle, ?_, hs⟩
      rwa [show v / 60 % 60 = m by omega]
    · rintro ⟨hv, hle, hm, hs⟩
      exact ⟨v / 60 % 60, Field.mem_values.2 ⟨by omega, hm⟩, by omega, hle, hs⟩
  · intro m hm
    have hm59 := (Field.mem_values.1 hm).1
    split
    · apply First.none_of_forall
      rintro v ⟨hv, hle, -⟩
      omega
    · exact ofMinute_first hm59 (by omega)
  · rintro m m' hlt v ⟨hv, -⟩ v' ⟨hv', -⟩
    omega

theorem secondFrom?_first (start : Nat) : First (c.ofDay start) (c.secondFrom? start) := by
  apply (First.findSome? (S := c.ofHour start) (Field.values_ascend _ _) _ _).congr
  · intro v
    simp only [ofDay, Set.mem_ofPred_eq, timeFits, TimeOfDay.hour, TimeOfDay.minute,
      TimeOfDay.second, Bool.and_eq_true]
    constructor
    · rintro ⟨h, hh, hv, hle, hm, hs⟩
      obtain ⟨hh23, hh⟩ := Field.mem_values.1 hh
      exact ⟨by omega, hle, ⟨by rwa [hv], hm⟩, hs⟩
    · rintro ⟨hlt, hle, ⟨hh, hm⟩, hs⟩
      exact ⟨v / 3600, Field.mem_values.2 ⟨by omega, hh⟩, rfl, hle, hm, hs⟩
  · intro h _
    split
    · apply First.none_of_forall
      rintro v ⟨hv, hle, -⟩
      omega
    · exact ofHour_first ‹_›
  · rintro h h' hlt v ⟨hv, -⟩ v' ⟨hv', -⟩
    omega

/-! ### Days -/

/-- Whether the line names a day. -/
def fitsOn (c : Cron) (n : Int) : Bool :=
  c.monthFits (Date.ofDays n).month && c.dateFits (Date.ofDays n)

theorem dayFrom?_first (year : Int) (month day : Nat) :
    First {n | day ≤ n ∧ n ≤ daysInMonth year month ∧ c.dateFits ⟨year, month, n⟩ = true}
      (c.dayFrom? year month day) := by
  apply (First.find? _ _).congr
  · intro n
    rw [Set.mem_ofPred_eq, Set.mem_ofPred_eq, List.range_eq_range', List.drop_range',
      List.mem_range'_1]
    constructor
    · rintro ⟨hn, hfits⟩
      exact ⟨by omega, by omega, hfits⟩
    · rintro ⟨hlow, hhigh, hfits⟩
      exact ⟨by omega, hfits⟩
  · exact List.pairwise_lt_range.sublist (List.drop_sublist _ _)

theorem one_le_daysInMonth (year : Int) (month : Nat) : 1 ≤ daysInMonth year month := by
  unfold daysInMonth
  split
  · split <;> decide
  · split <;> decide

/-- The first day of the month that comes so many months after one. -/
def monthAfter (year : Int) (month : Nat) : (months : Nat) → Int
  | 0 => Date.toDays ⟨year, month, 1⟩
  | months + 1 => if month = 12 then monthAfter (year + 1) 1 months else monthAfter year (month + 1) months

theorem le_monthAfter (year : Int) {month : Nat} (months : Nat) (hlow : 1 ≤ month) (hhigh : month ≤ 12) :
    Date.toDays ⟨year, month, 1⟩ ≤ monthAfter year month months := by
  induction months generalizing year month with
  | zero => exact Int.le_refl _
  | succ months ih =>
    rw [monthAfter]
    split
    · rename_i hlast
      have hnext := Date.toDays_year year
      have hrest := @ih (year + 1) 1 (Nat.le_refl 1) (by decide)
      rw [hlast]
      omega
    · have hnext := Date.toDays_month (y := year) hlow (by omega)
      have hrest := @ih year (month + 1) (by omega) (by omega)
      omega

theorem monthAfter_monthsLeft {year : Int} {month : Nat} (hyear : year < lastYear)
    (hlow : 1 ≤ month) (hhigh : month ≤ 12) :
    monthAfter year month (monthsLeft year month) = Date.toDays ⟨lastYear, 1, 1⟩ := by
  have h : ∀ (months : Nat) (year : Int) (month : Nat), 1 ≤ month → month ≤ 12 →
      (months : Int) = (lastYear - year) * 12 + 1 - month →
      monthAfter year month months = Date.toDays ⟨lastYear, 1, 1⟩ := by
    intro months
    induction months with
    | zero =>
      intro year month hlow hhigh hleft
      obtain rfl : month = 1 := by omega
      obtain rfl : year = lastYear := by omega
      rfl
    | succ months ih =>
      intro year month hlow hhigh hleft
      rw [monthAfter]
      split
      · exact ih _ _ (Nat.le_refl 1) (by decide) (by omega)
      · exact ih _ _ (by omega) (by omega) (by omega)
  refine h _ _ _ hlow hhigh ?_
  unfold monthsLeft
  omega

/-- Of the days of a month, from a given one on, the first that the line names. -/
theorem month_first (year : Int) {month day : Nat} (hlow : 1 ≤ month) (hhigh : month ≤ 12)
    (hday : 1 ≤ day) :
    First {n | Date.toDays ⟨year, month, day⟩ ≤ n ∧
        n < Date.toDays ⟨year, month, 1⟩ + daysInMonth year month ∧ c.fitsOn n = true}
      ((if c.monthFits month then c.dayFrom? year month day else none).map fun n =>
        Date.toDays ⟨year, month, n⟩) := by
  have hcount (n : Nat) := Date.toDays_day year month n
  have hfits (n : Nat) (hn : 1 ≤ n ∧ n ≤ daysInMonth year month) :
      c.fitsOn (Date.toDays ⟨year, month, n⟩) =
        (c.monthFits month && c.dateFits ⟨year, month, n⟩) := by
    rw [fitsOn, Date.ofDays_toDays ⟨⟨hlow, hhigh⟩, hn⟩]
  have hfirst := c.dayFrom?_first year month day
  have hnth : ∀ n : Int, Date.toDays ⟨year, month, day⟩ ≤ n →
      n < Date.toDays ⟨year, month, 1⟩ + daysInMonth year month →
      ∃ k, day ≤ k ∧ k ≤ daysInMonth year month ∧ n = Date.toDays ⟨year, month, k⟩ := by
    intro n hle hlt
    have hstart := hcount day
    have hk := hcount (n - Date.toDays ⟨year, month, 1⟩ + 1).toNat
    exact ⟨(n - Date.toDays ⟨year, month, 1⟩ + 1).toNat, by omega, by omega, by omega⟩
  cases hmonth : c.monthFits month with
  | false =>
    apply First.none_of_forall
    rintro n ⟨hle, hlt, hn⟩
    obtain ⟨k, hk, hklast, rfl⟩ := hnth n hle hlt
    rw [hfits k ⟨by omega, hklast⟩, hmonth] at hn
    cases hn
  | true =>
    rw [if_pos rfl]
    cases hfound : c.dayFrom? year month day with
    | none =>
      rw [hfound] at hfirst
      apply First.none_of_forall
      rintro n ⟨hle, hlt, hn⟩
      obtain ⟨k, hk, hklast, rfl⟩ := hnth n hle hlt
      rw [hfits k ⟨by omega, hklast⟩, hmonth] at hn
      exact hfirst.notMem k ⟨hk, hklast, hn⟩
    | some k =>
      rw [hfound] at hfirst
      obtain ⟨⟨hk, hklast, hdate⟩, hleast⟩ := hfirst
      have hstart := hcount day
      have hkcount := hcount k
      change IsLeast _ (Date.toDays ⟨year, month, k⟩)
      refine ⟨⟨by omega, by omega, ?_⟩, ?_⟩
      · rw [hfits k ⟨by omega, hklast⟩, hmonth]
        exact hdate
      · rintro n ⟨hle, hlt, hn⟩
        obtain ⟨l, hl, hllast, rfl⟩ := hnth n hle hlt
        rw [hfits l ⟨by omega, hllast⟩, hmonth] at hn
        have hlcount := hcount l
        have hkl : k ≤ l := hleast ⟨hl, hllast, hn⟩
        omega

/-- The month after one is the next of its year or the first of the next year. -/
theorem exists_nextMonth {year : Int} {month : Nat} (months : Nat) (hlow : 1 ≤ month)
    (hhigh : month ≤ 12) : ∃ year' month',
      Date.toDays ⟨year', month', 1⟩ = Date.toDays ⟨year, month, 1⟩ + daysInMonth year month ∧
      1 ≤ month' ∧ month' ≤ 12 ∧
      monthAfter year month (months + 1) = monthAfter year' month' months ∧
      ∀ allFit, (if month = 12 then c.dateFrom? (year + 1) 1 1 allFit months
        else c.dateFrom? year (month + 1) 1 allFit months) =
          c.dateFrom? year' month' 1 allFit months := by
  by_cases hdec : month = 12
  · refine ⟨year + 1, 1, ?_, Nat.le_refl 1, by decide, ?_, fun allFit => if_pos hdec⟩
    · rw [Date.toDays_year, hdec]
      rfl
    · rw [monthAfter, if_pos hdec]
  · refine ⟨year, month + 1, Date.toDays_month hlow (by omega), by omega, by omega, ?_,
      fun allFit => if_neg hdec⟩
    rw [monthAfter, if_neg hdec]

theorem dateFrom?_first {year : Int} {month day : Nat} (allFit : Bool) (months : Nat)
    (hlow : 1 ≤ month) (hhigh : month ≤ 12) (hday : 1 ≤ day)
    (hlast : day ≤ daysInMonth year month + 1) (hone : months = 0 → day = 1) :
    First {n | Date.toDays ⟨year, month, day⟩ ≤ n ∧ n ≤ monthAfter year month months ∧
      c.fitsOn n = true} ((c.dateFrom? year month day allFit months).map fun p => p.1.toDays) := by
  induction months generalizing year month day allFit with
  | zero =>
    obtain rfl := hone rfl
    have hvalid : Date.Valid ⟨year, month, 1⟩ :=
      ⟨⟨hlow, hhigh⟩, Nat.le_refl 1, one_le_daysInMonth year month⟩
    have hfits : c.fitsOn (Date.toDays ⟨year, month, 1⟩) =
        (c.monthFits month && c.dateFits ⟨year, month, 1⟩) := by
      rw [fitsOn, Date.ofDays_toDays hvalid]
    rw [dateFrom?, ← hfits]
    split
    · refine ⟨⟨Int.le_refl _, Int.le_refl _, ‹_›⟩, ?_⟩
      rintro n ⟨hn, -⟩
      exact hn
    · apply First.none_of_forall
      rintro n ⟨hle, hge, hn⟩
      obtain rfl := Int.le_antisymm hge hle
      contradiction
  | succ months ih =>
    have hfirst := c.month_first year hlow hhigh hday
    have hstart := Date.toDays_day year month day
    -- the rest of the search begins with the next month
    obtain ⟨year', month', hnext, hlow', hhigh', hlater, hrest⟩ :=
      exists_nextMonth (c := c) months hlow hhigh
    have hlead := le_monthAfter year' months hlow' hhigh'
    rw [hlater, dateFrom?]
    simp only [hrest]
    cases hfound : (if c.monthFits month then c.dayFrom? year month day else none) with
    | some k =>
      rw [hfound] at hfirst
      change IsLeast _ (Date.toDays ⟨year, month, k⟩) at hfirst
      change IsLeast _ (Date.toDays ⟨year, month, k⟩)
      obtain ⟨⟨hle, hlt, hk⟩, hleast⟩ := hfirst
      refine ⟨⟨hle, by omega, hk⟩, ?_⟩
      rintro n ⟨hnle, -, hn⟩
      by_cases hnlt : n < Date.toDays ⟨year, month, 1⟩ + daysInMonth year month
      · exact hleast ⟨hnle, hnlt, hn⟩
      · omega
    | none =>
      rw [hfound] at hfirst
      have hempty : ∀ n, Date.toDays ⟨year, month, day⟩ ≤ n → c.fitsOn n = true →
          Date.toDays ⟨year', month', 1⟩ ≤ n := by
        intro n hle hn
        by_contra hlt
        exact hfirst.notMem n ⟨hle, by omega, hn⟩
      apply (ih (allFit && c.monthFits month) hlow' hhigh' (Nat.le_refl 1) (by omega) fun _ => rfl).congr
      intro n
      constructor
      · rintro ⟨hle, hge, hn⟩
        exact ⟨by omega, hge, hn⟩
      · rintro ⟨hle, hge, hn⟩
        exact ⟨hempty n hle hn, hge, hn⟩

/-- What is found is a date of the calendar. -/
theorem valid_of_dateFrom? {year : Int} {month day : Nat} {allFit : Bool} {months : Nat}
    (hlow : 1 ≤ month) (hhigh : month ≤ 12) (hday : 1 ≤ day) (hone : months = 0 → day = 1)
    {d : Date} {fit : Bool} (h : c.dateFrom? year month day allFit months = some (d, fit)) :
    d.Valid := by
  induction months generalizing year month day allFit with
  | zero =>
    obtain rfl := hone rfl
    rw [dateFrom?] at h
    split at h
    · cases h
      exact ⟨⟨hlow, hhigh⟩, Nat.le_refl 1, one_le_daysInMonth year month⟩
    · cases h
  | succ months ih =>
    rw [dateFrom?] at h
    split at h
    · rename_i k hfound
      cases h
      split at hfound
      · have hfirst := c.dayFrom?_first year month day
        rw [hfound] at hfirst
        obtain ⟨⟨hk, hklast, -⟩, -⟩ := hfirst
        exact ⟨⟨hlow, hhigh⟩, Nat.le_trans hday hk, hklast⟩
      · cases hfound
    · split at h
      · exact ih (Nat.le_refl 1) (by decide) (Nat.le_refl 1) (fun _ => rfl) h
      · exact ih (by omega) (by omega) (Nat.le_refl 1) (fun _ => rfl) h

/-! ### Instants -/

/-- What a search comes upon: the occurrences up to the day on which the last year begins. -/
structure Sought (c : Cron) (t : Instant) : Prop where
  whole : t.nanos = 0
  fits : c.fits t = true
  late : firstYear ≤ t.date.year
  early : t.days ≤ Date.toDays ⟨lastYear, 1, 1⟩

theorem fits_iff {t : Instant} (h : t.nanos = 0) :
    c.fits t = true ↔ c.fitsOn t.days = true ∧ c.timeFits ⟨t.timeOfDay.seconds, 0⟩ = true := by
  obtain ⟨seconds, nanos⟩ := t
  obtain rfl : nanos = 0 := h
  rw [← Bool.and_eq_true]
  rfl

/-- Whole seconds are in order if their days are, and their times on one day. -/
theorem le_iff_of_whole {t u : Instant} (ht : t.nanos = 0) :
    t ≤ u ↔ t.days < u.days ∨ t.days = u.days ∧ t.timeOfDay.seconds ≤ u.timeOfDay.seconds := by
  have htotal := t.seconds_eq
  have htotal' := u.seconds_eq
  have hlt := t.timeOfDay_lt
  have hlt' := u.timeOfDay_lt
  rw [Instant.le_iff]
  omega

theorem Sought.fitsOn {t : Instant} (h : c.Sought t) : c.fitsOn t.days = true :=
  ((fits_iff h.whole).1 h.fits).1

theorem Sought.mem_ofDay {t : Instant} (h : c.Sought t) {start : Nat}
    (hle : start ≤ t.timeOfDay.seconds) : t.timeOfDay.seconds ∈ c.ofDay start :=
  ⟨t.timeOfDay_lt, hle, ((fits_iff h.whole).1 h.fits).2⟩

section OfDate

variable {d : Date} {start s : Nat} (hs : s ∈ c.ofDay start)
include hs

theorem sought_ofDate (hd : d.Valid) (hfits : c.fitsOn d.toDays = true)
    (hlate : firstYear ≤ d.year) (hearly : d.toDays ≤ Date.toDays ⟨lastYear, 1, 1⟩) :
    c.Sought (.ofDate d ⟨s, 0⟩) := by
  have hdays : (Instant.ofDate d ⟨s, 0⟩).days = d.toDays := Instant.days_ofDate hs.1
  refine ⟨rfl, (fits_iff rfl).2 ⟨?_, ?_⟩, ?_, ?_⟩
  · rwa [hdays]
  · rw [Instant.timeOfDay_ofDate hs.1]
    exact hs.2.2
  · rwa [Instant.date_ofDate hd hs.1]
  · rwa [hdays]

theorem ofDate_le {u : Instant} (hle : d.toDays < u.days ∨
    d.toDays = u.days ∧ s ≤ u.timeOfDay.seconds) : Instant.ofDate d ⟨s, 0⟩ ≤ u := by
  rw [le_iff_of_whole rfl, Instant.days_ofDate hs.1, Instant.timeOfDay_ofDate hs.1]
  exact hle

end OfDate

theorem from?_of_early {t : Instant} (h : t.date.year < firstYear) : c.from? t = c.from? dawn := by
  have hdawn : ¬ dawn.date.year < firstYear := by decide
  simp only [from?, if_pos h, if_neg hdawn]

variable {t : Instant}

/-- The first occurrence of the day that is not before an instant. -/
theorem today_first (hwhole : t.nanos = 0) (hlate : firstYear ≤ t.date.year)
    (hearly : t.date.year < lastYear) :
    First {u | c.Sought u ∧ t ≤ u ∧ u.days = t.days}
      ((if c.fitsOn t.days then c.secondFrom? t.timeOfDay.seconds else none).map fun s =>
        .ofDate t.date ⟨s, 0⟩) := by
  have hdays : t.date.toDays = t.days := Date.toDays_ofDays t.days
  have hbefore : t.days < Date.toDays ⟨lastYear, 1, 1⟩ := Date.year_lt_iff.1 hearly
  have hsecond := c.secondFrom?_first t.timeOfDay.seconds
  have hmem : ∀ u, c.Sought u → t ≤ u → u.days = t.days →
      u.timeOfDay.seconds ∈ c.ofDay t.timeOfDay.seconds := by
    intro u hu hle hsame
    rw [le_iff_of_whole hwhole] at hle
    exact hu.mem_ofDay (by omega)
  cases hfits : c.fitsOn t.days with
  | false =>
    apply First.none_of_forall
    rintro u ⟨hu, -, hsame⟩
    have hnot := hu.fitsOn
    rw [hsame, hfits] at hnot
    cases hnot
  | true =>
    rw [if_pos rfl]
    cases hfound : c.secondFrom? t.timeOfDay.seconds with
    | none =>
      rw [hfound] at hsecond
      apply First.none_of_forall
      rintro u ⟨hu, hle, hsame⟩
      exact hsecond.notMem _ (hmem u hu hle hsame)
    | some s =>
      rw [hfound] at hsecond
      obtain ⟨hs, hleast⟩ := hsecond
      have hsought : c.Sought (.ofDate t.date ⟨s, 0⟩) :=
        sought_ofDate hs (Date.valid_ofDays t.days) (by rwa [hdays]) hlate (by omega)
      refine ⟨⟨hsought, ?_, ?_⟩, ?_⟩
      · rw [le_iff_of_whole hwhole, Instant.days_ofDate hs.1, Instant.timeOfDay_ofDate hs.1]
        exact Or.inr ⟨hdays.symm, hs.2.1⟩
      · rw [Instant.days_ofDate hs.1, hdays]
      · rintro u ⟨hu, hle, hsame⟩
        exact ofDate_le hs (Or.inr ⟨by omega, hleast (hmem u hu hle hsame)⟩)

/-- The first occurrence on a later day than that of an instant. -/
theorem later_first (hlate : firstYear ≤ t.date.year) (hearly : t.date.year < lastYear) :
    First {u | c.Sought u ∧ t.days < u.days}
      ((c.secondFrom? 0).bind fun s =>
        (c.dateFrom? t.date.year t.date.month (t.date.day + 1) true
          (monthsLeft t.date.year t.date.month)).map fun p => .ofDate p.1 ⟨s, 0⟩) := by
  have hvalid : t.date.Valid := Date.valid_ofDays t.days
  have hmonth := hvalid.month
  have hleft : monthsLeft t.date.year t.date.month ≠ 0 := by
    unfold monthsLeft
    omega
  have hnext : Date.toDays ⟨t.date.year, t.date.month, t.date.day + 1⟩ = t.days + 1 := by
    have hone := Date.toDays_day t.date.year t.date.month (t.date.day + 1)
    have hthis := Date.toDays_day t.date.year t.date.month t.date.day
    have hdays : t.date.toDays = t.days := Date.toDays_ofDays t.days
    change t.date.toDays = _ at hthis
    omega
  have hmorning := c.secondFrom?_first 0
  have hday := c.dateFrom?_first true (monthsLeft t.date.year t.date.month) hmonth.1 hmonth.2
    (Nat.le_add_left 1 _) (Nat.succ_le_succ hvalid.day.2) (fun h => absurd h hleft)
  rw [monthAfter_monthsLeft hearly hmonth.1 hmonth.2, hnext] at hday
  cases hs : c.secondFrom? 0 with
  | none =>
    rw [hs] at hmorning
    apply First.none_of_forall
    rintro u ⟨hu, -⟩
    exact hmorning.notMem _ (hu.mem_ofDay (Nat.zero_le _))
  | some s =>
    rw [hs] at hmorning
    obtain ⟨hs, hleast⟩ := hmorning
    cases hfound : c.dateFrom? t.date.year t.date.month (t.date.day + 1) true
      (monthsLeft t.date.year t.date.month) with
    | none =>
      rw [hfound] at hday
      apply First.none_of_forall
      rintro u ⟨hu, hlt⟩
      exact hday.notMem u.days ⟨hlt, hu.early, hu.fitsOn⟩
    | some p =>
      rw [hfound] at hday
      change IsLeast _ p.1.toDays at hday
      obtain ⟨⟨hlt, hlast, hfits⟩, hleastDay⟩ := hday
      have hd : p.1.Valid := valid_of_dateFrom? hmonth.1 hmonth.2 (Nat.le_add_left 1 _)
        (fun h => absurd h hleft) hfound
      have hyear : firstYear ≤ p.1.year := by
        have hmono := Date.year_mono (Int.le_of_lt hlt)
        rw [Date.ofDays_toDays hd] at hmono
        exact Int.le_trans hlate hmono
      refine ⟨⟨sought_ofDate hs hd hfits hyear hlast, ?_⟩, ?_⟩
      · rwa [Instant.days_ofDate hs.1]
      · rintro u ⟨hu, hlater⟩
        have hle : p.1.toDays ≤ u.days := hleastDay ⟨hlater, hu.early, hu.fitsOn⟩
        have hsecond := hleast (hu.mem_ofDay (Nat.zero_le _))
        exact ofDate_le hs (by omega)

theorem from?_first_of_late (hwhole : t.nanos = 0) (hlate : firstYear ≤ t.date.year)
    (hearly : t.date.year < lastYear) : First {u | c.Sought u ∧ t ≤ u} (c.from? t) := by
  have htoday := today_first (c := c) hwhole hlate hearly
  have hlater := later_first (c := c) hlate hearly
  have hsame : (c.monthFits t.date.month && c.dateFits t.date) = c.fitsOn t.days := rfl
  have hnot : ¬ t.date.year < firstYear := by omega
  have hnot' : ¬ lastYear ≤ t.date.year := by omega
  simp only [from?, if_neg hnot, if_neg hnot', hsame, hwhole, ite_self]
  cases hfound : (if c.fitsOn t.days then c.secondFrom? t.timeOfDay.seconds else none) with
  | some s =>
    rw [hfound] at htoday
    obtain ⟨⟨hs, hle, hday⟩, hleast⟩ := htoday
    refine ⟨⟨hs, hle⟩, ?_⟩
    rintro u ⟨hu, hlow⟩
    rcases (le_iff_of_whole hwhole).1 hlow with hlt | ⟨hdays, -⟩
    · rw [le_iff_of_whole hs.whole]
      exact Or.inl (by omega)
    · exact hleast ⟨hu, hlow, hdays.symm⟩
  | none =>
    rw [hfound] at htoday
    have hempty : ∀ u, c.Sought u → t ≤ u → u.days ≠ t.days := by
      intro u hu hle hdays
      exact htoday.notMem u ⟨hu, hle, hdays⟩
    have hset : First {u | c.Sought u ∧ t ≤ u} ((c.secondFrom? 0).bind fun s =>
        (c.dateFrom? t.date.year t.date.month (t.date.day + 1) true
          (monthsLeft t.date.year t.date.month)).map fun p => .ofDate p.1 ⟨s, 0⟩) := by
      apply hlater.congr
      intro u
      constructor
      · rintro ⟨hu, hlt⟩
        exact ⟨hu, (le_iff_of_whole hwhole).2 (Or.inl hlt)⟩
      · rintro ⟨hu, hle⟩
        have hne := hempty u hu hle
        rw [le_iff_of_whole hwhole] at hle
        exact ⟨hu, by omega⟩
    cases hs : c.secondFrom? 0 with
    | none =>
      rw [hs] at hset
      exact hset
    | some s =>
      rw [hs] at hset
      exact hset

/-- The search finds the first occurrence from a whole second on. -/
theorem from?_first (hwhole : t.nanos = 0) (hearly : t.date.year < lastYear) :
    First {u | c.Sought u ∧ t ≤ u} (c.from? t) := by
  by_cases hlate : firstYear ≤ t.date.year
  · exact from?_first_of_late hwhole hlate hearly
  · have hbefore : ∀ u, c.Sought u → dawn ≤ u ∧ t ≤ u := by
      intro u hu
      have hfirst : ¬ u.days < Date.toDays ⟨firstYear, 1, 1⟩ := by
        rw [← Date.year_lt_iff]
        exact Int.not_lt.2 hu.late
      have hstart : t.days < Date.toDays ⟨firstYear, 1, 1⟩ :=
        Date.year_lt_iff.1 (Int.not_le.1 hlate)
      have hdawn : dawn.days = Date.toDays ⟨firstYear, 1, 1⟩ := by decide
      have hmidnight : dawn.timeOfDay.seconds = 0 := by decide
      refine ⟨(le_iff_of_whole rfl).2 (by omega), (le_iff_of_whole hwhole).2 (by omega)⟩
    rw [from?_of_early (by omega)]
    apply (from?_first_of_late (c := c) (t := dawn) rfl (by decide) (by decide)).congr
    intro u
    exact ⟨fun h => ⟨h.1, (hbefore u h.1).2⟩, fun h => ⟨h.1, (hbefore u h.1).1⟩⟩

/-! ### Occurrences -/

/-- The whole seconds of a line, from the first year to the last one. -/
structure Occurs (c : Cron) (t : Instant) : Prop where
  whole : t.nanos = 0
  fits : c.fits t = true
  late : firstYear ≤ t.date.year
  early : t.date.year < lastYear

theorem lt_iff_of_whole {t u : Instant} (ht : t.nanos = 0) (hu : u.nanos = 0) :
    t < u ↔ t.seconds < u.seconds := by
  rw [Instant.lt_iff]
  omega

theorem year_le {t u : Instant} (h : t.seconds ≤ u.seconds) : t.date.year ≤ u.date.year := by
  have htotal := t.seconds_eq
  have htotal' := u.seconds_eq
  have hlt := t.timeOfDay_lt
  have hlt' := u.timeOfDay_lt
  exact Date.year_mono (show t.days ≤ u.days by omega)

/-- The last year is not left any more. -/
theorem last_of_from? {u : Instant} (hlate : lastYear ≤ t.date.year) (h : c.from? t = some u) :
    lastYear ≤ u.date.year := by
  have hnot : ¬ t.date.year < firstYear := Int.not_lt.2 (Int.le_trans (by decide) hlate)
  simp only [from?, if_neg hnot, if_pos hlate] at h
  split at h
  · obtain ⟨s, -, rfl⟩ := Option.map_eq_some_iff.1 h
    apply Int.le_trans hlate
    have hseconds : (Instant.ofDate t.date ⟨s, t.nanos⟩).seconds = t.days * 86400 + s := by
      rw [Instant.ofDate, Instant.date, Date.toDays_ofDays]
      rfl
    have htotal := (Instant.ofDate t.date ⟨s, t.nanos⟩).seconds_eq
    have hlt := (Instant.ofDate t.date ⟨s, t.nanos⟩).timeOfDay_lt
    exact Date.year_mono (show t.days ≤ (Instant.ofDate t.date ⟨s, t.nanos⟩).days by omega)
  · cases h

/-- From a whole second on, whole seconds are found. -/
theorem whole_of_from? {u : Instant} (hwhole : t.nanos = 0) (h : c.from? t = some u) :
    u.nanos = 0 := by
  by_cases hearly : t.date.year < lastYear
  · have hfirst := from?_first (c := c) hwhole hearly
    rw [h] at hfirst
    exact hfirst.1.1.whole
  · have hlate : lastYear ≤ t.date.year := Int.not_lt.1 hearly
    have hnot : ¬ t.date.year < firstYear := Int.not_lt.2 (Int.le_trans (by decide) hlate)
    simp only [from?, if_neg hnot, if_pos hlate] at h
    split at h
    · obtain ⟨s, -, rfl⟩ := Option.map_eq_some_iff.1 h
      exact hwhole
    · cases h

/-- Up to the last year, a search finds the first occurrence from a whole second on. -/
theorem from?_occurs (hwhole : t.nanos = 0) :
    First {u | c.Occurs u ∧ t ≤ u} ((c.from? t).filter fun u => u.date.year < lastYear) := by
  by_cases hearly : t.date.year < lastYear
  · have hfirst := (from?_first (c := c) hwhole hearly).filter
      (p := fun u => u.date.year < lastYear) ?_
    · apply hfirst.congr
      intro u
      constructor
      · rintro ⟨⟨hu, hle⟩, hyear⟩
        exact ⟨⟨hu.whole, hu.fits, hu.late, of_decide_eq_true hyear⟩, hle⟩
      · rintro ⟨hu, hle⟩
        exact ⟨⟨⟨hu.whole, hu.fits, hu.late, Int.le_of_lt (Date.year_lt_iff.1 hu.early)⟩, hle⟩,
          decide_eq_true hu.early⟩
    · intro u _ v _ hle hv
      refine decide_eq_true (Int.lt_of_le_of_lt (year_le ?_) (of_decide_eq_true hv))
      rw [Instant.le_iff] at hle
      omega
  · have hnone : (c.from? t).filter (fun u => u.date.year < lastYear) = none := by
      rw [Option.filter_eq_none_iff]
      intro u hu
      have hlast := last_of_from? (Int.not_lt.1 hearly) hu
      rw [decide_eq_true_eq]
      exact Int.not_lt.2 hlast
    rw [hnone]
    apply First.none_of_forall
    rintro u ⟨hu, hle⟩
    refine hearly (Int.lt_of_le_of_lt (year_le ?_) hu.early)
    rw [Instant.le_iff] at hle
    omega

theorem shift_second (hwhole : t.nanos = 0) : t.shift (Span.ofSeconds 1) = ⟨t.seconds + 1, 0⟩ := by
  rw [Instant.shift_ofSeconds (by omega), hwhole]

theorem after?_occurs (hwhole : t.nanos = 0) :
    First {u | c.Occurs u ∧ t < u} ((c.after? t).filter fun u => u.date.year < lastYear) := by
  rw [after?, shift_second hwhole]
  apply (from?_occurs (c := c) (t := ⟨t.seconds + 1, 0⟩) rfl).congr
  intro u
  refine and_congr_right fun hu => ?_
  have hzero := hu.whole
  rw [lt_iff_of_whole hwhole hzero, Instant.le_iff]
  simp only
  omega

theorem whole_of_after? {u : Instant} (hwhole : t.nanos = 0) (h : c.after? t = some u) :
    u.nanos = 0 := by
  rw [after?, shift_second hwhole] at h
  exact whole_of_from? rfl h

theorem following?_eq (hwhole : t.nanos = 0) : c.following? t = c.from? ⟨t.seconds + 1 + 1, 0⟩ := by
  rw [following?, shift_second hwhole, after?, shift_second rfl]

/-- No two occurrences are a second apart. -/
def Apart (c : Cron) : Prop :=
  ∀ t u, c.Occurs t → c.Occurs u → t.seconds < u.seconds → t.seconds + 2 ≤ u.seconds

theorem following?_occurs (h : c.Apart) (ht : c.Occurs t) :
    First {u | c.Occurs u ∧ t < u} ((c.following? t).filter fun u => u.date.year < lastYear) := by
  rw [following?, shift_second ht.whole]
  apply (after?_occurs (c := c) (t := ⟨t.seconds + 1, 0⟩) rfl).congr
  intro u
  refine and_congr_right fun hu => ?_
  have hapart := h t u ht hu
  rw [lt_iff_of_whole rfl hu.whole, lt_iff_of_whole ht.whole hu.whole]
  simp only
  omega

section OneSecond

variable {s : Nat} (hone : ∀ n, c.seconds.has n .plain = true → n = s)
include hone

theorem Occurs.second (h : c.Occurs t) : t.seconds % 60 = s := by
  have hfits := ((fits_iff h.whole).1 h.fits).2
  simp only [timeFits, Bool.and_eq_true] at hfits
  have hsecond : t.timeOfDay.seconds % 60 = s := hone _ hfits.2
  have htotal := t.seconds_eq
  omega

/-- The occurrences of a line with one second only are not close to each other. -/
theorem apart_of_second : c.Apart := by
  intro t u ht hu hlt
  have hs := ht.second hone
  have hs' := hu.second hone
  omega

end OneSecond

end Cron

end Reminder

end Workflow
