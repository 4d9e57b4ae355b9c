import Mathlib.Algebra.Group.Nat.Defs
import Workflow.Proofs.Words
import Workflow.Reminder.Schedule

/-!
Cadences in canonical form. A cron line keeps its fields, and a schedule in words comes out as the line of
one of a few phrases (`inWords_says`); either way the outcome has six fields, and is its own canonical
form.

## Main statements

* `normalize_canonical`: what the canonical form of a cadence is like, and what it depends on.
-/
namespace Workflow.Reminder

open Text

/-- Whether `every` stands in front, in letters of either case. -/
def BeginsWithEvery (s : String) : Prop := "every".toList <+: (trim s).toList.map Char.toLower

/-- Whether a text is taken for a cron line: it has five or six fields and does not begin with `every`. -/
def IsCronLine (s : String) : Prop :=
  ((words s).length = 5 ∨ (words s).length = 6) ∧ ¬ BeginsWithEvery s

/-! ### Phrases -/

/-- Schedules that can be put in words. -/
inductive Phrase where
  | everyMinute
  | everyHour
  | everyDay
  | everyDayAt (hour minute : Nat)
  | everyWeekdayAt (hour minute : Nat)
  | everyMinutes (n : Nat)
  | everyHours (n : Nat)
deriving DecidableEq, Repr

namespace Phrase

/-- The fields of the cron line. -/
def fields : Phrase → List String
  | everyMinute => ["0", "*", "*", "*", "*", "*"]
  | everyHour => ["0", "0", "*", "*", "*", "*"]
  | everyDay => ["0", "0", "0", "*", "*", "*"]
  | everyDayAt hour minute => ["0", toString minute, toString hour, "*", "*", "*"]
  | everyWeekdayAt hour minute => ["0", toString minute, toString hour, "*", "*", "MON-FRI"]
  | everyMinutes n => ["0", "*/" ++ toString n, "*", "*", "*", "*"]
  | everyHours n => ["0", "0", "*/" ++ toString n, "*", "*", "*"]

def line (p : Phrase) : String := joinWith " " p.fields

/-- The hours of a day and the minutes of an hour, and steps that a word of 32 bits holds. -/
def Bounded : Phrase → Prop
  | everyDayAt hour minute => hour < 24 ∧ minute < 60
  | everyWeekdayAt hour minute => hour < 24 ∧ minute < 60
  | everyMinutes n => 1 ≤ n ∧ n < 2 ^ 32
  | everyHours n => 1 ≤ n ∧ n < 2 ^ 32
  | _ => True

/-- Whether a text in small letters says a phrase. -/
inductive Says : String → Phrase → Prop where
  | everyMinute {text : String} (h : text = "every minute" ∨ text = "minutely") : Says text everyMinute
  | everyHour {text : String} (h : text = "every hour" ∨ text = "hourly") : Says text everyHour
  | everyDay {text : String} (h : text = "every day" ∨ text = "daily") : Says text everyDay
  | everyDayAt {time : String} {hour minute : Nat} (h : hourMinute? time = some (hour, minute)) :
    Says ("every day at " ++ time) (everyDayAt hour minute)
  | everyWeekdayAt {time : String} {hour minute : Nat} (h : hourMinute? time = some (hour, minute)) :
    Says ("every weekday at " ++ time) (everyWeekdayAt hour minute)
  | everyMinutes {rest count unit : String} {n : Nat} (hwords : words rest = [count, unit])
    (hcount : word32? count = some n) (hunit : unitName unit = "minute") :
    Says ("every " ++ rest) (everyMinutes n)
  | everyHours {rest count unit : String} {n : Nat} (hwords : words rest = [count, unit])
    (hcount : word32? count = some n) (hunit : unitName unit = "hour") :
    Says ("every " ++ rest) (everyHours n)

theorem toList_line (p : Phrase) : p.line.toList = List.intercalate [' '] (p.fields.map String.toList) :=
  String.toList_intercalate

theorem unbroken_toString (n : Nat) : Unbroken (toString n).toList := by
  have hdigits : (toString n).toList = Nat.toDigits 10 n := by simp
  rw [hdigits]
  exact ⟨Nat.toDigits_ne_nil, fun c hc =>
    isBlank_of_isDigit (Nat.isDigit_of_mem_toDigits (by decide) (by decide) hc)⟩

theorem unbroken_of_mem_fields (p : Phrase) : ∀ f ∈ p.fields, Unbroken f.toList := by
  have hslash : Unbroken "*/".toList := by decide
  have hstep : ∀ n : Nat, Unbroken ("*/" ++ toString n).toList := by
    intro n
    rw [String.toList_append]
    refine ⟨List.append_ne_nil_of_left_ne_nil (by decide) _, fun c hc => ?_⟩
    exact (List.mem_append.1 hc).elim (hslash.2 c) ((unbroken_toString n).2 c)
  have hstar : Unbroken "*".toList := by decide
  have hzero : Unbroken "0".toList := by decide
  have hweek : Unbroken "MON-FRI".toList := by decide
  cases p <;>
    simp only [fields, List.forall_mem_cons, hstar, hzero, hweek, hstep, unbroken_toString, true_and,
      List.not_mem_nil, false_implies, implies_true]

theorem unbroken_of_mem_map (p : Phrase) : ∀ w ∈ p.fields.map String.toList, Unbroken w := by
  intro w hw
  obtain ⟨f, hf, rfl⟩ := List.mem_map.1 hw
  exact p.unbroken_of_mem_fields f hf

theorem words_line (p : Phrase) : words p.line = p.fields := by
  rw [words, toList_line, wordList_join p.unbroken_of_mem_map, List.map_map]
  simp

theorem length_fields (p : Phrase) : p.fields.length = 6 := by
  cases p <;> rfl

/-- Every phrase is written with a zero second. -/
theorem toList_line_eq_cons (p : Phrase) : ∃ cs, p.line.toList = '0' :: ' ' :: cs := by
  cases p <;> exact ⟨_, toList_line _⟩

theorem trim_line (p : Phrase) : trim p.line = p.line := by
  obtain ⟨cs, hcs⟩ := p.toList_line_eq_cons
  have htrim : trimList p.line.toList = p.line.toList := by
    refine trimList_eq_self (fun c hc => ?_) (fun c hc => ?_)
    · rw [hcs] at hc
      cases hc
      decide
    · have hne : p.fields.map String.toList ≠ [] := by cases p <;> exact List.cons_ne_nil _ _
      obtain ⟨d, hd, hblank⟩ := getLast?_join p.unbroken_of_mem_map hne
      rw [toList_line, hd] at hc
      cases hc
      exact hblank
  rw [trim, htrim, String.ofList_toList]

end Phrase

variable {s t c : String}

/-! ### Cron lines -/

theorem hasPrefix_every_iff : hasPrefix (lower (trim s)) "every" = true ↔ BeginsWithEvery s := by
  have hletters : ∀ p ∈ "every".toList, 97 ≤ p.toNat ∧ p.toNat ≤ 122 ∧ p ≠ 'i' ∧ p ≠ 'k' := by
    rw [show "every".toList = ['e', 'v', 'e', 'r', 'y'] from rfl]
    simp only [List.forall_mem_cons, List.not_mem_nil, false_implies, implies_true, and_true]
    decide
  rw [hasPrefix, lower, String.toList_ofList (l := lowerFrom _ _), isPrefixOf_lowerFrom hletters,
    List.isPrefixOf_iff_prefix, BeginsWithEvery]

theorem not_beginsWithEvery {cs : List Char} (h : (trim s).toList = '0' :: cs) : ¬ BeginsWithEvery s := by
  rw [BeginsWithEvery, h]
  rintro ⟨ds, hds⟩
  cases hds

theorem normalize_of_five (hfive : (words s).length = 5) (hevery : ¬ BeginsWithEvery s) :
    normalize s = .ok ("0 " ++ trim s) := by
  rw [← hasPrefix_every_iff] at hevery
  simp only [normalize, words_trim, hevery, hfive, if_true, Bool.false_eq_true, if_false]

theorem normalize_of_six (hsix : (words s).length = 6) (hevery : ¬ BeginsWithEvery s) :
    normalize s = .ok (trim s) := by
  rw [← hasPrefix_every_iff] at hevery
  simp [normalize, words_trim, hevery, hsix]

theorem normalize_of_not_isCronLine (h : ¬ IsCronLine s) : normalize s = inWords s := by
  rw [IsCronLine, ← hasPrefix_every_iff] at h
  simp only [normalize, words_trim]
  split
  · rfl
  · rename_i hevery
    rw [if_neg fun hfive => h ⟨Or.inl hfive, hevery⟩, if_neg fun hsix => h ⟨Or.inr hsix, hevery⟩]

theorem isCronLine_congr (h : SameLetters (trim s) (trim t)) : IsCronLine s ↔ IsCronLine t := by
  rw [IsCronLine, IsCronLine, BeginsWithEvery, BeginsWithEvery, h, ← words_trim s, ← words_trim t,
    h.length_words]

/-! ### Schedules in words -/

theorem eq_append_of_afterPrefix? {pat rest : String} (h : afterPrefix? s pat = some rest) :
    s = pat ++ rest := by
  obtain ⟨hfront, hrest⟩ := Option.ite_none_right_eq_some.1 h
  obtain rfl := Option.some.inj hrest
  rw [hasPrefix, List.isPrefixOf_iff_prefix] at hfront
  apply String.toList_injective
  rw [String.toList_append, String.toList_ofList]
  exact (List.prefix_iff_eq_append.1 hfront).symm

theorem lt_of_word32? {n : Nat} (h : word32? s = some n) : n < 2 ^ 32 := by
  obtain ⟨-, hn⟩ := Option.filter_eq_some_iff.1 h
  simpa using hn

theorem bounds_of_hourMinute? {hour minute : Nat} (h : hourMinute? s = some (hour, minute)) :
    hour < 24 ∧ minute < 60 := by
  unfold hourMinute? at h
  split at h
  · cases h
  · split at h
    · obtain ⟨hbounds, hpair⟩ := Option.ite_none_right_eq_some.1 h
      cases hpair
      exact hbounds
    · cases h

theorem interval_says {input count unit rest : String} (hwords : words rest = [count, unit])
    (h : interval input count unit = .ok c) :
    ∃ p, Phrase.Says ("every " ++ rest) p ∧ p.Bounded ∧ c = p.line := by
  unfold interval at h
  -- a count that cannot be read, and a zero, are refused
  split at h
  · cases h
  · cases h
  · rename_i n hpositive hcount
    have hn : 1 ≤ n ∧ n < 2 ^ 32 := ⟨Nat.one_le_iff_ne_zero.2 hpositive, lt_of_word32? hcount⟩
    split at h
    · rename_i hunit
      cases h
      refine ⟨.everyMinutes n, .everyMinutes hwords hcount hunit, hn, String.toList_injective ?_⟩
      rw [Phrase.toList_line]
      simp [Phrase.fields, List.intercalate]
    · rename_i hunit
      cases h
      refine ⟨.everyHours n, .everyHours hwords hcount hunit, hn, String.toList_injective ?_⟩
      rw [Phrase.toList_line]
      simp [Phrase.fields, List.intercalate]
    · cases h

theorem daily_ok {input time weekdays : String} (h : daily input time weekdays = .ok c) :
    ∃ hour minute, hourMinute? time = some (hour, minute) ∧
      c = joinWith " " ["0", toString minute, toString hour, "*", "*", weekdays] := by
  unfold daily at h
  split at h
  · rename_i hour minute htime
    cases h
    refine ⟨hour, minute, htime, String.toList_injective ?_⟩
    rw [joinWith, String.toList_intercalate]
    simp [List.intercalate]
  · cases h

theorem recurrence_says {input rest : String} (h : recurrence input rest = .ok c) :
    ∃ p, Phrase.Says ("every " ++ rest) p ∧ p.Bounded ∧ c = p.line := by
  unfold recurrence at h
  split at h
  · rename_i time _ hrest
    obtain ⟨hour, minute, htime, hc⟩ := daily_ok h
    obtain rfl := eq_append_of_afterPrefix? hrest
    exact ⟨.everyDayAt hour minute, .everyDayAt htime, bounds_of_hourMinute? htime, hc⟩
  · rename_i time _ hrest
    obtain ⟨hour, minute, htime, hc⟩ := daily_ok h
    obtain rfl := eq_append_of_afterPrefix? hrest
    exact ⟨.everyWeekdayAt hour minute, .everyWeekdayAt htime, bounds_of_hourMinute? htime, hc⟩
  · rename_i hwords
    exact interval_says hwords h
  · cases h

theorem phrase?_says {text : String} (h : phrase? text = some c) :
    ∃ p, Phrase.Says text p ∧ p.Bounded ∧ c = p.line := by
  unfold phrase? at h
  split at h <;> cases h
  · exact ⟨.everyMinute, .everyMinute (Or.inl rfl), trivial, rfl⟩
  · exact ⟨.everyMinute, .everyMinute (Or.inr rfl), trivial, rfl⟩
  · exact ⟨.everyHour, .everyHour (Or.inl rfl), trivial, rfl⟩
  · exact ⟨.everyHour, .everyHour (Or.inr rfl), trivial, rfl⟩
  · exact ⟨.everyDay, .everyDay (Or.inl rfl), trivial, rfl⟩
  · exact ⟨.everyDay, .everyDay (Or.inr rfl), trivial, rfl⟩

/-- A schedule in words comes out as the line of the phrase that its small form says. -/
theorem inWords_says (h : inWords s = .ok c) :
    ∃ p, Phrase.Says (lower (trim s)) p ∧ p.Bounded ∧ c = p.line := by
  simp only [inWords] at h
  split at h
  · rename_i hphrase
    cases h
    exact phrase?_says hphrase
  · split at h
    · rename_i rest hrest
      rw [eq_append_of_afterPrefix? hrest]
      exact recurrence_says h
    · cases h

/-! The text itself is told in errors only; what comes out depends on the small form. -/

theorem daily_ok_congr {time weekdays : String} (h : daily s time weekdays = .ok c) :
    daily t time weekdays = .ok c := by
  unfold daily at h ⊢
  split at h
  · exact h
  · cases h

theorem interval_ok_congr {count unit : String} (h : interval s count unit = .ok c) :
    interval t count unit = .ok c := by
  unfold interval at h ⊢
  split at h
  · cases h
  · cases h
  · split at h
    · exact h
    · exact h
    · cases h

theorem recurrence_ok_congr {rest : String} (h : recurrence s rest = .ok c) :
    recurrence t rest = .ok c := by
  unfold recurrence at h ⊢
  split at h
  · exact daily_ok_congr h
  · exact daily_ok_congr h
  · exact interval_ok_congr h
  · cases h

theorem inWords_ok_congr (hlower : lower (trim s) = lower (trim t)) (h : inWords s = .ok c) :
    inWords t = .ok c := by
  simp only [inWords] at h ⊢
  rw [hlower] at h
  split at h
  · exact h
  · split at h
    · exact recurrence_ok_congr h
    · cases h

/-! ### The canonical form -/

/-- A line of six fields as the scheduler keeps it. -/
structure Canonical (c : String) : Prop where
  six : (words c).length = 6
  trimmed : trim c = c
  notEvery : ¬ BeginsWithEvery c

theorem Canonical.normalize_eq_self (h : Canonical c) : normalize c = .ok c := by
  rw [normalize_of_six h.six h.notEvery, h.trimmed]

theorem Phrase.canonical_line (p : Phrase) : Canonical p.line := by
  obtain ⟨cs, hcs⟩ := p.toList_line_eq_cons
  have hzero : (trim p.line).toList = '0' :: ' ' :: cs := by rw [p.trim_line, hcs]
  exact ⟨by rw [p.words_line, p.length_fields], p.trim_line, not_beginsWithEvery hzero⟩

theorem canonical_trim (hsix : (words s).length = 6) (hevery : ¬ BeginsWithEvery s) :
    Canonical (trim s) where
  six := by rw [words_trim, hsix]
  trimmed := trim_trim s
  notEvery := by rwa [BeginsWithEvery, trim_trim]

theorem canonical_zero_append (hfive : (words s).length = 5) : Canonical ("0 " ++ trim s) := by
  have hlist : ("0 " ++ trim s).toList = '0' :: ' ' :: trimList s.toList := by
    rw [String.toList_append, trim, String.toList_ofList (l := trimList _)]
    rfl
  have hwords : words ("0 " ++ trim s) = "0" :: words s := by
    rw [words, hlist, ← List.singleton_append, wordList_append (by decide), List.map_append,
      wordList_trimList, words]
    rfl
  have htrim : trim ("0 " ++ trim s) = "0 " ++ trim s := by
    have htrimList : trimList ("0 " ++ trim s).toList = ("0 " ++ trim s).toList := by
      rw [hlist]
      refine trimList_eq_self (fun c hc => ?_) (fun c hc => ?_)
      · cases hc
        decide
      · cases hlast : (trimList s.toList).getLast? with
        | none =>
          -- a text of five words is not empty
          rw [words, ← wordList_trimList, List.getLast?_eq_none_iff.1 hlast] at hfive
          cases hfive
        | some d =>
          rw [List.getLast?_cons_cons, List.getLast?_cons, hlast] at hc
          cases hc
          exact isBlank_of_getLast?_trimList hlast
    rw [trim, htrimList, String.ofList_toList]
  have hzero : (trim ("0 " ++ trim s)).toList = '0' :: ' ' :: trimList s.toList := by rw [htrim, hlist]
  exact ⟨by rw [hwords, List.length_cons, hfive], htrim, not_beginsWithEvery hzero⟩

/-- White space around a schedule in words and the case of its letters do not matter. -/
theorem inWords_padded {pre post : String} (hpre : AllBlank pre.toList) (hpost : AllBlank post.toList)
    (hst : SameLetters s t) (hs : ¬ IsCronLine s) (h : inWords s = .ok c) :
    normalize (pre ++ t ++ post) = .ok c := by
  have htrim : trim (pre ++ t ++ post) = trim t := trim_append hpre hpost t
  have hletters : SameLetters (trim s) (trim (pre ++ t ++ post)) := by
    rw [htrim]
    exact hst.trim
  rw [normalize_of_not_isCronLine fun hcron => hs ((isCronLine_congr hletters).2 hcron)]
  exact inWords_ok_congr hletters.lower h

/-- The canonical form of a cadence has six fields and stays as it is when it is put into that form
again. A cron line keeps its text up to the white space around it, with a zero second in front if it has
five fields; any other cadence is a phrase, and its case and the white space around it do not matter. -/
theorem normalize_canonical (h : normalize s = .ok c) :
    (words c).length = 6 ∧ trim c = c ∧ normalize c = .ok c ∧
      (IsCronLine s → c = if (words s).length = 5 then "0 " ++ trim s else trim s) ∧
      (¬ IsCronLine s →
        (words c).head? = some "0" ∧
        (∀ pre t post : String, AllBlank pre.toList → AllBlank post.toList → SameLetters s t →
          normalize (pre ++ t ++ post) = .ok c) ∧
        ∃ p, Phrase.Says (lower (trim s)) p ∧ p.Bounded ∧ c = p.line) := by
  by_cases hcron : IsCronLine s
  · have hform : Canonical c ∧ c = if (words s).length = 5 then "0 " ++ trim s else trim s := by
      obtain ⟨hfields, hevery⟩ := hcron
      rcases hfields with hfive | hsix
      · rw [normalize_of_five hfive hevery] at h
        cases h
        exact ⟨canonical_zero_append hfive, (if_pos hfive).symm⟩
      · rw [normalize_of_six hsix hevery] at h
        cases h
        exact ⟨canonical_trim hsix hevery, (if_neg (by omega)).symm⟩
    obtain ⟨hc, heq⟩ := hform
    exact ⟨hc.six, hc.trimmed, hc.normalize_eq_self, fun _ => heq, absurd hcron⟩
  · rw [normalize_of_not_isCronLine hcron] at h
    obtain ⟨p, hsays, hbounded, rfl⟩ := inWords_says h
    have hc := p.canonical_line
    refine ⟨hc.six, hc.trimmed, hc.normalize_eq_self, (absurd · hcron), fun _ => ⟨?_, ?_, ?_⟩⟩
    · rw [p.words_line]
      cases p <;> rfl
    · exact fun pre t post hpre hpost hst => inWords_padded hpre hpost hst hcron h
    · exact ⟨p, hsays, hbounded, rfl⟩

/-- Half past nine may be told by one digit, and the weekdays in any letters. -/
theorem normalize_canonical_weekdays :
    normalize "  Every WeekDay at 9:30 " = .ok "0 30 9 * * MON-FRI" ∧
      normalize "0 30 9 * * MON-FRI" = .ok "0 30 9 * * MON-FRI" :=
  have h : normalize "  Every WeekDay at 9:30 " = .ok "0 30 9 * * MON-FRI" := by decide +kernel
  ⟨h, (normalize_canonical h).2.2.1⟩

end Workflow.Reminder
