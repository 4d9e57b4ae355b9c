import Mathlib.Data.Set.Card
import Workflow.Proofs.Occurrences

/-!
Searches for occurrences, as they list them after an instant. A search that finds the first occurrence
and behind each one the first later one lists them all, in ascending order
(`Reminder.Listing.lists_of_first`). The program's own does so up to the last year, from a whole second
on (`Reminder.Cron.lists_untilLast`).
-/
namespace Workflow

open Time

namespace Reminder

/-! ### Listings -/

/-- A search: the first occurrence after an instant, and the one listed behind an occurrence. -/
structure Listing where
  after? : Instant → Option Instant
  following? : Instant → Option Instant

/-- The program's own search. -/
def Cron.listing (c : Cron) : Listing := ⟨c.after?, c.following?⟩

namespace Listing

variable {l : Listing} {occurs : Instant → Prop} {start : Instant}

/-- The occurrences listed after an instant, counted from 0. -/
def listed? (l : Listing) (start : Instant) : Nat → Option Instant
  | 0 => l.after? start
  | n + 1 => (l.listed? start n).bind l.following?

/-- Just the occurrences after an instant are listed, in ascending order. -/
structure Lists (l : Listing) (occurs : Instant → Prop) (start : Instant) : Prop where
  ascends : ∀ n t u, l.listed? start n = some t → l.listed? start (n + 1) = some u → t < u
  listed_iff : ∀ t, (∃ n, l.listed? start n = some t) ↔ occurs t ∧ start < t

theorem exists_earlier {m n : Nat} {t : Instant} (h : l.listed? start n = some t) (hle : m ≤ n) :
    ∃ u, l.listed? start m = some u := by
  induction hle using Nat.decreasingInduction with
  | self => exact ⟨t, h⟩
  | of_succ k _ ih =>
    obtain ⟨u, hu⟩ := ih
    obtain ⟨v, hv, -⟩ := Option.bind_eq_some_iff.1 hu
    exact ⟨v, hv⟩

namespace Lists

variable (h : l.Lists occurs start)
include h

theorem lt_of_lt {m n : Nat} {t u : Instant} (ht : l.listed? start m = some t)
    (hu : l.listed? start n = some u) (hlt : m < n) : t < u := by
  induction hlt generalizing u with
  | refl => exact h.ascends m t u ht hu
  | step hle ih =>
    obtain ⟨v, hv⟩ := exists_earlier hu (Nat.le_succ _)
    exact Instant.lt_trans (ih hv) (h.ascends _ v u hv hu)

theorem lt_iff {m n : Nat} {t u : Instant} (ht : l.listed? start m = some t)
    (hu : l.listed? start n = some u) : t < u ↔ m < n := by
  constructor
  · intro hlt
    by_contra hle
    rcases Nat.lt_or_eq_of_le (Nat.not_lt.1 hle) with hlt' | rfl
    · exact Instant.lt_irrefl t (Instant.lt_trans hlt (h.lt_of_lt hu ht hlt'))
    · obtain rfl : t = u := Option.some.inj (ht.symm.trans hu)
      exact Instant.lt_irrefl t hlt
  · exact h.lt_of_lt ht hu

/-- An entry has as many occurrences before it as its number says. -/
theorem encard_before {n : Nat} {t : Instant} (ht : l.listed? start n = some t) :
    {u | occurs u ∧ start < u ∧ u < t}.encard = n := by
  have hearlier : ∀ m : Fin n, ∃ u, l.listed? start m = some u := fun m =>
    exists_earlier ht (Nat.le_of_lt m.isLt)
  choose u hu using hearlier
  have hinjective : Function.Injective u := by
    intro m m' hsame
    by_contra hne
    rcases Nat.lt_or_gt_of_ne (fun heq => hne (Fin.ext heq)) with hlt | hlt
    · exact Instant.lt_irrefl _ (hsame ▸ h.lt_of_lt (hu m) (hu m') hlt)
    · exact Instant.lt_irrefl _ (hsame ▸ h.lt_of_lt (hu m') (hu m) hlt)
  have hrange : {u | occurs u ∧ start < u ∧ u < t} = Set.range u := by
    ext v
    constructor
    · rintro ⟨hv, hstart, hlt⟩
      obtain ⟨m, hm⟩ := (h.listed_iff v).2 ⟨hv, hstart⟩
      refine ⟨⟨m, (h.lt_iff hm ht).1 hlt⟩, ?_⟩
      exact Option.some.inj ((hu _).symm.trans hm)
    · rintro ⟨m, rfl⟩
      obtain ⟨hoccurs, hstart⟩ := (h.listed_iff _).1 ⟨m, hu m⟩
      exact ⟨hoccurs, hstart, h.lt_of_lt (hu m) ht m.isLt⟩
  rw [hrange, ← Set.image_univ, hinjective.encard_image, Set.encard_univ, ENat.card_eq_coe_fintype_card,
    Fintype.card_fin]

theorem first : First {t | occurs t ∧ start < t} (l.after? start) := by
  cases hfound : l.after? start with
  | none =>
    apply First.none_of_forall
    intro t ht
    obtain ⟨n, hn⟩ := (h.listed_iff t).2 ht
    obtain ⟨u, hu⟩ := exists_earlier hn (Nat.zero_le n)
    exact nomatch hfound.symm.trans hu
  | some t =>
    have hzero : l.listed? start 0 = some t := hfound
    refine ⟨(h.listed_iff t).1 ⟨0, hzero⟩, ?_⟩
    intro u hu
    obtain ⟨n, hn⟩ := (h.listed_iff u).2 hu
    by_contra hlt
    exact Nat.not_lt_zero n ((h.lt_iff hn hzero).1 hlt)

end Lists

/-- A search that finds the first occurrence after an instant, and behind each occurrence the first later
one, lists them all. -/
theorem lists_of_first (hwhole : ∀ t, occurs t → t.nanos = 0)
    (hstart : First {u | occurs u ∧ start < u} (l.after? start))
    (hstep : ∀ t, occurs t → First {u | occurs u ∧ t < u} (l.following? t)) :
    l.Lists occurs start := by
  have hlisted : ∀ n t, l.listed? start n = some t → occurs t ∧ start < t := by
    intro n
    induction n with
    | zero =>
      intro t ht
      rw [show l.after? start = some t from ht] at hstart
      exact hstart.1
    | succ n ih =>
      intro u hu
      obtain ⟨t, ht, hu⟩ := Option.bind_eq_some_iff.1 hu
      have hfirst := hstep t (ih t ht).1
      rw [hu] at hfirst
      exact ⟨hfirst.1.1, Instant.lt_trans (ih t ht).2 hfirst.1.2⟩
  constructor
  · intro n t u ht hu
    obtain ⟨t', ht', hu⟩ := Option.bind_eq_some_iff.1 hu
    obtain rfl : t = t' := Option.some.inj (ht.symm.trans ht')
    have hfirst := hstep t (hlisted n t ht).1
    rw [hu] at hfirst
    exact hfirst.1.2
  · -- the listing does not pass over an occurrence: it comes nearer by whole seconds
    have hahead : ∀ (gap n : Nat) (t u : Instant), l.listed? start n = some t → occurs u →
        t < u → (u.seconds - t.seconds).toNat ≤ gap → ∃ m, l.listed? start m = some u := by
      intro gap
      induction gap with
      | zero =>
        intro n t u ht hu hlt hgap
        rw [Instant.lt_iff, hwhole t (hlisted n t ht).1, hwhole u hu] at hlt
        omega
      | succ gap ih =>
        intro n t u ht hu hlt hgap
        have hfirst := hstep t (hlisted n t ht).1
        cases hnext : l.following? t with
        | none =>
          rw [hnext] at hfirst
          exact absurd ⟨hu, hlt⟩ (hfirst.notMem u)
        | some v =>
          rw [hnext] at hfirst
          have hv : l.listed? start (n + 1) = some v := by
            rw [listed?, ht]
            exact hnext
          rcases Instant.lt_or_eq_of_le (hfirst.2 ⟨hu, hlt⟩) with hvu | rfl
          · refine ih (n + 1) v u hv hu hvu ?_
            have hstep := hfirst.1.2
            rw [Instant.lt_iff, hwhole t (hlisted n t ht).1, hwhole v hfirst.1.1] at hstep
            omega
          · exact ⟨n + 1, hv⟩
    intro u
    constructor
    · rintro ⟨n, hn⟩
      exact hlisted n u hn
    · rintro ⟨hu, hlt⟩
      cases hfound : l.after? start with
      | none =>
        rw [hfound] at hstart
        exact absurd ⟨hu, hlt⟩ (hstart.notMem u)
      | some v =>
        rw [hfound] at hstart
        rcases Instant.lt_or_eq_of_le (hstart.2 ⟨hu, hlt⟩) with hvu | rfl
        · exact hahead _ 0 v u hfound hu hvu (Nat.le_refl _)
        · exact ⟨0, hfound⟩

/-- A search that is over with the last year. -/
def untilLast (l : Listing) : Listing where
  after? t := (l.after? t).filter fun u => u.date.year < Cron.lastYear
  following? t := (l.following? t).filter fun u => u.date.year < Cron.lastYear

end Listing

/-- Up to the last year, the program's own search lists all occurrences. -/
theorem Cron.lists_untilLast {c : Cron} (hapart : c.Apart) {start : Instant}
    (hwhole : start.nanos = 0) : c.listing.untilLast.Lists c.Occurs start :=
  Listing.lists_of_first (fun _ h => h.whole) (Cron.after?_occurs hwhole)
    fun _ ht => Cron.following?_occurs hapart ht

section UntilLast

variable {c : Cron} {start : Instant} (hwhole : start.nanos = 0)
include hwhole

theorem Cron.whole_of_listed? {n : Nat} {t : Instant} (h : c.listing.listed? start n = some t) :
    t.nanos = 0 := by
  induction n generalizing t with
  | zero => exact whole_of_after? hwhole h
  | succ n ih =>
    obtain ⟨u, hu, ht⟩ := Option.bind_eq_some_iff.1 h
    rw [show c.listing.following? u = c.following? u from rfl, following?_eq (ih hu)] at ht
    exact whole_of_from? rfl ht

/-- The last year is reached only behind the entries that lie before it. -/
theorem Cron.listed?_untilLast {n m : Nat} {t : Instant} (h : c.listing.listed? start n = some t)
    (hearly : t.date.year < lastYear) (hle : m ≤ n) :
    c.listing.untilLast.listed? start m = c.listing.listed? start m := by
  have hkeep : ∀ {o : Option Instant} {u : Instant}, o = some u → u.date.year < lastYear →
      (o.filter fun u => u.date.year < lastYear) = some u := by
    intro o u ho hu
    exact Option.filter_eq_some_iff.2 ⟨ho, decide_eq_true hu⟩
  induction n generalizing m t with
  | zero =>
    obtain rfl := Nat.le_zero.1 hle
    exact (hkeep h hearly).trans h.symm
  | succ n ih =>
    obtain ⟨u, hu, ht⟩ := Option.bind_eq_some_iff.1 h
    have hbefore : u.date.year < lastYear := by
      by_contra hlate
      rw [show c.listing.following? u = c.following? u from rfl,
        following?_eq (whole_of_listed? hwhole hu)] at ht
      have hlast := last_of_from? (Int.le_trans (Int.not_lt.1 hlate)
        (year_le (show u.seconds ≤ u.seconds + 1 + 1 by omega))) ht
      omega
    rcases Nat.lt_or_eq_of_le hle with hlt | rfl
    · exact ih hu hbefore (Nat.le_of_lt_succ hlt)
    · rw [Listing.listed?, ih hu hbefore (Nat.le_refl n), Listing.listed?, hu]
      exact (hkeep ht hearly).trans ht.symm

end UntilLast

end Reminder

end Workflow
