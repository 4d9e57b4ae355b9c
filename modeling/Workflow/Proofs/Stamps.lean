import Workflow.Proofs.Calendar
import Workflow.Proofs.WholeMinutes

/-!
Texts of ids and instants. Each says what it stands for: an id is read back from its hexadecimal digits
(`Uuid.parse?_text`), and an instant of the calendar from its date and time (`Instant.parseRelaxed_text`).
-/
namespace Workflow

/-! ### Ids -/

namespace Uuid

theorem hexValue?_digitChar {n : Nat} (h : n < 16) : hexValue? (Nat.digitChar n) = some n := by
  revert n
  decide

theorem foldlM_hexDigits (n count m : Nat) :
    (hexDigits n count).foldlM (fun n c => (hexValue? c).map fun d => n * 16 + d) m =
      some (m * 16 ^ count + n % 16 ^ count) := by
  induction count generalizing n with
  | zero => simp [hexDigits, Nat.mod_one]
  | succ count ih =>
    have hlast : n % 16 < 16 := Nat.mod_lt n (by decide)
    have hsplit : n % 16 ^ (count + 1) = n % 16 + 16 * (n / 16 % 16 ^ count) := by
      rw [Nat.pow_succ, Nat.mul_comm, Nat.mod_mul]
    -- the last digit is written and read last
    rw [hexDigits, List.foldlM_append, ih]
    simp only [List.foldlM_cons, List.foldlM_nil, hexValue?_digitChar hlast, Option.map_some,
      Option.bind_eq_bind, Option.bind_some, Option.pure_def]
    rw [hsplit, Nat.pow_succ, Nat.add_mul, Nat.mul_assoc]
    congr 1
    omega

theorem ofDigits?_hexDigits (u : Uuid) : ofDigits? (hexDigits u.bits.toNat 32) = some u := by
  have hsize : 16 ^ 32 = 2 ^ 128 := by decide
  rw [ofDigits?, foldlM_hexDigits, Option.map_some, Nat.zero_mul, Nat.zero_add, hsize,
    Nat.mod_eq_of_lt u.bits.isLt, BitVec.ofNat_toNat, BitVec.setWidth_eq]

/-- The five groups, with hyphens between them. -/
theorem ofHyphenated?_groups {a b c d e : List Char} (ha : a.length = 8) (hb : b.length = 4)
    (hc : c.length = 4) (hd : d.length = 4) (he : e.length = 12) :
    ofHyphenated? (a ++ ['-'] ++ b ++ ['-'] ++ c ++ ['-'] ++ d ++ ['-'] ++ e) =
      ofDigits? (a ++ b ++ c ++ d ++ e) := by
  unfold ofHyphenated?
  rw [if_pos (by simp [ha, hb, hc, hd, he])]
  simp [List.drop_append, List.drop_eq_nil_of_le, ha, hb, hc, hd]

/-- An id is read back from its text. -/
theorem parse?_text (u : Uuid) : parse? u.text = some u := by
  have hlength := length_hexDigits u.bits.toNat 32
  have htext := length_text u
  rw [parse?]
  simp only [htext]
  rw [if_neg (by decide), if_neg (by simp), if_neg (by simp), text, String.toList_ofList]
  rw [ofHyphenated?_groups (by simp [hlength]) (by simp [hlength]) (by simp [hlength])
    (by simp [hlength]) (by simp [hlength]), ← List.take_add, ← List.take_add, ← List.take_add,
    List.take_append_drop, ofDigits?_hexDigits]

end Uuid

/-! ### Instants -/

namespace Time

/-- Digits are read up to what is none of them. -/
theorem number_digits {min : Nat} {max : Option Nat} {ds cs : List Char}
    (hds : ∀ c ∈ ds, c.isDigit = true) (hstop : ∀ c, cs.head? = some c → c.isDigit = false)
    (hmin : min ≤ ds.length) (hmax : ∀ m, max = some m → ds.length ≤ m) :
    number min max (ds ++ cs) = .ok (digitsValue ds, cs) := by
  have hall : (ds ++ cs).takeWhile Char.isDigit = ds := by
    rw [List.takeWhile_append_of_pos hds]
    cases cs with
    | nil => exact List.append_nil ds
    | cons c cs => rw [List.takeWhile_cons_of_neg (by simp [hstop c rfl]), List.append_nil]
  have hnot : ¬ ds.length < min := Nat.not_lt_of_le hmin
  unfold number
  rw [if_neg (by rw [List.length_append]; omega)]
  simp only [hall]
  cases max with
  | none => rw [if_neg hnot, List.drop_left' rfl]
  | some m =>
    have htake : ds.take m = ds := List.take_of_length_le (hmax m rfl)
    simp only [htake]
    rw [if_neg hnot, List.drop_left' rfl]

section Years

variable {cs : List Char}

/-- Behind a digit a year goes on for four digits at most. -/
theorem signedYear_digits {ds : List Char} (hds : ∀ c ∈ ds, c.isDigit = true)
    (hmin : 1 ≤ ds.length) (hmax : ds.length ≤ 4) :
    signedYear (ds ++ '-' :: cs) = .ok ((digitsValue ds : Int), '-' :: cs) := by
  obtain ⟨d, ds, rfl⟩ := List.exists_cons_of_length_pos hmin
  have hd := hds d List.mem_cons_self
  have hread : number 1 (some 4) (d :: ds ++ '-' :: cs) = .ok (digitsValue (d :: ds), '-' :: cs) :=
    number_digits hds (fun c hc => by cases hc; rfl) hmin (fun m hm => by cases hm; exact hmax)
  rw [signedYear, List.cons_append, skipBlank_cons (Text.isBlank_of_isDigit hd)]
  -- a digit is neither of the signs
  split
  · rename_i hsign
    cases hsign
    cases hd
  · rename_i hsign
    cases hsign
    cases hd
  · rw [← List.cons_append, hread]
    rfl

/-- A year is read up to the hyphen behind it. -/
theorem signedYear_yearText (y : Int) :
    signedYear (yearText y ++ '-' :: cs) = .ok (y, '-' :: cs) := by
  have hdigits : ∀ n, ∀ c ∈ padded 4 n, c.isDigit = true := fun n c hc => isDigit_of_mem_padded hc
  have hmin : ∀ n, 1 ≤ (padded 4 n).length := by
    intro n
    rw [padded, List.length_append]
    exact Nat.le_add_left_of_le (List.length_pos_iff.2 Nat.toDigits_ne_nil)
  have hlong : ∀ n, number 1 none (padded 4 n ++ '-' :: cs) = .ok (n, '-' :: cs) := by
    intro n
    rw [number_digits (hdigits n) (fun c hc => by cases hc; rfl) (hmin n) (fun m hm => by cases hm),
      digitsValue_padded]
  unfold yearText
  split
  · rename_i hy
    have hmax : (padded 4 y.toNat).length ≤ 4 := Nat.le_of_eq (length_padded (by decide) (by omega))
    rw [signedYear_digits (hdigits _) (hmin _) hmax, digitsValue_padded]
    congr 2
    omega
  · split
    · rename_i hneg
      change Except.map _ (number 1 none (padded 4 y.natAbs ++ '-' :: cs)) = _
      rw [hlong, Except.map]
      congr 2
      omega
    · rename_i hlarge hneg
      change Except.map _ (number 1 none (padded 4 y.natAbs ++ '-' :: cs)) = _
      rw [hlong, Except.map]
      congr 2
      omega

end Years

/-- A fraction is read as the nanoseconds that it was written for. -/
theorem optionalFraction_fractionText {nanos : Nat} (h : nanos < 1000000000) :
    optionalFraction (fractionText nanos ++ ['Z']) = .ok (nanos, ['Z']) := by
  have hread : ∀ {width n : Nat}, 0 < width → width ≤ 9 → n < 10 ^ width →
      optionalFraction ('.' :: (padded width n ++ ['Z'])) = .ok (n * 10 ^ (9 - width), ['Z']) := by
    intro width n hpos hnine hn
    have hlength := length_padded hpos hn
    have hnumber : number 1 (some 9) (padded width n ++ ['Z']) = .ok (n, ['Z']) := by
      rw [number_digits (fun c hc => isDigit_of_mem_padded hc) (fun c hc => by cases hc; rfl)
        (by omega) (fun m hm => by cases hm; omega), digitsValue_padded]
    simp only [optionalFraction, fraction, hnumber, bind, Except.bind, List.length_append, hlength,
      Nat.add_sub_cancel]
    rfl
  -- no digits at all, three, six or nine
  unfold fractionText
  split
  · rename_i hzero
    rw [hzero]
    rfl
  · split
    · rw [List.cons_append, hread (by decide) (by decide) (by omega)]
      congr 2
      omega
    · split
      · rw [List.cons_append, hread (by decide) (by decide) (by omega)]
        congr 2
        omega
      · rw [List.cons_append, hread (by decide) (by decide) (by omega)]
        congr 2
        omega

namespace Instant

variable {t : Instant}

/-- An instant of the calendar. A leap second stands at the end of a minute only. -/
structure Regular (t : Instant) : Prop where
  inRange : t.inRange = true
  nanos : t.nanos < 1000000000 ∨ t.nanos < 2000000000 ∧ t.timeOfDay.second = 59

instance (t : Instant) : Decidable t.Regular :=
  decidable_of_iff (t.inRange = true ∧
      (t.nanos < 1000000000 ∨ t.nanos < 2000000000 ∧ t.timeOfDay.second = 59))
    ⟨fun h => ⟨h.1, h.2⟩, fun h => ⟨h.inRange, h.nanos⟩⟩

/-- The second that is written, and the nanoseconds behind it. -/
def face (t : Instant) : Nat × Nat :=
  if 1000000000 ≤ t.nanos then (t.timeOfDay.second + 1, t.nanos - 1000000000)
  else (t.timeOfDay.second, t.nanos)

theorem toList_text (t : Instant) : t.text.toList =
    yearText t.date.year ++ '-' :: (two t.date.month ++ '-' :: (two t.date.day ++ 'T' ::
      (two t.timeOfDay.hour ++ ':' :: (two t.timeOfDay.minute ++ ':' :: (two t.face.1 ++
        (fractionText t.face.2 ++ ['Z'])))))) := by
  have hbillion : billion ≤ (t.nanos : Int) ↔ 1000000000 ≤ t.nanos := by
    unfold billion
    omega
  rw [text, textWith, String.toList_append, String.toList_ofList, face]
  simp only [hbillion]
  split <;> simp

theorem ofDate_date (t : Instant) : ofDate t.date t.timeOfDay = t := by
  have hdays : t.date.toDays = t.days := Date.toDays_ofDays t.days
  have hseconds : (ofDate t.date t.timeOfDay).seconds = t.seconds := by
    rw [t.seconds_eq, ofDate, hdays]
    rfl
  exact ext_iff.2 ⟨hseconds, rfl⟩

section Regular

variable (h : t.Regular)
include h

/-- The time of day is put together again from what is written of it. -/
theorem face_spec : t.face.1 ≤ 60 ∧ t.face.2 < 1000000000 ∧
    (⟨t.timeOfDay.hour * 3600 + t.timeOfDay.minute * 60 + t.face.1 - (if t.face.1 = 60 then 1 else 0),
      t.face.2 + (if t.face.1 = 60 then 1 else 0) * 1000000000⟩ : TimeOfDay) = t.timeOfDay := by
  have hnanos := h.nanos
  have hsame : t.timeOfDay.nanos = t.nanos := rfl
  have hday := t.timeOfDay_lt
  unfold face
  generalize t.timeOfDay = u at hnanos hsame hday ⊢
  obtain ⟨seconds, nanos⟩ := u
  simp only [TimeOfDay.second, TimeOfDay.hour, TimeOfDay.minute, TimeOfDay.mk.injEq]
    at hnanos hsame hday ⊢
  split
  · rename_i hleap
    have hlast : seconds % 60 + 1 = 60 := by omega
    simp only [if_pos hlast]
    omega
  · rename_i hleap
    have hne : ¬ seconds % 60 = 60 := by omega
    simp only [if_neg hne]
    omega

theorem assemble_face :
    assemble t.date.year t.date.month t.date.day t.timeOfDay.hour t.timeOfDay.minute t.face.1 t.face.2 0 =
      .ok t := by
  have hvalid : t.date.Valid := Date.valid_ofDays t.days
  obtain ⟨hmonth, hday⟩ := hvalid
  obtain ⟨hsecond, -, htime⟩ := face_spec h
  have hchecked : ∀ {lo hi n : Nat}, lo ≤ n → n ≤ hi → checked lo hi n = .ok n := fun hlo hhi =>
    if_pos ⟨hlo, hhi⟩
  have hlength : daysInMonth t.date.year t.date.month ≤ 31 := by
    unfold daysInMonth
    split
    · split <;> decide
    · split <;> decide
  have hhour : t.timeOfDay.hour ≤ 23 := by
    have hlt := t.timeOfDay_lt
    rw [TimeOfDay.hour]
    omega
  have hminute : t.timeOfDay.minute ≤ 59 := Nat.le_of_lt_succ (Nat.mod_lt _ (by decide))
  have hdate : Date.ofYmd? t.date.year t.date.month t.date.day = some t.date :=
    if_pos ⟨hmonth.1, hmonth.2, hday⟩
  have hoffset : ¬ ((0 : Int) ≤ -secondsPerDay ∨ secondsPerDay ≤ 0) := by decide
  simp only [assemble, hchecked hmonth.1 hmonth.2, hchecked hday.1 (Nat.le_trans hday.2 hlength),
    hchecked (Nat.zero_le _) hhour, hchecked (Nat.zero_le _) hminute, hchecked (Nat.zero_le _) hsecond,
    hdate, if_neg hoffset, htime, ofDate_date, bind, Except.bind, Int.sub_zero, h.inRange]
  rfl

/-- An instant is read back from its text. -/
theorem parseRelaxed_text : parseRelaxed t.text = .ok t := by
  have hranges : t.date.month < 100 ∧ t.date.day < 100 := Date.ofDays_ranges t.days
  obtain ⟨hmonth, hday⟩ := hranges
  obtain ⟨hsecond, hfraction, -⟩ := face_spec h
  have hhour : t.timeOfDay.hour < 100 := by
    have hlt := t.timeOfDay_lt
    rw [TimeOfDay.hour]
    omega
  have hminute : t.timeOfDay.minute < 100 := Nat.lt_of_lt_of_le (Nat.mod_lt _ (by decide)) (by decide)
  have hliteral : ∀ c cs, literal c (c :: cs) = .ok ((), cs) := fun c cs => by rw [literal, if_pos rfl]
  have hdash : Text.isBlank '-' = false := by decide
  have hcolon : Text.isBlank ':' = false := by decide
  have hz : Text.isBlank 'Z' = false := by decide
  have hzone : ∀ between, zone between ['Z'] = .ok (0, []) := fun _ => rfl
  have hread : relaxedReader t.text.toList = .ok (t, []) := by
    simp only [relaxedReader, toList_text, signedYear_yearText, skipBlank_cons hdash,
      skipBlank_cons hcolon, skipBlank_cons hz, hliteral, pair_two_append hmonth, pair_two_append hday,
      pair_two_append hhour, pair_two_append hminute, pair_two_append (show t.face.1 < 100 by omega),
      optionalFraction_fractionText hfraction, hzone, assemble_face h, true_or, if_true, bind,
      Except.bind]
  rw [parseRelaxed, hread]
  rfl

end Regular

end Instant

end Time

end Workflow
