import Mathlib.Data.List.TakeWhile
import Workflow.Text.Blank
import Workflow.Text.Case
import Workflow.Text.Search

/-!
Texts apart from the white space around them and the case of their letters. To trim a text changes none of
its words (`wordList_trimList`), and words that are put together with single blanks come apart again
(`wordList_join`). Texts that differ in the case of ASCII letters alone have one small form
(`lower_congr`).
-/
namespace Workflow.Text

variable {c d : Char} {cs ds pre post : List Char}

/-- Nothing but white space. -/
def AllBlank (cs : List Char) : Prop := ∀ c ∈ cs, isBlank c = true

/-- Neither empty nor with white space in it. -/
def Unbroken (cs : List Char) : Prop := cs ≠ [] ∧ ∀ c ∈ cs, isBlank c = false

instance (cs : List Char) : Decidable (Unbroken cs) :=
  decidable_of_iff (cs ≠ [] ∧ cs.all (fun c => !isBlank c) = true) (by simp [Unbroken])

/-! ### Trimming -/

theorem trimList_append (hpre : AllBlank pre) (hpost : AllBlank post) :
    trimList (pre ++ cs ++ post) = trimList cs := by
  have hnone : post.dropWhile isBlank = [] := List.dropWhile_eq_nil_iff.2 hpost
  rw [trimList, trimList, List.append_assoc, List.dropWhile_append_of_pos hpre, List.dropWhile_append]
  split
  · rename_i hempty
    rw [hnone, List.isEmpty_iff.1 hempty]
  · rw [List.reverse_append, List.dropWhile_append_of_pos fun c hc => hpost c (List.mem_reverse.1 hc)]

theorem exists_trimList (cs : List Char) :
    ∃ pre post, AllBlank pre ∧ AllBlank post ∧ cs = pre ++ trimList cs ++ post := by
  have hfront := List.takeWhile_append_dropWhile (p := isBlank) (l := cs)
  have hback := List.takeWhile_append_dropWhile (p := isBlank) (l := (cs.dropWhile isBlank).reverse)
  refine ⟨cs.takeWhile isBlank, ((cs.dropWhile isBlank).reverse.takeWhile isBlank).reverse,
    fun c hc => List.all_eq_true.1 List.all_takeWhile c hc,
    fun c hc => List.all_eq_true.1 List.all_takeWhile c (List.mem_reverse.1 hc), ?_⟩
  rw [trimList, List.append_assoc, ← List.reverse_append, hback, List.reverse_reverse, hfront]

theorem trimList_trimList (cs : List Char) : trimList (trimList cs) = trimList cs := by
  obtain ⟨pre, post, hpre, hpost, hcs⟩ := exists_trimList cs
  have htrim : trimList (pre ++ trimList cs ++ post) = trimList (trimList cs) :=
    trimList_append hpre hpost
  rw [← hcs] at htrim
  exact htrim.symm

/-- A text is trimmed if it has no white space at its ends. -/
theorem trimList_eq_self (hhead : ∀ c, cs.head? = some c → isBlank c = false)
    (hlast : ∀ c, cs.getLast? = some c → isBlank c = false) : trimList cs = cs := by
  have hdrop : ∀ {cs : List Char}, (∀ c, cs.head? = some c → isBlank c = false) →
      cs.dropWhile isBlank = cs := by
    intro cs hcs
    cases cs with
    | nil => rfl
    | cons c cs => exact List.dropWhile_cons_of_neg (by simp [hcs c rfl])
  rw [trimList, hdrop hhead, hdrop (by rwa [List.head?_reverse]), List.reverse_reverse]

theorem isBlank_of_getLast?_trimList (h : (trimList cs).getLast? = some c) : isBlank c = false := by
  have hlast := List.head?_dropWhile_not isBlank (cs.dropWhile isBlank).reverse
  rw [trimList, List.getLast?_reverse] at h
  rwa [h] at hlast

theorem isBlank_of_isDigit (h : c.isDigit = true) : isBlank c = false := by
  have hlow : 48 ≤ c.toNat := (Char.isDigit_iff_toNat.1 h).1
  have hhigh : c.toNat ≤ 57 := (Char.isDigit_iff_toNat.1 h).2
  simp only [isBlank, Bool.or_eq_false_iff, Bool.and_eq_false_iff, decide_eq_false_iff_not,
    beq_eq_false_iff_ne]
  omega

/-! ### Words -/

theorem pieces_append {α : Type} {sep : α → Bool} {a : α} (h : sep a = true) (l m : List α) :
    pieces sep (l ++ a :: m) = pieces sep l ++ pieces sep m := by
  induction l with
  | nil => simp [pieces, h]
  | cons b l ih =>
    rw [List.cons_append, pieces, pieces, ih]
    split
    · rfl
    · cases hl : pieces sep l with
      | nil => exact absurd hl (pieces_ne_nil sep l)
      | cons w ws => rfl

theorem pieces_of_forall {α : Type} {sep : α → Bool} {l : List α} (h : ∀ a ∈ l, sep a = false) :
    pieces sep l = [l] := by
  induction l with
  | nil => rfl
  | cons a l ih =>
    rw [pieces, if_neg (by simp [h a List.mem_cons_self]),
      ih fun b hb => h b (List.mem_cons_of_mem a hb)]

theorem pieces_map {α : Type} {sep : α → Bool} {f : α → α} (h : ∀ a, sep (f a) = sep a) (l : List α) :
    pieces sep (l.map f) = (pieces sep l).map (List.map f) := by
  induction l with
  | nil => rfl
  | cons a l ih =>
    rw [List.map_cons, pieces, pieces, h, ih]
    split
    · rfl
    · cases pieces sep l <;> rfl

theorem wordList_append (h : isBlank c = true) (cs ds : List Char) :
    wordList (cs ++ c :: ds) = wordList cs ++ wordList ds := by
  rw [wordList, pieces_append h, List.filter_append]
  rfl

theorem wordList_blank_append (h : AllBlank pre) (cs : List Char) :
    wordList (pre ++ cs) = wordList cs := by
  induction pre with
  | nil => rfl
  | cons c pre ih =>
    rw [List.cons_append, ← List.nil_append (c :: _), wordList_append (h c List.mem_cons_self)]
    exact ih fun d hd => h d (List.mem_cons_of_mem c hd)

theorem wordList_append_blank (h : AllBlank post) (cs : List Char) :
    wordList (cs ++ post) = wordList cs := by
  cases post with
  | nil => rw [List.append_nil]
  | cons c post =>
    have hrest := wordList_blank_append (fun d hd => h d (List.mem_cons_of_mem c hd)) []
    rw [List.append_nil, show wordList [] = [] from rfl] at hrest
    rw [wordList_append (h c List.mem_cons_self), hrest, List.append_nil]

/-- The words stay when a text is trimmed. -/
theorem wordList_trimList (cs : List Char) : wordList (trimList cs) = wordList cs := by
  obtain ⟨pre, post, hpre, hpost, hcs⟩ := exists_trimList cs
  calc wordList (trimList cs) = wordList (pre ++ trimList cs ++ post) := by
        rw [wordList_append_blank hpost, wordList_blank_append hpre]
    _ = wordList cs := by rw [← hcs]

theorem wordList_of_unbroken (h : Unbroken cs) : wordList cs = [cs] := by
  rw [wordList, pieces_of_forall h.2, List.filter_cons_of_pos (by simpa using h.1), List.filter_nil]

theorem join_cons_cons (w v : List Char) (ws : List (List Char)) :
    List.intercalate [' '] (w :: v :: ws) = w ++ ' ' :: List.intercalate [' '] (v :: ws) := by
  simp [List.intercalate]

/-- Words with single blanks between them come apart again. -/
theorem wordList_join {ws : List (List Char)} (h : ∀ w ∈ ws, Unbroken w) :
    wordList (List.intercalate [' '] ws) = ws := by
  induction ws with
  | nil => rfl
  | cons w ws ih =>
    have hw := wordList_of_unbroken (h w List.mem_cons_self)
    cases ws with
    | nil => simpa [List.intercalate] using hw
    | cons v ws =>
      rw [join_cons_cons, wordList_append (by decide), hw, ih fun u hu => h u (List.mem_cons_of_mem w hu),
        List.singleton_append]

theorem getLast?_join {ws : List (List Char)} (h : ∀ w ∈ ws, Unbroken w) (hne : ws ≠ []) :
    ∃ c, (List.intercalate [' '] ws).getLast? = some c ∧ isBlank c = false := by
  induction ws with
  | nil => exact absurd rfl hne
  | cons w ws ih =>
    obtain ⟨hw, hblank⟩ := h w List.mem_cons_self
    cases ws with
    | nil =>
      refine ⟨w.getLast hw, ?_, hblank _ (List.getLast_mem hw)⟩
      simpa [List.intercalate] using List.getLast?_eq_some_getLast hw
    | cons v ws =>
      obtain ⟨c, hc, hcblank⟩ := ih (fun u hu => h u (List.mem_cons_of_mem w hu)) (List.cons_ne_nil v ws)
      exact ⟨c, by rw [join_cons_cons, List.getLast?_append, List.getLast?_cons, hc]; rfl, hcblank⟩

/-! ### Letters of either case -/

open CaseTable

/-- The letters of ASCII. -/
def IsLetter (c : Char) : Prop := 65 ≤ c.toNat ∧ c.toNat ≤ 90 ∨ 97 ≤ c.toNat ∧ c.toNat ≤ 122

theorem toNat_toLower (c : Char) : c.toLower.toNat =
    if 65 ≤ c.toNat ∧ c.toNat ≤ 90 then c.toNat + 32 else c.toNat := by
  have hfirst : 'A'.toNat = 65 := rfl
  have hlast : 'Z'.toNat = 90 := rfl
  have hgap : ('a'.val - 'A'.val).toNat = 32 := rfl
  unfold Char.toLower
  simp only [ge_iff_le, UInt32.le_iff_toNat_le, Char.toNat_val, hfirst, hlast]
  split
  · rw [← Char.toNat_val]
    simp only [UInt32.toNat_add, Char.toNat_val, hgap]
    omega
  · rfl

/-- Only letters share their small form with another character. -/
theorem eq_or_isLetter (h : c.toLower = d.toLower) : c = d ∨ IsLetter c ∧ IsLetter d := by
  -- only capitals are moved, by 32
  rw [← Char.toNat_inj, toNat_toLower, toNat_toLower] at h
  rw [← Char.toNat_inj, IsLetter, IsLetter]
  split at h <;> split at h <;> omega

theorem isBlank_toLower (c : Char) : isBlank c.toLower = isBlank c := by
  unfold isBlank
  simp only [toNat_toLower]
  split
  · rename_i hcapital
    rw [Bool.eq_iff_iff]
    simp only [Bool.or_eq_true, Bool.and_eq_true, decide_eq_true_eq, beq_iff_eq]
    omega
  · rfl

theorem cased_of_isLetter (h : IsLetter c) :
    covers caseIgnorable c.toNat = false ∧ covers cased c.toNat = true := by
  have hall : ∀ n < 123, 65 ≤ n ∧ n ≤ 90 ∨ 97 ≤ n ∧ n ≤ 122 →
      covers caseIgnorable n = false ∧ covers cased n = true := by decide +kernel
  exact hall c.toNat (by rw [IsLetter] at h; omega) h

theorem meetsCased_cons (c : Char) (cs : List Char) : meetsCased (c :: cs) =
    if covers caseIgnorable c.toNat then meetsCased cs else covers cased c.toNat := by
  by_cases h : covers caseIgnorable c.toNat = true
  · simp only [meetsCased, List.dropWhile_cons, if_pos h]
  · simp only [meetsCased, List.dropWhile_cons, if_neg h]

theorem meetsCased_congr (h : cs.map Char.toLower = ds.map Char.toLower) :
    meetsCased cs = meetsCased ds := by
  induction cs generalizing ds with
  | nil => rw [List.map_eq_nil_iff.1 h.symm]
  | cons c cs ih =>
    obtain ⟨d, ds, rfl, hcd, hrest⟩ := List.map_eq_cons_iff.1 h.symm
    rw [meetsCased_cons, meetsCased_cons, ih hrest.symm]
    rcases eq_or_isLetter hcd with rfl | ⟨hd, hc⟩
    · rfl
    · rw [(cased_of_isLetter hc).1, (cased_of_isLetter hd).1, (cased_of_isLetter hc).2,
        (cased_of_isLetter hd).2]

theorem lowerChar_congr (h : c.toLower = d.toLower) : lowerChar c = lowerChar d := by
  rcases eq_or_isLetter h with rfl | ⟨hc, hd⟩
  · rfl
  · unfold IsLetter at hc hd
    rw [lowerChar, lowerChar, if_pos (by omega), if_pos (by omega), h]

theorem lowerFrom_congr (hbefore : pre.map Char.toLower = post.map Char.toLower)
    (h : cs.map Char.toLower = ds.map Char.toLower) : lowerFrom pre cs = lowerFrom post ds := by
  induction cs generalizing ds pre post with
  | nil => rw [List.map_eq_nil_iff.1 h.symm]; rfl
  | cons c cs ih =>
    obtain ⟨d, ds, rfl, hcd, hrest⟩ := List.map_eq_cons_iff.1 h.symm
    have hsigma : c = 'Σ' ↔ d = 'Σ' := by
      rcases eq_or_isLetter hcd with rfl | ⟨hd, hc⟩
      · rfl
      · -- a sigma is no letter of ASCII
        refine iff_of_false ?_ ?_ <;> rintro rfl
        · revert hc; unfold IsLetter; decide
        · revert hd; unfold IsLetter; decide
    have hpassed : (c :: pre).map Char.toLower = (d :: post).map Char.toLower := by
      rw [List.map_cons, List.map_cons, hbefore, hcd]
    rw [lowerFrom, lowerFrom, ih hpassed hrest.symm, meetsCased_congr hbefore,
      meetsCased_congr hrest.symm, ← lowerChar_congr hcd]
    simp only [hsigma]

theorem toNat_ofNat_of_isLetter {n : Nat} (h : IsLetter (Char.ofNat n)) : (Char.ofNat n).toNat = n := by
  by_cases hvalid : n.isValidChar
  · have hchar : Char.ofNat n = Char.ofNatAux n hvalid := dif_pos hvalid
    rw [hchar]
    rfl
  · have hchar : Char.ofNat n = '\x00' := dif_neg hvalid
    rw [hchar] at h
    exact absurd h (by unfold IsLetter; decide)

/-- Of the letters of ASCII, only i and k are small forms of characters outside. -/
theorem exists_lowerChar (h : 128 ≤ c.toNat) :
    ∃ d ds, lowerChar c = d :: ds ∧ (IsLetter d → d = 'i' ∨ d = 'k') := by
  have hshifts : ∀ s ∈ toLower, 128 ≤ s.first + s.delta ∨ s.first = s.last ∧ s.first + s.delta = 107 := by
    decide +kernel
  unfold lowerChar
  rw [if_neg (by omega)]
  split
  · rename_i cs hlookup
    obtain ⟨front, back, htable, -⟩ := List.lookup_eq_some_iff.1 hlookup
    have hmem : (c.toNat, cs) ∈ lowerExpansions := by simp [htable]
    rw [lowerExpansions, List.mem_singleton, Prod.mk.injEq] at hmem
    exact ⟨'i', [Char.ofNat 775], by rw [hmem.2]; rfl, fun _ => Or.inl rfl⟩
  · refine ⟨_, [], rfl, fun hletter => Or.inr ?_⟩
    have hcode := toNat_ofNat_of_isLetter hletter
    unfold IsLetter at hletter
    rw [hcode] at hletter
    rw [← Char.toNat_inj, hcode]
    cases himage : toLower.findSome? (·.image? c.toNat) with
    | none =>
      rw [himage, Option.getD_none] at hletter
      omega
    | some n =>
      rw [himage, Option.getD_some] at hletter
      obtain ⟨s, hs, hn⟩ := List.exists_of_findSome?_eq_some himage
      obtain ⟨⟨hlow, hhigh, -⟩, hn⟩ := Option.ite_none_right_eq_some.1 hn
      obtain rfl := Option.some.inj hn
      rw [Option.getD_some]
      change _ = 107
      rcases hshifts s hs with hout | ⟨hone, hk⟩ <;> omega

/-- A beginning in ASCII letters is looked for in the small form as in the text itself. -/
theorem isPrefixOf_lowerFrom {pat : List Char}
    (h : ∀ p ∈ pat, 97 ≤ p.toNat ∧ p.toNat ≤ 122 ∧ p ≠ 'i' ∧ p ≠ 'k') (pre cs : List Char) :
    pat.isPrefixOf (lowerFrom pre cs) = pat.isPrefixOf (cs.map Char.toLower) := by
  induction pat generalizing pre cs with
  | nil => rfl
  | cons p pat ih =>
    obtain ⟨⟨hlow, hhigh, hi, hk⟩, hpat⟩ := List.forall_mem_cons.1 h
    cases cs with
    | nil => rfl
    | cons c cs =>
      rw [lowerFrom, List.map_cons]
      by_cases hc : c.toNat < 128
      · have hsigma : c ≠ 'Σ' := by
          rintro rfl
          revert hc
          decide
        rw [if_neg hsigma, lowerChar, if_pos hc, List.singleton_append, List.isPrefixOf, List.isPrefixOf,
          ih hpat]
      · -- neither the character nor its small form is the letter that is looked for
        have hright : (p == c.toLower) = false := by
          rw [beq_eq_false_iff_ne, ne_eq, ← Char.toNat_inj, toNat_toLower]
          split <;> omega
        have hleft : ∃ d ds, (if c = 'Σ' then [if meetsCased pre && !meetsCased cs then 'ς' else 'σ']
            else lowerChar c) = d :: ds ∧ (p == d) = false := by
          split
          · refine ⟨_, [], rfl, ?_⟩
            rw [beq_eq_false_iff_ne]
            rintro rfl
            split at hhigh <;> revert hhigh <;> decide
          · obtain ⟨d, ds, hds, hd⟩ := exists_lowerChar (Nat.le_of_not_lt hc)
            refine ⟨d, ds, hds, ?_⟩
            rw [beq_eq_false_iff_ne]
            rintro rfl
            exact (hd (Or.inr ⟨hlow, hhigh⟩)).elim hi hk
        obtain ⟨d, ds, hds, hd⟩ := hleft
        rw [hds, List.cons_append, List.isPrefixOf, List.isPrefixOf, hd, hright, Bool.false_and,
          Bool.false_and]

/-! ### Texts -/

variable {s t : String}

/-- Whether texts differ in the case of ASCII letters alone. -/
def SameLetters (s t : String) : Prop := s.toList.map Char.toLower = t.toList.map Char.toLower

theorem trimList_map {f : Char → Char} (h : ∀ c, isBlank (f c) = isBlank c) (cs : List Char) :
    trimList (cs.map f) = (trimList cs).map f := by
  have hcomp : isBlank ∘ f = isBlank := funext h
  rw [trimList, trimList, List.dropWhile_map, hcomp, ← List.map_reverse, List.dropWhile_map, hcomp,
    ← List.map_reverse]

theorem words_trim (s : String) : words (trim s) = words s := by
  rw [words, trim, String.toList_ofList, wordList_trimList, words]

theorem trim_trim (s : String) : trim (trim s) = trim s := by
  rw [trim, trim, String.toList_ofList, trimList_trimList]

theorem trim_append {pre post : String} (hpre : AllBlank pre.toList) (hpost : AllBlank post.toList)
    (s : String) : trim (pre ++ s ++ post) = trim s := by
  rw [trim, String.toList_append, String.toList_append, trimList_append hpre hpost, trim]

theorem SameLetters.trim (h : SameLetters s t) : SameLetters (trim s) (trim t) := by
  rw [SameLetters, Text.trim, Text.trim, String.toList_ofList, String.toList_ofList,
    ← trimList_map isBlank_toLower, ← trimList_map isBlank_toLower, h]

theorem SameLetters.lower (h : SameLetters s t) : lower s = lower t := by
  rw [Text.lower, Text.lower, lowerFrom_congr rfl h]

theorem SameLetters.length_words (h : SameLetters s t) : (words s).length = (words t).length := by
  have hlength : ∀ s : String, (words s).length = (wordList (s.toList.map Char.toLower)).length := by
    intro s
    have hempty : (fun w : List Char => !w.isEmpty) ∘ List.map Char.toLower = fun w => !w.isEmpty :=
      funext fun w => by simp
    rw [words, List.length_map, wordList, wordList, pieces_map isBlank_toLower, List.filter_map,
      List.length_map, hempty]
  rw [hlength, hlength, h]

end Workflow.Text
