import Workflow.Proofs.Encoding
import Workflow.Proofs.ReminderKeys
import Workflow.Proofs.Traversal
import Workflow.Proofs.Words

/-!
Work times in whole minutes. They come back from their texts (`WorkTime.parse_text`), and reading gives
no others. A definition with such work times is what is read back from any document of it
(`Definition.InWholeMinutes.ofDocument?_document`).
-/
namespace Workflow

open Engine (of_bind_eq_ok of_mapError_eq_ok)

/-! ### Texts of times -/

namespace Time

/-- As many digits as are asked for are read, whatever follows. -/
theorem number_append {min max : Nat} {ds cs : List Char} (hds : ∀ c ∈ ds, c.isDigit = true)
    (hmin : min ≤ max) (hmax : ds.length = max) :
    number min (some max) (ds ++ cs) = .ok (digitsValue ds, cs) := by
  have htake : ((ds ++ cs).takeWhile Char.isDigit).take max = ds := by
    rw [List.takeWhile_append_of_pos hds, List.take_left' hmax]
  unfold number
  rw [if_neg (by rw [List.length_append]; omega)]
  simp only [htake]
  rw [if_neg (by omega), List.drop_left' rfl]

theorem digitsValue_padded (width n : Nat) : digitsValue (padded width n) = n := by
  calc digitsValue (padded width n) = Nat.ofDigitChars 10 (padded width n) 0 := by
        simp only [digitsValue, Nat.ofDigitChars, Nat.mul_comm]
    _ = n := ofDigitChars_padded width n

theorem skipBlank_cons {c : Char} (h : Text.isBlank c = false) (cs : List Char) :
    skipBlank (c :: cs) = c :: cs :=
  List.dropWhile_cons_of_neg (by rw [h]; exact Bool.false_ne_true)

theorem pair_two_append {n : Nat} (h : n < 100) (cs : List Char) : pair (two n ++ cs) = .ok (n, cs) := by
  have hdigits : ∀ c ∈ two n, c.isDigit = true := fun c hc => isDigit_of_mem_padded hc
  have hskip : skipBlank (two n ++ cs) = two n ++ cs := by
    have hlength := length_two h
    cases htwo : two n with
    | nil =>
      rw [htwo] at hlength
      cases hlength
    | cons d ds => exact skipBlank_cons (Text.isBlank_of_isDigit (hdigits d (htwo ▸ List.mem_cons_self))) _
  rw [pair, hskip, number_append hdigits (by decide) (length_two h), two, digitsValue_padded]

namespace TimeOfDay

/-- A time of day in hours and minutes. -/
def IsMinute (t : TimeOfDay) : Prop := t.seconds < 86400 ∧ 60 ∣ t.seconds ∧ t.nanos = 0

instance (t : TimeOfDay) : Decidable t.IsMinute := inferInstanceAs (Decidable (_ ∧ _))

theorem isMinute_ofHms {hour minute : Nat} (hhour : hour ≤ 23) (hminute : minute ≤ 59) :
    (ofHms hour minute 0).IsMinute := by
  refine ⟨?_, ?_, rfl⟩ <;> simp only [ofHms] <;> omega

/-- Nothing but digits and a colon is written. -/
theorem mem_hourMinute {t : TimeOfDay} {c : Char} (hc : c ∈ t.hourMinute.toList) : c.isDigit = true ∨ c = ':' := by
  rw [hourMinute, String.toList_ofList, List.mem_append, List.mem_append, List.mem_singleton] at hc
  rcases hc with (hc | hc) | hc
  · exact Or.inl (isDigit_of_mem_padded hc)
  · exact Or.inr hc
  · exact Or.inl (isDigit_of_mem_padded hc)

section Minute

variable {t : TimeOfDay} (h : t.IsMinute)
include h

theorem IsMinute.hour_le : t.hour ≤ 23 := by
  have hday := h.1
  simp only [hour]
  omega

theorem IsMinute.ofHms_eq : ofHms t.hour t.minute 0 = t := by
  obtain ⟨seconds, nanos⟩ := t
  obtain ⟨-, hwhole, rfl : nanos = 0⟩ := h
  simp only [ofHms, hour, minute, mk.injEq, and_true] at hwhole ⊢
  omega

theorem parseHourMinute_hourMinute : parseHourMinute t.hourMinute = .ok t := by
  have hhour := h.hour_le
  have hminute : t.minute ≤ 59 := Nat.le_of_lt_succ (Nat.mod_lt _ (by decide))
  have hlist : t.hourMinute.toList = two t.hour ++ ':' :: (two t.minute ++ []) := by
    simp [hourMinute]
  have hchecked : ∀ {n max : Nat}, n ≤ max → checked 0 max n = .ok n := fun h =>
    if_pos ⟨Nat.zero_le _, h⟩
  have hliteral : ∀ cs, literal ':' (':' :: cs) = .ok ((), cs) := fun cs => by
    rw [literal, if_pos rfl]
  simp only [parseHourMinute, hlist, pair_two_append (show t.hour < 100 by omega), hchecked hhour,
    hliteral, pair_two_append (show t.minute < 100 by omega), hchecked hminute, bind, Except.bind]
  exact congrArg Except.ok h.ofHms_eq

end Minute

theorem le_of_checked {lo hi n m : Nat} (h : checked lo hi n = .ok m) : m ≤ hi := by
  unfold checked at h
  split at h
  · rename_i hn
    cases h
    exact hn.2
  · cases h

/-- What is read is in whole minutes. -/
theorem isMinute_of_parseHourMinute {s : String} {t : TimeOfDay}
    (h : parseHourMinute s = .ok t) : t.IsMinute := by
  obtain ⟨⟨_, _⟩, -, h⟩ := of_bind_eq_ok h
  obtain ⟨hour, hhour, h⟩ := of_bind_eq_ok h
  obtain ⟨⟨_, _⟩, -, h⟩ := of_bind_eq_ok h
  obtain ⟨⟨_, _⟩, -, h⟩ := of_bind_eq_ok h
  obtain ⟨minute, hminute, h⟩ := of_bind_eq_ok h
  split at h
  · cases h
    exact isMinute_ofHms (le_of_checked hhour) (le_of_checked hminute)
  · cases h

end TimeOfDay

end Time

namespace Text

theorem cutAt_append {a : Char} {xs : List Char} (ys : List Char) (h : a ∉ xs) :
    cutAt [a] (xs ++ a :: ys) = some (xs, ys) := by
  induction xs with
  | nil => simp [cutAt]
  | cons x xs ih =>
    rw [List.mem_cons, not_or] at h
    rw [List.cons_append, cutAt, ih h.2]
    simp [h.1]

theorem trim_eq_self {s : String} (h : ∀ c ∈ s.toList, isBlank c = false) : trim s = s := by
  rw [trim, trimList_eq_self (fun c hc => h c (List.mem_of_head? hc))
    fun c hc => h c (List.mem_of_getLast? hc), String.ofList_toList]

end Text

namespace WorkTime

/-- Both ends are whole minutes. -/
def InWholeMinutes (w : WorkTime) : Prop := w.start.IsMinute ∧ w.stop.IsMinute

instance (w : WorkTime) : Decidable w.InWholeMinutes := inferInstanceAs (Decidable (_ ∧ _))

theorem parse_text {w : WorkTime} (h : w.InWholeMinutes) : parse w.text = .ok w := by
  obtain ⟨hstart, hstop⟩ := h
  have hdash : '-' ∉ w.start.hourMinute.toList := fun hmem => by
    rcases Time.TimeOfDay.mem_hourMinute hmem with h | h <;> cases h
  have hsplit : Text.splitOnce? w.text "-" = some (w.start.hourMinute, w.stop.hourMinute) := by
    have hlist : w.text.toList = w.start.hourMinute.toList ++ '-' :: w.stop.hourMinute.toList := by
      simp [text]
    rw [Text.splitOnce?, hlist]
    rw [show "-".toList = ['-'] from rfl, Text.cutAt_append _ hdash, Option.map_some,
      String.ofList_toList, String.ofList_toList]
  have htrim : ∀ t : Time.TimeOfDay, Text.trim t.hourMinute = t.hourMinute := fun t =>
    Text.trim_eq_self fun c hc => by
      rcases Time.TimeOfDay.mem_hourMinute hc with h | rfl
      · exact Text.isBlank_of_isDigit h
      · decide
  simp only [parse, hsplit, htrim,
    Time.TimeOfDay.parseHourMinute_hourMinute hstart, Time.TimeOfDay.parseHourMinute_hourMinute hstop]
  rfl

theorem inWholeMinutes_of_parse {s : String} {w : WorkTime} (h : parse s = .ok w) :
    w.InWholeMinutes := by
  unfold parse at h
  split at h
  · cases h
  · obtain ⟨start, hstart, h⟩ := of_bind_eq_ok h
    obtain ⟨stop, hstop, h⟩ := of_bind_eq_ok h
    cases h
    exact ⟨Time.TimeOfDay.isMinute_of_parseHourMinute (of_mapError_eq_ok hstart),
      Time.TimeOfDay.isMinute_of_parseHourMinute (of_mapError_eq_ok hstop)⟩

theorem reread_of_inWholeMinutes {w : WorkTime} (h : w.InWholeMinutes) : w.reread = some w := by
  rw [reread, parse_text h]
  rfl

end WorkTime

/-! ### Definitions -/

theorem mapM_eq_some_map {α β : Type} {f : α → Option β} {g : α → β} {l : List α}
    (h : ∀ a ∈ l, f a = some (g a)) : l.mapM f = some (l.map g) := by
  induction l with
  | nil => rfl
  | cons a l ih =>
    rw [List.mapM_cons, h a List.mem_cons_self, ih fun b hb => h b (List.mem_cons_of_mem _ hb)]
    rfl

theorem mapM_eq_some_self {α : Type} {f : α → Option α} {l : List α} (h : ∀ a ∈ l, f a = some a) :
    l.mapM f = some l :=
  (mapM_eq_some_map (g := id) h).trans (congrArg some (List.map_id l))

def ReminderParam.InWholeMinutes (p : ReminderParam) : Prop :=
  ∀ w, p.workTime = some w → w.InWholeMinutes

instance (p : ReminderParam) : Decidable p.InWholeMinutes :=
  inferInstanceAs (Decidable (∀ w ∈ p.workTime, w.InWholeMinutes))

/-- The reminders of a definition and of its nodes. -/
def Definition.reminders (d : Definition) : List ReminderParam :=
  d.reminder.toList ++ d.nodes.filterMap Node.reminder

/-- All work times are in whole minutes. -/
def Definition.InWholeMinutes (d : Definition) : Prop := ∀ p ∈ d.reminders, p.InWholeMinutes

instance (d : Definition) : Decidable d.InWholeMinutes :=
  inferInstanceAs (Decidable (∀ p ∈ d.reminders, p.InWholeMinutes))

theorem ReminderParam.InWholeMinutes.reread {p : ReminderParam} (h : p.InWholeMinutes) :
    p.reread = some p := by
  obtain ⟨cadence, weekdays, workTime⟩ := p
  cases workTime with
  | none => rfl
  | some w =>
    simp only [ReminderParam.reread, WorkTime.reread_of_inWholeMinutes (h w rfl), Option.map_some]

theorem ReminderParam.rereadOption_of_inWholeMinutes {r : Option ReminderParam}
    (h : ∀ p, r = some p → p.InWholeMinutes) : rereadOption r = some r := by
  cases r with
  | none => rfl
  | some p =>
    rw [rereadOption, (h p rfl).reread]
    rfl

theorem Node.reread_of_inWholeMinutes {n : Node} (h : ∀ p, n.reminder = some p → p.InWholeMinutes) :
    n.reread = some n := by
  obtain ⟨id, name, kind, handler, transitions⟩ := n
  cases kind with
  | task assignees taskHandler reminder =>
    have hreminder : ReminderParam.rereadOption reminder = some reminder :=
      ReminderParam.rereadOption_of_inWholeMinutes h
    rw [reread, NodeKind.reread, hreminder]
    rfl
  | start | condition | join | stop => rfl

namespace Definition

variable {d : Definition}

theorem InWholeMinutes.reread (h : d.InWholeMinutes) : d.reread = some d := by
  have hnodes : d.nodes.mapM Node.reread = some d.nodes := by
    refine mapM_eq_some_self fun n hn => Node.reread_of_inWholeMinutes fun p hp => h p ?_
    exact List.mem_append_right _ (List.mem_filterMap.2 ⟨n, hn, hp⟩)
  have hreminder : ReminderParam.rereadOption d.reminder = some d.reminder :=
    ReminderParam.rereadOption_of_inWholeMinutes fun p hp =>
      h p (List.mem_append_left _ (by rw [hp]; exact List.mem_singleton_self p))
  rw [Definition.reread, hnodes, hreminder]
  rfl

/-- A definition with work times in whole minutes comes back from any document of it. -/
theorem InWholeMinutes.ofDocument?_document {π : Presentation} (h : d.InWholeMinutes) :
    ofDocument? (π.document d.toValue) = some d :=
  (Definition.ofDocument?_document d).trans h.reread

theorem InWholeMinutes.ofValue?_toValue (h : d.InWholeMinutes) : ofValue? d.toValue = some d :=
  (Definition.ofValue?_toValue d).trans h.reread

end Definition

/-! ### What is read -/

section Reading

variable {α : Type} {read : Document → Option α} {P : α → Prop} (hread : ∀ {x a}, read x = some a → P a)
include hread

theorem Document.of_optional {m : Option Document} {r : Option α} (h : optional read m = some r) :
    ∀ a, r = some a → P a := by
  intro a ha
  subst ha
  cases m with
  | none => cases h
  | some x =>
    rw [optional] at h
    split at h
    · cases h
    · obtain ⟨b, hb, hba⟩ := Option.map_eq_some_iff.1 h
      cases hba
      exact hread hb
    · cases h

theorem of_mapM {xs : List Document} {l : List α} (h : xs.mapM read = some l) : ∀ a ∈ l, P a := by
  induction xs generalizing l with
  | nil =>
    cases h
    exact fun a ha => nomatch ha
  | cons x xs ih =>
    rw [List.mapM_cons] at h
    obtain ⟨a, ha, h⟩ := Option.bind_eq_some_iff.1 h
    obtain ⟨as, has, h⟩ := Option.bind_eq_some_iff.1 h
    cases h
    intro b hb
    rcases List.mem_cons.1 hb with rfl | hb
    · exact hread ha
    · exact ih has b hb

theorem Document.of_list {x : Document} {l : List α} (h : x.list? read = some l) : ∀ a ∈ l, P a := by
  obtain ⟨xs, -, hxs⟩ := Option.bind_eq_some_iff.1 h
  exact of_mapM hread hxs

end Reading

theorem WorkTime.inWholeMinutes_of_ofDocument? {x : Document} {w : WorkTime}
    (h : ofDocument? x = some w) : w.InWholeMinutes := by
  obtain ⟨s, -, hs⟩ := Option.bind_eq_some_iff.1 h
  cases hparse : parse s with
  | error err => rw [hparse] at hs; cases hs
  | ok w' =>
    rw [hparse] at hs
    cases hs
    exact inWholeMinutes_of_parse hparse

theorem ReminderParam.inWholeMinutes_of_ofDocument? {x : Document} {p : ReminderParam}
    (h : ofDocument? x = some p) : p.InWholeMinutes := by
  unfold ofDocument? at h
  split at h
  · obtain ⟨cadence, -, h⟩ := Option.bind_eq_some_iff.1 h
    obtain ⟨weekdays, -, h⟩ := Option.bind_eq_some_iff.1 h
    obtain ⟨workTime, hworkTime, h⟩ := Option.bind_eq_some_iff.1 h
    cases h
    exact Document.of_optional WorkTime.inWholeMinutes_of_ofDocument? hworkTime
  · cases h

theorem NodeKind.inWholeMinutes_of_ofFields? {fields : List (String × Document)} {k : NodeKind}
    (h : ofFields? fields = some k) {assignees : List String} {handler : Option String}
    {r : Option ReminderParam} (hk : k = task assignees handler r) :
    ∀ p, r = some p → p.InWholeMinutes := by
  obtain ⟨tag, -, h⟩ := Option.bind_eq_some_iff.1 h
  obtain ⟨name, -, h⟩ := Option.bind_eq_some_iff.1 h
  subst hk
  split at h
  · cases h
  · cases h
  · cases h
  · obtain ⟨_, -, h⟩ := Option.bind_eq_some_iff.1 h
    obtain ⟨_, -, h⟩ := Option.bind_eq_some_iff.1 h
    cases h
  · simp only [Option.bind_eq_bind, Option.bind_eq_some_iff] at h
    obtain ⟨_, -, _, -, _, -, _, -, _, -, _, hreminder, h⟩ := h
    cases h
    exact Document.of_optional ReminderParam.inWholeMinutes_of_ofDocument? hreminder
  · cases h

theorem Node.inWholeMinutes_of_ofDocument? {x : Document} {n : Node} (h : ofDocument? x = some n) :
    ∀ p, n.reminder = some p → p.InWholeMinutes := by
  simp only [ofDocument?, Option.bind_eq_bind, Option.bind_eq_some_iff] at h
  obtain ⟨_, -, _, -, _, -, _, -, _, -, _, -, _, -, _, -, _, -, _, -, kind, hkind, h⟩ := h
  cases h
  intro p hp
  cases kind with
  | task assignees handler r => exact NodeKind.inWholeMinutes_of_ofFields? hkind rfl p hp
  | start | condition | join | stop => cases hp

/-- Whatever a definition is read from, its work times are in whole minutes. -/
theorem Definition.inWholeMinutes_of_ofDocument? {x : Document} {d : Definition}
    (h : ofDocument? x = some d) : d.InWholeMinutes := by
  unfold ofDocument? at h
  split at h
  · simp only [Option.bind_eq_bind, Option.bind_eq_some_iff] at h
    obtain ⟨_, -, _, -, _, -, _, -, nodes, hnodes, reminder, hreminder, _, -, h⟩ := h
    cases h
    intro p hp
    rcases List.mem_append.1 hp with hp | hp
    · exact Document.of_optional ReminderParam.inWholeMinutes_of_ofDocument? hreminder p
        (Option.mem_toList.1 hp)
    · obtain ⟨n, hn, hp⟩ := List.mem_filterMap.1 hp
      obtain ⟨items, -, hitems⟩ := Option.bind_eq_some_iff.1 hnodes
      exact Document.of_list Node.inWholeMinutes_of_ofDocument? hitems n hn p hp
  · cases h

end Workflow
