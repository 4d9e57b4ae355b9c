/-!
Finite maps, kept in the order of their keys. Two maps with the same look-ups are the same map
(`Dict.ext_get?`), and `get?_insert`, `get?_erase` and `get?_union` say what each change does to a
look-up.
-/
namespace Workflow

/-- Keys in a linear order. -/
class Key (κ : Type) extends LT κ where
  decidableLT : ∀ a b : κ, Decidable (a < b)
  lt_irrefl : ∀ a : κ, ¬ a < a
  lt_trans : ∀ {a b c : κ}, a < b → b < c → a < c
  lt_trichotomy : ∀ a b : κ, a < b ∨ a = b ∨ b < a

instance (priority := low) Key.decidableLess {κ : Type} [Key κ] (a b : κ) : Decidable (a < b) :=
  Key.decidableLT a b

instance : Key String where
  decidableLT := fun a b => inferInstanceAs (Decidable (a < b))
  lt_irrefl := String.lt_irrefl
  lt_trans := String.lt_trans
  lt_trichotomy := fun a b => Std.lt_trichotomy a b

/-- The value of the first pair of a key. -/
def Dict.lookup {κ : Type} [DecidableEq κ] {α : Type u} (k : κ) : List (κ × α) → Option α
  | [] => none
  | (x, a) :: l => if k = x then some a else lookup k l

theorem Dict.lookup_filter_ne {κ : Type} [DecidableEq κ] {α : Type u} (k k' : κ)
    (l : List (κ × α)) :
    lookup k' (l.filter (·.1 != k)) = if k' = k then none else lookup k' l := by
  induction l with
  | nil => simp [lookup]
  | cons hd l ih =>
    obtain ⟨x, b⟩ := hd
    by_cases hx : x = k
    · subst hx
      simp only [bne_self_eq_false, Bool.false_eq_true, not_false_eq_true, List.filter_cons_of_neg,
        ih, lookup]
      by_cases hk : k' = x <;> simp [hk]
    · by_cases hk : k' = x
      · subst hk
        simp [lookup, hx]
      · simp [lookup, ih, hx, hk]

theorem Dict.mem_of_lookup_isSome {κ : Type} [DecidableEq κ] {α : Type u} {k : κ}
    {l : List (κ × α)} (h : (lookup k l).isSome = true) :
    ∃ p ∈ l, p.1 = k := by
  induction l with
  | nil => simp [lookup] at h
  | cons p l ih =>
    by_cases hk : k = p.1
    · exact ⟨p, by simp, hk.symm⟩
    · simp only [lookup, hk, if_false] at h
      obtain ⟨q, hq, hqk⟩ := ih h
      exact ⟨q, by simp [hq], hqk⟩

theorem Dict.lookup_isSome_iff {κ : Type} [DecidableEq κ] {α : Type u} {k : κ}
    {l : List (κ × α)} : (lookup k l).isSome = true ↔ k ∈ l.map Prod.fst := by
  induction l with
  | nil => simp [lookup]
  | cons p l ih =>
    rw [List.map_cons, List.mem_cons, lookup]
    by_cases hk : k = p.1
    · simp [hk]
    · simpa [hk] using ih

/-- A list of pairs whose keys strictly increase. -/
abbrev InOrder {κ : Type} [Key κ] {α : Type u} (l : List (κ × α)) : Prop :=
  l.Pairwise fun a b => a.1 < b.1

structure Dict (κ : Type) [Key κ] (α : Type u) where
  entries : List (κ × α)
  inOrder : InOrder entries
deriving DecidableEq, Repr

namespace Dict

variable {κ : Type} [Key κ] {α : Type u} {β : Type v}

@[ext] theorem ext {d e : Dict κ α} (h : d.entries = e.entries) : d = e := by
  cases d; cases e; cases h; rfl

def empty : Dict κ α := ⟨[], .nil⟩

instance : EmptyCollection (Dict κ α) := ⟨empty⟩
instance : Inhabited (Dict κ α) := ⟨empty⟩

theorem lt_of_not_lt_of_ne {a b : κ} (h : ¬ a < b) (hne : a ≠ b) : b < a :=
  (Key.lt_trichotomy a b).resolve_left h |>.resolve_left hne

section Changes

variable [DecidableEq κ]

/-- Writes the pair at its place in the order, over an earlier one of the same name. -/
def insertEntry (k : κ) (a : α) : List (κ × α) → List (κ × α)
  | [] => [(k, a)]
  | (x, b) :: l =>
    if k < x then (k, a) :: (x, b) :: l
    else if k = x then (k, a) :: l
    else (x, b) :: insertEntry k a l

theorem mem_insertEntry {k : κ} {a : α} {p : κ × α} {l : List (κ × α)}
    (h : p ∈ insertEntry k a l) : p.1 = k ∨ p ∈ l := by
  induction l with
  | nil => simp only [insertEntry, List.mem_singleton] at h; simp [h]
  | cons hd l ih =>
    obtain ⟨x, b⟩ := hd
    simp only [insertEntry] at h
    split at h
    · rcases List.mem_cons.1 h with h | h <;> simp [h]
    · split at h
      · rcases List.mem_cons.1 h with h | h <;> simp [h]
      · rcases List.mem_cons.1 h with h | h
        · simp [h]
        · rcases ih h with h | h <;> simp [h]

theorem perm_insertEntry {k : κ} {a : α} {l : List (κ × α)} (h : k ∉ l.map Prod.fst) :
    (insertEntry k a l).Perm ((k, a) :: l) := by
  induction l with
  | nil => exact .refl _
  | cons p l ih =>
    obtain ⟨x, b⟩ := p
    rw [List.map_cons, List.mem_cons, not_or] at h
    rw [insertEntry]
    split
    · exact .refl _
    · rw [if_neg h.1]
      exact ((ih h.2).cons (x, b)).trans (.swap (k, a) (x, b) l)

theorem inOrder_insertEntry (k : κ) (a : α) {l : List (κ × α)} (h : InOrder l) :
    InOrder (insertEntry k a l) := by
  induction l with
  | nil => simp [insertEntry, InOrder]
  | cons hd l ih =>
    obtain ⟨x, b⟩ := hd
    have hx := List.pairwise_cons.1 h
    simp only [insertEntry]
    split
    · rename_i hk
      refine List.pairwise_cons.2 ⟨fun p hp => ?_, h⟩
      rcases List.mem_cons.1 hp with rfl | hp
      · exact hk
      · exact Key.lt_trans hk (hx.1 p hp)
    · split
      · rename_i hk
        subst hk
        exact List.pairwise_cons.2 hx
      · rename_i hk hne
        refine List.pairwise_cons.2 ⟨fun p hp => ?_, ih hx.2⟩
        rcases mem_insertEntry hp with hp | hp
        · simpa [hp] using lt_of_not_lt_of_ne hk hne
        · exact hx.1 p hp

def insert (d : Dict κ α) (k : κ) (a : α) : Dict κ α :=
  ⟨insertEntry k a d.entries, inOrder_insertEntry k a d.inOrder⟩

def erase (d : Dict κ α) (k : κ) : Dict κ α :=
  ⟨d.entries.filter (·.1 != k), d.inOrder.filter _⟩

def get? (d : Dict κ α) (k : κ) : Option α := lookup k d.entries

def contains (d : Dict κ α) (k : κ) : Bool := (d.get? k).isSome

def isEmpty (d : Dict κ α) : Bool := d.entries.isEmpty

def size (d : Dict κ α) : Nat := d.entries.length

def keys (d : Dict κ α) : List κ := d.entries.map Prod.fst

/-- Later pairs win. -/
def insertAll (d : Dict κ α) (l : List (κ × α)) : Dict κ α :=
  l.foldl (fun d p => d.insert p.1 p.2) d

def ofList (l : List (κ × α)) : Dict κ α := insertAll empty l

/-- The pairs of `e` win. -/
def union (d e : Dict κ α) : Dict κ α := d.insertAll e.entries

def mapValues (f : α → β) (d : Dict κ α) : Dict κ β :=
  ⟨d.entries.map fun p => (p.1, f p.2), List.pairwise_map.2 d.inOrder⟩

/-! ### Look-ups -/

theorem lookup_insertEntry (k k' : κ) (a : α) (l : List (κ × α)) :
    lookup k' (insertEntry k a l) = if k' = k then some a else lookup k' l := by
  induction l with
  | nil => simp [insertEntry, lookup]
  | cons hd l ih =>
    obtain ⟨x, b⟩ := hd
    simp only [insertEntry]
    split
    · simp [lookup]
    · split
      · rename_i hx
        subst hx
        simp only [lookup]
        split <;> rfl
      · rename_i hne
        simp only [lookup, ih]
        by_cases h : k' = x
        · subst h
          simp [Ne.symm hne]
        · simp [h]

theorem mem_keys {d : Dict κ α} {k : κ} : k ∈ d.keys ↔ d.contains k = true :=
  lookup_isSome_iff.symm

@[simp] theorem get?_empty (k : κ) : (empty : Dict κ α).get? k = none := rfl

theorem get?_insert (d : Dict κ α) (k k' : κ) (a : α) :
    (d.insert k a).get? k' = if k' = k then some a else d.get? k' :=
  lookup_insertEntry k k' a d.entries

@[simp] theorem get?_insert_self (d : Dict κ α) (k : κ) (a : α) :
    (d.insert k a).get? k = some a := by
  simp [get?_insert]

theorem get?_erase (d : Dict κ α) (k k' : κ) :
    (d.erase k).get? k' = if k' = k then none else d.get? k' :=
  lookup_filter_ne k k' d.entries

theorem lookup_eq_none_of_lt {k : κ} {l : List (κ × α)} (h : ∀ p ∈ l, k < p.1) :
    lookup k l = none := by
  induction l with
  | nil => rfl
  | cons p l ih =>
    have hp : k ≠ p.1 := fun e => Key.lt_irrefl k (by simpa [← e] using h p (by simp))
    simp only [lookup, hp, if_false]
    exact ih fun q hq => h q (by simp [hq])

theorem eq_of_lookup_eq {l m : List (κ × α)} (hl : InOrder l) (hm : InOrder m)
    (h : ∀ k, lookup k l = lookup k m) : l = m := by
  induction l generalizing m with
  | nil =>
    cases m with
    | nil => rfl
    | cons p m => simpa [lookup] using h p.1
  | cons p l ih =>
    cases m with
    | nil => simpa [lookup] using h p.1
    | cons q m =>
      have hl' := List.pairwise_cons.1 hl
      have hm' := List.pairwise_cons.1 hm
      have hp := h p.1
      have hq := h q.1
      simp only [lookup, if_true] at hp hq
      have hkey : p.1 = q.1 := by
        rcases Key.lt_trichotomy p.1 q.1 with hlt | heq | hlt
        · have hne : p.1 ≠ q.1 := fun e => Key.lt_irrefl p.1 (by rw [← e] at hlt; exact hlt)
          have := lookup_eq_none_of_lt fun r hr => Key.lt_trans hlt (hm'.1 r hr)
          simp [hne, this] at hp
        · exact heq
        · have hne : q.1 ≠ p.1 := fun e => Key.lt_irrefl q.1 (by rw [← e] at hlt; exact hlt)
          have := lookup_eq_none_of_lt fun r hr => Key.lt_trans hlt (hl'.1 r hr)
          simp [hne, this] at hq
      have hval : p.2 = q.2 := by simpa [hkey] using hp
      have hpq : p = q := Prod.ext hkey hval
      subst hpq
      refine congrArg (p :: ·) (ih hl'.2 hm'.2 fun k => ?_)
      by_cases hk : k = p.1
      · subst hk
        rw [lookup_eq_none_of_lt hl'.1, lookup_eq_none_of_lt hm'.1]
      · simpa [lookup, hk] using h k

/-- Every entry is found under its key. -/
theorem get?_of_mem {d : Dict κ α} {p : κ × α} (h : p ∈ d.entries) : d.get? p.1 = some p.2 := by
  obtain ⟨l, hl⟩ := d
  change lookup p.1 l = some p.2
  induction l with
  | nil => cases h
  | cons q l ih =>
    rw [lookup]
    rcases List.mem_cons.1 h with rfl | h
    · rw [if_pos rfl]
    · have hlt : q.1 < p.1 := (List.pairwise_cons.1 hl).1 p h
      have hne : p.1 ≠ q.1 := fun heq => Key.lt_irrefl q.1 (by rwa [heq] at hlt)
      rw [if_neg hne]
      exact ih (List.pairwise_cons.1 hl).2 h

theorem size_erase_lt {d : Dict κ α} {k : κ} (h : d.contains k = true) :
    (d.erase k).size < d.size := by
  obtain ⟨p, hp, hpk⟩ := mem_of_lookup_isSome h
  exact List.length_filter_lt_length_iff_exists.2 ⟨p, hp, by simp [hpk]⟩

theorem size_insert_le (d : Dict κ α) (k : κ) (a : α) : (d.insert k a).size ≤ d.size + 1 := by
  change (insertEntry k a d.entries).length ≤ d.entries.length + 1
  generalize d.entries = l
  induction l with
  | nil => exact Nat.le_refl _
  | cons p l ih =>
    rw [insertEntry]
    split
    · exact Nat.le_refl _
    · split
      · exact Nat.le_succ _
      · exact Nat.succ_le_succ ih

/-- Writing over a pair what stands there already changes nothing. -/
theorem insert_of_get? {d : Dict κ α} {k : κ} {a : α} (h : d.get? k = some a) :
    d.insert k a = d := by
  refine ext (eq_of_lookup_eq (d.insert k a).inOrder d.inOrder fun k' => ?_)
  change (d.insert k a).get? k' = d.get? k'
  rw [get?_insert]
  split
  · rename_i hk
    rw [hk, h]
  · rfl

theorem ext_get? {d e : Dict κ α} (h : ∀ k, d.get? k = e.get? k) : d = e :=
  ext (eq_of_lookup_eq d.inOrder e.inOrder h)

theorem get?_insertAll (d : Dict κ α) (l : List (κ × α)) (hl : InOrder l) (k : κ) :
    (d.insertAll l).get? k = (lookup k l).or (d.get? k) := by
  induction l generalizing d with
  | nil => simp [insertAll, lookup]
  | cons p l ih =>
    have hp := List.pairwise_cons.1 hl
    show ((d.insert p.1 p.2).insertAll l).get? k = _
    rw [ih _ hp.2, get?_insert, lookup]
    by_cases h : k = p.1
    · subst h
      simp [lookup_eq_none_of_lt hp.1]
    · simp [h]

theorem get?_union (d e : Dict κ α) (k : κ) :
    (d.union e).get? k = (e.get? k).or (d.get? k) :=
  get?_insertAll d e.entries e.inOrder k

/-- Writing the pairs of a map out and reading them back gives the map. -/
theorem ofList_entries (d : Dict κ α) : ofList d.entries = d :=
  ext_get? fun k => by
    rw [ofList, get?_insertAll _ _ d.inOrder, get?_empty, Option.or_none, get?]

end Changes

end Dict

end Workflow
