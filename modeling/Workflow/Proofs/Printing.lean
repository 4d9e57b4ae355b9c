import Workflow.Definition.Reader
import Workflow.Proofs.WholeMinutes

/-!
Definitions written as YAML and parsed again. A text is written in a style in which it reads as a text,
and a whole number as one (`Yaml.written`), so that a definition comes back whenever the text layer
gives the scalars, lists and mappings back that were written (`Yaml.ReadsBack`).
-/
namespace Workflow

/-! ### Whole numbers -/

namespace Yaml

/-- Only zero has a first digit of zero. -/
theorem head?_toDigits {n : Nat} (h : n ≠ 0) : (Nat.toDigits 10 n).head? ≠ some '0' := by
  induction n using Nat.base_induction 10 (by decide) with
  | single m hm =>
    rw [Nat.toDigits_of_lt_base hm, List.head?_cons]
    revert m
    decide
  | digit m k hk hm ih =>
    rw [← Nat.toDigits_append_toDigits (by decide) hm hk, List.head?_append_of_ne_nil]
    · exact ih (Nat.ne_of_gt hm)
    · exact Nat.toDigits_ne_nil

section Digits

variable {cs : List Char} (h : ∀ c ∈ cs, c.isDigit = true)
include h

theorem foldlM_digitIn (n : Nat) :
    cs.foldlM (fun n c => (digitIn 10 c).map fun d => n * 10 + d) n =
      some (Nat.ofDigitChars 10 cs n) := by
  induction cs generalizing n with
  | nil => rfl
  | cons c cs ih =>
    have hc : digitIn 10 c = some (c.toNat - '0'.toNat) := by
      have hdigit := h c List.mem_cons_self
      have hhigh : c.toNat ≤ '9'.toNat := (Char.isDigit_iff_toNat.1 hdigit).2
      rw [digitIn, hexDigit?, if_pos hdigit, Option.filter_some, if_pos]
      simp only [Char.reduceToNat, decide_eq_true_eq] at hhigh ⊢
      omega
    rw [List.foldlM_cons, hc, Nat.ofDigitChars_cons, Nat.mul_comm 10 n]
    exact ih (fun d hd => h d (List.mem_cons_of_mem _ hd)) _

theorem withoutPlus_of_digits : withoutPlus cs = cs := by
  unfold withoutPlus
  split
  · cases h '+' List.mem_cons_self
  · rfl

theorem prefixed?_of_digits : prefixed? cs = none := by
  unfold prefixed?
  split
  · cases h 'x' (by simp)
  · cases h 'o' (by simp)
  · cases h 'b' (by simp)
  · rfl

end Digits

theorem toList_intText (n : Nat) : (Decimal.intText n).toList = Nat.toDigits 10 n := Nat.toList_repr

theorem natural?_intText (n : Nat) : natural? (Decimal.intText n) = some n := by
  have hdigits : ∀ c ∈ Nat.toDigits 10 n, c.isDigit = true := fun c hc =>
    Nat.isDigit_of_mem_toDigits (by decide) (by decide) hc
  have hpadded : isPaddedNumber (Nat.toDigits 10 n) = false := by
    by_cases hn : n = 0
    · subst hn
      rfl
    · have hhead := head?_toDigits hn
      unfold isPaddedNumber
      split
      · rename_i heq
        rw [heq] at hhead
        exact absurd rfl hhead
      · rfl
  have hempty : (Nat.toDigits 10 n).isEmpty = false := List.isEmpty_eq_false_iff.2 Nat.toDigits_ne_nil
  rw [natural?, toList_intText]
  simp only [withoutPlus_of_digits hdigits, prefixed?_of_digits hdigits, hpadded, digitsIn, hempty,
    foldlM_digitIn hdigits, Nat.ofDigitChars_ten_toDigits]
  rfl

/-- A text of digits is none with anything else in it. -/
theorem intText_ne {n : Nat} {t : String} (ht : t.toList.any (fun c => !c.isDigit) = true) :
    Decimal.intText n ≠ t := by
  rintro rfl
  obtain ⟨c, hc, hdigit⟩ := List.any_eq_true.1 ht
  rw [toList_intText] at hc
  rw [Nat.isDigit_of_mem_toDigits (by decide) (by decide) hc] at hdigit
  cases hdigit

theorem isEmpty_or_isNull_intText (n : Nat) :
    ((Decimal.intText n).isEmpty || isNull (Decimal.intText n)) = false := by
  have hempty : Decimal.intText n ≠ "" := fun h => by
    have hlist := toList_intText n
    rw [h] at hlist
    exact Nat.toDigits_ne_nil hlist.symm
  have htilde : Decimal.intText n ≠ "~" := intText_ne rfl
  have hlower : Decimal.intText n ≠ "null" := intText_ne rfl
  have htitle : Decimal.intText n ≠ "Null" := intText_ne rfl
  have hupper : Decimal.intText n ≠ "NULL" := intText_ne rfl
  simp [isNull, hempty, htilde, hlower, htitle, hupper]

theorem plainValue_intText {n : Nat} (h : n < UInt64.size) :
    plainValue (Decimal.intText n) = some (.number (.int n)) := by
  have hbool : bool? (Decimal.intText n) = none := by
    unfold bool?
    split
    case h_7 => rfl
    all_goals exact absurd ‹Decimal.intText n = _› (intText_ne rfl)
  have hinteger : integer? (Decimal.intText n) = some (some (n : Int)) := by
    rw [integer?, natural?_intText]
    exact if_pos h
  rw [plainValue, isEmpty_or_isNull_intText, hbool, hinteger]
  rfl

/-! ### Texts -/

theorem plainValue_text {s t : String} (h : plainValue s = some (.text t)) :
    t = s ∧ (s.isEmpty || isNull s) = false := by
  unfold plainValue at h
  split at h
  · cases h
  · rename_i hnull
    refine ⟨?_, Bool.eq_false_iff.2 hnull⟩
    split at h
    · cases h
    · obtain ⟨n, -, hn⟩ := Option.map_eq_some_iff.1 h
      cases hn
    · split at h
      · cases h
        rfl
      · split at h
        · cases h
        · cases h
          rfl

/-- A text that is written plain reads as a text. -/
theorem plainValue_of_styleOf {s : String} (h : styleOf s = .plain) : plainValue s = some (.text s) := by
  have hreads : readsAsText s = true := by
    simp only [styleOf] at h
    split at h
    · split at h <;> cases h
    · split at h
      · rename_i hplain
        exact (Bool.and_eq_true_iff.1 hplain).1
      · split at h <;> cases h
  unfold readsAsText at hreads
  split at hreads
  · rename_i t ht
    rw [ht, (plainValue_text ht).1]
  · cases hreads

/-! ### Documents -/

/-- How a scalar is read that was written as a text or as a whole number of 64 bits. -/
def writtenLeaf : Scalar → Leaf
  | .text s => leaf none s (styleOf s)
  | .number (.int n) =>
    if 0 ≤ n ∧ n < UInt64.size then leaf none (Decimal.intText n) .plain
    else .ofScalar (.number (.int n))
  | s => .ofScalar s

theorem leaf_intText {n : Nat} (h : n < UInt64.size) : leaf none (Decimal.intText n) .plain =
    ⟨some (.number (.int n)), some (Decimal.intText n), some n, some false, false⟩ := by
  have hnull := isEmpty_or_isNull_intText n
  simp only [leaf, ownValue, plainValue_intText h, natural?_intText, hnull]
  rw [Bool.or_eq_false_iff] at hnull
  simp [hnull.1]

theorem writtenLeaf_text (s : String) : (writtenLeaf (.text s)).value = some (.text s) ∧
    (writtenLeaf (.text s)).absent = some false := by
  simp only [writtenLeaf, leaf, ownValue]
  by_cases h : styleOf s = .plain
  · have hplain := plainValue_of_styleOf h
    simp [h, hplain, (plainValue_text hplain).2]
  · simp [h]

theorem writtenLeaf_int (n : Int) :
    (writtenLeaf (.number (.int n))).value = some (.number (.int n)) ∧
      (writtenLeaf (.number (.int n))).absent = some false ∧
      ∀ k : Nat, n = k → (writtenLeaf (.number (.int n))).natural = some k := by
  rw [writtenLeaf]
  split
  · rename_i hn
    obtain ⟨m, rfl⟩ := Int.eq_ofNat_of_zero_le hn.1
    rw [leaf_intText (Int.ofNat_lt.1 hn.2)]
    exact ⟨rfl, rfl, fun k hk => congrArg some (Int.ofNat_inj.1 hk)⟩
  · refine ⟨rfl, rfl, fun k hk => ?_⟩
    subst hk
    exact Presentation.typed.natural k

def written : Presentation where
  leaf := writtenLeaf
  positional := false
  value
    | .text s => (writtenLeaf_text s).1
    | .number (.int n) => (writtenLeaf_int n).1
    | .number (.double _) | .null | .bool _ => rfl
  absent
    | .text s => (writtenLeaf_text s).2
    | .number (.int n) => (writtenLeaf_int n).2.1
    | .number (.double _) | .null | .bool _ => rfl
  text _ := rfl
  natural n := (writtenLeaf_int n).2.2 n rfl

/-! ### Trees -/

def scalarTree : Scalar → Tree
  | .text s => .scalar none s (styleOf s)
  | .number (.int n) => .scalar none (Decimal.intText n) .plain
  | .number (.double x) => .scalar none (Decimal.Layout.standard.write x) .plain
  | .bool b => .scalar none (if b then "true" else "false") .plain
  | .null => .scalar none "null" .plain

mutual

/-- The scalars, lists and mappings that are written for a value. -/
def treeOf : Value → Tree
  | .null => scalarTree .null
  | .bool b => scalarTree (.bool b)
  | .number n => scalarTree (.number n)
  | .string s => scalarTree (.text s)
  | .array items => .sequence none (treeItems items)
  | .object fields => .mapping none (treeFields fields)

def treeItems : List Value → List Tree
  | [] => []
  | v :: vs => treeOf v :: treeItems vs

def treeFields : List (String × Value) → List (Tree × Tree)
  | [] => []
  | (k, v) :: fs => (scalarTree (.text k), treeOf v) :: treeFields fs

end

mutual

def Tree.decEq : (t u : Tree) → Decidable (t = u)
  | .scalar tag s style, .scalar tag' s' style' =>
    if h : tag = tag' ∧ s = s' ∧ style = style' then isTrue (by simp [h]) else isFalse (by simpa using h)
  | .sequence tag items, .sequence tag' items' =>
    match Tree.decEqItems items items' with
    | isTrue h => if h' : tag = tag' then isTrue (by rw [h, h']) else isFalse (by simp [h'])
    | isFalse h => isFalse (by simp [h])
  | .mapping tag pairs, .mapping tag' pairs' =>
    match Tree.decEqPairs pairs pairs' with
    | isTrue h => if h' : tag = tag' then isTrue (by rw [h, h']) else isFalse (by simp [h'])
    | isFalse h => isFalse (by simp [h])
  | .loop, .loop => isTrue rfl
  | .scalar _ _ _, .sequence _ _ | .scalar _ _ _, .mapping _ _ | .scalar _ _ _, .loop
  | .sequence _ _, .scalar _ _ _ | .sequence _ _, .mapping _ _ | .sequence _ _, .loop
  | .mapping _ _, .scalar _ _ _ | .mapping _ _, .sequence _ _ | .mapping _ _, .loop
  | .loop, .scalar _ _ _ | .loop, .sequence _ _ | .loop, .mapping _ _ => isFalse (by simp)

def Tree.decEqItems : (l m : List Tree) → Decidable (l = m)
  | [], [] => isTrue rfl
  | t :: l, u :: m =>
    match Tree.decEq t u, Tree.decEqItems l m with
    | isTrue h, isTrue h' => isTrue (by rw [h, h'])
    | isFalse h, _ => isFalse (by simp [h])
    | _, isFalse h => isFalse (by simp [h])
  | [], _ :: _ | _ :: _, [] => isFalse (by simp)

def Tree.decEqPairs : (l m : List (Tree × Tree)) → Decidable (l = m)
  | [], [] => isTrue rfl
  | (k, t) :: l, (k', u) :: m =>
    match Tree.decEq k k', Tree.decEq t u, Tree.decEqPairs l m with
    | isTrue h, isTrue h', isTrue h'' => isTrue (by rw [h, h', h''])
    | isFalse h, _, _ => isFalse (by simp [h])
    | _, isFalse h, _ => isFalse (by simp [h])
    | _, _, isFalse h => isFalse (by simp [h])
  | [], _ :: _ | _ :: _, [] => isFalse (by simp)

end

instance : DecidableEq Tree := Tree.decEq

/-- The text layer gives back what it was given to write. -/
def ReadsBack (v : Value) : Prop := Tree.ofText? (write v) = some (treeOf v)

instance (v : Value) : Decidable (ReadsBack v) := inferInstanceAs (Decidable (_ = _))

end Yaml

/-! ### Values of definitions -/

mutual

/-- Made of texts and of whole numbers of 64 bits. -/
def Value.Simple : Value → Prop
  | .string _ => True
  | .number (.int n) => 0 ≤ n ∧ n < UInt64.size
  | .array items => simpleItems items
  | .object fields => simpleFields fields
  | _ => False

def Value.simpleItems : List Value → Prop
  | [] => True
  | v :: vs => v.Simple ∧ simpleItems vs

def Value.simpleFields : List (String × Value) → Prop
  | [] => True
  | (_, v) :: fs => v.Simple ∧ simpleFields fs

end

namespace Value

theorem simpleItems_map {α : Type} {write : α → Value} (h : ∀ a, (write a).Simple) (l : List α) :
    simpleItems (l.map write) := by
  induction l with
  | nil => trivial
  | cons a l ih => exact ⟨h a, ih⟩

theorem simpleFields_append {fs gs : List (String × Value)} :
    simpleFields (fs ++ gs) ↔ simpleFields fs ∧ simpleFields gs := by
  induction fs with
  | nil => simp [simpleFields]
  | cons f fs ih => simp only [List.cons_append, simpleFields, ih, and_assoc]

theorem simpleFields_optional {α : Type} {write : α → Value} (name : String)
    (h : ∀ a, (write a).Simple) (o : Option α) : simpleFields (optionalField name write o) := by
  cases o with
  | none => trivial
  | some a => exact ⟨h a, trivial⟩

theorem simpleFields_list {α : Type} {write : α → Value} (name : String)
    (h : ∀ a, (write a).Simple) (l : List α) : simpleFields (listField name write l) := by
  unfold listField
  split
  · trivial
  · exact ⟨simpleItems_map h l, trivial⟩

theorem simple_string (s : String) : (string s).Simple := trivial

theorem simple_wholeNumber {n : Nat} (h : n < UInt64.size) : (wholeNumber n).Simple :=
  ⟨Int.natCast_nonneg n, Int.ofNat_lt.2 h⟩

theorem simple_word32 (n : UInt32) : (wholeNumber n.toNat).Simple :=
  simple_wholeNumber (by have := n.toNat_lt; simp only [UInt64.size]; omega)

end Value

open Value

theorem ReminderParam.simple_toValue (p : ReminderParam) : p.toValue.Simple := by
  have hweekday : ∀ d : UInt8, (Value.number (.int d.toNat)).Simple := fun d =>
    simple_wholeNumber (by have := d.toNat_lt; simp only [UInt64.size]; omega)
  have hworkTime : ∀ w : WorkTime, w.toValue.Simple := fun w => simple_string w.text
  rw [toValue_eq]
  change simpleFields _
  simp only [simpleFields_append]
  exact ⟨⟨⟨trivial, trivial⟩, simpleFields_list _ hweekday _⟩, simpleFields_optional _ hworkTime _⟩

theorem Condition.simple_toValue (c : Condition) : c.toValue.Simple := by
  have hgroup : ∀ g : List String, (Value.array (g.map .string)).Simple := fun g =>
    simpleItems_map simple_string g
  exact simpleItems_map hgroup c.groups

theorem Transition.simple_toValue (t : Transition) : t.toValue.Simple :=
  simpleFields_append.2 ⟨⟨trivial, trivial⟩, simpleFields_optional _ Condition.simple_toValue _⟩

theorem NodeKind.simple_toFields (k : NodeKind) : simpleFields k.toFields := by
  refine ⟨trivial, ?_⟩
  cases k with
  | task assignees taskHandler reminder =>
    exact simpleFields_append.2 ⟨simpleFields_append.2 ⟨simpleFields_list _ simple_string _,
      simpleFields_optional _ simple_string _⟩,
      simpleFields_optional _ ReminderParam.simple_toValue _⟩
  | join expected =>
    exact simpleFields_optional _
      simple_word32 _
  | start | condition | stop => trivial

theorem Node.simple_toValue (n : Node) : n.toValue.Simple := by
  change simpleFields _
  simp only [simpleFields_append]
  exact ⟨⟨⟨⟨⟨trivial, trivial⟩, simpleFields_optional _ simple_string _⟩, n.kind.simple_toFields⟩,
    simpleFields_optional _ simple_string _⟩, simpleFields_list _ Transition.simple_toValue _⟩

theorem Definition.simple_toValue (d : Definition) : d.toValue.Simple := by
  change simpleFields _
  simp only [simpleFields_append]
  exact ⟨⟨⟨⟨⟨⟨trivial, simple_word32 d.version, trivial⟩,
    simpleFields_optional _ simple_string _⟩, simpleFields_optional _ simple_string _⟩,
    simpleItems_map Node.simple_toValue _, trivial⟩,
    simpleFields_optional _ ReminderParam.simple_toValue _⟩,
    simpleFields_optional _ (fun n : UInt64 => simple_wholeNumber n.toNat_lt) _⟩

namespace Yaml

mutual

theorem document_treeOf : (v : Value) → v.Simple → document (treeOf v) = written.document v
  | .string s, _ => rfl
  | .number (.int n), h => by
    have hleaf : writtenLeaf (.number (.int n)) = leaf none (Decimal.intText n) .plain := if_pos h
    rw [Presentation.document, show written.leaf = writtenLeaf from rfl, hleaf]
    rfl
  | .array vs, h => by
    rw [treeOf, document, documents_treeItems vs h, Presentation.document]
    rfl
  | .object fs, h => by
    rw [treeOf, document, documentPairs_treeFields fs h, Presentation.document]
    rfl

theorem documents_treeItems : (vs : List Value) → simpleItems vs →
    documents (treeItems vs) = written.documentItems vs
  | [], _ => rfl
  | v :: vs, h => by
    rw [treeItems, documents, document_treeOf v h.1, documents_treeItems vs h.2]
    rfl

theorem documentPairs_treeFields : (fs : List (String × Value)) → simpleFields fs →
    documentPairs (treeFields fs) = written.documentFields fs
  | [], _ => rfl
  | (k, v) :: fs, h => by
    rw [treeFields, documentPairs, document_treeOf v h.1, documentPairs_treeFields fs h.2]
    rfl

end

end Yaml

namespace Definition

variable {d : Definition}

end Definition

end Workflow
