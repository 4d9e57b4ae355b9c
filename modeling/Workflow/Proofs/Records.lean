import Mathlib.Data.List.Perm.Basic
import Workflow.Instance.Event
import Workflow.Proofs.Encoding
import Workflow.Proofs.Stamps

/-!
Instances, tasks and events read back from the values that they are written as. The fields of a record may
stand as they are written or in the order of their names (`FieldOrder`): a record is read by its members
(`Document.HasMembers`), and what is left out is what its absence stands for.

## Main statements

* `records_read_back`: every record comes back from its value.
-/
namespace Workflow

open Time (Instant)

variable {σ : Type}

/-! ### Members -/

namespace Record

variable {ms : List (String × Option σ)} {fields : List (String × σ)}

theorem defaulting_some {α : Type} (a : α) (read : σ → Option α) (d : σ) :
    defaulting a read (some d) = read d := rfl

/-- The members that are not left out. -/
def present (ms : List (String × Option σ)) : List (String × σ) :=
  ms.filterMap fun m => m.2.map fun a => (m.1, a)

theorem present_cons (m : String × Option σ) (ms : List (String × Option σ)) :
    present (m :: ms) = present [m] ++ present ms := by
  obtain ⟨name, o⟩ := m
  cases o <;> rfl

@[simp] theorem present_nil : present ([] : List (String × Option σ)) = [] := rfl

@[simp] theorem present_some (name : String) (a : σ) (ms : List (String × Option σ)) :
    present ((name, some a) :: ms) = (name, a) :: present ms := rfl

@[simp] theorem present_ite (name : String) (c : Prop) [Decidable c] (a : σ)
    (ms : List (String × Option σ)) : present ((name, if c then none else some a) :: ms) =
      (if c then [] else [(name, a)]) ++ present ms := by
  split <;> rfl

theorem names_present (ms : List (String × Option σ)) :
    ((present ms).map Prod.fst).Sublist (ms.map Prod.fst) := by
  induction ms with
  | nil => exact .slnil
  | cons m ms ih =>
    obtain ⟨name, o⟩ := m
    cases o with
    | none => exact ih.cons name
    | some a => exact ih.cons_cons name

theorem name_of_mem_present {f : String × σ} (h : f ∈ present ms) : f.1 ∈ ms.map Prod.fst :=
  (names_present ms).subset (List.mem_map_of_mem h)

theorem present_map {τ : Type} (g : σ → τ) (ms : List (String × Option σ)) :
    present (ms.map fun m => (m.1, m.2.map g)) = (present ms).map fun f => (f.1, g f.2) := by
  induction ms with
  | nil => rfl
  | cons m ms ih =>
    rw [List.map_cons, present_cons, ih, present_cons m, List.map_append]
    obtain ⟨name, o⟩ := m
    cases o <;> rfl

theorem filter_present (hnodup : (ms.map Prod.fst).Nodup) {m : String × Option σ} (hm : m ∈ ms) :
    (present ms).filter (fun f => [m.1].contains f.1) = present [m] := by
  induction ms with
  | nil => cases hm
  | cons x ms ih =>
    obtain ⟨hx, hnodup⟩ := List.nodup_cons.1 hnodup
    have hname : ∀ f ∈ present [x], f.1 = x.1 := fun f hf => List.mem_singleton.1 (name_of_mem_present hf)
    rw [present_cons, List.filter_append]
    -- names are not repeated, so that one side of the list has all there is under this one
    rcases List.mem_cons.1 hm with rfl | hm
    · have hself : (present [m]).filter (fun f => [m.1].contains f.1) = present [m] :=
        List.filter_eq_self.2 fun f hf => by simp [hname f hf]
      have hnone : (present ms).filter (fun f => [m.1].contains f.1) = [] := by
        refine List.filter_eq_nil_iff.2 fun f hf hfm => hx ?_
        rw [List.contains_iff_mem, List.mem_singleton] at hfm
        exact hfm ▸ name_of_mem_present hf
      rw [hself, hnone, List.append_nil]
    · have hnone : (present [x]).filter (fun f => [m.1].contains f.1) = [] := by
        refine List.filter_eq_nil_iff.2 fun f hf hfm => hx ?_
        rw [List.contains_iff_mem, List.mem_singleton, hname f hf] at hfm
        exact hfm ▸ List.mem_map_of_mem hm
      rw [hnone, List.nil_append, ih hnodup hm]

theorem member_of_perm {m : String × Option σ} (hnodup : (ms.map Prod.fst).Nodup)
    (h : fields.Perm (present ms)) (hm : m ∈ ms) : member [m.1] fields = some m.2 := by
  have hperm := h.filter fun f => [m.1].contains f.1
  rw [filter_present hnodup hm] at hperm
  obtain ⟨name, o⟩ := m
  cases o with
  | none => rw [member, List.perm_nil.1 hperm]
  | some a => rw [member, List.perm_singleton.1 hperm]

/-- In whatever order they come, members are told apart by their names. -/
theorem ofFields_of_perm (hnodup : (ms.map Prod.fst).Nodup) (h : fields.Perm (present ms)) :
    ofFields (ms.map fun m => [m.1]) fields = some (ms.map Prod.snd) := by
  rw [ofFields, List.mapM_map]
  exact mapM_eq_some_map fun m hm => member_of_perm hnodup h hm

end Record

namespace Document

variable {d : Document} {ms : List (String × Option Document)}

/-- Whether a record shows members, in whatever order. -/
def HasMembers (d : Document) (ms : List (String × Option Document)) : Prop :=
  ∃ fields named, d = .record fields ∧ (record fields).fields? = some named ∧
    named.Perm (Record.present ms)

theorem HasMembers.members? (h : d.HasMembers ms) (hnodup : (ms.map Prod.fst).Nodup) :
    d.members? (ms.map fun m => [m.1]) = some (ms.map Prod.snd) := by
  obtain ⟨fields, named, rfl, hfields, hperm⟩ := h
  rw [Document.members?, hfields]
  · exact Record.ofFields_of_perm hnodup hperm
  · rintro _ ⟨⟩
  · rintro _ ⟨⟩

theorem fields?_filter {fields : List (Document × Document)} {named : List (String × Document)}
    (h : (record fields).fields? = some named) (type : String) :
    (record (fields.filter fun f => f.1.text? ≠ some type)).fields? =
      some (named.filter fun f => f.1 ≠ type) := by
  rw [fields?] at h ⊢
  induction fields generalizing named with
  | nil =>
    cases h
    rfl
  | cons f fields ih =>
    rw [List.mapM_cons] at h
    obtain ⟨⟨k, d⟩, hf, h⟩ := Option.bind_eq_some_iff.1 h
    obtain ⟨named, hnamed, h⟩ := Option.bind_eq_some_iff.1 h
    obtain ⟨k', hk, heq⟩ := Option.map_eq_some_iff.1 hf
    cases heq
    cases h
    -- whether a field is dropped depends on its name alone
    by_cases hkt : k = type
    · rw [List.filter_cons_of_neg (by simp [hk, hkt]), List.filter_cons_of_neg (by simp [hkt])]
      exact ih hnamed
    · rw [List.filter_cons_of_pos (by simp [hk, hkt]), List.filter_cons_of_pos (by simp [hkt]),
        List.mapM_cons, ih hnamed, hk]
      rfl

/-- Behind the type of an event stand its other members. -/
theorem HasMembers.tagged? {type : String} {tag : Document} (h : d.HasMembers (("type", some tag) :: ms))
    (hnodup : ((("type", some tag) :: ms).map Prod.fst).Nodup) (htag : tag.text? = some type) :
    ∃ rest, Workflow.tagged? d = some (type, rest) ∧ rest.HasMembers ms := by
  obtain ⟨fields, named, rfl, hfields, hperm⟩ := h
  have htype : Record.member ["type"] named = some (some tag) :=
    Record.member_of_perm hnodup hperm List.mem_cons_self
  have hrest : (Record.present ms).filter (fun f => f.1 ≠ "type") = Record.present ms := by
    refine List.filter_eq_self.2 fun f hf => ?_
    have hne : f.1 ≠ "type" := fun heq =>
      (List.nodup_cons.1 hnodup).1 (heq ▸ Record.name_of_mem_present hf)
    simpa using hne
  have hothers : (Record.present (("type", some tag) :: ms)).filter (fun f => f.1 ≠ "type") =
      Record.present ms := by
    rw [Record.present_cons, List.filter_append, hrest]
    rfl
  refine ⟨_, ?_, _, _, rfl, fields?_filter hfields "type", hothers ▸ hperm.filter _⟩
  simp only [Workflow.tagged?, hfields, htype, Option.bind_eq_bind, Option.bind_some, Record.required,
    htag]

end Document

theorem NameSet.mem_ofList {k : String} {l : List String} : k ∈ ofList l ↔ k ∈ l := by
  have hall : ∀ s : NameSet, k ∈ l.foldl insert s ↔ k ∈ s ∨ k ∈ l := by
    induction l with
    | nil => simp
    | cons x l ih =>
      intro s
      rw [List.foldl_cons, ih, mem_insert, List.mem_cons]
      tauto
  exact (hall ∅).trans (by simp)

theorem NameSet.ofList_toList (s : NameSet) : ofList s.toList = s :=
  ext fun _ => mem_ofList.trans mem_toList

/-! ### Orders of fields -/

namespace Dict

theorem perm_insertAll {d : Dict String σ} {l : List (String × σ)}
    (h : ((d.entries ++ l).map Prod.fst).Nodup) : (d.insertAll l).entries.Perm (d.entries ++ l) := by
  induction l generalizing d with
  | nil =>
    rw [List.append_nil]
    exact .refl _
  | cons p l ih =>
    have hmiddle : (d.entries ++ p :: l).Perm (p :: (d.entries ++ l)) := List.perm_middle
    have hnodup := (hmiddle.map Prod.fst).nodup_iff.1 h
    have hp : p.1 ∉ d.entries.map Prod.fst := fun hmem => by
      obtain ⟨q, hq, heq⟩ := List.mem_map.1 hmem
      exact (List.nodup_cons.1 hnodup).1 (List.mem_map.2 ⟨q, List.mem_append_left l hq, heq⟩)
    have hinsert : (d.insert p.1 p.2).entries.Perm (p :: d.entries) := perm_insertEntry hp
    have hrest := hinsert.append_right l
    exact (ih ((hrest.map Prod.fst).nodup_iff.2 hnodup)).trans (hrest.trans hmiddle.symm)

/-- With distinct names all pairs are kept. -/
theorem perm_ofList {l : List (String × σ)} (h : (l.map Prod.fst).Nodup) : (ofList l).entries.Perm l :=
  perm_insertAll (d := empty) h

end Dict

namespace Value

mutual

/-- A value that is taken as it stands comes out in the order of its names. -/
theorem value?_ofValue : (v : Value) → (Document.ofValue v).value? = some v.inKeyOrder
  | .null | .bool _ | .number _ | .string _ => rfl
  | .array vs => by
    rw [Document.ofValue, Document.value?, itemValues?_ofItems, inKeyOrder]
    rfl
  | .object fs => by
    rw [Document.ofValue, Document.value?, fieldValues?_ofFields, inKeyOrder]
    rfl

theorem itemValues?_ofItems :
    (vs : List Value) → Document.itemValues? (Document.ofItems vs) = some (itemsInKeyOrder vs)
  | [] => rfl
  | v :: vs => by
    rw [Document.ofItems, Document.itemValues?, value?_ofValue, itemValues?_ofItems, itemsInKeyOrder]

theorem fieldValues?_ofFields : (fs : List (String × Value)) →
    Document.fieldValues? (Document.ofFields fs) = some (fieldsInKeyOrder fs)
  | [] => rfl
  | (k, v) :: fs => by
    have hk : (Document.leaf (.ofScalar (.text k))).text? = some k := rfl
    rw [Document.ofFields, Document.fieldValues?, hk, value?_ofValue, fieldValues?_ofFields,
      fieldsInKeyOrder]

end

theorem itemsInKeyOrder_eq_map (vs : List Value) : itemsInKeyOrder vs = vs.map inKeyOrder := by
  induction vs with
  | nil => rfl
  | cons v vs ih => rw [itemsInKeyOrder, ih, List.map_cons]

theorem fieldsInKeyOrder_eq_map (fs : List (String × Value)) :
    fieldsInKeyOrder fs = fs.map fun f => (f.1, f.2.inKeyOrder) := by
  induction fs with
  | nil => rfl
  | cons f fs ih => rw [fieldsInKeyOrder, ih, List.map_cons]

theorem inKeyOrder_array {vs : List Value} (h : ∀ v ∈ vs, v.inKeyOrder = v) :
    (array vs).inKeyOrder = array vs := by
  rw [inKeyOrder, itemsInKeyOrder_eq_map, List.map_congr_left h, List.map_id']

theorem inKeyOrder_object {fs : List (String × Value)} (horder : InOrder fs)
    (h : ∀ f ∈ fs, f.2.inKeyOrder = f.2) : (object fs).inKeyOrder = object fs := by
  have hfs : fs.map (fun f => (f.1, f.2.inKeyOrder)) = fs := by
    have hsame : ∀ f ∈ fs, (f.1, f.2.inKeyOrder) = f := fun f hf => Prod.ext rfl (h f hf)
    rw [List.map_congr_left hsame, List.map_id']
  have hentries : (Dict.ofList fs).entries = fs :=
    congrArg Dict.entries (Dict.ofList_entries ⟨fs, horder⟩)
  rw [inKeyOrder, fieldsInKeyOrder_eq_map, hfs, ofFields, hentries]

theorem inKeyOrder_present {ms : List (String × Option Value)}
    (hnames : (ms.map Prod.fst).Pairwise (· < ·))
    (h : ∀ m ∈ ms, ∀ v, m.2 = some v → v.inKeyOrder = v) :
    (object (Record.present ms)).inKeyOrder = object (Record.present ms) := by
  refine inKeyOrder_object (List.pairwise_map.1 (hnames.sublist (Record.names_present ms))) fun f hf => ?_
  obtain ⟨m, hm, hf⟩ := List.mem_filterMap.1 hf
  obtain ⟨v, hv, rfl⟩ := Option.map_eq_some_iff.1 hf
  exact h m hm v hv

end Value

/-- The order in which the fields of records stand. -/
inductive FieldOrder where
  | declared
  | byName
deriving DecidableEq, Repr

namespace FieldOrder

variable (o : FieldOrder)

def arrange : FieldOrder → Value → Value
  | declared, v => v
  | byName, v => v.inKeyOrder

def document (v : Value) : Document := .ofValue (o.arrange v)

theorem document_of_inKeyOrder {v : Value} (h : v.inKeyOrder = v) : o.document v = .ofValue v := by
  cases o with
  | declared => rfl
  | byName => rw [document, arrange, h]

theorem arrange_object {fs : List (String × Value)} (hnodup : (fs.map Prod.fst).Nodup) :
    ∃ gs, o.arrange (.object fs) = .object gs ∧ gs.Perm (fs.map fun f => (f.1, o.arrange f.2)) := by
  cases o with
  | declared => exact ⟨fs, rfl, by simp [arrange]⟩
  | byName =>
    refine ⟨_, by rw [arrange, Value.inKeyOrder]; rfl, ?_⟩
    rw [Value.fieldsInKeyOrder_eq_map]
    exact Dict.perm_ofList (by rwa [List.map_map])

theorem fields?_ofFields (fs : List (String × Value)) : (Document.record (Document.ofFields fs)).fields? =
    some (fs.map fun f => (f.1, Document.ofValue f.2)) := by
  have htyped := Presentation.typed.fields?_document fs
  simp only [Presentation.document_typed, Presentation.documented] at htyped
  rwa [Document.ofValue] at htyped

/-- A record shows its members in either order. -/
theorem hasMembers {ms : List (String × Option Value)} (hnodup : (ms.map Prod.fst).Nodup) :
    (o.document (.object (Record.present ms))).HasMembers
      (ms.map fun m => (m.1, m.2.map o.document)) := by
  obtain ⟨gs, harrange, hperm⟩ := o.arrange_object ((Record.names_present ms).nodup hnodup)
  refine ⟨_, _, by rw [document, harrange, Document.ofValue], fields?_ofFields gs, ?_⟩
  rw [Record.present_map]
  have hmap := hperm.map fun f => (f.1, Document.ofValue f.2)
  rwa [List.map_map] at hmap

theorem members?_document (names : List (List String)) (ms : List (String × Option Value))
    (hnames : names = ms.map fun m => [m.1]) (hnodup : (ms.map Prod.fst).Nodup) :
    (o.document (.object (Record.present ms))).members? names =
      some (ms.map fun m => m.2.map o.document) := by
  have hread := (o.hasMembers hnodup).members? (by rwa [List.map_map])
  rw [List.map_map, List.map_map] at hread
  rw [hnames]
  exact hread

@[simp] theorem text?_document (s : String) : (o.document (.string s)).text? = some s := by
  rw [o.document_of_inKeyOrder rfl]
  rfl

/-- The type of an event, and its other members. -/
theorem tagged?_document (type : String) (ms : List (String × Option Value))
    (hnodup : ("type" :: ms.map Prod.fst).Nodup) :
    ∃ rest, tagged? (o.document (.object (Record.present (("type", some (.string type)) :: ms)))) =
        some (type, rest) ∧
      rest.members? (ms.map fun m => [m.1]) = some (ms.map fun m => m.2.map o.document) := by
  have hshown := o.hasMembers
    (show ((("type", some (.string type)) :: ms).map Prod.fst).Nodup from hnodup)
  have hnames : (ms.map fun m => (m.1, m.2.map o.document)).map Prod.fst = ms.map Prod.fst :=
    List.map_map ..
  obtain ⟨rest, htagged, hrest⟩ := hshown.tagged? (by rwa [List.map_cons, hnames]) (o.text?_document type)
  have hread := hrest.members? (by rw [hnames]; exact (List.nodup_cons.1 hnodup).2)
  rw [List.map_map, List.map_map] at hread
  exact ⟨rest, htagged, hread⟩

theorem isAbsent?_string (s : String) : (o.document (.string s)).isAbsent? = some false := by
  cases o <;> rfl

theorem isAbsent?_object (fs : List (String × Value)) :
    (o.document (.object fs)).isAbsent? = some false := by
  cases o <;> rfl

@[simp] theorem word32?_document (n : UInt32) : (o.document (wholeNumber n.toNat)).word32? = some n := by
  rw [o.document_of_inKeyOrder rfl, ← Presentation.document_typed, Presentation.word32?_document]

@[simp] theorem word64?_document (n : UInt64) : (o.document (wholeNumber n.toNat)).word64? = some n := by
  rw [o.document_of_inKeyOrder rfl, ← Presentation.document_typed, Presentation.word64?_document]

/-- A list without records in it comes back if its items do. -/
theorem list?_document {α : Type} {read : Document → Option α} {write : α → Value} {l : List α}
    (horder : ∀ a, (write a).inKeyOrder = write a) (h : ∀ a, read (o.document (write a)) = some a) :
    (o.document (.array (l.map write))).list? read = some l := by
  have hall : ∀ v ∈ l.map write, v.inKeyOrder = v := by
    intro v hv
    obtain ⟨a, -, rfl⟩ := List.mem_map.1 hv
    exact horder a
  rw [o.document_of_inKeyOrder (Value.inKeyOrder_array hall), ← Presentation.document_typed,
    Presentation.list?_document]
  refine mapM_eq_some_self fun a _ => ?_
  rw [Presentation.document_typed, ← o.document_of_inKeyOrder (horder a), h]

@[simp] theorem texts_document (l : List String) :
    (o.document (.array (l.map .string))).list? Document.text? = some l :=
  o.list?_document (fun _ => rfl) o.text?_document

theorem optional_document {α : Type} {read : Document → Option α} {write : α → Value} {x : Option α}
    (habsent : ∀ a, (o.document (write a)).isAbsent? = some false)
    (h : ∀ a, x = some a → read (o.document (write a)) = some a) :
    Document.optional read ((x.map write).map o.document) = some x := by
  cases x with
  | none => rfl
  | some a =>
    rw [Option.map_some, Option.map_some, Document.optional, habsent, h a rfl]
    rfl

/-- A map that is left out when it is empty. -/
theorem defaulting_document {α : Type} {read : Document → Option (Dict String α)} {d : Dict String α}
    {v : Value} (h : read (o.document v) = some d) :
    Record.defaulting ∅ read ((if d.isEmpty then none else some v).map o.document) = some d := by
  split
  · rename_i hempty
    have hd : d = ∅ := Dict.ext (List.isEmpty_iff.1 hempty)
    rw [hd]
    rfl
  · exact h

end FieldOrder

/-! ### Parts of records -/

variable (o : FieldOrder)

@[simp] theorem Uuid.ofDocument?_document (u : Uuid) : ofDocument? (o.document u.toValue) = some u := by
  rw [ofDocument?, toValue, o.text?_document, Option.bind_some, parse?_text]

/-- Whether the text of an instant is read as that instant. -/
def Time.Instant.ReadsBack (t : Instant) : Prop := parseRelaxed t.text = .ok t

theorem Time.Instant.Regular.readsBack {t : Instant} (h : t.Regular) : t.ReadsBack := parseRelaxed_text h

theorem Time.Instant.ReadsBack.ofDocument?_document {t : Instant} (h : t.ReadsBack) :
    ofDocument? (o.document t.toValue) = some t := by
  rw [ofDocument?, toValue, o.text?_document, Option.bind_some, h]
  rfl

/-- An instant that may be left out. -/
theorem FieldOrder.optionalInstant_document {x : Option Instant} (h : ∀ t, x = some t → t.ReadsBack) :
    Document.optional Instant.ofDocument? ((x.map Instant.toValue).map o.document) = some x :=
  o.optional_document (fun _ => o.isAbsent?_string _) fun t ht => (h t ht).ofDocument?_document o

@[simp] theorem InstanceState.ofDocument?_document (s : InstanceState) :
    ofDocument? (o.document s.toValue) = some s := by
  rw [toValue, o.document_of_inKeyOrder rfl]
  exact ofName?_text s

@[simp] theorem TaskState.ofDocument?_document (s : TaskState) :
    ofDocument? (o.document s.toValue) = some s := by
  rw [toValue, o.document_of_inKeyOrder rfl]
  exact ofName?_text s

/-- A map comes back if its values do. -/
theorem dict?_ofValue {α : Type} {read : Document → Option α} {write : α → Value} {d : Dict String α}
    (h : ∀ p ∈ d.entries, read (.ofValue (write p.2)) = some p.2) :
    (Document.ofValue (.object (d.mapValues write).entries)).dict? read = some d := by
  rw [Document.ofValue, Document.dict?, FieldOrder.fields?_ofFields]
  have hentries : ((d.mapValues write).entries.map fun f => (f.1, Document.ofValue f.2)).mapM
      (fun f => (read f.2).map fun a => (f.1, a)) = some d.entries := by
    rw [Dict.mapValues, List.map_map, List.mapM_map]
    refine mapM_eq_some_self fun p hp => ?_
    simp only [Function.comp_apply, h p hp, Option.map_some]
  rw [Option.bind_eq_bind, Option.bind_some, hentries, Option.bind_eq_bind, Option.bind_some,
    Dict.ofList_entries]

/-- Whether the fields of all objects in the variables are in the order of their names. -/
def Variables.InKeyOrder (vars : Variables) : Prop := ∀ p ∈ vars.entries, p.2.inKeyOrder = p.2

instance (vars : Variables) : Decidable vars.InKeyOrder :=
  inferInstanceAs (Decidable (∀ p ∈ vars.entries, p.2.inKeyOrder = p.2))

theorem Variables.InKeyOrder.ofDocument?_document {vars : Variables} (h : vars.InKeyOrder) :
    ofDocument? (o.document (toValue vars)) = some vars := by
  have hentries : toValue vars = .object (vars.mapValues id).entries := by
    rw [toValue, Value.ofVariables, Dict.mapValues]
    exact congrArg Value.object (List.map_id vars.entries).symm
  rw [hentries, o.document_of_inKeyOrder]
  · exact dict?_ofValue fun p hp => (Value.value?_ofValue p.2).trans (congrArg some (h p hp))
  · rw [← hentries]
    exact Value.inKeyOrder_object vars.inOrder h

theorem FieldOrder.arrivals_document (d : Dict String UInt32) :
    (o.document (.object (d.mapValues fun n => wholeNumber n.toNat).entries)).dict? Document.word32? =
      some d := by
  rw [o.document_of_inKeyOrder]
  · refine dict?_ofValue fun p _ => ?_
    rw [← Presentation.document_typed, Presentation.word32?_document]
  · refine Value.inKeyOrder_object (Dict.inOrder _) fun f hf => ?_
    obtain ⟨p, -, rfl⟩ := List.mem_map.1 hf
    rfl

namespace Failure

variable (f : Failure)

def shown : List (String × Option Value) :=
  [("node_ids", some (.array (f.nodes.map .string))), ("message", some (.string f.message)),
    ("at", some f.time.toValue)]

theorem toValue_eq_present : f.toValue = .object (Record.present f.shown) := rfl

variable {f}

theorem ofDocument?_document (h : f.time.ReadsBack) : ofDocument? (o.document f.toValue) = some f := by
  rw [toValue_eq_present, ofDocument?, o.members?_document members f.shown rfl (by simp [shown])]
  simp only [shown, List.map_cons, List.map_nil, Option.map_some, Record.required, Option.bind_eq_bind,
    Option.bind_some, o.texts_document, o.text?_document, h.ofDocument?_document]

end Failure

theorem ReminderParam.inKeyOrder_toValue (p : ReminderParam) : p.toValue.inKeyOrder = p.toValue := by
  have hpresent : p.toValue = .object (Record.present [("cron", some (.string p.cadence)),
      ("weeks", if p.weekdays.isEmpty then none
        else some (.array (p.weekdays.map fun d => .number (.int d.toNat)))),
      ("work_time", p.workTime.map WorkTime.toValue)]) := by
    rw [toValue_eq]
    unfold listField
    cases p.workTime <;> split <;> rfl
  have hweekdays : (Value.array (p.weekdays.map fun d => .number (.int d.toNat))).inKeyOrder =
      .array (p.weekdays.map fun d => .number (.int d.toNat)) :=
    Value.inKeyOrder_array fun v hv => by
      obtain ⟨d, -, rfl⟩ := List.mem_map.1 hv
      rfl
  rw [hpresent]
  -- as they are declared, the names happen to be in order
  refine Value.inKeyOrder_present (show ["cron", "weeks", "work_time"].Pairwise (· < ·) by decide) ?_
  simp only [List.forall_mem_cons, List.not_mem_nil, false_implies, implies_true, and_true]
  refine ⟨fun v hv => ?_, fun v hv => ?_, fun v hv => ?_⟩
  · cases hv
    rfl
  · obtain ⟨-, heq⟩ := Option.ite_none_left_eq_some.1 hv
    cases heq
    exact hweekdays
  · obtain ⟨w, -, rfl⟩ := Option.map_eq_some_iff.1 hv
    rfl

theorem ReminderParam.InWholeMinutes.ofDocument?_document {p : ReminderParam} (h : p.InWholeMinutes) :
    ofDocument? (o.document p.toValue) = some p := by
  rw [o.document_of_inKeyOrder p.inKeyOrder_toValue, ← Presentation.document_typed,
    ReminderParam.ofDocument?_document, h.reread]

/-! ### Records -/

theorem optionalField_append {α : Type} (name : String) (write : α → Value) (x : Option α)
    (ms : List (String × Option Value)) :
    optionalField name write x ++ Record.present ms = Record.present ((name, x.map write) :: ms) := by
  cases x <;> rfl

namespace Instance

variable (i : Instance)

def shown : List (String × Option Value) :=
  [("id", some i.id.toValue), ("definition_id", some (.string i.definitionId)),
    ("definition_version", some (wholeNumber i.definitionVersion.toNat)),
    ("current_nodes", some (.array (i.currentNodes.toList.map .string))),
    ("variables", some (Variables.toValue i.vars)), ("state", some i.state.toValue),
    ("join_arrivals", if i.joinArrivals.isEmpty then none
      else some (.object (i.joinArrivals.mapValues fun n => wholeNumber n.toNat).entries)),
    ("failure", i.failure.map Failure.toValue), ("remind", i.reminder.map ReminderParam.toValue),
    ("deadline", i.deadline.map Instant.toValue), ("created_at", some i.createdAt.toValue),
    ("updated_at", some i.updatedAt.toValue), ("revision", some (wholeNumber i.revision.toNat))]

theorem toValue_eq_present : i.toValue = .object (Record.present i.shown) := by
  simp [toValue, shown, dictField, ← optionalField_append]

/-- What the text of an instance depends on beyond its own form: its instants are read back, its
reminder keeps to whole minutes, and its variables are in order. -/
structure Encodable (i : Instance) : Prop where
  vars : i.vars.InKeyOrder
  failure : ∀ f, i.failure = some f → f.time.ReadsBack
  reminder : ∀ p, i.reminder = some p → p.InWholeMinutes
  deadline : ∀ t, i.deadline = some t → t.ReadsBack
  createdAt : i.createdAt.ReadsBack
  updatedAt : i.updatedAt.ReadsBack

variable {i}

theorem Encodable.ofDocument?_document (h : i.Encodable) :
    ofDocument? (o.document i.toValue) = some i := by
  have hnodes : NameSet.ofList i.currentNodes.toList = i.currentNodes := NameSet.ofList_toList _
  have harrivals := o.defaulting_document (o.arrivals_document i.joinArrivals)
  have hdeadline := o.optionalInstant_document h.deadline
  have hfailure : Document.optional Failure.ofDocument?
      ((i.failure.map Failure.toValue).map o.document) = some i.failure :=
    o.optional_document (fun _ => o.isAbsent?_object _) fun f hf =>
      Failure.ofDocument?_document o (h.failure f hf)
  have hreminder : Document.optional ReminderParam.ofDocument?
      ((i.reminder.map ReminderParam.toValue).map o.document) = some i.reminder :=
    o.optional_document (fun _ => o.isAbsent?_object _) fun p hp =>
      (h.reminder p hp).ofDocument?_document o
  rw [toValue_eq_present, ofDocument?, o.members?_document members i.shown rfl (by simp [shown])]
  simp only [shown, List.map_cons, List.map_nil, Option.map_some, Record.required,
    Record.defaulting_some, Option.bind_eq_bind, Option.bind_some, Uuid.ofDocument?_document,
    o.text?_document, o.word32?_document, o.texts_document, h.vars.ofDocument?_document,
    InstanceState.ofDocument?_document, harrivals, hfailure, hreminder, hdeadline,
    h.createdAt.ofDocument?_document, h.updatedAt.ofDocument?_document, o.word64?_document, hnodes]

end Instance

namespace Task

variable (t : Task)

def shown : List (String × Option Value) :=
  [("id", some t.id.toValue), ("instance_id", some t.instanceId.toValue),
    ("node_id", some (.string t.node)), ("assignees", some (.array (t.assignees.map .string))),
    ("state", some t.state.toValue),
    ("output", if t.output.isEmpty then none else some (Variables.toValue t.output)),
    ("created_at", some t.createdAt.toValue), ("completed_at", t.completedAt.map Instant.toValue)]

theorem toValue_eq_present : t.toValue = .object (Record.present t.shown) := by
  simp [toValue, shown, ← optionalField_append]

structure Encodable (t : Task) : Prop where
  output : t.output.InKeyOrder
  createdAt : t.createdAt.ReadsBack
  completedAt : ∀ s, t.completedAt = some s → s.ReadsBack

variable {t}

theorem Encodable.ofDocument?_document (h : t.Encodable) :
    ofDocument? (o.document t.toValue) = some t := by
  have houtput := o.defaulting_document (h.output.ofDocument?_document o)
  have hcompleted := o.optionalInstant_document h.completedAt
  rw [toValue_eq_present, ofDocument?, o.members?_document members t.shown rfl (by simp [shown])]
  simp only [shown, List.map_cons, List.map_nil, Option.map_some, Record.required, Option.bind_eq_bind,
    Option.bind_some, Uuid.ofDocument?_document, o.text?_document, Record.defaulting_some,
    o.texts_document, TaskState.ofDocument?_document, houtput, h.createdAt.ofDocument?_document, hcompleted]

end Task

/-! ### Events -/

theorem TaskEvent.ofDocument?_document {e : TaskEvent} (h : e.task.Encodable) :
    ofDocument? (o.document e.toValue) = some e := by
  obtain ⟨rest, htagged, hmembers⟩ :=
    o.tagged?_document e.type [("task", some e.task.toValue)] (show ["type", "task"].Nodup by decide)
  have hvalue : e.toValue =
      .object (Record.present [("type", some (.string e.type)), ("task", some e.task.toValue)]) := rfl
  have hread : rest.members? [["task"]] = some [some (o.document e.task.toValue)] := hmembers
  simp only [hvalue, ofDocument?, htagged, hread, Option.bind_eq_bind, Option.bind_some, Record.required,
    h.ofDocument?_document]
  cases e <;> rfl

namespace InstanceEvent

/-- An event of a definition and a time, of whichever type. -/
theorem timed?_document (type : String) (make : Uuid → String → Instant → InstanceEvent) (i : Uuid)
    (d : String) {t : Instant} (h : t.ReadsBack) : ∃ rest,
      tagged? (o.document (.object [("type", .string type), ("instance_id", i.toValue),
        ("definition_id", .string d), ("at", t.toValue)])) = some (type, rest) ∧
      timed? make rest = some (make i d t) := by
  obtain ⟨rest, htagged, hmembers⟩ := o.tagged?_document type
    [("instance_id", some i.toValue), ("definition_id", some (.string d)), ("at", some t.toValue)]
    (show ["type", "instance_id", "definition_id", "at"].Nodup by decide)
  have hread : rest.members? [["instance_id"], ["definition_id"], ["at"]] =
    some [some (o.document i.toValue), some (o.document (.string d)),
      some (o.document t.toValue)] := hmembers
  refine ⟨rest, htagged, ?_⟩
  simp only [timed?, hread, Record.required, Option.bind_eq_bind, Option.bind_some,
    Uuid.ofDocument?_document, o.text?_document, h.ofDocument?_document]

theorem ofDocument?_document {e : InstanceEvent} (h : ∀ t, e.time? = some t → t.ReadsBack) :
    ofDocument? (o.document e.toValue) = some e := by
  rw [ofDocument?]
  cases e with
  | started i d =>
    obtain ⟨rest, htagged, hmembers⟩ := o.tagged?_document "started"
      [("instance_id", some i.toValue), ("definition_id", some (.string d))]
      (show ["type", "instance_id", "definition_id"].Nodup by decide)
    have htagged : tagged? (o.document (started i d).toValue) = some ("started", rest) := htagged
    have hread : rest.members? [["instance_id"], ["definition_id"]] =
      some [some (o.document i.toValue), some (o.document (.string d))] := hmembers
    simp only [htagged, hread, Record.required, Option.bind_eq_bind, Option.bind_some,
      Uuid.ofDocument?_document, o.text?_document]
  | completed i d t =>
    obtain ⟨rest, htagged, htimed⟩ := timed?_document o "completed" completed i d (h t rfl)
    have htagged : tagged? (o.document (completed i d t).toValue) = some ("completed", rest) := htagged
    simp only [htagged, htimed, Option.bind_eq_bind, Option.bind_some]
  | timedOut i d t =>
    obtain ⟨rest, htagged, htimed⟩ := timed?_document o "timed_out" timedOut i d (h t rfl)
    have htagged : tagged? (o.document (timedOut i d t).toValue) = some ("timed_out", rest) := htagged
    simp only [htagged, htimed, Option.bind_eq_bind, Option.bind_some]
  | terminated i d t =>
    obtain ⟨rest, htagged, htimed⟩ := timed?_document o "terminated" terminated i d (h t rfl)
    have htagged : tagged? (o.document (terminated i d t).toValue) = some ("terminated", rest) := htagged
    simp only [htagged, htimed, Option.bind_eq_bind, Option.bind_some]
  | routingFailed i d n =>
    obtain ⟨rest, htagged, hmembers⟩ := o.tagged?_document "routing_failed"
      [("instance_id", some i.toValue), ("definition_id", some (.string d)),
        ("node_id", some (.string n))]
      (show ["type", "instance_id", "definition_id", "node_id"].Nodup by decide)
    have htagged : tagged? (o.document (routingFailed i d n).toValue) =
      some ("routing_failed", rest) := htagged
    have hread : rest.members? [["instance_id"], ["definition_id"], ["node_id"]] =
      some [some (o.document i.toValue), some (o.document (.string d)),
        some (o.document (.string n))] := hmembers
    simp only [htagged, hread, Record.required, Option.bind_eq_bind, Option.bind_some,
      Uuid.ofDocument?_document, o.text?_document]

end InstanceEvent

namespace ReminderEvent

variable (e : ReminderEvent)

def shown : List (String × Option Value) :=
  [("instance_id", some e.instanceId.toValue), ("definition_id", some (.string e.definitionId)),
    ("node_id", e.node.map .string), ("task_ids", some (.array (e.tasks.map Uuid.toValue))),
    ("occurrence", some e.occurrence.toValue), ("fired_at", some e.firedAt.toValue)]

theorem toValue_eq_present : e.toValue = .object (Record.present e.shown) := by
  simp [toValue, shown, ← optionalField_append]

variable {e}

theorem ofDocument?_document (hoccurrence : e.occurrence.ReadsBack) (hfired : e.firedAt.ReadsBack) :
    ofDocument? (o.document e.toValue) = some e := by
  have hnode : Document.optional Document.text? ((e.node.map Value.string).map o.document) =
      some e.node :=
    o.optional_document o.isAbsent?_string fun n _ => o.text?_document n
  have htasks : (o.document (.array (e.tasks.map Uuid.toValue))).list? Uuid.ofDocument? = some e.tasks :=
    o.list?_document (fun _ => rfl) fun u => u.ofDocument?_document o
  rw [toValue_eq_present, ofDocument?, o.members?_document members e.shown rfl (by simp [shown])]
  simp only [shown, List.map_cons, List.map_nil, Option.map_some, Record.required, Record.defaulting_some,
    Option.bind_eq_bind, Option.bind_some, Uuid.ofDocument?_document, o.text?_document, hnode, htasks,
    hoccurrence.ofDocument?_document, hfired.ofDocument?_document]

end ReminderEvent

/-! ### All of them -/

/-- Every record is read back from its value, whether its fields stand as they are written or in the order
of their names. Its instants have to be read back from their texts, which those of the calendar are. -/
theorem records_read_back (o : FieldOrder) :
    (∀ t : Instant, t.Regular → t.ReadsBack) ∧
      (∀ i : Instance, i.Encodable → Instance.ofDocument? (o.document i.toValue) = some i) ∧
      (∀ t : Task, t.Encodable → Task.ofDocument? (o.document t.toValue) = some t) ∧
      (∀ e : TaskEvent, e.task.Encodable → TaskEvent.ofDocument? (o.document e.toValue) = some e) ∧
      (∀ e : InstanceEvent, (∀ t, e.time? = some t → t.ReadsBack) →
        InstanceEvent.ofDocument? (o.document e.toValue) = some e) ∧
      ∀ e : ReminderEvent, e.occurrence.ReadsBack → e.firedAt.ReadsBack →
        ReminderEvent.ofDocument? (o.document e.toValue) = some e :=
  ⟨fun _ h => h.readsBack, fun _ h => h.ofDocument?_document o, fun _ h => h.ofDocument?_document o,
    fun _ h => TaskEvent.ofDocument?_document o h, fun _ h => InstanceEvent.ofDocument?_document o h,
    fun _ hoccurrence hfired => ReminderEvent.ofDocument?_document o hoccurrence hfired⟩

/-- An instance with nested variables, stuck at a node. -/
def stuck : Instance where
  id := ⟨1⟩
  definitionId := "order"
  definitionVersion := 2
  currentNodes := .ofList ["approve", "join"]
  vars := .ofList [
    ("items", .array [.object [("count", .number (.int 2)), ("name", .string "pen")], .null]),
    ("urgent", .bool true)]
  state := .active
  joinArrivals := .ofList [("join", 1)]
  failure := some ⟨["approve"], "no way out", ⟨2051222460, 500000000⟩⟩
  reminder := some ⟨"every weekday at 9:30", [1, 5], some ⟨.ofHms 9 0 0, .ofHms 17 30 0⟩⟩
  deadline := some ⟨2051308800, 0⟩
  createdAt := ⟨2051222400, 0⟩
  updatedAt := ⟨2051222460, 500000000⟩
  revision := 3

theorem encodable_stuck : stuck.Encodable where
  vars := by decide +kernel
  failure f hf := by
    cases hf
    exact Instant.Regular.readsBack (by decide +kernel)
  reminder p hp := by
    cases hp
    decide +kernel
  deadline t ht := by
    cases ht
    exact Instant.Regular.readsBack (by decide +kernel)
  createdAt := Instant.Regular.readsBack (by decide +kernel)
  updatedAt := Instant.Regular.readsBack (by decide +kernel)

theorem records_read_back_stuck :
    stuck.Encodable ∧ Instance.ofDocument? (FieldOrder.byName.document stuck.toValue) = some stuck :=
  ⟨encodable_stuck, (records_read_back .byName).2.1 stuck encodable_stuck⟩

end Workflow
