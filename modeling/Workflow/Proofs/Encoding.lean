import Workflow.Definition.Codec

/-!
Definitions read back from the documents that they are written as, in whichever presentation
(`Presentation`). All of a definition comes back, but that the work times of its reminders are read
anew from their texts (`Definition.ofDocument?_document`).
-/
namespace Workflow

variable {α : Type}

theorem mapM_some (l : List α) : l.mapM (fun a => some a) = some l :=
  (List.mapM_pure (f := id)).trans (congrArg some (List.map_id l))

/-! ### Presentations -/

/-- A way to set values down as documents. A leaf has the type of its scalar of its own accord, and
gives a text or a whole number where one is wanted. -/
structure Presentation where
  leaf : Scalar → Leaf
  /-- Whether a list stands for the members of a record as well. -/
  positional : Bool
  value : ∀ s, (leaf s).value = some s
  absent : ∀ s, (leaf s).absent = some (s == .null)
  text : ∀ t, (leaf (.text t)).text = some t
  natural : ∀ n : Nat, (leaf (.number (.int n))).natural = some n

namespace Presentation

/-- The presentation that keeps to the types of values. -/
def typed : Presentation where
  leaf := .ofScalar
  positional := true
  value _ := rfl
  absent _ := rfl
  text _ := rfl
  natural n := by simp [Leaf.ofScalar]

variable (π : Presentation)

mutual

def document : Value → Document
  | .null => .leaf (π.leaf .null)
  | .bool b => .leaf (π.leaf (.bool b))
  | .number n => .leaf (π.leaf (.number n))
  | .string s => .leaf (π.leaf (.text s))
  | .array items => .list π.positional (documentItems items)
  | .object fields => .record (documentFields fields)

def documentItems : List Value → List Document
  | [] => []
  | v :: vs => document v :: documentItems vs

def documentFields : List (String × Value) → List (Document × Document)
  | [] => []
  | (k, v) :: fs => (.leaf (π.leaf (.text k)), document v) :: documentFields fs

end

mutual

theorem document_typed : (v : Value) → typed.document v = .ofValue v
  | .null | .bool _ | .number _ | .string _ => rfl
  | .array vs => by rw [document, documentItems_typed, Document.ofValue]; rfl
  | .object fs => by rw [document, documentFields_typed, Document.ofValue]

theorem documentItems_typed : (vs : List Value) → typed.documentItems vs = Document.ofItems vs
  | [] => rfl
  | v :: vs => by rw [documentItems, document_typed, documentItems_typed, Document.ofItems]

theorem documentFields_typed :
    (fs : List (String × Value)) → typed.documentFields fs = Document.ofFields fs
  | [] => rfl
  | (k, v) :: fs => by
    rw [documentFields, document_typed, documentFields_typed, Document.ofFields]
    rfl

end

/-- Fields by their names, and what is written in each as a document. -/
def documented (fs : List (String × Value)) : List (String × Document) :=
  fs.map fun f => (f.1, π.document f.2)

theorem documentItems_eq_map (vs : List Value) : π.documentItems vs = vs.map π.document := by
  induction vs with
  | nil => rfl
  | cons v vs ih => rw [documentItems, ih, List.map_cons]

theorem fields?_document (fs : List (String × Value)) :
    (π.document (.object fs)).fields? = some (π.documented fs) := by
  rw [document, Document.fields?, documented]
  induction fs with
  | nil => rfl
  | cons f fs ih =>
    rw [documentFields, List.mapM_cons, ih, Document.text?, π.text]
    rfl

theorem members?_document (names : List (List String)) (fs : List (String × Value)) :
    (π.document (.object fs)).members? names = Record.ofFields names (π.documented fs) := by
  have hfields := π.fields?_document fs
  rw [document] at hfields
  rw [document, Document.members?, hfields]
  · rfl
  · exact fun _ h => nomatch h
  · exact fun _ h => nomatch h

theorem items?_document (vs : List Value) :
    (π.document (.array vs)).items? = some (vs.map π.document) := by
  rw [document, Document.items?, documentItems_eq_map]

@[simp] theorem text?_document (s : String) : (π.document (.string s)).text? = some s := π.text s

theorem isAbsent?_string (s : String) : (π.document (.string s)).isAbsent? = some false :=
  π.absent (.text s)

theorem isAbsent?_wholeNumber (n : Nat) : (π.document (wholeNumber n)).isAbsent? = some false :=
  π.absent (.number (.int n))

mutual

/-- A document taken aside keeps the value, and no more. -/
theorem settled_document : (v : Value) → (π.document v).settled = some (typed.document v)
  | .null => by rw [document, Document.settled, π.value]; rfl
  | .bool b => by rw [document, Document.settled, π.value]; rfl
  | .number n => by rw [document, Document.settled, π.value]; rfl
  | .string s => by rw [document, Document.settled, π.value]; rfl
  | .array vs => by rw [document, Document.settled, settledItems_document]; rfl
  | .object fs => by rw [document, Document.settled, settledFields_document]; rfl

theorem settledItems_document : (vs : List Value) →
    Document.settledItems (π.documentItems vs) = some (typed.documentItems vs)
  | [] => rfl
  | v :: vs => by
    rw [documentItems, Document.settledItems, settled_document, settledItems_document]
    rfl

theorem settledFields_document : (fs : List (String × Value)) →
    Document.settledFields (π.documentFields fs) = some (typed.documentFields fs)
  | [] => rfl
  | (k, v) :: fs => by
    rw [documentFields, Document.settledFields, settled_document v, settledFields_document fs,
      Document.settled, π.value]
    rfl

end

theorem list?_document {β : Type} (read : Document → Option β) (write : α → Value) (l : List α) :
    (π.document (.array (l.map write))).list? read = l.mapM fun a => read (π.document (write a)) := by
  rw [Document.list?, items?_document, Option.bind_some, List.map_map, List.mapM_map]
  rfl

theorem natural?_document {n max : Nat} (h : n ≤ max) :
    (π.document (wholeNumber n)).natural? max = some n := by
  rw [wholeNumber, document, Document.natural?, π.natural]
  simp [h]

theorem word32?_document (n : UInt32) : (π.document (wholeNumber n.toNat)).word32? = some n := by
  have hn : n.toNat ≤ UInt32.size - 1 := Nat.le_pred_of_lt n.toNat_lt
  rw [Document.word32?, π.natural?_document hn]
  simp

theorem word64?_document (n : UInt64) : (π.document (wholeNumber n.toNat)).word64? = some n := by
  have hn : n.toNat ≤ UInt64.size - 1 := Nat.le_pred_of_lt n.toNat_lt
  rw [Document.word64?, π.natural?_document hn]
  simp

/-- A member that is written if it is there comes back as it is read. -/
theorem optional_map {read : Document → Option α} {write : α → Document}
    (hw : ∀ a, (write a).isAbsent? = some false) (o : Option α) :
    Document.optional read (o.map write) = match o with
      | none => some none
      | some a => (read (write a)).map some := by
  cases o with
  | none => rfl
  | some a =>
    rw [Option.map_some, Document.optional, hw]

theorem optional_word32 (o : Option UInt32) :
    Document.optional Document.word32? (o.map fun n => π.document (wholeNumber n.toNat)) = some o := by
  rw [optional_map fun _ => π.isAbsent?_wholeNumber _]
  cases o with
  | none => rfl
  | some n =>
    simp only [word32?_document]
    rfl

theorem optional_word64 (o : Option UInt64) :
    Document.optional Document.word64? (o.map fun n => π.document (wholeNumber n.toNat)) = some o := by
  rw [optional_map fun _ => π.isAbsent?_wholeNumber _]
  cases o with
  | none => rfl
  | some n =>
    simp only [word64?_document]
    rfl

theorem optional_text (o : Option String) :
    Document.optional Document.text? (o.map fun s => π.document (.string s)) = some o := by
  rw [optional_map fun _ => π.isAbsent?_string _]
  cases o with
  | none => rfl
  | some s =>
    simp only [text?_document]
    rfl

end Presentation

variable {π : Presentation}

/-! ### Fields -/

/-- The fields whose names are chosen. -/
def chosen (p : String → Bool) (fs : List (String × Value)) : List (String × Value) :=
  fs.filter fun f => p f.1

section Chosen

variable (p : String → Bool) (name : String)

@[simp] theorem chosen_nil : chosen p [] = [] := rfl

@[simp] theorem chosen_append (fs gs : List (String × Value)) :
    chosen p (fs ++ gs) = chosen p fs ++ chosen p gs := List.filter_append ..

@[simp] theorem chosen_cons (v : Value) (fs : List (String × Value)) :
    chosen p ((name, v) :: fs) = if p name then (name, v) :: chosen p fs else chosen p fs :=
  List.filter_cons ..

@[simp] theorem chosen_optionalField (write : α → Value) (o : Option α) :
    chosen p (optionalField name write o) = if p name then optionalField name write o else [] := by
  cases o with
  | none => simp [optionalField]
  | some a => exact chosen_cons p name (write a) []

@[simp] theorem chosen_listField (write : α → Value) (l : List α) :
    chosen p (listField name write l) = if p name then listField name write l else [] := by
  unfold listField
  split
  · simp
  · exact chosen_cons p name _ []

theorem filter_documented (fs : List (String × Value)) :
    (π.documented fs).filter (fun f => p f.1) = π.documented (chosen p fs) := by
  rw [Presentation.documented, List.filter_map]
  rfl

end Chosen

namespace Record

variable {names : List String} {fs : List (String × Value)}

theorem ofFields_nil (fields : List (String × Document)) : ofFields [] fields = some [] := rfl

theorem ofFields_cons {members : List (List String)} {fields : List (String × Document)}
    {m : Option Document} {ms : List (Option Document)} (h : member names fields = some m)
    (hrest : ofFields members fields = some ms) :
    ofFields (names :: members) fields = some (m :: ms) := by
  rw [ofFields] at hrest ⊢
  rw [List.mapM_cons, h, hrest]
  rfl

theorem member_single (name : String) {v : Value} (h : chosen names.contains fs = [(name, v)]) :
    member names (π.documented fs) = some (some (π.document v)) := by
  rw [member, filter_documented, h]
  rfl

theorem member_optionalField (name : String) {w : α → Value} {o : Option α}
    (h : chosen names.contains fs = optionalField name w o) :
    member names (π.documented fs) = some (o.map fun a => π.document (w a)) := by
  rw [member, filter_documented, h]
  cases o <;> rfl

theorem member_listField (name : String) {w : α → Value} {l : List α}
    (h : chosen names.contains fs = listField name w l) : member names (π.documented fs) =
      some (if l.isEmpty then none else some (π.document (.array (l.map w)))) := by
  rw [member, filter_documented, h]
  cases l <;> rfl

theorem defaulting_list {β : Type} (read : Document → Option β) (write : α → Value) (l : List α) :
    defaulting [] (Document.list? read)
        (if l.isEmpty then none else some (π.document (.array (l.map write)))) =
      l.mapM fun a => read (π.document (write a)) := by
  cases l with
  | nil => rfl
  | cons a l => exact π.list?_document read write (a :: l)

end Record

/-! ### Reminders -/

namespace WorkTime

/-- The work time that is read from the text of one. -/
def reread (w : WorkTime) : Option WorkTime := (parse w.text).toOption

theorem isAbsent?_toValue (w : WorkTime) : (π.document w.toValue).isAbsent? = some false :=
  π.isAbsent?_string w.text

theorem ofDocument?_document (w : WorkTime) : ofDocument? (π.document w.toValue) = w.reread := by
  rw [ofDocument?, toValue, Presentation.text?_document, Option.bind_some, reread]

end WorkTime

namespace ReminderParam

/-- The parameters with the work time read anew. -/
def reread (p : ReminderParam) : Option ReminderParam :=
  match p.workTime with
  | none => some p
  | some w => w.reread.map fun w => { p with workTime := some w }

theorem weekday?_document (n : UInt8) :
    weekday? (π.document (.number (.int n.toNat))) = some n := by
  have hn : n.toNat ≤ 255 := Nat.le_of_lt_succ n.toNat_lt
  have hread := π.natural?_document hn
  rw [wholeNumber] at hread
  rw [weekday?, hread]
  simp

theorem toValue_eq (p : ReminderParam) : p.toValue = .object ([("cron", .string p.cadence)] ++
    listField "weeks" (fun d => .number (.int d.toNat)) p.weekdays ++
    optionalField "work_time" WorkTime.toValue p.workTime) := by
  unfold toValue
  cases p.workTime <;> rfl

theorem ofDocument?_document (p : ReminderParam) : ofDocument? (π.document p.toValue) = p.reread := by
  rw [toValue_eq, ofDocument?, Presentation.members?_document]
  generalize hfs : [("cron", Value.string p.cadence)] ++
      listField "weeks" (fun d => .number (.int d.toNat)) p.weekdays ++
      optionalField "work_time" WorkTime.toValue p.workTime = fs
  have hcadence : Record.member ["cron"] (π.documented fs) = _ :=
    Record.member_single "cron" (v := .string p.cadence) (by simp [← hfs])
  have hweekdays : Record.member ["weeks"] (π.documented fs) = _ :=
    Record.member_listField "weeks" (w := fun d => .number (.int d.toNat)) (l := p.weekdays)
      (by simp [← hfs])
  have hworkTime : Record.member ["work_time"] (π.documented fs) = _ :=
    Record.member_optionalField "work_time" (w := WorkTime.toValue) (o := p.workTime)
      (by simp [← hfs])
  have hfields : Record.ofFields members (π.documented fs) = _ :=
    Record.ofFields_cons hcadence (Record.ofFields_cons hweekdays
      (Record.ofFields_cons hworkTime (Record.ofFields_nil _)))
  rw [hfields]
  simp only [Record.required, Option.bind_some, Presentation.text?_document, Record.defaulting_list,
    weekday?_document, mapM_some, Presentation.optional_map WorkTime.isAbsent?_toValue,
    WorkTime.ofDocument?_document]
  unfold reread
  cases hw : p.workTime with
  | none => simp [← hw]
  | some w =>
    dsimp only
    cases w.reread <;> rfl

theorem isAbsent?_toValue (p : ReminderParam) :
    (π.document p.toValue).isAbsent? = some false := rfl

/-- Parameters that may be missing, with the work time read anew. -/
def rereadOption : Option ReminderParam → Option (Option ReminderParam)
  | none => some none
  | some p => p.reread.map some

theorem optional_toValue (r : Option ReminderParam) :
    Document.optional ofDocument? (r.map fun p => π.document p.toValue) = rereadOption r := by
  rw [Presentation.optional_map isAbsent?_toValue]
  cases r with
  | none => rfl
  | some p =>
    simp only [ofDocument?_document]
    rfl

end ReminderParam

/-! ### Conditions and transitions -/

namespace Condition

theorem ofDocument?_document (c : Condition) : ofDocument? (π.document c.toValue) = some c := by
  have hgroup : ∀ g : List String,
      group? (Presentation.typed.document (.array (g.map .string))) = some g := by
    intro g
    rw [Presentation.document, group?, Presentation.documentItems_eq_map, List.map_map, List.mapM_map]
    exact mapM_some g
  rw [ofDocument?, Presentation.settled_document, Option.bind_some, toValue, Presentation.document,
    ofSettled?, Presentation.documentItems_eq_map, List.map_map, List.mapM_map]
  have hgroups : c.groups.mapM
      (group? ∘ Presentation.typed.document ∘ fun g => .array (g.map .string)) = some c.groups := by
    rw [show group? ∘ Presentation.typed.document ∘ (fun g => .array (g.map .string)) =
      fun g => some g from funext hgroup]
    exact mapM_some c.groups
  rw [hgroups]
  rfl

theorem isAbsent?_toValue (c : Condition) : (π.document c.toValue).isAbsent? = some false := rfl

end Condition

namespace Transition

theorem ofDocument?_document (t : Transition) : ofDocument? (π.document t.toValue) = some t := by
  rw [toValue, ofDocument?, Presentation.members?_document]
  generalize hfs : [("target", Value.string t.target)] ++
      optionalField "condition" Condition.toValue t.condition = fs
  have htarget : Record.member ["target"] (π.documented fs) = _ :=
    Record.member_single "target" (v := .string t.target) (by simp [← hfs])
  have hcondition : Record.member ["condition", "when"] (π.documented fs) = _ :=
    Record.member_optionalField "condition" (w := Condition.toValue) (o := t.condition)
      (by simp [← hfs])
  have hfields : Record.ofFields members (π.documented fs) = _ :=
    Record.ofFields_cons htarget (Record.ofFields_cons hcondition (Record.ofFields_nil _))
  rw [hfields]
  simp only [Record.required, Option.bind_some, Presentation.text?_document,
    Presentation.optional_map Condition.isAbsent?_toValue, Condition.ofDocument?_document]
  obtain ⟨target, condition⟩ := t
  cases condition <;> rfl

end Transition

/-! ### Nodes and definitions -/

namespace NodeKind

/-- The kind with the work time of its reminder read anew. -/
def reread : NodeKind → Option NodeKind
  | task assignees taskHandler reminder =>
    (ReminderParam.rereadOption reminder).map (task assignees taskHandler)
  | k => some k

theorem ofFields?_toFields (k : NodeKind) : ofFields? (Presentation.typed.documented k.toFields) = k.reread := by
  have htag : Record.member ["kind"] (Presentation.typed.documented k.toFields) = _ :=
    Record.member_single "kind" (v := .string k.name) (by cases k <;> simp [toFields])
  have hname : nameOf? (Presentation.typed.document (.string k.name)) = some k.name := rfl
  rw [ofFields?, htag]
  simp only [Record.required, Option.bind_eq_bind, Option.bind_some, hname]
  cases k with
  | start => rfl
  | condition => rfl
  | stop => rfl
  | join expected =>
    have hexpected : Record.member ["expected"] (Presentation.typed.documented (toFields (join expected))) = _ :=
      Record.member_optionalField "expected" (w := fun n : UInt32 => wholeNumber n.toNat)
        (o := expected) (by simp [toFields])
    simp only [name, hexpected, Option.bind_some, Presentation.optional_word32]
    rfl
  | task assignees taskHandler reminder =>
    have hassignees : Record.member ["assignees"]
        (Presentation.typed.documented (toFields (task assignees taskHandler reminder))) = _ :=
      Record.member_listField "assignees" (w := Value.string) (l := assignees) (by simp [toFields])
    have htaskHandler : Record.member ["task_handler"]
        (Presentation.typed.documented (toFields (task assignees taskHandler reminder))) = _ :=
      Record.member_optionalField "task_handler" (w := Value.string) (o := taskHandler)
        (by simp [toFields])
    have hreminder : Record.member ["remind"]
        (Presentation.typed.documented (toFields (task assignees taskHandler reminder))) = _ :=
      Record.member_optionalField "remind" (w := ReminderParam.toValue) (o := reminder)
        (by simp [toFields])
    simp only [name, hassignees, htaskHandler, hreminder, Option.bind_some, Record.defaulting_list,
      Presentation.text?_document, mapM_some, Presentation.optional_text, ReminderParam.optional_toValue]
    rw [reread]
    cases ReminderParam.rereadOption reminder <;> rfl

end NodeKind

namespace Node

/-- The node with the work time of its reminder read anew. -/
def reread (n : Node) : Option Node := n.kind.reread.map fun kind => { n with kind }

theorem chosen_toFields (k : NodeKind) :
    chosen (fun name => !ownMembers.contains name) k.toFields = k.toFields ∧
      ∀ name ∈ ownMembers, chosen [name].contains k.toFields = [] := by
  cases k <;> simp [NodeKind.toFields, ownMembers]

theorem ofDocument?_document (n : Node) : ofDocument? (π.document n.toValue) = n.reread := by
  obtain ⟨hforeign, hown⟩ := chosen_toFields n.kind
  rw [toValue, ofDocument?, Presentation.fields?_document]
  generalize hfs : [("id", Value.string n.id)] ++ optionalField "name" Value.string n.name ++
      n.kind.toFields ++ optionalField "handler" Value.string n.handler ++
      listField "transitions" Transition.toValue n.transitions = fs
  have hid : Record.member ["id"] (π.documented fs) = _ :=
    Record.member_single "id" (v := .string n.id)
      (by simp [← hfs, hown "id" (by simp [ownMembers])])
  have hname : Record.member ["name"] (π.documented fs) = _ :=
    Record.member_optionalField "name" (w := Value.string) (o := n.name)
      (by simp [← hfs, hown "name" (by simp [ownMembers])])
  have hhandler : Record.member ["handler"] (π.documented fs) = _ :=
    Record.member_optionalField "handler" (w := Value.string) (o := n.handler)
      (by simp [← hfs, hown "handler" (by simp [ownMembers])])
  have htransitions : Record.member ["transitions"] (π.documented fs) = _ :=
    Record.member_listField "transitions" (w := Transition.toValue) (l := n.transitions)
      (by simp [← hfs, hown "transitions" (by simp [ownMembers])])
  have hothers : (π.documented fs).filter (fun f => !ownMembers.contains f.1) =
      π.documented n.kind.toFields := by
    rw [filter_documented (fun name => !ownMembers.contains name), ← hfs]
    simp only [chosen_append, chosen_cons, chosen_nil, chosen_optionalField, chosen_listField,
      hforeign]
    simp [ownMembers]
  have hsettled : (π.documented n.kind.toFields).mapM (fun f => f.2.settled.map fun d => (f.1, d)) =
      some (Presentation.typed.documented n.kind.toFields) := by
    rw [Presentation.documented, List.mapM_map]
    simp only [Function.comp_def, Presentation.settled_document, Option.map_some]
    exact List.mapM_pure
  simp only [Option.bind_eq_bind, Option.bind_some, hid, hname, hhandler, htransitions, hothers,
    hsettled, Record.required, Presentation.text?_document, Presentation.optional_text,
    Record.defaulting_list, Transition.ofDocument?_document, mapM_some, NodeKind.ofFields?_toFields]
  rw [reread]
  cases n.kind.reread <;> rfl

end Node

namespace Definition

/-- The definition with the work times of its reminders read anew. -/
def reread (d : Definition) : Option Definition := do
  let nodes ← d.nodes.mapM Node.reread
  let reminder ← ReminderParam.rereadOption d.reminder
  some { d with nodes, reminder }

theorem ofDocument?_document (d : Definition) : ofDocument? (π.document d.toValue) = d.reread := by
  rw [toValue, ofDocument?, Presentation.members?_document]
  generalize hfs : [("id", Value.string d.id), ("version", wholeNumber d.version.toNat)] ++
      optionalField "name" Value.string d.name ++
      optionalField "description" Value.string d.description ++
      [("nodes", Value.array (d.nodes.map Node.toValue))] ++
      optionalField "remind" ReminderParam.toValue d.reminder ++
      optionalField "timeout_secs" (fun n => wholeNumber n.toNat) d.timeoutSeconds = fs
  have hid : Record.member ["id"] (π.documented fs) = _ :=
    Record.member_single "id" (v := .string d.id) (by simp [← hfs])
  have hversion : Record.member ["version"] (π.documented fs) = _ :=
    Record.member_single "version" (v := wholeNumber d.version.toNat) (by simp [← hfs])
  have hname : Record.member ["name"] (π.documented fs) = _ :=
    Record.member_optionalField "name" (w := Value.string) (o := d.name) (by simp [← hfs])
  have hdescription : Record.member ["description"] (π.documented fs) = _ :=
    Record.member_optionalField "description" (w := Value.string) (o := d.description)
      (by simp [← hfs])
  have hnodes : Record.member ["nodes"] (π.documented fs) = _ :=
    Record.member_single "nodes" (v := .array (d.nodes.map Node.toValue)) (by simp [← hfs])
  have hreminder : Record.member ["remind"] (π.documented fs) = _ :=
    Record.member_optionalField "remind" (w := ReminderParam.toValue) (o := d.reminder)
      (by simp [← hfs])
  have htimeout : Record.member ["timeout_secs"] (π.documented fs) = _ :=
    Record.member_optionalField "timeout_secs" (w := fun n : UInt64 => wholeNumber n.toNat)
      (o := d.timeoutSeconds) (by simp [← hfs])
  have hfields : Record.ofFields members (π.documented fs) = _ :=
    Record.ofFields_cons hid (Record.ofFields_cons hversion (Record.ofFields_cons hname
      (Record.ofFields_cons hdescription (Record.ofFields_cons hnodes (Record.ofFields_cons hreminder
        (Record.ofFields_cons htimeout (Record.ofFields_nil _)))))))
  rw [hfields]
  simp only [Option.bind_eq_bind, Option.bind_some, Record.required, Record.defaulting,
    Presentation.text?_document, Presentation.word32?_document, Presentation.optional_text,
    Presentation.list?_document, Node.ofDocument?_document, ReminderParam.optional_toValue,
    Presentation.optional_word64]
  rw [reread]
  rfl

theorem ofValue?_toValue (d : Definition) : ofValue? d.toValue = d.reread := by
  rw [ofValue?, ← Presentation.document_typed, ofDocument?_document]

end Definition

/-! ### Apart from work times -/

/-- The parameters for any time of day. -/
def ReminderParam.anytime (p : ReminderParam) : ReminderParam := { p with workTime := none }

def NodeKind.anytime : NodeKind → NodeKind
  | task assignees taskHandler reminder => task assignees taskHandler (reminder.map .anytime)
  | k => k

def Node.anytime (n : Node) : Node := { n with kind := n.kind.anytime }

/-- The definition with reminders for any time of day. -/
def Definition.anytime (d : Definition) : Definition :=
  { d with nodes := d.nodes.map Node.anytime, reminder := d.reminder.map .anytime }

theorem ReminderParam.anytime_of_reread {r r' : Option ReminderParam}
    (h : rereadOption r = some r') : r'.map anytime = r.map anytime := by
  cases r with
  | none =>
    cases h
    rfl
  | some p =>
    obtain ⟨p', hp, rfl⟩ := Option.map_eq_some_iff.1 h
    unfold reread at hp
    split at hp
    · cases hp
      rfl
    · obtain ⟨w, -, rfl⟩ := Option.map_eq_some_iff.1 hp
      rfl

theorem Node.anytime_of_reread {n n' : Node} (h : n.reread = some n') :
    n'.anytime = n.anytime := by
  obtain ⟨k, hk, rfl⟩ := Option.map_eq_some_iff.1 h
  have hkind : k.anytime = n.kind.anytime := by
    unfold NodeKind.reread at hk
    split at hk
    · rename_i hn
      obtain ⟨r, hr, rfl⟩ := Option.map_eq_some_iff.1 hk
      rw [hn, NodeKind.anytime, NodeKind.anytime, ReminderParam.anytime_of_reread hr]
    · cases hk
      rfl
  rw [anytime, anytime, hkind]

theorem map_anytime_of_reread {ns ns' : List Node} (h : ns.mapM Node.reread = some ns') :
    ns'.map Node.anytime = ns.map Node.anytime := by
  induction ns generalizing ns' with
  | nil =>
    cases h
    rfl
  | cons n ns ih =>
    rw [List.mapM_cons] at h
    obtain ⟨n', hn, h⟩ := Option.bind_eq_some_iff.1 h
    obtain ⟨ns'', hns, h⟩ := Option.bind_eq_some_iff.1 h
    cases h
    rw [List.map_cons, List.map_cons, Node.anytime_of_reread hn, ih hns]

/-- What is read back differs in the work times of reminders at most. -/
theorem Definition.anytime_of_ofValue? {d d' : Definition} (h : ofValue? d.toValue = some d') :
    d'.anytime = d.anytime := by
  rw [ofValue?_toValue, reread] at h
  obtain ⟨nodes, hnodes, h⟩ := Option.bind_eq_some_iff.1 h
  obtain ⟨reminder, hreminder, h⟩ := Option.bind_eq_some_iff.1 h
  cases h
  rw [anytime, anytime, map_anytime_of_reread hnodes, ReminderParam.anytime_of_reread hreminder]

end Workflow
