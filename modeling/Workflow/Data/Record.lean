/-!
Reading records. A record comes either as fields with names, in any order and among others that do
not concern it, or as a plain list of its members in their declared order, where the last ones may be
missing.
-/
namespace Workflow.Record

variable {σ : Type u}

/-- The members called by one of `names`; a member given twice spoils the record. -/
def member (names : List String) (fields : List (String × σ)) : Option (Option σ) :=
  match fields.filter fun f => names.contains f.1 with
  | [] => some none
  | [f] => some (some f.2)
  | _ => none

/-- One entry for every member, which has one name or several. -/
def ofFields (members : List (List String)) (fields : List (String × σ)) :
    Option (List (Option σ)) :=
  members.mapM fun names => member names fields

/-- The same from a list of members. -/
def ofItems (members : List (List String)) (items : List σ) : Option (List (Option σ)) :=
  if items.length ≤ members.length then
    some (items.map some ++ List.replicate (members.length - items.length) none)
  else none

/-- A member that has to be there. -/
def required (read : σ → Option α) (m : Option σ) : Option α := m.bind read

/-- A member with a value for its absence. -/
def defaulting (default : α) (read : σ → Option α) : Option σ → Option α
  | none => some default
  | some d => read d

end Workflow.Record
