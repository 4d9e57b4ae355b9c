import Workflow.Data.Dict

/-!
Paths of files: steps downwards, in the order that compares them step by step.
-/
namespace Workflow.Files

abbrev Path := List String

instance : Key Path where
  decidableLT := fun p q => inferInstanceAs (Decidable (p < q))
  lt_irrefl := List.lt_irrefl
  lt_trans := List.lt_trans
  lt_trichotomy := fun p q => by
    by_cases h : p < q
    · exact Or.inl h
    · by_cases h' : q < p
      · exact Or.inr (Or.inr h')
      · exact Or.inr (Or.inl (List.le_antisymm h' h))

namespace Path

/-- The steps of a written path. Those that stand between two slashes or behind the last one may be
empty. -/
def steps (s : String) : List String := s.splitOn "/"

/-- A written path and a name below it. -/
def join (dir name : String) : String :=
  if dir.isEmpty || dir.endsWith "/" then dir ++ name else dir ++ "/" ++ name

/-- What stands behind the last point of a name, unless the point is the first character. -/
def extension? (name : String) : Option String :=
  match name.toList.reverse.span (· != '.') with
  | (_, []) | (_, [_]) => none
  | (ext, _) => some (String.ofList ext.reverse)

example : [extension? "a.b.yaml", extension? ".yaml", extension? "yaml", extension? "a."] =
    [some "yaml", none, none, some ""] := by decide +kernel

end Path

end Workflow.Files
