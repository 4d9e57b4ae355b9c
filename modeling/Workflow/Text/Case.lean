import Workflow.Text.CaseTable

/-!
Small and capital forms of a text. ASCII letters go by their own rule and the rest by the tables;
a capital sigma that ends a word becomes the final small sigma.
-/
namespace Workflow.Text

open CaseTable

def lowerChar (c : Char) : List Char :=
  if c.toNat < 128 then [c.toLower]
  else match lowerExpansions.lookup c.toNat with
    | some cs => cs.map Char.ofNat
    | none => [Char.ofNat ((toLower.findSome? (·.image? c.toNat)).getD c.toNat)]

def upperChar (c : Char) : List Char :=
  if c.toNat < 128 then [c.toUpper]
  else match upperExpansions.lookup c.toNat with
    | some cs => cs.map Char.ofNat
    | none => [Char.ofNat ((toUpper.findSome? (·.image? c.toNat)).getD c.toNat)]

/-- Whether the nearest character that counts is a cased letter. -/
def meetsCased (cs : List Char) : Bool :=
  match cs.dropWhile fun c => covers caseIgnorable c.toNat with
  | [] => false
  | c :: _ => covers cased c.toNat

/-- `before` holds the characters already passed, nearest first. -/
def lowerFrom (before : List Char) : List Char → List Char
  | [] => []
  | c :: cs =>
    (if c = 'Σ' then [if meetsCased before && !meetsCased cs then 'ς' else 'σ'] else lowerChar c) ++
      lowerFrom (c :: before) cs

def lower (s : String) : String := String.ofList (lowerFrom [] s.toList)

def upper (s : String) : String := String.ofList (s.toList.flatMap upperChar)

example : lower "ΑΣ ΣΑ" = "ας σα" := by decide +kernel
example : upper "straße" = "STRASSE" := by decide +kernel

end Workflow.Text
