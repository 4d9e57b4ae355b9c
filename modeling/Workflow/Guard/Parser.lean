import Workflow.Guard.Token

/-!
Reading guard expressions. From the loosest to the tightest: the two connectives; comparisons; sums;
products; remainders and powers; the choice `a ? b : c`; transforms `a|name(args)`; members, indices
and filters; and the primary forms. All of them group to the left. Every reader returns what is left
of the words with a proof that it is shorter, which is why the readers end.
-/
namespace Workflow.Guard.Expr

/-- Fewer words than there were. -/
abbrev Shorter (ts : List Token) := { r : List Token // r.length < ts.length }

/-- No more words than there were. -/
abbrev NoLonger (ts : List Token) := { r : List Token // r.length ≤ ts.length }

/-- How an infix word joins its sides. -/
inductive Joint where
  | connective (c : Connective)
  | operator (op : Operator)

def Joint.join : Joint → Expr → Expr → Expr
  | .connective c, l, r => .connect c l r
  | .operator op, l, r => .operate op l r

/-- How tightly an operator binds. -/
def rank : Operator → Nat
  | .add | .subtract => 2
  | .multiply | .divide | .floorDivide => 3
  | .modulus | .power => 4
  | _ => 1

/-- The infix word at the head, if it is one of this level. -/
def joint? (level : Nat) : Token → Option Joint
  | .connective c => if level = 0 then some (.connective c) else none
  | .operator op => if level = rank op then some (.operator op) else none
  | _ => none

/-- The words that can name a field. -/
def key? : Token → Option String
  | .ident k | .string k => some k
  | _ => none

mutual

/-- An expression of a level from 0 to 4, or a choice above that. -/
def read (level : Nat) (ts : List Token) : Option (Expr × Shorter ts) :=
  if level < 5 then
    match read (level + 1) ts with
    | none => none
    | some (l, r) =>
      match joinTail level l r.1 with
      | none => none
      | some (e, s) => some (e, ⟨s.1, Nat.lt_of_le_of_lt s.2 r.2⟩)
  else
    match chain ts with
    | none => none
    | some (l, r) =>
      match chooseTail l r.1 with
      | none => none
      | some (e, s) => some (e, ⟨s.1, Nat.lt_of_le_of_lt s.2 r.2⟩)
  termination_by (ts.length, 16 - min level 5)
  decreasing_by
    · exact Prod.Lex.right _ (by omega)
    · exact Prod.Lex.left _ _ r.2
    · exact Prod.Lex.right _ (by omega)
    · exact Prod.Lex.left _ _ r.2

def joinTail (level : Nat) (left : Expr) (ts : List Token) : Option (Expr × NoLonger ts) :=
  match ts with
  | [] => some (left, ⟨[], Nat.le_refl _⟩)
  | t :: rest =>
    match joint? level t with
    | none => some (left, ⟨t :: rest, Nat.le_refl _⟩)
    | some j =>
      match read (level + 1) rest with
      | none => none
      | some (right, r) =>
        match joinTail level (j.join left right) r.1 with
        | none => none
        | some (e, s) => some (e, ⟨s.1, by have := s.2; have := r.2; simp only [List.length_cons]; omega⟩)
  termination_by (ts.length, 0)
  decreasing_by
    · exact Prod.Lex.left _ _ (by simp)
    · exact Prod.Lex.left _ _ (by have := r.2; simp only [List.length_cons]; omega)

def chooseTail (condition : Expr) (ts : List Token) : Option (Expr × NoLonger ts) :=
  match ts with
  | .question :: rest =>
    match chain rest with
    | none => none
    | some (yes, r) =>
      match h : r.1 with
      | .colon :: rest' =>
        match chain rest' with
        | none => none
        | some (no, r') =>
          match chooseTail (.choose condition yes no) r'.1 with
          | none => none
          | some (e, s) =>
            some (e, ⟨s.1, by
              have := s.2; have := r'.2; have := r.2
              simp only [h, List.length_cons] at *; omega⟩)
      | _ => none
  | ts => some (condition, ⟨ts, Nat.le_refl _⟩)
  termination_by (ts.length, 0)
  decreasing_by
    · exact Prod.Lex.left _ _ (by simp)
    · exact Prod.Lex.left _ _ (by have := r.2; simp only [h, List.length_cons] at *; omega)
    · exact Prod.Lex.left _ _ (by
        have := r'.2; have := r.2; simp only [h, List.length_cons] at *; omega)

/-- A subject and its transforms. -/
def chain (ts : List Token) : Option (Expr × Shorter ts) :=
  match access ts with
  | none => none
  | some (e, r) =>
    match chainTail e r.1 with
    | none => none
    | some (e, s) => some (e, ⟨s.1, Nat.lt_of_le_of_lt s.2 r.2⟩)
  termination_by (ts.length, 10)

def chainTail (subject : Expr) (ts : List Token) : Option (Expr × NoLonger ts) :=
  match ts with
  | .bar :: .ident name :: .openParen :: rest =>
    match args .closeParen rest with
    | none => none
    | some (es, r) =>
      match chainTail (.transform subject name es) r.1 with
      | none => none
      | some (e, s) => some (e, ⟨s.1, by have := s.2; have := r.2; simp only [List.length_cons]; omega⟩)
  | .bar :: .ident name :: rest =>
    match chainTail (.transform subject name []) rest with
    | none => none
    | some (e, s) => some (e, ⟨s.1, by have := s.2; simp only [List.length_cons]; omega⟩)
  | .bar :: _ => none
  | ts => some (subject, ⟨ts, Nat.le_refl _⟩)
  termination_by (ts.length, 0)
  decreasing_by
    · exact Prod.Lex.left _ _ (by simp only [List.length_cons]; omega)
    · exact Prod.Lex.left _ _ (by have := r.2; simp only [List.length_cons]; omega)
    · exact Prod.Lex.left _ _ (by simp only [List.length_cons]; omega)

/-- A primary form with its members, indices and filters. -/
def access (ts : List Token) : Option (Expr × Shorter ts) :=
  match primary ts with
  | none => none
  | some (e, r) =>
    match accessTail e r.1 with
    | none => none
    | some (e, s) => some (e, ⟨s.1, Nat.lt_of_le_of_lt s.2 r.2⟩)
  termination_by (ts.length, 9)

def accessTail (subject : Expr) (ts : List Token) : Option (Expr × NoLonger ts) :=
  match ts with
  | .dot :: .ident name :: rest =>
    match accessTail (.member subject name) rest with
    | none => none
    | some (e, s) => some (e, ⟨s.1, by have := s.2; simp only [List.length_cons]; omega⟩)
  | .dot :: _ => none
  | .openBracket :: .dot :: .ident name :: .operator op :: rest =>
    if op.isComparison then
      match primary rest with
      | none => none
      | some (right, r) =>
        match h : r.1 with
        | .closeBracket :: rest' =>
          match accessTail (.filter subject name op right) rest' with
          | none => none
          | some (e, s) =>
            some (e, ⟨s.1, by
              have := s.2; have := r.2; simp only [h, List.length_cons] at *; omega⟩)
        | _ => none
    else none
  | .openBracket :: rest =>
    match read 0 rest with
    | none => none
    | some (key, r) =>
      match h : r.1 with
      | .closeBracket :: rest' =>
        match accessTail (.index subject key) rest' with
        | none => none
        | some (e, s) =>
          some (e, ⟨s.1, by
            have := s.2; have := r.2; simp only [h, List.length_cons] at *; omega⟩)
      | _ => none
  | ts => some (subject, ⟨ts, Nat.le_refl _⟩)
  termination_by (ts.length, 0)
  decreasing_by
    · exact Prod.Lex.left _ _ (by simp only [List.length_cons]; omega)
    · exact Prod.Lex.left _ _ (by simp only [List.length_cons]; omega)
    · exact Prod.Lex.left _ _ (by have := r.2; simp only [h, List.length_cons] at *; omega)
    · exact Prod.Lex.left _ _ (by simp only [List.length_cons]; omega)
    · exact Prod.Lex.left _ _ (by have := r.2; simp only [h, List.length_cons] at *; omega)

def primary (ts : List Token) : Option (Expr × Shorter ts) :=
  match ts with
  | .null :: rest => some (.null, ⟨rest, by simp⟩)
  | .bool b :: rest => some (.bool b, ⟨rest, by simp⟩)
  | .number x :: rest => some (.number x, ⟨rest, by simp⟩)
  | .string s :: rest => some (.string s, ⟨rest, by simp⟩)
  | .ident name :: rest => some (.ident name, ⟨rest, by simp⟩)
  | .openParen :: rest =>
    match read 0 rest with
    | none => none
    | some (e, r) =>
      match h : r.1 with
      | .closeParen :: rest' =>
        some (e, ⟨rest', by have := r.2; simp only [h, List.length_cons] at *; omega⟩)
      | _ => none
  | .openBracket :: rest =>
    match args .closeBracket rest with
    | none => none
    | some (es, r) => some (.list es, ⟨r.1, by have := r.2; simp only [List.length_cons]; omega⟩)
  | .openBrace :: rest =>
    match fields rest with
    | none => none
    | some (fs, r) => some (.record fs, ⟨r.1, by have := r.2; simp only [List.length_cons]; omega⟩)
  | _ => none
  termination_by (ts.length, 8)
  decreasing_by all_goals exact Prod.Lex.left _ _ (by simp)

/-- Expressions with commas between them and perhaps one behind, up to the closing word. -/
def args (close : Token) (ts : List Token) : Option (List Expr × Shorter ts) :=
  match ts with
  | [] => none
  | t :: rest =>
    if t = close then some ([], ⟨rest, by simp⟩)
    else
      match read 0 (t :: rest) with
      | none => none
      | some (e, r) =>
        match h : r.1 with
        | .comma :: rest' =>
          match args close rest' with
          | none => none
          | some (es, s) =>
            some (e :: es, ⟨s.1, by
              have := s.2; have := r.2; simp only [h, List.length_cons] at *; omega⟩)
        | t' :: rest' =>
          if t' = close then
            some ([e], ⟨rest', by have := r.2; simp only [h, List.length_cons] at *; omega⟩)
          else none
        | [] => none
  termination_by (ts.length, 20)
  decreasing_by
    · exact Prod.Lex.right _ (by omega)
    · exact Prod.Lex.left _ _ (by have := r.2; simp only [h, List.length_cons] at *; omega)

def fields (ts : List Token) : Option (List (String × Expr) × Shorter ts) :=
  match ts with
  | .closeBrace :: rest => some ([], ⟨rest, by simp⟩)
  | t :: .colon :: rest =>
    match key? t with
    | none => none
    | some k =>
      match read 0 rest with
      | none => none
      | some (e, r) =>
        match h : r.1 with
        | .comma :: rest' =>
          match fields rest' with
          | none => none
          | some (fs, s) =>
            some ((k, e) :: fs, ⟨s.1, by
              have := s.2; have := r.2; simp only [h, List.length_cons] at *; omega⟩)
        | .closeBrace :: rest' =>
          some ([(k, e)], ⟨rest', by have := r.2; simp only [h, List.length_cons] at *; omega⟩)
        | _ => none
  | _ => none
  termination_by (ts.length, 20)
  decreasing_by
    · exact Prod.Lex.left _ _ (by simp only [List.length_cons]; omega)
    · exact Prod.Lex.left _ _ (by have := r.2; simp only [h, List.length_cons] at *; omega)

end

/-- The expression that a whole text holds. -/
def parse? (s : String) : Option Expr :=
  match Token.scan s with
  | none => none
  | some ts =>
    match read 0 ts with
    | some (e, r) => if r.1.isEmpty then some e else none
    | none => none

end Workflow.Guard.Expr
