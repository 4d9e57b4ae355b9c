import Workflow.Guard.Evaluator

/-!
Guards do not tell a whole number from the double that it converts to. Putting some whole numbers of a
value as doubles, at any depth (`Value.WidensTo`), leads to one value in the end, whichever are put first
(`Value.WidensTo.widened_eq`); the context of a guard is that value. So variables that can be made the same
in this way have the same context and no others have (`alike_iff`), and every condition is decided alike
among them (`guards_cannot_tell`).
-/
namespace Workflow

namespace Value

mutual

/-- The second value is the first with some of its whole numbers, at any depth, as the doubles that they
convert to. -/
inductive WidensTo : Value → Value → Prop
  | same (v : Value) : WidensTo v v
  | whole (n : Int) : WidensTo (.number (.int n)) (.number (.double (Number.int n).toDouble))
  | array {vs ws : List Value} (h : ItemsWidenTo vs ws) : WidensTo (.array vs) (.array ws)
  | object {fs gs : List (String × Value)} (h : FieldsWidenTo fs gs) :
    WidensTo (.object fs) (.object gs)

inductive ItemsWidenTo : List Value → List Value → Prop
  | nil : ItemsWidenTo [] []
  | cons {v w : Value} {vs ws : List Value} (h : WidensTo v w) (hs : ItemsWidenTo vs ws) :
    ItemsWidenTo (v :: vs) (w :: ws)

/-- Fields keep their names and their places. -/
inductive FieldsWidenTo : List (String × Value) → List (String × Value) → Prop
  | nil : FieldsWidenTo [] []
  | cons {k : String} {v w : Value} {fs gs : List (String × Value)} (h : WidensTo v w)
    (hs : FieldsWidenTo fs gs) : FieldsWidenTo ((k, v) :: fs) ((k, w) :: gs)

end

mutual

theorem widensTo_widened : ∀ v : Value, v.WidensTo v.widened
  | .null => .same _
  | .bool _ => .same _
  | .string _ => .same _
  | .number (.int n) => .whole n
  | .number (.double _) => .same _
  | .array vs => .array (itemsWidenTo_widened vs)
  | .object fs => .object (fieldsWidenTo_widened fs)

theorem itemsWidenTo_widened : ∀ vs : List Value, ItemsWidenTo vs (widenedItems vs)
  | [] => .nil
  | v :: vs => .cons (widensTo_widened v) (itemsWidenTo_widened vs)

theorem fieldsWidenTo_widened : ∀ fs : List (String × Value), FieldsWidenTo fs (widenedFields fs)
  | [] => .nil
  | (_, v) :: fs => .cons (widensTo_widened v) (fieldsWidenTo_widened fs)

end

mutual

/-- What is left to be put as doubles later leads to the same value. -/
theorem WidensTo.widened_eq : ∀ {v w : Value}, v.WidensTo w → w.widened = v.widened
  | _, _, .same _ => rfl
  | _, _, .whole _ => rfl
  | _, _, .array h => by rw [widened, widened, h.widened_eq]
  | _, _, .object h => by rw [widened, widened, h.widened_eq]

theorem ItemsWidenTo.widened_eq : ∀ {vs ws : List Value}, ItemsWidenTo vs ws →
    widenedItems ws = widenedItems vs
  | _, _, .nil => rfl
  | _, _, .cons h hs => by rw [widenedItems, widenedItems, h.widened_eq, hs.widened_eq]

theorem FieldsWidenTo.widened_eq : ∀ {fs gs : List (String × Value)}, FieldsWidenTo fs gs →
    widenedFields gs = widenedFields fs
  | _, _, .nil => rfl
  | _, _, .cons h hs => by rw [widenedFields, widenedFields, h.widened_eq, hs.widened_eq]

end

theorem widened_widened (v : Value) : v.widened.widened = v.widened := (widensTo_widened v).widened_eq

theorem widenedFields_eq_map (fs : List (String × Value)) :
    widenedFields fs = fs.map fun f => (f.1, f.2.widened) := by
  induction fs with
  | nil => rfl
  | cons f fs ih => rw [widenedFields, ih, List.map_cons]

end Value

namespace Guard

/-- Variables that come to the same when some whole numbers in each are put as doubles. -/
def Alike (vars vars' : Variables) : Prop :=
  ∃ d : Variables, (Value.ofVariables vars).WidensTo (.ofVariables d) ∧
    (Value.ofVariables vars').WidensTo (.ofVariables d)

variable {vars vars' : Variables}

/-- The context has one field for each variable. -/
theorem contextOf_eq (vars : Variables) :
    contextOf vars = .ofVariables (vars.mapValues Value.widened) := by
  rw [contextOf, Value.ofVariables, Value.widened, Value.widenedFields_eq_map]
  rfl

theorem alike_of_widensTo (h : (Value.ofVariables vars).WidensTo (.ofVariables vars')) :
    Alike vars vars' := ⟨vars', h, .same _⟩

theorem alike_iff : Alike vars vars' ↔ contextOf vars = contextOf vars' := by
  constructor
  · rintro ⟨d, h, h'⟩
    -- both are widened to what `d` is widened to
    exact h.widened_eq.symm.trans h'.widened_eq
  · intro h
    refine ⟨vars.mapValues Value.widened, ?_, ?_⟩
    · rw [← contextOf_eq]
      exact Value.widensTo_widened _
    · rw [← contextOf_eq, h]
      exact Value.widensTo_widened _

theorem evaluate_congr (h : contextOf vars = contextOf vars') (c : Condition) :
    Evaluator.standard.evaluate c vars = Evaluator.standard.evaluate c vars' := by
  change c.ask (evalAtom (contextOf vars)) = c.ask (evalAtom (contextOf vars'))
  rw [h]

/-- Guards do not tell variables apart that come to the same when whole numbers are put as doubles, and
have one context for them. In the context nothing but whole numbers is put otherwise than it stands in the
variables, and it is its own context. -/
theorem guards_cannot_tell (vars vars' : Variables) :
    ((Value.ofVariables vars).WidensTo (.ofVariables vars') → Alike vars vars') ∧
    (Alike vars vars' →
      ∀ c, Evaluator.standard.evaluate c vars = Evaluator.standard.evaluate c vars') ∧
    (Alike vars vars' ↔ contextOf vars = contextOf vars') ∧
    (Value.ofVariables vars).WidensTo (contextOf vars) ∧
    ∃ d : Variables, contextOf vars = .ofVariables d ∧ contextOf d = .ofVariables d := by
  refine ⟨alike_of_widensTo, fun h => evaluate_congr (alike_iff.1 h), alike_iff,
    Value.widensTo_widened _, vars.mapValues Value.widened, contextOf_eq vars, ?_⟩
  rw [contextOf, ← contextOf_eq]
  exact Value.widened_widened _

section Orders

/-- Variables with a whole number in a field of an object in a list. -/
def ordered : Variables where
  entries := [("count", .number (.int 3)),
    ("lines", .array [.object [("name", .string "3"), ("size", .number (.int 3))], .null])]
  inOrder := by decide

/-- The same with that number, and not the one before it, as a double. -/
def reordered : Variables where
  entries := [("count", .number (.int 3)),
    ("lines", .array [.object [("name", .string "3"),
      ("size", .number (.double (Number.int 3).toDouble))], .null])]
  inOrder := by decide

theorem guards_cannot_tell_ordered :
    (Value.ofVariables ordered).WidensTo (.ofVariables reordered) ∧
      ∀ c, Evaluator.standard.evaluate c ordered = Evaluator.standard.evaluate c reordered :=
  have h : (Value.ofVariables ordered).WidensTo (.ofVariables reordered) :=
    .object (.cons (.same _) (.cons (.array (.cons
      (.object (.cons (.same _) (.cons (.whole 3) .nil))) (.cons (.same _) .nil))) .nil))
  have hlaws := guards_cannot_tell ordered reordered
  ⟨h, hlaws.2.1 (hlaws.1 h)⟩

end Orders

end Guard

end Workflow
