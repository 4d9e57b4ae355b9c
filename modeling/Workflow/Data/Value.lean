import Workflow.Data.Dict

/-!
The values that variables hold: null, booleans, numbers, texts, lists and objects. A whole number
and a double are different values even where they denote the same quantity; `widened` forgets the
difference and `agrees` compares with the equality of doubles.
-/
namespace Workflow

inductive Number where
  | int (n : Int)
  | double (x : Float)
deriving DecidableEq, Repr, Inhabited

inductive Value where
  | null
  | bool (b : Bool)
  | number (n : Number)
  | string (s : String)
  | array (items : List Value)
  | object (fields : List (String × Value))
deriving Repr, Inhabited

/-- The variables of an instance, by name. -/
abbrev Variables := Dict String Value

namespace Value

mutual

def decEq : (v w : Value) → Decidable (v = w)
  | .null, .null => isTrue rfl
  | .bool a, .bool b => if h : a = b then isTrue (by rw [h]) else isFalse (by simp [h])
  | .number a, .number b => if h : a = b then isTrue (by rw [h]) else isFalse (by simp [h])
  | .string a, .string b => if h : a = b then isTrue (by rw [h]) else isFalse (by simp [h])
  | .array a, .array b =>
    match decEqItems a b with
    | isTrue h => isTrue (by rw [h])
    | isFalse h => isFalse (by simp [h])
  | .object a, .object b =>
    match decEqFields a b with
    | isTrue h => isTrue (by rw [h])
    | isFalse h => isFalse (by simp [h])
  | .null, .bool _ | .null, .number _ | .null, .string _ | .null, .array _ | .null, .object _
  | .bool _, .null | .bool _, .number _ | .bool _, .string _ | .bool _, .array _
  | .bool _, .object _ | .number _, .null | .number _, .bool _ | .number _, .string _
  | .number _, .array _ | .number _, .object _ | .string _, .null | .string _, .bool _
  | .string _, .number _ | .string _, .array _ | .string _, .object _ | .array _, .null
  | .array _, .bool _ | .array _, .number _ | .array _, .string _ | .array _, .object _
  | .object _, .null | .object _, .bool _ | .object _, .number _ | .object _, .string _
  | .object _, .array _ => isFalse (by simp)

def decEqItems : (l m : List Value) → Decidable (l = m)
  | [], [] => isTrue rfl
  | v :: l, w :: m =>
    match decEq v w, decEqItems l m with
    | isTrue h, isTrue h' => isTrue (by rw [h, h'])
    | isFalse h, _ => isFalse (by simp [h])
    | _, isFalse h => isFalse (by simp [h])
  | [], _ :: _ | _ :: _, [] => isFalse (by simp)

def decEqFields : (l m : List (String × Value)) → Decidable (l = m)
  | [], [] => isTrue rfl
  | (k, v) :: l, (k', w) :: m =>
    if hk : k = k' then
      match decEq v w, decEqFields l m with
      | isTrue h, isTrue h' => isTrue (by rw [hk, h, h'])
      | isFalse h, _ => isFalse (by simp [h])
      | _, isFalse h => isFalse (by simp [h])
    else isFalse (by simp [hk])
  | [], _ :: _ | _ :: _, [] => isFalse (by simp)

end

instance : DecidableEq Value := decEq

/-- The fields of an object in the order of their names; of two fields with one name the later
counts. -/
def ofFields (fields : List (String × Value)) : Value := .object (Dict.ofList fields).entries

def field? (v : Value) (k : String) : Option Value :=
  match v with
  | .object fields => Dict.lookup k fields
  | _ => none

def ofVariables (vars : Variables) : Value := .object vars.entries

def isNull : Value → Bool
  | .null => true
  | _ => false

end Value

namespace Number

def ofNat (n : Nat) : Number := .int n

/-- Whole numbers are rounded to the nearest double. -/
def toDouble : Number → Float
  | .int n => if 0 ≤ n then n.toNat.toUInt64.toFloat else n.toInt64.toFloat
  | .double x => x

def agrees : Number → Number → Bool
  | .int n, .int m => n == m
  | .double x, .double y => x == y
  | _, _ => false

end Number

namespace Value

/-- A double as a value; infinities and NaN have none. -/
def ofDouble (x : Float) : Value := if x.isFinite then .number (.double x) else .null

mutual

/-- Every whole number in the value, at any depth, as a double. -/
def widened : Value → Value
  | .number n => .number (.double n.toDouble)
  | .array items => .array (widenedItems items)
  | .object fields => .object (widenedFields fields)
  | v => v

def widenedItems : List Value → List Value
  | [] => []
  | v :: vs => v.widened :: widenedItems vs

def widenedFields : List (String × Value) → List (String × Value)
  | [] => []
  | (k, v) :: fs => (k, v.widened) :: widenedFields fs

end

mutual

/-- The value with the fields of every object in it in the order of their names. -/
def inKeyOrder : Value → Value
  | .array items => .array (itemsInKeyOrder items)
  | .object fields => ofFields (fieldsInKeyOrder fields)
  | v => v

def itemsInKeyOrder : List Value → List Value
  | [] => []
  | v :: vs => v.inKeyOrder :: itemsInKeyOrder vs

def fieldsInKeyOrder : List (String × Value) → List (String × Value)
  | [] => []
  | (k, v) :: fs => (k, v.inKeyOrder) :: fieldsInKeyOrder fs

end

mutual

/-- Equality of values in which doubles compare as quantities: the two zeros agree. -/
def agrees : Value → Value → Bool
  | .null, .null => true
  | .bool a, .bool b => a == b
  | .number a, .number b => a.agrees b
  | .string a, .string b => a == b
  | .array a, .array b => agreeItems a b
  | .object a, .object b => agreeFields a b
  | _, _ => false

def agreeItems : List Value → List Value → Bool
  | [], [] => true
  | v :: vs, w :: ws => v.agrees w && agreeItems vs ws
  | _, _ => false

def agreeFields : List (String × Value) → List (String × Value) → Bool
  | [], [] => true
  | (k, v) :: fs, (k', w) :: gs => k == k' && v.agrees w && agreeFields fs gs
  | _, _ => false

end

/-- Null, false, zero and the empty text count as false. -/
def isTruthy : Value → Bool
  | .null => false
  | .bool b => b
  | .number n => n.toDouble != 0
  | .string s => !s.isEmpty
  | .array _ | .object _ => true

end Value

end Workflow
