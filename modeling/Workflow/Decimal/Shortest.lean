import Workflow.Decimal.Binary

/-!
The shortest decimal that reads back as a given double. The reals that round to the double form an
interval around it, closed when its mantissa is even. Among the decimals in that interval one with
the fewest digits is taken, of those the nearest, and of two equally near the even one.
-/
namespace Workflow.Decimal

/-- The number `digits * 10 ^ exponent`. -/
structure Decimal where
  digits : Nat
  exponent : Int
deriving DecidableEq, Repr

/-- The fractions `low / den`, `mid / den` and `high / den`. -/
structure Interval where
  low : Nat
  mid : Nat
  high : Nat
  den : Nat
  closed : Bool

namespace Interval

/-- Below a power of two the doubles lie twice as close. -/
def around (m : Nat) (q : Int) : Interval :=
  let below := if m = Nat.pow 2 52 ∧ q ≠ -1074 then 1 else 2
  let up := Nat.pow 2 (q - 2).toNat
  ⟨(4 * m - below) * up, 4 * m * up, (4 * m + 2) * up, Nat.pow 2 (2 - q).toNat, m % 2 = 0⟩

/-- Everything in the interval over `10 ^ k`. -/
def scaled (i : Interval) (k : Int) : Interval :=
  let up := Nat.pow 10 (-k).toNat
  ⟨i.low * up, i.mid * up, i.high * up, i.den * Nat.pow 10 k.toNat, i.closed⟩

def holds (i : Interval) (n : Nat) : Bool :=
  if i.closed then i.low ≤ n * i.den && n * i.den ≤ i.high
  else i.low < n * i.den && n * i.den < i.high

/-- The whole number in the interval nearest to its middle, the even one of two. -/
def nearest? (i : Interval) : Option Nat :=
  let f := i.mid / i.den
  let down := i.mid - f * i.den
  let up := (f + 1) * i.den - i.mid
  match i.holds f, i.holds (f + 1) with
  | true, true => some (if down < up ∨ (down = up ∧ f % 2 = 0) then f else f + 1)
  | true, false => some f
  | false, true => some (f + 1)
  | false, false => none

/-- The place of the first digit of the middle. -/
def leading (i : Interval) : Int :=
  if i.den ≤ i.mid then ((Nat.toDigits 10 (i.mid / i.den)).length - 1 : Nat)
  else
    let n := (Nat.toDigits 10 (i.den / i.mid)).length
    if i.den ≤ i.mid * Nat.pow 10 (n - 1) then -(n - 1 : Nat) else -(n : Nat)

end Interval

/-- Tries grids of more and more digits; seventeen always suffice. -/
def shortestFrom (i : Interval) (lead : Int) : (tries n : Nat) → Decimal
  | 0, n => ⟨(i.scaled (lead - n + 1)).mid / (i.scaled (lead - n + 1)).den, lead - n + 1⟩
  | tries + 1, n =>
    match (i.scaled (lead - n + 1)).nearest? with
    | some d => ⟨d, lead - n + 1⟩
    | none => shortestFrom i lead tries (n + 1)

/-- The shortest decimal of a finite double, without its sign. -/
def shortest (x : Float) : Decimal :=
  let b := Binary.ofFloat x
  if b.mantissa = 0 then ⟨0, 0⟩
  else
    let i := Interval.around b.mantissa b.exponent
    shortestFrom i i.leading 17 1

end Workflow.Decimal
