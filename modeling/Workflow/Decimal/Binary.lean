/-!
Doubles as binary fractions: a finite one other than zero is `mantissa * 2 ^ exponent` up to its
sign.
-/
namespace Workflow.Decimal

structure Binary where
  negative : Bool
  mantissa : Nat
  exponent : Int
deriving DecidableEq, Repr

namespace Binary

def ofBits (bits : Nat) : Binary :=
  let fraction : Nat := bits % Nat.pow 2 52
  let biased : Nat := bits / Nat.pow 2 52 % Nat.pow 2 11
  if biased = 0 then ⟨Nat.pow 2 63 ≤ bits, fraction, -1074⟩
  else ⟨Nat.pow 2 63 ≤ bits, fraction + Nat.pow 2 52, (biased : Int) - 1075⟩

def ofFloat (x : Float) : Binary := ofBits x.toBits.toNat

/-- Exact when the mantissa fits in a double. -/
def toFloat (b : Binary) : Float :=
  let x := (Float.ofNat b.mantissa).scaleB b.exponent
  if b.negative then -x else x

end Binary

/-- The remainder of a division whose quotient is cut towards zero; it has the sign of `x`. -/
def remainder (x y : Float) : Float :=
  if !x.isFinite || y.isNaN || y == 0 then 0 / 0
  else if !y.isFinite then x
  else
    let a := Binary.ofFloat x
    let b := Binary.ofFloat y
    let e := min a.exponent b.exponent
    let r := a.mantissa * Nat.pow 2 (a.exponent - e).toNat %
      (b.mantissa * Nat.pow 2 (b.exponent - e).toNat)
    Binary.toFloat ⟨a.negative, r, e⟩

end Workflow.Decimal
