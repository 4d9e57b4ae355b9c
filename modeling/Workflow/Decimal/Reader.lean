/-!
Numbers from decimal digits.
-/
namespace Workflow.Decimal

def digitsValue (ds : List Char) : Nat := ds.foldl (fun n c => n * 10 + (c.toNat - '0'.toNat)) 0

/-- The number that digits denote, of which there has to be one. -/
def natural? (ds : List Char) : Option Nat :=
  if ds.isEmpty || !ds.all Char.isDigit then none else some (digitsValue ds)

/-- A number below a bound, perhaps behind a plus sign. -/
def unsigned? (bound : Nat) (s : String) : Option Nat :=
  let ds := match s.toList with
    | '+' :: cs => cs
    | cs => cs
  (natural? ds).filter (· < bound)

/-- The double nearest to `n * 10 ^ e`, unless that is infinite. -/
def scientific? (n : Nat) (e : Int) : Option Float :=
  let size : Int := (Nat.toDigits 10 n).length
  if n = 0 ∨ e + size < -400 then some 0.0
  else if 400 < e + size then none
  else
    let x := if e < 0 then Float.ofScientific n true e.natAbs else Float.ofScientific n false e.toNat
    if x.isFinite then some x else none

end Workflow.Decimal
