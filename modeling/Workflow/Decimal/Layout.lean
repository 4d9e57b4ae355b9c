import Workflow.Decimal.Shortest

/-!
Writing a double out: positional for moderate exponents and with a power of ten otherwise.
-/
namespace Workflow.Decimal

/-- How a decimal is written. The exponent meant is that of the first digit. -/
structure Layout where
  /-- Smaller exponents are written as a power of ten. -/
  positionalFrom : Int
  /-- So are these and greater ones. -/
  positionalBelow : Int
  /-- What a positional whole number ends in. -/
  wholeEnding : String
  exponentMark : String
  positiveSign : String
deriving Repr

/-- Positional from 0.00001 to below 10^16, always with a point or an exponent. -/
def Layout.standard : Layout := ⟨-5, 16, ".0", "e", "+"⟩

/-- The digits without trailing zeros, and how many zeros there were. -/
def dropZeros (ds : List Char) : List Char × Nat :=
  let kept := (ds.reverse.dropWhile (· = '0')).reverse
  (kept, ds.length - kept.length)

def zeros (n : Nat) : List Char := List.replicate n '0'

def intText (n : Int) : String := toString n

def Layout.unsigned (l : Layout) (d : Decimal) : String :=
  if d.digits = 0 then "0" ++ l.wholeEnding
  else
    let all := Nat.toDigits 10 d.digits
    let (ds, dropped) := dropZeros all
    let lead : Int := d.exponent + dropped + ds.length - 1
    if l.positionalFrom ≤ lead ∧ lead < l.positionalBelow then
      if lead < 0 then String.ofList ("0.".toList ++ zeros (-lead - 1).toNat ++ ds)
      else
        let whole := (lead + 1).toNat
        if ds.length ≤ whole then
          String.ofList (ds ++ zeros (whole - ds.length)) ++ l.wholeEnding
        else String.ofList (ds.take whole ++ ['.'] ++ ds.drop whole)
    else
      let mantissa := match ds with
        | [c] => [c]
        | c :: cs => c :: '.' :: cs
        | [] => []
      String.ofList mantissa ++ l.exponentMark ++ (if 0 ≤ lead then l.positiveSign else "") ++
        intText lead

/-- A finite double in this layout; zero keeps its sign. -/
def Layout.write (l : Layout) (x : Float) : String :=
  (if (Binary.ofFloat x).negative then "-" else "") ++ l.unsigned (shortest x)

example : Layout.standard.unsigned ⟨1, 0⟩ = "1.0" := by decide +kernel
example : Layout.standard.unsigned ⟨1, -5⟩ = "0.00001" := by decide +kernel
example : Layout.standard.unsigned ⟨1, -6⟩ = "1e-6" := by decide +kernel
example : Layout.standard.unsigned ⟨12345, 16⟩ = "1.2345e+20" := by decide +kernel

end Workflow.Decimal
