import Workflow.Data.Dict

/-!
The 128-bit ids of instances and tasks.
-/
namespace Workflow

structure Uuid where
  bits : BitVec 128
deriving DecidableEq, Repr, Inhabited

namespace Uuid

/-- The last `count` hexadecimal digits of a number, leading ones first. -/
def hexDigits (n : Nat) : (count : Nat) → List Char
  | 0 => []
  | count + 1 => hexDigits (n / 16) count ++ [Nat.digitChar (n % 16)]

/-- Small hexadecimal digits in groups of eight, four, four, four and twelve. -/
def text (u : Uuid) : String :=
  let ds := hexDigits u.bits.toNat 32
  String.ofList (ds.take 8 ++ ['-'] ++ (ds.drop 8).take 4 ++ ['-'] ++ (ds.drop 12).take 4 ++ ['-'] ++
    (ds.drop 16).take 4 ++ ['-'] ++ ds.drop 20)

instance : ToString Uuid := ⟨text⟩

def hexValue? (c : Char) : Option Nat :=
  if c.isDigit then some (c.toNat - '0'.toNat)
  else if 'a' ≤ c ∧ c ≤ 'f' then some (c.toNat - 'a'.toNat + 10)
  else if 'A' ≤ c ∧ c ≤ 'F' then some (c.toNat - 'A'.toNat + 10)
  else none

def ofDigits? (cs : List Char) : Option Uuid :=
  (cs.foldlM (fun n c => (hexValue? c).map fun d => n * 16 + d) 0).map fun n => ⟨BitVec.ofNat 128 n⟩

def ofHyphenated? (cs : List Char) : Option Uuid :=
  if cs.length = 36 ∧ cs[8]? = some '-' ∧ cs[13]? = some '-' ∧ cs[18]? = some '-' ∧
      cs[23]? = some '-' then
    ofDigits? (cs.take 8 ++ (cs.drop 9).take 4 ++ (cs.drop 14).take 4 ++ (cs.drop 19).take 4 ++
      cs.drop 24)
  else none

/-- With hyphens, without, in braces or as a URN; the digits may be of either case. -/
def parse? (s : String) : Option Uuid :=
  let cs := s.toList
  if cs.length = 32 then ofDigits? cs
  else if cs.length = 38 ∧ cs.head? = some '\x7b' ∧ cs.getLast? = some '\x7d' then
    ofHyphenated? (cs.drop 1).dropLast
  else if cs.length = 45 ∧ cs.take 9 = "urn:uuid:".toList then ofHyphenated? (cs.drop 9)
  else ofHyphenated? cs

def le (u v : Uuid) : Bool := u.bits.toNat ≤ v.bits.toNat

instance : Key Uuid where
  lt u v := u.bits.toNat < v.bits.toNat
  decidableLT := fun u v => inferInstanceAs (Decidable (u.bits.toNat < v.bits.toNat))
  lt_irrefl := fun u => Nat.lt_irrefl u.bits.toNat
  lt_trans := Nat.lt_trans
  lt_trichotomy := fun ⟨u⟩ ⟨v⟩ => by
    simpa only [Uuid.mk.injEq, ← BitVec.toNat_inj] using Nat.lt_trichotomy u.toNat v.toNat

example : (parse? "urn:uuid:01890000-0000-7000-8000-00000000A001").map text =
    some "01890000-0000-7000-8000-00000000a001" := by decide +kernel

end Uuid

end Workflow
