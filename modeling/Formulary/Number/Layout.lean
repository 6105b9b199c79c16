import Formulary.Number.Shortest

namespace Formulary

-- How a number is laid out. Its digits stand before, around or behind the point while the point
-- falls among the first `places` digits or at most `leadingZeros` zeros behind it; elsewhere the
-- power of ten follows a mark, with a sign and two digits at least
structure Layout where
  places : Int
  leadingZeros : Int
  wholeMark : String
  plus : Bool

namespace Layout

-- A number by itself always shows a point or an exponent
def alone : Layout := ⟨16, 4, ".0", false⟩

-- The parts of a complex number drop a fraction of zero; the imaginary one follows a sign
def realPart : Layout := ⟨16, 4, "", false⟩
def imaginaryPart : Layout := ⟨16, 4, "", true⟩

def zeros (n : Int) : String := String.ofList (List.replicate n.toNat '0')

def exponentText (e : Int) : String :=
  let digits := toString e.natAbs
  (if e < 0 then "-" else "+") ++ (if e.natAbs < 10 then "0" else "") ++ digits

def digitsText (l : Layout) (d : Decimal) : String :=
  let digits := Nat.toDigits 10 d.digits
  let point : Int := digits.length + d.exponent
  if -l.leadingZeros < point ∧ point ≤ l.places then
    if point ≤ 0 then "0." ++ zeros (-point) ++ String.ofList digits
    else if digits.length ≤ point then
      String.ofList digits ++ zeros (point - digits.length) ++ l.wholeMark
    else
      String.ofList (digits.take point.toNat) ++ "." ++ String.ofList (digits.drop point.toNat)
  else
    String.ofList (digits.take 1) ++ (if digits.length ≤ 1 then "" else ".") ++
      String.ofList (digits.drop 1) ++ "e" ++ exponentText (point - 1)

def sign (l : Layout) (negative : Bool) : String :=
  if negative then "-" else if l.plus then "+" else ""

def text (l : Layout) : Binary64 → String
  | .nan => l.sign false ++ "nan"
  | .infinite negative => l.sign negative ++ "inf"
  | .finite negative significand exponent =>
    l.sign negative ++ l.digitsText (Binary64.shortest significand exponent)

end Layout

end Formulary
