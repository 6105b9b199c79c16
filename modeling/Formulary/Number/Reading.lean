import Formulary.Number.Shortest

namespace Formulary

def isDigit (c : Char) : Bool := '0' ≤ c && c ≤ '9'

-- The number that a row of decimal digits writes
def ofDigits (digits : List Char) : Nat :=
  digits.foldl (fun n c => 10 * n + (c.toNat - '0'.toNat)) 0

namespace Decimal

-- The power of ten after an exponent mark, if one stands there and nothing follows it
def exponent? : List Char → Option Int
  | [] => some 0
  | mark :: rest =>
    if mark = 'e' ∨ mark = 'E' then
      let (negative, digits) := match rest with
        | '-' :: digits => (true, digits)
        | '+' :: digits => (false, digits)
        | digits => (false, digits)
      if digits.isEmpty || !digits.all isDigit then none
      else some (if negative then -(ofDigits digits : Int) else ofDigits digits)
    else none

-- Digits, a point among them or not, and a power of ten or none
def read? (text : List Char) : Option Decimal :=
  let whole := text.takeWhile isDigit
  let rest := text.dropWhile isDigit
  let (fraction, rest) := match rest with
    | '.' :: rest => (rest.takeWhile isDigit, rest.dropWhile isDigit)
    | rest => ([], rest)
  if whole.isEmpty && fraction.isEmpty then none
  else (exponent? rest).map fun e => ⟨ofDigits (whole ++ fraction), e - fraction.length⟩

end Decimal

namespace Binary64

-- The nearest number to a decimal without a sign
def readUnsigned? (text : List Char) : Option Binary64 :=
  (Decimal.read? text).map fun d => ofDecimal false d.digits d.exponent

def negate : Binary64 → Binary64
  | .nan => .nan
  | .infinite negative => .infinite (!negative)
  | .finite negative significand exponent => .finite (!negative) significand exponent

-- A decimal, an infinity or no number at all, with a sign before it or not
def read? (text : List Char) : Option Binary64 :=
  let unsigned (text : List Char) : Option Binary64 :=
    if text = "nan".toList then some .nan
    else if text = "inf".toList ∨ text = "infinity".toList then some (.infinite false)
    else readUnsigned? text
  match text.map Char.toLower with
  | '-' :: rest => (unsigned rest).map negate
  | '+' :: rest => unsigned rest
  | rest => unsigned rest

end Binary64

end Formulary
