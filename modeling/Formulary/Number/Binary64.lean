namespace Formulary

-- A number of the 64-bit binary format. A finite one stands for `significand * 2 ^ exponent`
inductive Binary64
  | nan
  | infinite (negative : Bool)
  | finite (negative : Bool) (significand : Nat) (exponent : Int)
  deriving DecidableEq, Repr

namespace Binary64

def leastExponent : Int := -1074
def greatestExponent : Int := 971
def significandBound : Nat := Nat.pow 2 53

def zero (negative : Bool) : Binary64 := .finite negative 0 leastExponent

-- `a / b` to the nearest natural number, a half to the even one
def roundedQuotient (a b : Nat) : Nat :=
  let q := a / b
  let r := a % b
  if b < 2 * r || (2 * r == b && q % 2 == 1) then q + 1 else q

-- Numerator and denominator of `a / b` in units of `2 ^ e`
def inUnits (a b : Nat) (e : Int) : Nat × Nat :=
  if 0 ≤ e then (a, b * Nat.pow 2 e.toNat) else (a * Nat.pow 2 (-e).toNat, b)

-- The exponent for which `a / b` has a significand of 53 bits, or the least one there is
def exponentFor (a b : Nat) : Int :=
  let e := (a.log2 : Int) - b.log2 - 52
  let (n, d) := inUnits a b e
  max leastExponent (if n < d * Nat.pow 2 52 then e - 1 else e)

-- The nearest number to `a / b`
def ofRatio (negative : Bool) (a b : Nat) : Binary64 :=
  if a = 0 then zero negative
  else
    let e := exponentFor a b
    let (n, d) := inUnits a b e
    let m := roundedQuotient n d
    let (m, e) := if m = significandBound then (m / 2, e + 1) else (m, e)
    if greatestExponent < e then .infinite negative else .finite negative m e

-- The nearest number to `digits * 10 ^ exponent`. Powers far outside the format are not raised
def ofDecimal (negative : Bool) (digits : Nat) (exponent : Int) : Binary64 :=
  if digits = 0 then zero negative
  else if 400 < exponent then .infinite negative
  else if digits.log2 + 1 + 3 * exponent < -1080 then zero negative
  else if 0 ≤ exponent then ofRatio negative (digits * Nat.pow 10 exponent.toNat) 1
  else ofRatio negative digits (Nat.pow 10 (-exponent).toNat)

end Binary64

end Formulary
