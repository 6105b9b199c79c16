import Formulary.Number.Binary64

namespace Formulary

-- `digits * 10 ^ exponent`
structure Decimal where
  digits : Nat
  exponent : Int
  deriving DecidableEq, Repr

namespace Decimal

-- The same value without zeros at the end of its digits
def trimmed (d : Decimal) : Decimal :=
  if h : d.digits ≠ 0 ∧ d.digits % 10 = 0 then
    trimmed ⟨d.digits / 10, d.exponent + 1⟩
  else d
  termination_by d.digits
  decreasing_by exact Nat.div_lt_self (Nat.pos_of_ne_zero h.1) (by decide)

end Decimal

namespace Binary64

-- A value and the ends of the reals that round to it, over one denominator
structure Interval where
  low : Nat
  value : Nat
  high : Nat
  denominator : Nat
  closed : Bool

-- The ends lie half way to the neighbours; below a power of two the lower neighbour is twice as
-- near. They belong to the value when its significand is even
def interval (significand : Nat) (exponent : Int) : Interval :=
  let below := if significand = Nat.pow 2 52 && leastExponent < exponent then 1 else 2
  let up := Nat.pow 2 (exponent - 2).toNat
  { low := (4 * significand - below) * up
    value := 4 * significand * up
    high := (4 * significand + 2) * up
    denominator := Nat.pow 2 (2 - exponent).toNat
    closed := significand % 2 == 0 }

namespace Interval

def isBelowPower (i : Interval) (k : Int) : Bool :=
  i.value * Nat.pow 10 (-k).toNat < i.denominator * Nat.pow 10 k.toNat

-- The least power of ten above the value, found near its logarithm
def magnitude (i : Interval) : Int :=
  let e := ((i.value.log2 : Int) - i.denominator.log2) * 30103 / 100000
  ([e - 1, e, e + 1].find? i.isBelowPower).getD (e + 2)

-- The decimal of the grid `10 ^ g` that lies in the interval, the nearer one where two neighbours
-- of the value do, of two equally near ones the even one
def onGrid? (i : Interval) (g : Int) : Option Nat :=
  let up := Nat.pow 10 (-g).toNat
  let unit := i.denominator * Nat.pow 10 g.toNat
  let v := i.value * up
  let n := v / unit
  let low := n * unit
  let high := (n + 1) * unit
  let lowIn := if i.closed then i.low * up ≤ low else i.low * up < low
  let highIn := if i.closed then high ≤ i.high * up else high < i.high * up
  match decide lowIn, decide highIn with
  | true, true =>
    let near := v - low
    let far := high - v
    some (if near < far || (near == far && n % 2 == 0) then n else n + 1)
  | true, false => some n
  | false, true => some (n + 1)
  | false, false => none

-- The first of the grids from `g` down that has a decimal in the interval
def firstOnGrids (i : Interval) : Nat → Int → Decimal
  | 0, g => ⟨i.value * Nat.pow 10 (-g).toNat / (i.denominator * Nat.pow 10 g.toNat), g⟩
  | grids + 1, g =>
    match i.onGrid? g with
    | some digits => ⟨digits, g⟩
    | none => firstOnGrids i grids (g - 1)

end Interval

-- The fewest digits that read back as `significand * 2 ^ exponent`; seventeen always do
def shortest (significand : Nat) (exponent : Int) : Decimal :=
  if significand = 0 then ⟨0, 0⟩
  else
    let i := interval significand exponent
    (i.firstOnGrids 17 (i.magnitude - 1)).trimmed

end Binary64

end Formulary
