namespace Formulary.Text

-- A run of code points, both ends included
abbrev Range := Nat × Nat

def Range.covers (ranges : List Range) (c : Char) : Bool :=
  ranges.any fun r => r.1 ≤ c.toNat && c.toNat ≤ r.2

end Formulary.Text
