namespace Formulary.Text

-- White space as Unicode's bidirectional classes see it: besides the blanks and line ends of
-- ASCII it holds the information separators, the next-line control and the wide spaces
def isBlank (c : Char) : Bool :=
  let n := c.toNat
  (0x9 ≤ n && n ≤ 0xd) || (0x1c ≤ n && n ≤ 0x20) || n == 0x85 || n == 0xa0 || n == 0x1680 ||
    (0x2000 ≤ n && n ≤ 0x200a) || n == 0x2028 || n == 0x2029 || n == 0x202f || n == 0x205f || n == 0x3000

-- What is left without the blanks at both ends
def trim {α : Type} (isBlank : α → Bool) (items : List α) : List α :=
  ((items.dropWhile isBlank).reverse.dropWhile isBlank).reverse

def strip (text : List Char) : List Char := trim isBlank text

end Formulary.Text
