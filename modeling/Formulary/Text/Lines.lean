import Formulary.Text.Blank

namespace Formulary.Text

-- Each of the three line ends in use becomes the one line feed
def unifyLineEnds : List Char → List Char
  | '\r' :: '\n' :: rest => '\n' :: unifyLineEnds rest
  | '\r' :: rest => '\n' :: unifyLineEnds rest
  | c :: rest => c :: unifyLineEnds rest
  | [] => []

def isLineFeed (c : Char) : Bool := c == '\n'

-- The characters that end a line of a document: the line ends proper, the vertical tab, the form
-- feed, the three larger information separators, next line, and the two Unicode separators
def isLineBreak (c : Char) : Bool :=
  let n := c.toNat
  (0xa ≤ n && n ≤ 0xd) || (0x1c ≤ n && n ≤ 0x1e) || n == 0x85 || n == 0x2028 || n == 0x2029

-- The pieces between the items that `isEnd` picks out, in order
def pieces {α : Type} (isEnd : α → Bool) : List α → List (List α)
  | [] => [[]]
  | c :: rest =>
    if isEnd c then [] :: pieces isEnd rest
    else match pieces isEnd rest with
      | [] => [[c]]
      | piece :: more => (c :: piece) :: more

-- The lines that hold more than blanks, stripped
def filledLines (isEnd : Char → Bool) (text : List Char) : List (List Char) :=
  ((pieces isEnd text).map strip).filter fun line => !line.isEmpty

end Formulary.Text
