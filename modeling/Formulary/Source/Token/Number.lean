import Formulary.Number.Reading
import Formulary.Source.Token

namespace Formulary.Source.Number

-- The digits at the front and what follows them. Single underscores may part digits
def digitRun (isDigit : Char → Bool) : List Char → Option (List Char × List Char)
  | [] => some ([], [])
  | ['_'] => none
  | '_' :: d :: rest =>
    if isDigit d then (digitRun isDigit rest).map fun r => (d :: r.1, r.2) else none
  | c :: rest =>
    if isDigit c then (digitRun isDigit rest).map fun r => (c :: r.1, r.2) else some ([], c :: rest)

-- The digits at the front, if there are any
def optionalRun (text : List Char) : Option (List Char × List Char) :=
  if text.head?.any isDigit then digitRun isDigit text else some ([], text)

def startsWord (word : String) (text : List Char) : Bool :=
  word.toList.isPrefixOf text && !(text.drop word.length).head?.any continuesWord

-- A number may run into one of the keywords that can follow it, and into no other word
def endsWell (rest : List Char) : Bool :=
  ["and", "else", "for", "not", "or"].any (startsWord · rest) ||
    ["if", "in", "is"].any (fun word => word.toList.isPrefixOf rest) ||
    !rest.head?.any continuesWord

def digitOf (c : Char) : Nat :=
  if isDigit c then c.toNat - '0'.toNat else c.toLower.toNat - 'a'.toNat + 10

def isDigitBelow (base : Nat) (c : Char) : Bool :=
  (isDigit c || ('a' ≤ c.toLower && c.toLower ≤ 'f')) && digitOf c < base

-- An integer in another base, after its two-character opening
def based (base : Nat) (text : List Char) : Option (Constant × List Char) := do
  let text := match text with
    | '_' :: rest => rest
    | rest => rest
  if !text.head?.any (isDigitBelow base) then none
  else
    let (digits, rest) ← digitRun (isDigitBelow base) text
    if rest.head?.any isDigit || !endsWell rest then none
    else some (.integer (digits.foldl (fun n c => base * n + digitOf c) 0 : Nat), rest)

-- A whole number. Zeros may not lead other digits, and there is a limit to the digits
def whole? (digits : List Char) : Option Constant :=
  if digits.all (· == '0') then some (.integer 0)
  else if digits.head? = some '0' ∨ digitLimit < digits.length then none
  else some (.integer (ofDigits digits))

def realOf (whole fraction : List Char) (exponent : Int) : Binary64 :=
  .ofDecimal false (ofDigits (whole ++ fraction)) (exponent - fraction.length)

-- The power of ten after its mark; a mark with neither sign nor digits behind it is no mark
def exponent? : List Char → Option (Option Int × List Char)
  | mark :: sign :: rest =>
    if mark ≠ 'e' ∧ mark ≠ 'E' then some (none, mark :: sign :: rest)
    else if sign = '+' ∨ sign = '-' then
      if !rest.head?.any isDigit then none
      else (digitRun isDigit rest).map fun r =>
        (some (if sign = '-' then -(ofDigits r.1 : Int) else ofDigits r.1), r.2)
    else if isDigit sign then
      (digitRun isDigit (sign :: rest)).map fun r => (some (ofDigits r.1 : Int), r.2)
    else some (none, mark :: sign :: rest)
  | rest => some (none, rest)

def opensExponent (text : List Char) : Bool := text.head?.any fun c => c == 'e' || c == 'E'

def decimal (text : List Char) : Option (Constant × List Char) := do
  let (whole, rest) ← optionalRun text
  let (point, fraction, rest) ← match rest with
    | '.' :: rest => (optionalRun rest).map fun r => (true, r.1, r.2)
    | rest => some (false, [], rest)
  let bare := opensExponent rest
  let (exponent, rest) ← exponent? rest
  let real := realOf whole fraction (exponent.getD 0)
  if exponent.isNone && bare then
    -- a word that opens like an exponent follows
    if !endsWell rest then none
    else if point || (whole.head? = some '0' && !whole.all (· == '0')) then some (.real real, rest)
    else return (← whole? whole, rest)
  else
    let (imaginary, rest) := match rest with
      | c :: more => if c = 'j' ∨ c = 'J' then (true, more) else (false, c :: more)
      | [] => (false, [])
    if !endsWell rest then none
    else if imaginary then some (.complex (.zero false) real, rest)
    else if point || exponent.isSome then some (.real real, rest)
    else return (← whole? whole, rest)

-- The number that the text opens with, and the rest
def scan : List Char → Option (Constant × List Char)
  | '0' :: c :: rest =>
    if c = 'x' ∨ c = 'X' then based 16 rest
    else if c = 'o' ∨ c = 'O' then based 8 rest
    else if c = 'b' ∨ c = 'B' then based 2 rest
    else decimal ('0' :: c :: rest)
  | text => decimal text

end Formulary.Source.Number
