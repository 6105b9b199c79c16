import Formulary.Source.Token.Quotation
import Formulary.Text.Identifier
import Formulary.Text.Normal
import Formulary.Text.Utf8

namespace Formulary.Source.Token

-- How far a line is indented so far. Where it is continued with a backslash, the width before the
-- first one that is not at the margin counts
structure Indent where
  width : Nat
  fixed : Nat
  deriving DecidableEq, Repr

namespace Indent

def margin : Indent := ⟨0, 0⟩

def isMargin (i : Indent) : Bool := (if i.fixed = 0 then i.width else i.fixed) == 0

def isBlank (c : Char) : Bool := c == ' ' || c == '\t' || c == '\x0c'

-- A tabulator goes to the next multiple of eight, a form feed back to the margin
def advance (i : Indent) (c : Char) : Indent :=
  if c = '\t' then { i with width := (i.width / 8 + 1) * 8 }
  else if c = '\x0c' then { i with width := 0 }
  else { i with width := i.width + 1 }

def continued (i : Indent) : Indent := if i.fixed = 0 then { i with fixed := i.width } else i

end Indent

-- Outside ASCII a word is a name only if Unicode says so, and it stands for its compatibility form
def word? (text : List Char) : Option (Lexeme × List Char) :=
  let characters := text.takeWhile continuesWord
  let rest := text.dropWhile continuesWord
  let word := String.ofList characters
  if keywords.contains word then some (.keyword word, rest)
  else if characters.all (·.toNat < 0x80) then some (.name word, rest)
  else if Text.isName characters then some (.name (String.ofList (Text.Normal.form characters)), rest)
  else none

def mark? (text : List Char) : Option (Lexeme × List Char) :=
  (marks.find? fun m => m.toList.isPrefixOf text).map fun m => (.mark m, text.drop m.length)

def opensNumber : List Char → Bool
  | '.' :: c :: _ => isDigit c
  | c :: _ => isDigit c
  | [] => false

-- The lexeme that the text opens with, and the rest
def lexeme? (text : List Char) : Option (Lexeme × List Char) :=
  if (Quotation.opening? text).isSome then
    (Quotation.scan text).map fun r => (.quotation r.1, r.2)
  else if text.head?.any opensWord then word? text
  else if opensNumber text then (Number.scan text).map fun r => (.number r.1, r.2)
  else mark? text

-- The open brackets after a lexeme. A closing one has to match the last that is open
def nest? (brackets : List Char) : Lexeme → Option (List Char)
  | .mark m =>
    match m.toList with
    | [c] =>
      if Quotation.isOpening c then
        if Quotation.depthLimit ≤ brackets.length then none else some (c :: brackets)
      else if Quotation.isClosing c then
        match brackets with
        | opening :: outer => if Quotation.closes opening c then some outer else none
        | [] => none
      else some brackets
    | _ => some brackets
  | _ => some brackets

-- The column after some characters
def advanceColumn (column : Nat) (passed : List Char) : Nat :=
  passed.foldl (fun n c => if c = '\n' then 0 else n + Text.Utf8.width c) column

-- A comment runs to the end of its line
def afterComment (text : List Char) : List Char := text.dropWhile (· != '\n')

theorem length_afterComment_le (text : List Char) : (afterComment text).length ≤ text.length :=
  (List.dropWhile_suffix _).length_le

-- The tokens of a text. `indent` is there while a line has held nothing but blanks and comments:
-- such a line ends without a token. Inside brackets line ends and indents do not count; outside,
-- a line that says something starts at the margin
def scanFrom (indent : Option Indent) (brackets : List Char) (column : Nat) (text : List Char) :
    Option (List Token) :=
  match text with
  | [] => if brackets.isEmpty then some [] else none
  | c :: rest =>
    if Indent.isBlank c then
      scanFrom (indent.map (·.advance c)) brackets (column + 1) rest
    else if c = '\\' then
      match rest with
      | '\n' :: d :: rest => scanFrom (indent.map (·.continued)) brackets 0 (d :: rest)
      | _ => none
    else if c = '#' then
      scanFrom indent brackets column (afterComment rest)
    else if c = '\n' then
      let more := scanFrom (some .margin) brackets 0 rest
      if indent.isSome || !brackets.isEmpty then more else more.map (⟨.lineEnd, column⟩ :: ·)
    else if brackets.isEmpty && indent.any (!·.isMargin) then none
    else do
      let (lexeme, after) ← lexeme? (c :: rest)
      let brackets ← nest? brackets lexeme
      if after.length ≤ rest.length then
        let passed := c :: rest.take (rest.length - after.length)
        let more ← scanFrom none brackets (advanceColumn column passed) after
        return ⟨lexeme, column⟩ :: more
      else none
  termination_by text.length
  decreasing_by all_goals grind [length_afterComment_le]

def scan (text : List Char) : Option (List Token) := scanFrom (some .margin) [] 0 text

end Formulary.Source.Token
