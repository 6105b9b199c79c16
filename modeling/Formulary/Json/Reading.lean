import Formulary.Json.Fault
import Formulary.Number.Reading
import Formulary.OrderedMap
import Formulary.Value

namespace Formulary.Json

-- What is left of a document, and how much of it is read
structure Cursor where
  rest : List Char
  position : Nat

namespace Cursor

def advance (c : Cursor) (n : Nat) : Cursor := ⟨c.rest.drop n, c.position + n⟩

def isBlank (c : Char) : Bool := c == ' ' || c == '\t' || c == '\n' || c == '\r'

def skipBlanks (c : Cursor) : Cursor := c.advance (c.rest.takeWhile isBlank).length

def isAt (c : Cursor) (ch : Char) : Bool := c.rest.head? == some ch

def opens (c : Cursor) (word : String) : Bool := word.toList.isPrefixOf c.rest

end Cursor

def fail {α : Type} (reason : Reason) (position : Nat) : Except Fault α :=
  .error (.malformed reason position)

def simpleEscape? : Char → Option Char
  | '"' => some '"'
  | '\\' => some '\\'
  | '/' => some '/'
  | 'b' => some '\x08'
  | 'f' => some '\x0c'
  | 'n' => some '\n'
  | 'r' => some '\r'
  | 't' => some '\t'
  | _ => none

def hexValue? (c : Char) : Option Nat :=
  if isDigit c then some (c.toNat - '0'.toNat)
  else if 'a' ≤ c.toLower ∧ c.toLower ≤ 'f' then some (c.toLower.toNat - 'a'.toNat + 10)
  else none

-- The code unit that four hexadecimal digits write
def codeUnit? (text : List Char) : Option Nat :=
  match (text.take 4).mapM hexValue? with
  | some [a, b, c, d] => some (((a * 16 + b) * 16 + c) * 16 + d)
  | _ => none

def ofCodeUnit (n : Nat) : CodePoint := (CodePoint.ofNumber? n).getD '\ufffd'

-- The code point that the code units after a backslash and a `u` stand for, and how many characters
-- they take. A document never ends right after them, as a quote mark is still to come
def unicodeEscape (text : List Char) (position : Nat) : Except Fault (CodePoint × Nat) :=
  if text.length ≤ 4 then fail .codeUnit position
  else match codeUnit? text with
    | none => fail .codeUnit position
    | some high =>
      match text.drop 4 with
      | '\\' :: 'u' :: more =>
        if CodePoint.isHighHalf high && 4 < more.length then
          match codeUnit? more with
          | none => fail .codeUnit (position + 6)
          | some low =>
            if CodePoint.isLowHalf low then .ok (CodePoint.ofPair high low, 10)
            else .ok (ofCodeUnit high, 4)
        else .ok (ofCodeUnit high, 4)
      | _ => .ok (ofCodeUnit high, 4)

-- The characters up to the closing quote mark of the string whose opening one stands at `start`
def stringFrom (start : Nat) (text : List Char) (position : Nat) : Except Fault (Text × Cursor) :=
  match text with
  | [] => fail .unterminated start
  | c :: rest =>
    if c = '"' then .ok ([], ⟨rest, position + 1⟩)
    else if c = '\\' then
      match rest with
      | [] => fail .unterminated start
      | e :: rest =>
        if e = 'u' then do
          let (d, n) ← unicodeEscape rest (position + 1)
          let (more, after) ← stringFrom start (rest.drop n) (position + 2 + n)
          return (d :: more, after)
        else match simpleEscape? e with
          | none => fail .escape position
          | some d => do
            let (more, after) ← stringFrom start rest (position + 2)
            return (d :: more, after)
    else if c.toNat ≤ 0x1f then fail .controlCharacter position
    else do
      let (more, after) ← stringFrom start rest (position + 1)
      return (c :: more, after)
  termination_by text.length
  decreasing_by all_goals grind

-- A string at its opening quote mark
def string (c : Cursor) : Except Fault (Text × Cursor) :=
  stringFrom c.position (c.rest.drop 1) (c.position + 1)

-- A point and the digits after it, if both are there
def fraction (text : List Char) : List Char :=
  match text with
  | '.' :: rest => rest.takeWhile isDigit
  | _ => []

-- The exponent and the characters that it takes, if digits follow the mark and its sign
def exponent (text : List Char) : Int × Nat :=
  match text with
  | mark :: rest =>
    if mark = 'e' ∨ mark = 'E' then
      let (negative, signs) := match rest with
        | '-' :: _ => (true, 1)
        | '+' :: _ => (false, 1)
        | _ => (false, 0)
      let digits := (rest.drop signs).takeWhile isDigit
      if digits.isEmpty then (0, 0)
      else (if negative then -(ofDigits digits : Int) else ofDigits digits, 1 + signs + digits.length)
    else (0, 0)
  | [] => (0, 0)

-- A number: no zero leads other digits, and a fraction or an exponent makes it a real one
def number (c : Cursor) : Except Fault (Value × Cursor) :=
  let negative := c.isAt '-'
  let signs := if negative then 1 else 0
  let text := c.rest.drop signs
  let whole := if text.head? = some '0' then ['0'] else text.takeWhile isDigit
  if whole.isEmpty then fail .value c.position
  else
    let rest := text.drop whole.length
    let decimals := fraction rest
    let point := if decimals.isEmpty then 0 else decimals.length + 1
    let (power, marks) := exponent (rest.drop point)
    let after := c.advance (signs + whole.length + point + marks)
    if point = 0 ∧ marks = 0 then
      if digitLimit < whole.length then .error (.longInteger whole.length)
      else
        let n : Int := ofDigits whole
        .ok (.integer (if negative then -n else n), after)
    else
      let digits := ofDigits (whole ++ decimals)
      .ok (.real (.ofDecimal negative digits (power - decimals.length)), after)

def words : List (String × Value) :=
  [("null", .none),
   ("true", .truth true),
   ("false", .truth false),
   ("NaN", .real .nan),
   ("Infinity", .real (.infinite false)),
   ("-Infinity", .real (.infinite true))]

-- A value without parts
def scalar (c : Cursor) : Except Fault (Value × Cursor) :=
  if c.isAt '"' then do
    let (s, after) ← string c
    return (.text s, after)
  else match words.find? fun w => c.opens w.1 with
    | some (word, v) => .ok (v, c.advance word.length)
    | none => number c

-- A name in quotes and the colon after it
def memberName (c : Cursor) : Except Fault (Text × Cursor) :=
  if c.isAt '"' then do
    let (key, after) ← string c
    let after := after.skipBlanks
    if after.isAt ':' then return (key, (after.advance 1).skipBlanks) else fail .colon after.position
  else fail .name c.position

-- Of members of one name the last counts, in the place of the first
def objectOf (members : List (Text × Value)) : Value :=
  .dict ((OrderedMap.ofList members).entries.map fun e => (.text e.1, e.2))

-- Reading goes on only from a place that is further on
def advanced {α : Type} (c after : Cursor) (go : after.rest.length < c.rest.length → Except Fault α) :
    Except Fault α :=
  if h : after.rest.length < c.rest.length then go h else fail .value c.position

mutual

def value (c : Cursor) : Except Fault (Value × Cursor) :=
  if c.isAt '[' then
    let inner := (c.advance 1).skipBlanks
    advanced c inner fun _ =>
      if inner.isAt ']' then .ok (.list [], inner.advance 1)
      else do
        let (items, after) ← elements inner
        return (.list items, after)
  else if c.isAt '\x7b' then
    let inner := (c.advance 1).skipBlanks
    advanced c inner fun _ =>
      if inner.isAt '\x7d' then .ok (.dict [], inner.advance 1)
      else do
        let (entries, after) ← members inner
        return (objectOf entries, after)
  else scalar c
  termination_by (c.rest.length, 0)

-- The values of an array from one of them on, through the closing bracket
def elements (c : Cursor) : Except Fault (List Value × Cursor) := do
  let (v, after) ← value c
  let after := after.skipBlanks
  if after.isAt ']' then return ([v], after.advance 1)
  else if after.isAt ',' then
    let next := (after.advance 1).skipBlanks
    advanced c next fun _ => do
      let (more, after) ← elements next
      return (v :: more, after)
  else fail .comma after.position
  termination_by (c.rest.length, 1)

-- The members of an object from one of them on, through the closing brace
def members (c : Cursor) : Except Fault (List (Text × Value) × Cursor) := do
  let (key, start) ← memberName c
  advanced c start fun _ => do
    let (v, after) ← value start
    let after := after.skipBlanks
    if after.isAt '\x7d' then return ([(key, v)], after.advance 1)
    else if after.isAt ',' then
      let next := (after.advance 1).skipBlanks
      advanced c next fun _ => do
        let (more, after) ← members next
        return ((key, v) :: more, after)
    else fail .comma after.position
  termination_by (c.rest.length, 1)

end

-- The value of a document that holds one value and blanks around it
def read (document : List Char) : Except Fault Value :=
  if document.head? = some '\ufeff' then fail .byteOrderMark 0
  else do
    let (v, after) ← value (Cursor.skipBlanks ⟨document, 0⟩)
    let after := after.skipBlanks
    if after.rest.isEmpty then return v else fail .extraData after.position

end Formulary.Json
