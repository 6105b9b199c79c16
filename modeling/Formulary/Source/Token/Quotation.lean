import Formulary.Source.Token.Number
import Formulary.Text.CharacterName

namespace Formulary.Source.Quotation

-- The number that exactly so many hexadecimal digits at the front write, and the rest
def hexRun (count : Nat) (text : List Char) : Option (Nat × List Char) :=
  let digits := text.take count
  if digits.length = count ∧ digits.all (Number.isDigitBelow 16) then
    some (digits.foldl (fun n c => 16 * n + Number.digitOf c) 0, text.drop count)
  else none

def isOctal (c : Char) : Bool := Number.isDigitBelow 8 c

-- Up to three octal digits
def octalRun (text : List Char) : Nat × List Char :=
  let digits := (text.take 3).takeWhile isOctal
  (digits.foldl (fun n c => 8 * n + Number.digitOf c) 0, text.drop digits.length)

def simpleEscape? : Char → Option Char
  | '\\' => some '\\'
  | '\'' => some '\''
  | '"' => some '"'
  | 'a' => some '\x07'
  | 'b' => some '\x08'
  | 'f' => some '\x0c'
  | 'n' => some '\n'
  | 'r' => some '\r'
  | 't' => some '\t'
  | 'v' => some '\x0b'
  | _ => none

-- What a backslash stands for, with the characters after it, and the rest. An escaped line feed
-- stands for nothing; a backslash that opens no escape stands for itself
def escape? : List Char → Option (Text × List Char)
  | [] => some ([.char '\\'], [])
  | '\n' :: rest => some ([], rest)
  | 'x' :: rest => do
    let (n, rest) ← hexRun 2 rest
    return ([← CodePoint.ofNumber? n], rest)
  | 'u' :: rest => do
    let (n, rest) ← hexRun 4 rest
    return ([← CodePoint.ofNumber? n], rest)
  | 'U' :: rest => do
    let (n, rest) ← hexRun 8 rest
    return ([← CodePoint.ofNumber? n], rest)
  | 'N' :: rest => do
    let inner := rest.drop 1
    let name := inner.takeWhile (· != '\x7d')
    if rest.head? ≠ some '\x7b' ∨ name.length = inner.length then none
    else return ([.char (← Text.characterNamed? name)], inner.drop (name.length + 1))
  | c :: rest =>
    if isOctal c then
      let (n, rest) := octalRun (c :: rest)
      (CodePoint.ofNumber? n).map fun d => ([d], rest)
    else match simpleEscape? c with
      | some d => some ([.char d], rest)
      | none => some ([.char '\\', .char c], rest)

-- The text with its escapes carried out, if all of them are whole
def unescape? (text : List Char) : Option Text :=
  match text with
  | [] => some []
  | c :: rest =>
    if c = '\\' then
      match escape? rest with
      | none => none
      | some (points, after) =>
        if after.length ≤ rest.length then (unescape? after).map (points ++ ·) else none
    else (unescape? rest).map (.char c :: ·)
  termination_by text.length

-- Among octets a backslash knows neither character names nor wide code points
def octetEscape? : List Char → Option (List UInt8 × List Char)
  | [] => some ([0x5c], [])
  | '\n' :: rest => some ([], rest)
  | 'x' :: rest => (hexRun 2 rest).map fun r => ([UInt8.ofNat r.1], r.2)
  | c :: rest =>
    if isOctal c then
      let (n, rest) := octalRun (c :: rest)
      some ([UInt8.ofNat n], rest)
    else match simpleEscape? c with
      | some d => some ([UInt8.ofNat d.toNat], rest)
      | none => some ([0x5c, UInt8.ofNat c.toNat], rest)

-- The octets of a text of octet characters, if its escapes are whole
def unescapeOctets? (text : List Char) : Option (List UInt8) :=
  match text with
  | [] => some []
  | c :: rest =>
    if c = '\\' then
      match octetEscape? rest with
      | none => none
      | some (bytes, after) =>
        if after.length ≤ rest.length then (unescapeOctets? after).map (bytes ++ ·) else none
    else (unescapeOctets? rest).map (UInt8.ofNat c.toNat :: ·)
  termination_by text.length

-- Octets are written in ASCII alone, behind a backslash too
def octets? (raw : Bool) (text : List Char) : Option (List UInt8) :=
  if text.any fun c => 0x80 ≤ c.toNat then none
  else if raw then some (text.map fun c => UInt8.ofNat c.toNat)
  else unescapeOctets? text

-- How a literal part of a formatted text ends
inductive Stop
  | doubled
  | brace

def isOpening (c : Char) : Bool := c == '(' || c == '[' || c == '\x7b'

def isClosing (c : Char) : Bool := c == ')' || c == ']' || c == '\x7d'

def isBrace (c : Char) : Bool := c == '\x7b' || c == '\x7d'

def closes (opening closing : Char) : Bool :=
  (opening == '(' && closing == ')') || (opening == '[' && closing == ']') ||
    (opening == '\x7b' && closing == '\x7d')

-- Brackets nest no deeper than this
def depthLimit : Nat := 200

-- The literal part up to the next brace. At the outer level a doubled brace stands for one brace
-- and a single closing one is refused
def literalPart (raw outer : Bool) (text : List Char) : Option (List Char × Stop × List Char) :=
  match text with
  | [] => some ([], .brace, [])
  | c :: rest =>
    if c = '\\' && !raw && rest.head? = some 'N' then
      let skipped :=
        if (rest.drop 1).head? = some '\x7b' then
          let name := (rest.drop 2).takeWhile (· != '\x7d')
          name.length + 3
        else 2
      (literalPart raw outer (rest.drop skipped)).map fun r =>
        (c :: rest.take skipped ++ r.1, r.2)
    else if c = '\\' && !raw && rest.head?.any (fun d => !isBrace d) then
      (literalPart raw outer (rest.drop 1)).map fun r => (c :: rest.take 1 ++ r.1, r.2)
    else if isBrace c then
      if outer && rest.head? = some c then some ([c], .doubled, rest.drop 1)
      else if outer && c = '\x7d' then none
      else some ([], .brace, c :: rest)
    else (literalPart raw outer rest).map fun r => (c :: r.1, r.2)
  termination_by text.length
  decreasing_by all_goals grind

-- The characters that may end a replacement field outside its brackets and quotes
def isFieldMark (c : Char) : Bool :=
  c == '!' || c == ':' || c == '\x7d' || c == '=' || c == '<' || c == '>'

-- The expression of a replacement field and what follows it. `quote` is the open quotation, with
-- `true` for a triple one, and `brackets` the open brackets, the innermost first
def fieldPart (quote : Option (Char × Bool)) (brackets : List Char) (text : List Char) :
    Option (List Char × List Char) :=
  let take (n : Nat) (r : Option (List Char × List Char)) :=
    r.map fun r => (text.take n ++ r.1, r.2)
  match text with
  | [] => none
  | c :: rest =>
    if c = '\\' then none
    else match quote with
      | some (q, triple) =>
        if c ≠ q then take 1 (fieldPart quote brackets rest)
        else if !triple then take 1 (fieldPart none brackets rest)
        else if rest.take 2 = [q, q] then take 3 (fieldPart none brackets (rest.drop 2))
        else take 1 (fieldPart quote brackets rest)
      | none =>
        if c = '\'' ∨ c = '"' then
          if rest.take 2 = [c, c] then take 3 (fieldPart (some (c, true)) brackets (rest.drop 2))
          else take 1 (fieldPart (some (c, false)) brackets rest)
        else if isOpening c then
          if depthLimit ≤ brackets.length then none
          else take 1 (fieldPart none (c :: brackets) rest)
        else if c = '#' then none
        else if brackets.isEmpty && isFieldMark c then
          if c ≠ ':' ∧ c ≠ '\x7d' ∧ rest.head? = some '=' then
            take 2 (fieldPart none [] (rest.drop 1))
          else if c = '<' ∨ c = '>' then take 1 (fieldPart none [] rest)
          else some ([], c :: rest)
        else if isClosing c then
          match brackets with
          | [] => none
          | opening :: outer =>
            if closes opening c then take 1 (fieldPart none outer rest) else none
        else take 1 (fieldPart none brackets rest)
  termination_by text.length
  decreasing_by all_goals grind

def isSpace (c : Char) : Bool := c == ' ' || (9 ≤ c.toNat && c.toNat ≤ 13)

-- An equals sign after the expression asks for its own text, an exclamation mark for a conversion
def afterField (text : List Char) : Option (List Char) :=
  let text := match text with
    | '=' :: rest => rest.dropWhile isSpace
    | rest => rest
  match text with
  | '!' :: c :: rest => if c = 's' ∨ c = 'r' ∨ c = 'a' then some rest else none
  | '!' :: [] => none
  | rest => some rest

-- An expression has to hold more than blanks
def isVoid (text : List Char) : Bool :=
  text.all fun c => c == ' ' || c == '\t' || c == '\n' || c == '\x0c'

-- The replacement fields of a formatted text. A format at level one or two may hold further
-- fields, and ends before the closing brace of its own field
def fieldsFrom (raw : Bool) (level : Nat) (text : List Char) : Option (List (List Char) × List Char) := do
  let (characters, stop, rest) ← literalPart raw (level == 0) text
  if !raw && (unescape? characters).isNone then none
  else match stop, rest with
    | .doubled, rest =>
      if rest.length < text.length then fieldsFrom raw level rest else none
    | .brace, '\x7b' :: rest =>
      if 2 ≤ level then none
      else
        let (expression, after) ← fieldPart none [] rest
        if isVoid expression then none
        else match ← afterField after with
          | '\x7d' :: rest =>
            if rest.length < text.length then do
              let (fields, rest) ← fieldsFrom raw level rest
              return (expression :: fields, rest)
            else none
          | ':' :: format =>
            if format.isEmpty then none
            else if format.length < text.length then do
              let (inner, after) ← fieldsFrom raw (level + 1) format
              match after with
              | '\x7d' :: rest =>
                if rest.length < text.length then do
                  let (fields, rest) ← fieldsFrom raw level rest
                  return (expression :: inner ++ fields, rest)
                else none
              | _ => none
            else none
          | _ => none
    | .brace, rest => some ([], rest)
  termination_by text.length

def fields? (raw : Bool) (text : List Char) : Option (List (List Char)) :=
  match fieldsFrom raw 0 text with
  | some (fields, []) => some fields
  | _ => none

-- The letters that may stand before a quote mark, in any case
def openings : List String := ["", "b", "u", "r", "f", "br", "rb", "fr", "rf"]

-- The opening of a quotation in small letters, and the text from its quote mark on
def opening? (text : List Char) : Option (List Char × List Char) :=
  let letters := text.takeWhile Char.isAlpha
  let lower := letters.map Char.toLower
  let rest := text.drop letters.length
  if openings.any (·.toList == lower) && rest.head?.any (fun c => c == '\'' || c == '"') then
    some (lower, rest)
  else none

-- The characters up to the closing quote, escapes left as they are, and what follows the quote.
-- Only a triple quotation may run over the end of a line
def body? (quote : Char) (triple : Bool) : List Char → Option (List Char × List Char)
  | [] => none
  | ['\\'] => none
  | '\\' :: c :: rest => (body? quote triple rest).map fun r => ('\\' :: c :: r.1, r.2)
  | c :: rest =>
    if c = quote && !triple then some ([], rest)
    else if c = quote && rest.take 2 = [quote, quote] then some ([], rest.drop 2)
    else if c = '\n' && !triple then none
    else (body? quote triple rest).map fun r => (c :: r.1, r.2)

-- The quotation that stands at a quote mark, given the letters before it
def ofBody? (letters body : List Char) : Option Quotation :=
  let raw := letters.contains 'r'
  if letters.contains 'f' then (fields? raw body).map .formatted
  else if letters.contains 'b' then (octets? raw body).map .octets
  else if raw then some (.text (.ofChars body))
  else (unescape? body).map .text

-- The quotation that the text opens with, and the rest
def scan (text : List Char) : Option (Quotation × List Char) := do
  let (letters, rest) ← opening? text
  match rest with
  | [] => none
  | quote :: rest =>
    let triple := rest.take 2 = [quote, quote]
    let (body, after) ← body? quote triple (if triple then rest.drop 2 else rest)
    return (← ofBody? letters body, after)

end Formulary.Source.Quotation
