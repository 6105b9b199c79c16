import Formulary.CommandLine.Switch
import Formulary.Text.Digit

namespace Formulary.CommandLine

-- What an argument is by its looks. In a bundle the text after a short spelling holds more of them
inductive Word
  | plain (text : Text)
  | divider
  | switch (s : Switch) (value : Option Text)
  | bundle (s : Switch) (tail : Text)
  | unknown (text : Text)
  deriving DecidableEq, Repr

namespace Word

-- Digits with at most one point, which digits follow, and maybe a line feed at the end
def isNumber (text : Text) : Bool :=
  let text := if text.getLast? = some (.char '\n') then text.dropLast else text
  match text.dropWhile (·.is Text.isDecimalDigit) with
  | [] => !text.isEmpty
  | c :: decimals => c == .char '.' && !decimals.isEmpty && decimals.all (·.is Text.isDecimalDigit)

-- The name of a switch and the value that an equals sign sets apart from it
def splitValue (text : Text) : Text × Option Text :=
  match text.dropWhile (· != .char '=') with
  | [] => (text, none)
  | _ :: value => (text.takeWhile (· != .char '='), some value)

-- A long spelling may be cut short while it stays the only one of its kind
def ofAbbreviation? (text name : Text) (value : Option Text) : Except Misuse (Option Word) :=
  match Switch.spellings.filter fun e => name.isPrefixOf e.1 with
  | [] => .ok none
  | [e] => .ok (some (.switch e.2 value))
  | candidates => .error (.ambiguous text (candidates.map Prod.fst))

-- A dash in front that starts neither a switch nor a number still belongs to an expression if
-- there is a space after it
def ofUnknown (text body : Text) : Word :=
  if isNumber body || body.contains (.char ' ') then .plain text else .unknown text

-- An argument whose first character is a dash, followed by `body`
def ofDashed (text body : Text) : Except Misuse Word :=
  let (name, value) := splitValue text
  match Switch.ofSpelling? text, body with
  | some s, _ => .ok (.switch s none)
  | none, [] => .ok (.plain text)
  | none, .char '-' :: _ => do
    match Switch.ofSpelling? name with
    | some s => return .switch s value
    | none => return (← ofAbbreviation? text name value).getD (ofUnknown text body)
  | none, letter :: tail =>
    match Switch.ofSpelling? [.char '-', letter] with
    | some s => .ok (.bundle s (if name.length = 2 then value.getD [] else tail))
    | none => .ok (ofUnknown text body)

def ofText (text : Text) : Except Misuse Word :=
  match text with
  | .char '-' :: body => ofDashed text body
  | _ => .ok (.plain text)

-- Two dashes alone make everything after them plain
def ofArguments : List Text → Except Misuse (List Word)
  | [] => .ok []
  | text :: rest =>
    if text = "--" then .ok (.divider :: rest.map .plain)
    else do
      let word ← ofText text
      return word :: (← ofArguments rest)

end Word

end Formulary.CommandLine
