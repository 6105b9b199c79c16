import Formulary.Failure
import Formulary.Markup
import Formulary.Number.Layout

namespace Formulary

-- The constants that a tree can hold
inductive Value
  | text (s : Text)
  | markup (m : Markup)
  | truth (b : Bool)
  | none
  | integer (n : Int)
  | real (x : Binary64)
  | complex (re im : Binary64)
  | list (items : List Value)
  | tuple (items : List Value)
  | dict (entries : List (Value × Value))
  | octets (bytes : List UInt8)
  deriving Repr

namespace Value

instance : Inhabited Value := ⟨.none⟩

def typeName : Value → String
  | .text _ => "str"
  | .markup _ => "SafeString"
  | .truth _ => "bool"
  | .none => "NoneType"
  | .integer _ => "int"
  | .real _ => "float"
  | .complex _ _ => "complex"
  | .list _ => "list"
  | .tuple _ => "tuple"
  | .dict _ => "dict"
  | .octets _ => "bytes"

-- The integer that a truth value or an integer counts as
def toInteger? : Value → Option Int
  | .truth b => some (if b then 1 else 0)
  | .integer n => some n
  | _ => Option.none

-- Whether two keys of a dictionary are one. Truth values are integers there
def isSameKey : Value → Value → Bool
  | .text s, .text t => s == t
  | .markup m, .markup n => m == n
  | .none, .none => true
  | .real x, .real y => x == y && x != .nan
  | .octets a, .octets b => a == b
  | v, w => v.toInteger?.isSome && v.toInteger? == w.toInteger?

-- A repeated key keeps its place and takes the last value
def putEntry (key value : Value) : List (Value × Value) → List (Value × Value)
  | [] => [(key, value)]
  | e :: rest =>
    if e.1.isSameKey key then (e.1, value) :: rest else e :: putEntry key value rest

def ofEntries (entries : List (Value × Value)) : Value :=
  .dict (entries.foldl (fun dict e => putEntry e.1 e.2 dict) [])

-- A real part of plus zero is left out, and the parentheses with it
def complexText (re im : Binary64) : String :=
  if re = Binary64.zero false then Layout.realPart.text im ++ "j"
  else "(" ++ Layout.realPart.text re ++ Layout.imaginaryPart.text im ++ "j)"

def separated (items : List String) : String := ", ".intercalate items

mutual

-- A value as it is written in source: texts between quote marks
def quoted : Value → Except Failure String
  | .text s => .ok (Text.quoted s)
  | .markup m => .ok ("tex" ++ Text.quoted m.text)
  | .truth b => .ok (if b then "True" else "False")
  | .none => .ok "None"
  | .integer n => integerText n
  | .real x => .ok (Layout.alone.text x)
  | .complex re im => .ok (complexText re im)
  | .list items => do
    return "[" ++ separated (← quotedItems items) ++ "]"
  | .tuple items => do
    let parts ← quotedItems items
    return "(" ++ separated parts ++ (if parts.length = 1 then ",)" else ")")
  | .dict entries => do
    return "\x7b" ++ separated (← quotedEntries entries) ++ "\x7d"
  | .octets bytes => .ok (Text.quotedOctets bytes)

def quotedItems : List Value → Except Failure (List String)
  | [] => .ok []
  | v :: rest => do
    let part ← v.quoted
    return part :: (← quotedItems rest)

def quotedEntries : List (Value × Value) → Except Failure (List String)
  | [] => .ok []
  | (k, v) :: rest => do
    let key ← k.quoted
    let value ← v.quoted
    return (key ++ ": " ++ value) :: (← quotedEntries rest)

end

-- A value as it is shown: a text or a piece of markup as it is, anything else as it is written
def display : Value → Except Failure Text
  | .text s => .ok s
  | .markup m => .ok m.text
  | v => do return Text.ofString (← v.quoted)

-- The markup of a literal. Texts are data and get escaped, markup passes through
def render : Value → Except Failure Text
  | .markup m => .ok m.text
  | v => do return (Markup.escape (← v.display)).text

end Value

end Formulary
