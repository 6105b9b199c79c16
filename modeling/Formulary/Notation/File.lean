import Formulary.Json.Reading
import Formulary.Notation
import Formulary.Notation.Default
import Formulary.Text.Lines
import Formulary.Text.Utf8

namespace Formulary.Notation

-- Why the content of a file makes no notation
inductive FileFault
  | encoding (refusal : Text.Utf8.Refusal)
  | json (document : List Char) (fault : Json.Fault)
  | notObject (path : Text)
  | symbolsNotObject (path : Text)
  | functionsNotObject (path : Text)
  | functionNotObject (path name : Text)
  | content (fault : Fault)
  deriving DecidableEq, Repr

def FileFault.message : FileFault → Text
  | .encoding refusal => refusal.message
  | .json document fault => fault.message document
  | .notObject path => "notation file " ++ path ++ " must contain a JSON object"
  | .symbolsNotObject path => "notation file " ++ path ++ ": 'symbols' must be an object"
  | .functionsNotObject path => "notation file " ++ path ++ ": 'functions' must be an object"
  | .functionNotObject path name =>
    "notation file " ++ path ++ ": function " ++ Text.quoted name ++ " must be an object"
  | .content fault => fault.message

-- The text of a file, its line ends unified
def textOf (octets : List UInt8) : Except Text.Utf8.Refusal (List Char) :=
  return Text.unifyLineEnds (← Text.Utf8.decode octets)

-- The members of an object by name
def membersOf? : Value → Option (OrderedMap Value)
  | .dict entries => some (.ofList (entries.filterMap fun
      | (.text key, v) => some (key, v)
      | _ => none))
  | _ => none

-- The object under a name, an absent one having no members
def section? (object : OrderedMap Value) (name : String) : Option (OrderedMap Value) :=
  match object.get? name with
  | none => some .empty
  | some v => membersOf? v

def specOf (path : Text) (e : Text × Value) : Except FileFault (Text × Spec) :=
  match membersOf? e.2 with
  | some spec => .ok (e.1, spec)
  | none => .error (.functionNotObject path e.1)

-- A notation with the entries of a file laid over it, and how many symbols and functions those are
structure Loaded where
  table : Notation
  symbolCount : Nat
  functionCount : Nat

def read (octets : List UInt8) : Except FileFault Value :=
  match textOf octets with
  | .error refusal => .error (.encoding refusal)
  | .ok document =>
    match Json.read document with
    | .error fault => .error (.json document fault)
    | .ok v => .ok v

-- The entries are laid over the given notation, and over the default one only where none is given: a
-- notation without entries is still a notation
def load (path : Text) (octets : List UInt8) (base : Option Notation) : Except FileFault Loaded := do
  let v ← read octets
  match membersOf? v with
  | none => throw (.notObject path)
  | some object =>
    match section? object "symbols", section? object "functions" with
    | none, _ => throw (.symbolsNotObject path)
    | some _, none => throw (.functionsNotObject path)
    | some symbols, some functions =>
      let specs ← functions.entries.mapM (specOf path)
      match (base.getD .default).extend symbols (.ofList specs) with
      | .error fault => throw (.content fault)
      | .ok table => return ⟨table, symbols.size, functions.size⟩

end Formulary.Notation
