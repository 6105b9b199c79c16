import Formulary.Binding.Spec

namespace Formulary

-- The symbols and functions that are known by name
structure Notation where
  symbols : OrderedMap SymbolBinding
  functions : OrderedMap FunctionBinding

namespace Notation

def empty : Notation := ⟨.empty, .empty⟩

-- Why data makes no notation
inductive Fault
  | symbolNotText (name : Text)
  | spec (fault : Spec.Fault)
  deriving DecidableEq, Repr

def Fault.message : Fault → String
  | .symbolNotText name => "symbol " ++ Text.quoted name ++ " must map to a string"
  | .spec fault => fault.message

def symbol (name : Text) : Value → Except Fault SymbolBinding
  | .text text => .ok ⟨name, text⟩
  | _ => .error (.symbolNotText name)

def symbolEntries (symbols : List (Text × Value)) : Except Fault (List (Text × SymbolBinding)) :=
  symbols.mapM fun e => do return (e.1, ← symbol e.1 e.2)

def functionEntries (functions : List (Text × Spec)) :
    Except Fault (List (Text × FunctionBinding)) :=
  functions.mapM fun e =>
    match FunctionBinding.ofSpec e.1 e.2 with
    | .ok f => .ok (e.1, f)
    | .error fault => .error (.spec fault)

-- `table` with more entries laid over it. Symbols are looked at before functions, and each in order
def extend (table : Notation) (symbols : OrderedMap Value) (functions : OrderedMap Spec) :
    Except Fault Notation := do
  let symbols ← symbolEntries symbols.entries
  let functions ← functionEntries functions.entries
  return ⟨table.symbols.overlay symbols, table.functions.overlay functions⟩

def ofSpecs (symbols : OrderedMap Value) (functions : OrderedMap Spec) : Except Fault Notation :=
  empty.extend symbols functions

def hasSymbol (table : Notation) (name : Text) : Bool := table.symbols.contains name

def hasFunction (table : Notation) (name : Text) : Bool := table.functions.contains name

end Notation

end Formulary
