import Formulary.Notation
import Formulary.Tree.Names

namespace Formulary

-- One table of a chain. An entry may be void, which counts as absent
structure Layer where
  label : Text
  bindings : OrderedMap (Option Binding)

-- Tables to look names up in, the innermost first
abbrev Scope := List Layer

namespace Layer

def find? (layer : Layer) (name : Text) : Option Binding := (layer.bindings.get? name).join

-- A layer whose entries are all there
def ofBindings (label : Text) (entries : List (Text × Binding)) : Layer :=
  ⟨label, .ofList (entries.map fun e => (e.1, some e.2))⟩

end Layer

namespace Scope

-- Every binding of a name, from the inside out
def candidates (scope : Scope) (name : Text) : List Binding := scope.filterMap (·.find? name)

def lookup (scope : Scope) (name : Text) : Option Binding := scope.findSome? (·.find? name)

def asSymbol? : Binding → Option SymbolBinding
  | .symbol s => some s
  | .function _ => none

def asFunction? : Binding → Option FunctionBinding
  | .symbol _ => none
  | .function f => some f

-- The first binding of the role asked for, whatever stands before it. `mismatch` tells whether the
-- layers passed so far bind the name in the other role
def resolveFrom {α : Type} (select : Binding → Option α) (role : Role) (name : Text) (mismatch : Bool) :
    Scope → Except Failure α
  | [] => .error (if mismatch then .misbound name role else .unbound name role)
  | layer :: rest =>
    match layer.find? name with
    | none => resolveFrom select role name mismatch rest
    | some binding =>
      match select binding with
      | some found => .ok found
      | none => resolveFrom select role name true rest

def resolveSymbol (scope : Scope) (name : Text) : Except Failure SymbolBinding :=
  resolveFrom asSymbol? .symbol name false scope

def resolveFunction (scope : Scope) (name : Text) : Except Failure FunctionBinding :=
  resolveFrom asFunction? .function name false scope

def describeEntries : List (Option Binding) → Except Failure (List Text)
  | [] => .ok []
  | none :: _ => .error .voidEntry
  | some binding :: rest => do
    let line ← binding.describe
    return ("  " ++ line) :: (← describeEntries rest)

def describeLayers : Scope → Except Failure (List Text)
  | [] => .ok []
  | layer :: rest => do
    let lines ← describeEntries layer.bindings.values
    let body : List Text := if layer.bindings.entries.isEmpty then ["  (empty)"] else lines
    return (layer.label ++ ":") :: body ++ (← describeLayers rest)

-- The chain as text, one line for a table and one for each entry
def describe (scope : Scope) : Except Failure Text := do
  return Text.join "\n" (← describeLayers scope)

-- The names in the tables of a label
def namesUnder (scope : Scope) (label : Text) : List Text :=
  (scope.filter fun layer => layer.label == label).flatMap (·.bindings.keys)

-- A name of a tree that no table knows stands for itself
def unknownSymbols (table : Notation) (names : List Text) : List (Text × Binding) :=
  (names.filter fun name => !table.hasSymbol name).map fun name => (name, .symbol ⟨name, name⟩)

def unknownFunctions (table : Notation) (names : List Text) : List (Text × Binding) :=
  (names.filter fun name => !table.hasFunction name).map fun name => (name, .function (.unknown name))

-- The chain of a tree: functions before symbols, and in each role the names that only the tree
-- knows before those of the notation
def ofTree (table : Notation) (tree : Tree) : Except Failure Scope := do
  let names ← tree.freeIdentifiers
  let heads ← tree.callHeads
  return [
    .ofBindings "fallback functions" (unknownFunctions table heads),
    .ofBindings "known functions" (table.functions.entries.map fun e => (e.1, .function e.2)),
    .ofBindings "fallback symbols" (unknownSymbols table names),
    .ofBindings "known symbols" (table.symbols.entries.map fun e => (e.1, .symbol e.2))]

end Scope

end Formulary
