import Formulary.Value

namespace Formulary

-- What is to be set. Names are texts in every tree that can be set; a name of another kind and a
-- bare value in the place of a node are malformed
inductive Tree
  | literal (value : Value)
  | identifier (name : Value)
  | call (head : Value) (args : List Tree)
  | stray (value : Value)
  deriving Repr

namespace Tree

instance : Inhabited Tree := ⟨.stray .none⟩

inductive Kind
  | literal
  | identifier
  | call
  deriving DecidableEq, Repr

def Kind.text : Kind → String
  | .literal => "literal"
  | .identifier => "identifier"
  | .call => "call"

mutual

-- A short description for messages
def describe : Tree → Except Failure Text
  | .literal value => do return "literal " ++ (← value.quoted)
  | .identifier name => do return "identifier " ++ (← name.display)
  | .call head args => do
    let parts ← describeAll args
    return "call " ++ (← head.display) ++ "(" ++ Text.join ", " parts ++ ")"
  | .stray value => do return value.typeName ++ " " ++ (← value.quoted)

def describeAll : List Tree → Except Failure (List Text)
  | [] => .ok []
  | t :: rest => do
    let part ← t.describe
    return part :: (← describeAll rest)

end

-- The failure of a node that fits no known shape
def unclassifiable {α : Type} (t : Tree) : Except Failure α := do
  throw (.unclassifiable (← t.describe))

def classify : Tree → Except Failure Kind
  | .literal _ => .ok .literal
  | .identifier (.text _) => .ok .identifier
  | .call (.text _) _ => .ok .call
  | t => t.unclassifiable

mutual

-- The tree and all below it, each node before its arguments
def preorder : Tree → List Tree
  | .call head args => .call head args :: preorderAll args
  | t => [t]

def preorderAll : List Tree → List Tree
  | [] => []
  | t :: rest => t.preorder ++ preorderAll rest

end

mutual

-- No node of the tree is malformed
def WellFormed : Tree → Prop
  | .literal _ => True
  | .identifier (.text _) => True
  | .call (.text _) args => AllWellFormed args
  | _ => False

def AllWellFormed : List Tree → Prop
  | [] => True
  | t :: rest => t.WellFormed ∧ AllWellFormed rest

end

end Tree

end Formulary
