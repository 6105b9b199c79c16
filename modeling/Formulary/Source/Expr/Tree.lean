import Formulary.Source.Expr
import Formulary.Text.Unpaired
import Formulary.Tree

namespace Formulary.Source

-- What a parser has to say about a text that it cannot read, and where it stopped if it tells
structure Complaint where
  message : Text
  column : Option Int
  deriving DecidableEq, Repr

-- The words are the parser's own. A complaint is about the text that was to be read
abbrev Wording := List Char → Complaint

-- Why a source is no formula. An operator is named without a column
inductive Fault
  | unpaired (halves : Text.Unpaired)
  | nul
  | malformed (complaint : Complaint)
  | construct (label : String) (column : Nat)
  | operator (label : String)
  | keywordArgument (column : Nat)
  deriving DecidableEq, Repr

-- A message about a place, if the place is known
def located (message : Text) : Option Int → Text
  | none => message
  | some column => message ++ " (column " ++ toString column ++ ")"

def Fault.message : Fault → Text
  | .unpaired halves => halves.message
  | .nul => "source code string cannot contain null bytes"
  | .malformed complaint => located ("invalid expression: " ++ complaint.message) complaint.column
  | .construct label column => located ("unsupported syntax: " ++ label) (some column)
  | .operator label => located ("unsupported syntax: " ++ label) none
  | .keywordArgument column => located "keyword arguments are not supported" (some column)

-- How tightly an operator binds; what closes itself off, like a fraction or a call, is an atom
namespace Strength

def or : Nat := 1
def and : Nat := 2
def not : Nat := 3
def comparison : Nat := 4
def sum : Nat := 6
def product : Nat := 7
def sign : Nat := 8
def power : Nat := 9
def atom : Nat := 100

end Strength

-- The head that an operator becomes, and its strength
structure Operator where
  head : String
  strength : Nat
  deriving DecidableEq, Repr

def UnaryOp.operator : UnaryOp → Except Fault Operator
  | .minus => .ok ⟨"neg", Strength.sign⟩
  | .plus => .ok ⟨"pos", Strength.sign⟩
  | .not => .ok ⟨"not", Strength.not⟩
  | .invert => .error (.operator "Invert")

def BinaryOp.operator : BinaryOp → Except Fault Operator
  | .add => .ok ⟨"+", Strength.sum⟩
  | .subtract => .ok ⟨"-", Strength.sum⟩
  | .multiply => .ok ⟨"*", Strength.product⟩
  | .divide => .ok ⟨"/", Strength.atom⟩
  | .floorDivide => .ok ⟨"//", Strength.atom⟩
  | .modulo => .ok ⟨"%", Strength.product⟩
  | .power => .ok ⟨"**", Strength.power⟩
  | .matrixMultiply => .error (.operator "MatMult")
  | .shiftLeft => .error (.operator "LShift")
  | .shiftRight => .error (.operator "RShift")
  | .bitOr => .error (.operator "BitOr")
  | .bitXor => .error (.operator "BitXor")
  | .bitAnd => .error (.operator "BitAnd")

def BooleanOp.operator : BooleanOp → Operator
  | .and => ⟨"and", Strength.and⟩
  | .or => ⟨"or", Strength.or⟩

def ComparisonOp.operator : ComparisonOp → Except Fault Operator
  | .equal => .ok ⟨"==", Strength.comparison⟩
  | .notEqual => .ok ⟨"!=", Strength.comparison⟩
  | .less => .ok ⟨"<", Strength.comparison⟩
  | .lessOrEqual => .ok ⟨"<=", Strength.comparison⟩
  | .greater => .ok ⟨">", Strength.comparison⟩
  | .greaterOrEqual => .ok ⟨">=", Strength.comparison⟩
  | .isIn => .ok ⟨"in", Strength.comparison⟩
  | .notIn => .error (.operator "NotIn")
  | .is => .error (.operator "Is")
  | .isNot => .error (.operator "IsNot")

-- Two additions or two products may regroup, and so may two conjunctions or two disjunctions
def isAssociative (head : String) : Bool := ["+", "*", "and", "or"].contains head

-- The modules whose names are dropped before the names that they hold
def moduleNames : List String := ["math", "cmath", "numpy", "np", "sympy", "sp"]

def Constant.value? : Constant → Option Value
  | .truth b => some (.truth b)
  | .integer n => some (.integer n)
  | .real x => some (.real x)
  | .complex re im => some (.complex re im)
  | .text s => some (.text s)
  | .octets _ => Option.none
  | .none => Option.none
  | .ellipsis => Option.none

-- A tree and how tightly the expression that it stands for binds
structure Built where
  tree : Tree
  strength : Nat

namespace Built

def atom (tree : Tree) : Built := ⟨tree, Strength.atom⟩

def apply (operator : Operator) (args : List Tree) : Built :=
  ⟨.call (.text operator.head) args, operator.strength⟩

-- The tree, between parentheses if it binds less tightly than its place asks
def group (b : Built) (least : Nat) : Tree :=
  if b.strength < least then .call (.text "paren") [b.tree] else b.tree

def hasHead (b : Built) (head : String) : Bool :=
  match b.tree with
  | .call (.text h) _ => h == head
  | _ => false

-- A fraction groups both of its places, a power the exponent. Elsewhere the left operand binds at
-- least as tightly as the operator and the right one more tightly, unless the two may regroup
def binary (operator : Operator) (left right : Built) : Built :=
  if operator.head = "/" ∨ operator.head = "//" then apply operator [left.tree, right.tree]
  else if operator.head = "**" then
    apply operator [left.group (operator.strength + 1), right.tree]
  else
    let least :=
      if isAssociative operator.head && right.hasHead operator.head then operator.strength
      else operator.strength + 1
    apply operator [left.group operator.strength, right.group least]

-- A sign or a negation takes what binds at least as tightly
def unary (operator : Operator) (operand : Built) : Built :=
  apply operator [operand.group operator.strength]

-- Conjunctions and disjunctions of many operands group to the left
def boolean (operator : Operator) (first : Built) (rest : List Built) : Built :=
  let operand (b : Built) : Tree := b.group operator.strength
  ⟨rest.foldl (fun tree b => .call (.text operator.head) [tree, operand b]) (operand first),
    operator.strength⟩

-- One link of a comparison; both of its operands bind more tightly
def link (operator : Operator) (left right : Built) : Tree :=
  .call (.text operator.head) [left.group (operator.strength + 1), right.group (operator.strength + 1)]

-- A chain is the conjunction of its links
def chain (first : Tree) : List Tree → Built
  | [] => ⟨first, Strength.comparison⟩
  | links =>
    ⟨links.foldl (fun tree link => .call (.text "and") [tree, link]) first, Strength.and⟩

end Built

namespace Expr

def unsupported {α : Type} (e : Expr) : Except Fault α := .error (.construct e.label e.column)

-- The parts of a name with points in it
def path : Expr → Except Fault (List String)
  | .name _ id => .ok [id]
  | .attribute _ base member => do return (← base.path) ++ [member]
  | e => e.unsupported

-- The name that a path leads to, without the name of a known module before it
def dottedName (path : List String) : String :=
  let module' := ".".intercalate path.dropLast
  let name := path.getLast?.getD ""
  if moduleNames.contains module' then name else module' ++ "." ++ name

-- The name that a call applies
def headName : Expr → Except Fault String
  | .name _ id => .ok id
  | .attribute column base member => do
    return dottedName (← (Expr.attribute column base member).path)
  | e => e.unsupported

mutual

-- The tree of an expression, if it is a formula. An operator is looked at before its operands, and
-- these from left to right
def build : Expr → Except Fault Built
  | .constant column value =>
    match value.value? with
    | some v => .ok (.atom (.literal v))
    | none => (Expr.constant column value).unsupported
  | .name _ id => .ok (.atom (.identifier (.text id)))
  | .attribute column base member => do
    return .atom (.identifier (.text (dottedName (← (Expr.attribute column base member).path))))
  | .unary _ op operand => do
    let operator ← op.operator
    return .unary operator (← operand.build)
  | .binary _ op left right => do
    let operator ← op.operator
    let left ← left.build
    return .binary operator left (← right.build)
  | .boolean _ op first rest => do
    let first ← first.build
    return .boolean op.operator first (← buildAll rest)
  | .comparison _ left op right links => do
    let left ← left.build
    let operator ← op.operator
    let right ← right.build
    return .chain (Built.link operator left right) (← buildLinks right links)
  | .call _ callee args keywords => do
    match keywords with
    | column :: _ => throw (.keywordArgument column)
    | [] =>
      let head ← callee.headName
      return .atom (.call (.text head) ((← buildAll args).map (·.tree)))
  | .subscript _ base index => do
    let base ← base.build
    let index ← index.build
    return .atom (.call (.text "[]") [base.group Strength.atom, index.tree])
  | .other column construct parts => (Expr.other column construct parts).unsupported

def buildAll : List Expr → Except Fault (List Built)
  | [] => .ok []
  | e :: rest => do
    let b ← e.build
    return b :: (← buildAll rest)

-- The links after the first one, each from the right operand of the one before
def buildLinks (left : Built) : List (ComparisonOp × Expr) → Except Fault (List Tree)
  | [] => .ok []
  | (op, e) :: rest => do
    let operator ← op.operator
    let right ← e.build
    return Built.link operator left right :: (← buildLinks right rest)

end

def toTree (e : Expr) : Except Fault Tree := return (← e.build).tree

end Expr

end Formulary.Source
