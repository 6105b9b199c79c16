import Formulary.Value

namespace Formulary.Source

inductive Constant
  | truth (b : Bool)
  | integer (n : Int)
  | real (x : Binary64)
  | complex (re im : Binary64)
  | text (s : Text)
  | octets (bytes : List UInt8)
  | none
  | ellipsis
  deriving DecidableEq, Repr

inductive UnaryOp
  | minus
  | plus
  | not
  | invert
  deriving DecidableEq, Repr

inductive BinaryOp
  | add
  | subtract
  | multiply
  | divide
  | floorDivide
  | modulo
  | power
  | matrixMultiply
  | shiftLeft
  | shiftRight
  | bitOr
  | bitXor
  | bitAnd
  deriving DecidableEq, Repr

inductive BooleanOp
  | and
  | or
  deriving DecidableEq, Repr

inductive ComparisonOp
  | equal
  | notEqual
  | less
  | lessOrEqual
  | greater
  | greaterOrEqual
  | isIn
  | notIn
  | is
  | isNot
  deriving DecidableEq, Repr

-- The expressions that have no place in a formula
inductive Construct
  | tuple
  | list
  | set
  | dict
  | slice
  | starred
  | assignment
  | conditional
  | lambda
  | await
  | yield
  | yieldFrom
  | listComprehension
  | setComprehension
  | dictComprehension
  | generator
  | formatted
  deriving DecidableEq, Repr

-- An expression as it is written, with the column at which it starts. A comparison may be a chain
-- of links; a call remembers where its keyword arguments start; of a construct without a place in
-- a formula only the expressions right below it are kept
inductive Expr
  | constant (column : Nat) (value : Constant)
  | name (column : Nat) (id : String)
  | attribute (column : Nat) (base : Expr) (member : String)
  | unary (column : Nat) (op : UnaryOp) (operand : Expr)
  | binary (column : Nat) (op : BinaryOp) (left right : Expr)
  | boolean (column : Nat) (op : BooleanOp) (first : Expr) (rest : List Expr)
  | comparison (column : Nat) (left : Expr) (op : ComparisonOp) (right : Expr)
      (links : List (ComparisonOp × Expr))
  | call (column : Nat) (callee : Expr) (args : List Expr) (keywords : List Nat)
  | subscript (column : Nat) (base index : Expr)
  | other (column : Nat) (construct : Construct) (parts : List Expr)
  deriving Repr

namespace Expr

instance : Inhabited Expr := ⟨.constant 0 .none⟩

def column : Expr → Nat
  | .constant c _ => c
  | .name c _ => c
  | .attribute c _ _ => c
  | .unary c _ _ => c
  | .binary c _ _ _ => c
  | .boolean c _ _ _ => c
  | .comparison c _ _ _ _ => c
  | .call c _ _ _ => c
  | .subscript c _ _ => c
  | .other c _ _ => c

end Expr

def Construct.label : Construct → String
  | .tuple => "Tuple"
  | .list => "List"
  | .set => "Set"
  | .dict => "Dict"
  | .slice => "Slice"
  | .starred => "Starred"
  | .assignment => "NamedExpr"
  | .conditional => "IfExp"
  | .lambda => "Lambda"
  | .await => "Await"
  | .yield => "Yield"
  | .yieldFrom => "YieldFrom"
  | .listComprehension => "ListComp"
  | .setComprehension => "SetComp"
  | .dictComprehension => "DictComp"
  | .generator => "GeneratorExp"
  | .formatted => "JoinedStr"

-- What messages call an expression
def Expr.label : Expr → String
  | .constant _ _ => "Constant"
  | .name _ _ => "Name"
  | .attribute _ _ _ => "Attribute"
  | .unary _ _ _ => "UnaryOp"
  | .binary _ _ _ _ => "BinOp"
  | .boolean _ _ _ _ => "BoolOp"
  | .comparison _ _ _ _ _ => "Compare"
  | .call _ _ _ _ => "Call"
  | .subscript _ _ _ => "Subscript"
  | .other _ construct _ => construct.label

end Formulary.Source
