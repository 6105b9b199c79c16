import Formulary.Source.Expr.Tree

namespace Formulary.Source

-- The symbols of the operators that a formula may have
def UnaryOp.symbol? : UnaryOp → Option String
  | .minus => some "neg"
  | .plus => some "pos"
  | .not => some "not"
  | .invert => none

def BinaryOp.symbol? : BinaryOp → Option String
  | .add => some "+"
  | .subtract => some "-"
  | .multiply => some "*"
  | .divide => some "/"
  | .floorDivide => some "//"
  | .modulo => some "%"
  | .power => some "**"
  | _ => none

def ComparisonOp.symbol? : ComparisonOp → Option String
  | .equal => some "=="
  | .notEqual => some "!="
  | .less => some "<"
  | .lessOrEqual => some "<="
  | .greater => some ">"
  | .greaterOrEqual => some ">="
  | .isIn => some "in"
  | _ => none

-- What the other operators are called when they are refused
def UnaryOp.offences : UnaryOp → List Fault
  | .invert => [.operator "Invert"]
  | _ => []

def BinaryOp.offences : BinaryOp → List Fault
  | .matrixMultiply => [.operator "MatMult"]
  | .shiftLeft => [.operator "LShift"]
  | .shiftRight => [.operator "RShift"]
  | .bitOr => [.operator "BitOr"]
  | .bitXor => [.operator "BitXor"]
  | .bitAnd => [.operator "BitAnd"]
  | _ => []

def ComparisonOp.offences : ComparisonOp → List Fault
  | .notIn => [.operator "NotIn"]
  | .is => [.operator "Is"]
  | .isNot => [.operator "IsNot"]
  | _ => []

-- The constants of a formula: truth values, numbers and texts
def Constant.InFormulas : Constant → Prop
  | .truth _ => True
  | .integer _ => True
  | .real _ => True
  | .complex _ _ => True
  | .text _ => True
  | .octets _ => False
  | .none => False
  | .ellipsis => False

namespace Expr

-- A name as it is written, points included
def writtenName? : Expr → Option String
  | .name _ id => some id
  | .attribute _ base member => do return (← base.writtenName?) ++ "." ++ member
  | _ => none

-- A name without what stands before its last point, if that is a known module
def knownName? : Expr → Option String
  | .name _ id => some id
  | .attribute _ base member => do
    let before ← base.writtenName?
    return if before ∈ moduleNames then member else before ++ "." ++ member
  | _ => none

-- The language of formulas
inductive Supported : Expr → Prop
  | constant (column : Nat) (value : Constant) (h : value.InFormulas) :
      Supported (.constant column value)
  | name (column : Nat) (id : String) : Supported (.name column id)
  | member (column : Nat) (base : Expr) (member name : String)
      (h : base.writtenName? = some name) : Supported (.attribute column base member)
  | unary (column : Nat) (op : UnaryOp) (operand : Expr) (symbol : String)
      (hop : op.symbol? = some symbol) (h : Supported operand) :
      Supported (.unary column op operand)
  | binary (column : Nat) (op : BinaryOp) (left right : Expr) (symbol : String)
      (hop : op.symbol? = some symbol) (hleft : Supported left) (hright : Supported right) :
      Supported (.binary column op left right)
  | boolean (column : Nat) (op : BooleanOp) (first : Expr) (rest : List Expr)
      (hfirst : Supported first) (hrest : ∀ e ∈ rest, Supported e) :
      Supported (.boolean column op first rest)
  | comparison (column : Nat) (left : Expr) (op : ComparisonOp) (right : Expr)
      (links : List (ComparisonOp × Expr)) (symbol : String) (hop : op.symbol? = some symbol)
      (hleft : Supported left) (hright : Supported right)
      (hops : ∀ l ∈ links, ∃ symbol, l.1.symbol? = some symbol)
      (hlinks : ∀ l ∈ links, Supported l.2) :
      Supported (.comparison column left op right links)
  | call (column : Nat) (callee : Expr) (args : List Expr) (name : String)
      (hname : callee.writtenName? = some name) (hargs : ∀ e ∈ args, Supported e) :
      Supported (.call column callee args [])
  | subscript (column : Nat) (base index : Expr) (hbase : Supported base)
      (hindex : Supported index) : Supported (.subscript column base index)

-- What a name with points in it stands on, if that is no name itself
def rootOffences : Expr → List Fault
  | .name _ _ => []
  | .attribute _ base _ => base.rootOffences
  | e => [.construct e.label e.column]

mutual

-- All that has no place in a formula, in the order in which an expression is read
def offences : Expr → List Fault
  | .constant column value =>
    match value with
    | .octets _ | .none | .ellipsis => [.construct "Constant" column]
    | _ => []
  | .name _ _ => []
  | .attribute _ base _ => base.rootOffences
  | .unary _ op operand => op.offences ++ operand.offences
  | .binary _ op left right => op.offences ++ (left.offences ++ right.offences)
  | .boolean _ _ first rest => first.offences ++ offencesAll rest
  | .comparison _ left op right links =>
    left.offences ++ (op.offences ++ (right.offences ++ offencesLinks links))
  | .call _ callee args keywords =>
    keywords.map .keywordArgument ++ (callee.rootOffences ++ offencesAll args)
  | .subscript _ base index => base.offences ++ index.offences
  | .other column construct _ => [.construct construct.label column]

def offencesAll : List Expr → List Fault
  | [] => []
  | e :: rest => e.offences ++ offencesAll rest

def offencesLinks : List (ComparisonOp × Expr) → List Fault
  | [] => []
  | (op, e) :: rest => op.offences ++ (e.offences ++ offencesLinks rest)

end

mutual

-- The expression and all that is read below it, each before its operands
def nodes : Expr → List Expr
  | .unary column op operand => .unary column op operand :: operand.nodes
  | .binary column op left right => .binary column op left right :: (left.nodes ++ right.nodes)
  | .boolean column op first rest => .boolean column op first rest :: (first.nodes ++ nodesAll rest)
  | .comparison column left op right links =>
    .comparison column left op right links :: (left.nodes ++ (right.nodes ++ nodesLinks links))
  | .call column callee args keywords => .call column callee args keywords :: nodesAll args
  | .subscript column base index => .subscript column base index :: (base.nodes ++ index.nodes)
  | e => [e]

def nodesAll : List Expr → List Expr
  | [] => []
  | e :: rest => e.nodes ++ nodesAll rest

def nodesLinks : List (ComparisonOp × Expr) → List Expr
  | [] => []
  | (_, e) :: rest => e.nodes ++ nodesLinks rest

end

theorem self_mem_nodes (e : Expr) : e ∈ e.nodes := by
  cases e <;> simp [nodes]

theorem nodes_subset_nodesAll (es : List Expr) : ∀ e ∈ es, e.nodes ⊆ nodesAll es := by
  induction es with
  | nil => simp
  | cons first rest ih =>
      refine List.forall_mem_cons.mpr ⟨List.subset_append_left _ _, fun e he => ?_⟩
      exact List.Subset.trans (ih e he) (List.subset_append_right _ _)

theorem nodes_subset_nodesLinks (links : List (ComparisonOp × Expr)) :
    ∀ l ∈ links, l.2.nodes ⊆ nodesLinks links := by
  induction links with
  | nil => simp
  | cons first rest ih =>
      refine List.forall_mem_cons.mpr ⟨List.subset_append_left _ _, fun l hl => ?_⟩
      exact List.Subset.trans (ih l hl) (List.subset_append_right _ _)

end Expr

end Formulary.Source
