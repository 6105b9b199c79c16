import Formulary.Source.Expr.Tree
import Formulary.Proofs.Arithmetic.Reach
import Formulary.Proofs.Arithmetic.Row
import Formulary.Proofs.Tree.Row

namespace Formulary.Source

open Arithmetic (Leaf Sign Operation Term Row Interpretation Regroupable rules value integers)

def UnaryOp.sign? : UnaryOp → Option Sign
  | .minus => some .minus
  | .plus => some .plus
  | _ => none

def BinaryOp.operation? : BinaryOp → Option Operation
  | .add => some .add
  | .subtract => some .subtract
  | .multiply => some .multiply
  | .modulo => some .modulo
  | _ => none

-- The term that an expression is, if it is made of names, numbers, signs and the four operations
def Expr.arithmetic? : Expr → Option Term
  | .constant _ (.integer (.ofNat n)) => some (.atom (.number n))
  | .name _ id => some (.atom (.name id))
  | .unary _ op operand => do
    let sign ← op.sign?
    return .unary sign (← operand.arithmetic?)
  | .binary _ op left right => do
    let operation ← op.operation?
    let left ← left.arithmetic?
    return .binary operation left (← right.arithmetic?)
  | _ => none

def leafOf? : Tree → Option Leaf
  | .literal (.integer (.ofNat n)) => some (.number n)
  | .identifier (.text name) => some (.name name)
  | _ => none

def signOf? (head : Text) : Option Sign :=
  if head = "neg" then some .minus else if head = "pos" then some .plus else none

def operationOf? (head : Text) : Option Operation :=
  if head = "+" then some .add
  else if head = "-" then some .subtract
  else if head = "*" then some .multiply
  else if head = "%" then some .modulo
  else none

-- The row that a tree of arithmetic shows when it is set
def arithmeticRow? (t : Tree) : Option Row := t.row? leafOf? signOf? operationOf?

def signOperator : Sign → Operator
  | .minus => ⟨"neg", Strength.sign⟩
  | .plus => ⟨"pos", Strength.sign⟩

def operator : Operation → Operator
  | .add => ⟨"+", Strength.sum⟩
  | .subtract => ⟨"-", Strength.sum⟩
  | .multiply => ⟨"*", Strength.product⟩
  | .modulo => ⟨"%", Strength.product⟩

def built : Term → Built
  | .atom (.name id) => .atom (.identifier (.text id))
  | .atom (.number n) => .atom (.literal (.integer n))
  | .unary s f => .unary (signOperator s) (built f)
  | .binary o f g => .binary (operator o) (built f) (built g)

theorem operator_of_sign? (op : UnaryOp) (s : Sign) (h : op.sign? = some s) :
    op.operator = .ok (signOperator s) := by
  cases op with
  | minus => cases h; rfl
  | plus => cases h; rfl
  | _ => cases h

theorem operator_of_operation? (op : BinaryOp) (o : Operation) (h : op.operation? = some o) :
    op.operator = .ok (operator o) := by
  cases op with
  | add => cases h; rfl
  | subtract => cases h; rfl
  | multiply => cases h; rfl
  | modulo => cases h; rfl
  | _ => cases h

theorem build_of_arithmetic? (e : Expr) (f : Term) (h : e.arithmetic? = some f) :
    e.build = .ok (built f) := by
  induction e using Expr.arithmetic?.induct generalizing f with
  | case1 c n =>
      cases h
      rfl
  | case2 c id =>
      cases h
      rfl
  | case3 c op operand ih =>
      rw [Expr.arithmetic?] at h
      obtain ⟨s, hs, h⟩ := Option.bind_eq_some_iff.mp h
      obtain ⟨g, hg, h⟩ := Option.bind_eq_some_iff.mp h
      cases h
      rw [Expr.build, operator_of_sign? op s hs, ih g hg]
      rfl
  | case4 c op left right ihl ihr =>
      rw [Expr.arithmetic?] at h
      obtain ⟨o, ho, h⟩ := Option.bind_eq_some_iff.mp h
      obtain ⟨g, hg, h⟩ := Option.bind_eq_some_iff.mp h
      obtain ⟨g', hg', h⟩ := Option.bind_eq_some_iff.mp h
      cases h
      rw [Expr.build, operator_of_operation? op o ho, ihl g hg, ihr g' hg']
      rfl
  | case5 e h1 h2 h3 h4 =>
      rw [Expr.arithmetic?] at h
      · cases h
      all_goals assumption

theorem binary_operator (o : Operation) (b b' : Built) :
    Built.binary (operator o) b b' = Built.apply (operator o)
      [b.group (rules.binary o),
        b'.group (if isAssociative (operator o).head && b'.hasHead (operator o).head
          then rules.binary o else rules.binary o + 1)] := by
  cases o <;> rfl

theorem unary_signOperator (s : Sign) (b : Built) :
    Built.unary (signOperator s) b = Built.apply (signOperator s) [b.group (rules.unary s)] := by
  cases s <;> rfl

theorem strength_built (f : Term) : (built f).strength = Arithmetic.strength f := by
  match f with
  | .atom (.name _) => rfl
  | .atom (.number _) => rfl
  | .unary s f => cases s <;> rfl
  | .binary o f g =>
      rw [built, binary_operator]
      cases o <;> rfl

-- The look at the head of the right operand finds the operations that share a row with it
theorem hasHead_built (o : Operation) (f : Term) :
    (isAssociative (operator o).head && (built f).hasHead (operator o).head) =
      Arithmetic.shares o f := by
  match f with
  | .atom (.name _) => cases o <;> rfl
  | .atom (.number _) => cases o <;> rfl
  | .unary s f => cases s <;> cases o <;> rfl
  | .binary o' f g =>
      rw [built, binary_operator]
      cases o' <;> cases o <;> rfl

theorem arithmeticRow?_group (b : Built) (k : Nat) (r : Row) (h : arithmeticRow? b.tree = some r) :
    arithmeticRow? (b.group k) = some (Arithmetic.bracket k b.strength r) := by
  unfold Built.group Arithmetic.bracket
  split
  · exact Tree.row?_paren leafOf? signOf? operationOf? b.tree r h
  · exact h

theorem signOf?_signOperator (s : Sign) : signOf? (signOperator s).head = some s := by
  cases s <;> rfl

theorem operationOf?_operator (o : Operation) : operationOf? (operator o).head = some o := by
  cases o <;> rfl

theorem signOperator_ne_paren (s : Sign) :
    Text.ofString (signOperator s).head ≠ Text.ofString "paren" := by
  cases s <;> decide

theorem arithmeticRow?_built (f : Term) :
    arithmeticRow? (built f).tree = some (Arithmetic.row f) := by
  induction f with
  | atom a => cases a <;> rfl
  | unary s f ih =>
      rw [built, unary_signOperator]
      refine Tree.row?_unary _ _ _ _ _ _ _ (signOperator_ne_paren s) (signOf?_signOperator s) ?_
      exact strength_built f ▸ arithmeticRow?_group (built f) (rules.unary s) _ ih
  | binary o f g ihf ihg =>
      rw [built, binary_operator, hasHead_built]
      refine Tree.row?_binary _ _ _ _ _ _ _ _ _ (operationOf?_operator o) ?_ ?_
      · exact strength_built f ▸ arithmeticRow?_group (built f) (rules.binary o) _ ihf
      · exact strength_built g ▸ arithmeticRow?_group (built g) (Arithmetic.least o g) _ ihg

-- The row that the tree of an expression shows has one reading, its term regrouped
theorem reads_arithmeticRow (e : Expr) (f : Term) (h : e.arithmetic? = some f) :
    ∃ tree row, e.toTree = .ok tree ∧ arithmeticRow? tree = some row ∧
      ∀ g, Precedence.Reads rules 0 row g ↔ g = Arithmetic.regroup f := by
  refine ⟨(built f).tree, Arithmetic.row f, ?_, arithmeticRow?_built f, fun g => ?_⟩
  · rw [Expr.toTree, build_of_arithmetic? e f h]
    rfl
  · constructor
    · intro hg
      exact hg.unique (Arithmetic.reads_row f)
    · rintro rfl
      exact Arithmetic.reads_row f

-- Read again, an expression keeps its value as long as no product has a product on its right that
-- opens with a remainder. Beyond that it is only kept by chance: some meaning for which sums and
-- products may regroup tells the two apart
theorem rereading_keeps_value_iff (e : Expr) (f : Term) (h : e.arithmetic? = some f) :
    ∃ tree row g, e.toTree = .ok tree ∧ arithmeticRow? tree = some row ∧
      (∀ g', Precedence.Reads rules 0 row g' ↔ g' = g) ∧
      (Regroupable f → ∀ names byZero,
        value (integers names byZero) g = value (integers names byZero) f) ∧
      ((∀ (V : Type) (i : Interpretation V), i.Regroups → value i g = value i f) ↔
        Regroupable f) := by
  obtain ⟨tree, row, htree, hrow, hreads⟩ := reads_arithmeticRow e f h
  refine ⟨tree, row, Arithmetic.regroup f, htree, hrow, hreads, fun hf names byZero => ?_,
    Arithmetic.value_regroup_iff f⟩
  exact Arithmetic.value_regroup _ (Arithmetic.integers_regroups names byZero) f hf

-- A difference and a product on the right, read again without their parentheses where these may go
theorem rereading_keeps_value_of_mixed :
    let e : Expr := .binary 0 .add (.name 0 "a")
      (.binary 0 .add (.binary 0 .subtract (.name 0 "b") (.name 0 "c"))
        (.binary 0 .multiply (.name 0 "a") (.binary 0 .modulo (.name 0 "b") (.name 0 "c"))))
    let f : Term := .binary .add (.atom (.name "a"))
      (.binary .add (.binary .subtract (.atom (.name "b")) (.atom (.name "c")))
        (.binary .multiply (.atom (.name "a"))
          (.binary .modulo (.atom (.name "b")) (.atom (.name "c")))))
    e.arithmetic? = some f ∧ ∃ tree row g, e.toTree = .ok tree ∧ arithmeticRow? tree = some row ∧
      Precedence.Reads rules 0 row g ∧
      ∀ names byZero, value (integers names byZero) g = value (integers names byZero) f := by
  intro e f
  have hf : Regroupable f := by simp [f, Regroupable, Arithmetic.takesRemainder]
  obtain ⟨tree, row, g, htree, hrow, hreads, hvalue, -⟩ := rereading_keeps_value_iff e f rfl
  exact ⟨rfl, tree, row, g, htree, hrow, (hreads g).mpr rfl, hvalue hf⟩

-- The product `a * (b % c * d)` goes without parentheses and is read as `a * b % c * d`
theorem rereading_loses_value :
    ¬ ∀ (e : Expr) (f : Term), e.arithmetic? = some f →
      ∃ tree row g, e.toTree = .ok tree ∧ arithmeticRow? tree = some row ∧
        Precedence.Reads rules 0 row g ∧
        ∀ names byZero, value (integers names byZero) g = value (integers names byZero) f := by
  intro hkeeps
  let e : Expr := .binary 0 .multiply (.name 0 "a")
    (.binary 4 .multiply (.binary 4 .modulo (.name 5 "b") (.name 9 "c")) (.name 13 "d"))
  let f : Term := .binary .multiply (.atom (.name "a"))
    (.binary .multiply (.binary .modulo (.atom (.name "b")) (.atom (.name "c"))) (.atom (.name "d")))
  let names : Text → Int := fun name =>
    if name = "a" then 2 else if name = "b" then 3 else if name = "c" then 4 else 1
  obtain ⟨tree, row, g, htree, hrow, hg, hvalue⟩ := hkeeps e f rfl
  obtain ⟨tree', row', htree', hrow', hreads⟩ := reads_arithmeticRow e f rfl
  cases htree.symm.trans htree'
  cases hrow.symm.trans hrow'
  have hregroup := hvalue names id
  rw [(hreads g).mp hg] at hregroup
  exact absurd hregroup (by decide)

end Formulary.Source
