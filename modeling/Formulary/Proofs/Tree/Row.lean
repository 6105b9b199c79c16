import Formulary.Tree
import Formulary.Proofs.Precedence

namespace Formulary.Tree

open Precedence (Token)

variable {α π ι : Type}

-- The row that a tree of operators shows: a binary call between its operands, a unary one before its
-- operand, and parentheses as they stand. The three readers tell which heads are operators and which
-- trees are operands
def row? (atom? : Tree → Option α) (unary? : Text → Option π) (binary? : Text → Option ι) :
    Tree → Option (List (Token α π ι))
  | .call (.text head) [operand] =>
    if head = "paren" then do
      return .opening :: ((← operand.row? atom? unary? binary?) ++ [.closing])
    else do
      return .unary (← unary? head) :: (← operand.row? atom? unary? binary?)
  | .call (.text head) [left, right] => do
    return (← left.row? atom? unary? binary?) ++
      .binary (← binary? head) :: (← right.row? atom? unary? binary?)
  | t => do return [.atom (← atom? t)]

section

variable (atom? : Tree → Option α) (unary? : Text → Option π) (binary? : Text → Option ι)

theorem row?_paren (t : Tree) (r : List (Token α π ι))
    (h : t.row? atom? unary? binary? = some r) :
    (Tree.call (.text "paren") [t]).row? atom? unary? binary? =
      some (.opening :: (r ++ [.closing])) := by
  rw [row?, if_pos rfl, h]
  rfl

theorem row?_unary (head : Text) (op : π) (t : Tree) (r : List (Token α π ι))
    (hp : head ≠ "paren") (hop : unary? head = some op)
    (h : t.row? atom? unary? binary? = some r) :
    (Tree.call (.text head) [t]).row? atom? unary? binary? = some (.unary op :: r) := by
  rw [row?, if_neg hp, hop, h]
  rfl

theorem row?_binary (head : Text) (op : ι) (t t' : Tree) (r r' : List (Token α π ι))
    (hop : binary? head = some op) (h : t.row? atom? unary? binary? = some r)
    (h' : t'.row? atom? unary? binary? = some r') :
    (Tree.call (.text head) [t, t']).row? atom? unary? binary? = some (r ++ .binary op :: r') := by
  rw [row?, hop, h, h']
  rfl

end

end Formulary.Tree
