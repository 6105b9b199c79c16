import Formulary.Source.Grammar
import Formulary.Source.Token.Scan
import Formulary.Text.Lines

namespace Formulary.Source.Expr

-- The expression that a text writes. What stands in a replacement field is read the same way, in
-- parentheses
def ofText? (text : List Char) : Option Expr := do
  let tokens ← Token.scan text
  let field (inner : List Char) : Bool :=
    if inner.length + 2 < text.length then (ofText? ('(' :: (inner ++ [')']))).isSome else false
  let (e, _) ← Grammar.formula field tokens
  return e
  termination_by text.length
  decreasing_by simp_all

end Formulary.Source.Expr
