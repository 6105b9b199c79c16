import Formulary.Source.Expr.Reading
import Formulary.Source.Expr.Tree
import Formulary.Text.Lines
import Formulary.Typeset

namespace Formulary

-- The expression that a source writes. Blanks around it do not count
def Source.Expr.ofSource (wording : Wording) (source : Text) : Except Fault Expr :=
  match Text.characters (Text.trim (·.is Text.isBlank) source) with
  | .error halves => .error (.unpaired halves)
  | .ok text =>
    if text.contains '\x00' then .error .nul
    else match ofText? (Text.unifyLineEnds text) with
      | some e => .ok e
      | none => .error (.malformed (wording text))

-- The tree of a formula in source form
def Tree.ofSource (wording : Source.Wording) (source : Text) : Except Source.Fault Tree := do
  (← Source.Expr.ofSource wording source).toTree

end Formulary
