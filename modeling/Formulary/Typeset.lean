import Formulary.Scope

namespace Formulary.Tree

mutual

-- The markup of a tree, names looked up in the chain, arguments before their head
def evaluate (scope : Scope) : Tree → Except Failure Text
  | .literal value => value.render
  | .identifier (.text name) => do return (← scope.resolveSymbol name).text
  | .call (.text head) args => do
    let parts ← evaluateAll scope args
    (← scope.resolveFunction head).invoke parts
  | t => t.unclassifiable

def evaluateAll (scope : Scope) : List Tree → Except Failure (List Text)
  | [] => .ok []
  | t :: rest => do
    let part ← t.evaluate scope
    return part :: (← evaluateAll scope rest)

end

-- The tree as markup in a notation
def typeset (table : Notation) (tree : Tree) : Except Failure Markup := do
  let scope ← Scope.ofTree table tree
  return ⟨← tree.evaluate scope⟩

end Formulary.Tree
