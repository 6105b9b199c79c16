import Formulary.Tree

namespace Formulary.Tree

-- The items of a list, each where it first occurs
def firstOccurrences : List Text → List Text
  | [] => []
  | name :: rest => name :: (firstOccurrences rest).filter (· ≠ name)

-- The name of a node that has the given kind
def nameOf? (kind : Kind) : Tree → Option Text
  | .identifier (.text name) => if kind = .identifier then some name else none
  | .call (.text head) _ => if kind = .call then some head else none
  | _ => none

-- The kinds of all nodes, in preorder
def kinds (t : Tree) : Except Failure (List Kind) := t.preorder.mapM classify

def namesOf (kind : Kind) (t : Tree) : Except Failure (List Text) := do
  let _ ← t.kinds
  return firstOccurrences (t.preorder.filterMap (nameOf? kind))

-- The names that the tree uses as values
def freeIdentifiers (t : Tree) : Except Failure (List Text) := t.namesOf .identifier

-- The names that the tree applies to arguments
def callHeads (t : Tree) : Except Failure (List Text) := t.namesOf .call

end Formulary.Tree
