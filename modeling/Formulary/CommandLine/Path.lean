import Formulary.Text.CodePoint
import Formulary.Text.Lines

namespace Formulary.CommandLine

-- A place in the file system: what it is counted from, and the names on the way to it
structure Path where
  root : Text
  names : List Text
  deriving DecidableEq, Repr

namespace Path

-- Two slashes in front are a root of their own, any other number of them is the one root
def rootOf (text : Text) : Text :=
  match (text.takeWhile (· == .char '/')).length with
  | 0 => ""
  | 2 => "//"
  | _ => "/"

-- Empty names and single dots lead nowhere
def ofText (text : Text) : Path :=
  ⟨rootOf text, (Text.pieces (· == .char '/') text).filter fun name => name ≠ [] ∧ name ≠ "."⟩

def text (p : Path) : Text :=
  let written := p.root ++ Text.join "/" p.names
  if written.isEmpty then "." else written

end Path

end Formulary.CommandLine
