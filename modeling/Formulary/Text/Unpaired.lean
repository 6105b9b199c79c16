import Formulary.Text.Quoted

namespace Formulary.Text

-- Halves of pairs in a row, for which there are no octets: the first of them, where it stands, and how
-- many they are
structure Unpaired where
  first : Fin 0x800
  position : Nat
  length : Nat
  deriving DecidableEq, Repr

def Unpaired.message (u : Unpaired) : String :=
  let place :=
    if u.length = 1 then
      "character '" ++ String.ofList (spelt (CodePoint.half u.first).number) ++ "' in position " ++
        toString u.position
    else
      "characters in position " ++ toString u.position ++ "-" ++
        toString (u.position + u.length - 1)
  "'utf-8' codec can't encode " ++ place ++ ": surrogates not allowed"

-- The characters of a text from `position` on. The first half among them is refused, together with
-- those that follow it at once
def charactersFrom (position : Nat) : Text → Except Unpaired (List Char)
  | [] => .ok []
  | .char c :: rest => (c :: ·) <$> charactersFrom (position + 1) rest
  | .half n :: rest => .error ⟨n, position, (rest.takeWhile CodePoint.isHalf).length + 1⟩

def characters (text : Text) : Except Unpaired (List Char) := charactersFrom 0 text

end Formulary.Text
