namespace Formulary.Text.CharacterName

-- Names of characters that follow one another from the first on. They begin alike, and their
-- endings are listed between semicolons
structure Row where
  first : Nat
  lead : String
  endings : List String

end Formulary.Text.CharacterName
