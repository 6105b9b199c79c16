import Formulary.Source.Token

namespace Formulary.Source

-- Reads from the front of a row of tokens, or fails and takes nothing
abbrev Parser := StateT (List Token) Option

namespace Parser

variable {α β : Type}

def peek : Parser (Option Lexeme) := fun tokens => some (tokens.head?.map (·.lexeme), tokens)

-- The column of the token to come
def column : Parser Nat := fun tokens => some ((tokens.head?.map (·.column)).getD 0, tokens)

def token : Parser Token
  | [] => none
  | t :: rest => some (t, rest)

def atMark (m : String) : Parser Bool := return (← peek) == some (.mark m)

def atKeyword (word : String) : Parser Bool := return (← peek) == some (.keyword word)

def expect (lexeme : Lexeme) : Parser Unit := do
  if (← token).lexeme == lexeme then return else failure

def mark (m : String) : Parser Unit := expect (.mark m)

def keyword (word : String) : Parser Unit := expect (.keyword word)

def name : Parser String := do
  match (← token).lexeme with
  | .name id => return id
  | _ => failure

-- Whether a name and then the mark come next
def atNameBefore (m : String) : Parser Bool := fun tokens =>
  let found := match tokens.map (·.lexeme) with
    | .name _ :: .mark n :: _ => n == m
    | _ => false
  some (found, tokens)

def maybe (p : Parser α) : Parser (Option α) := fun tokens =>
  match p tokens with
  | some (a, rest) => some (some a, rest)
  | none => some (none, tokens)

-- As many as there are; one that takes no token ends the row
def manyFrom (p : Parser α) (tokens : List Token) : List α × List Token :=
  match p tokens with
  | none => ([], tokens)
  | some (a, rest) =>
    if rest.length < tokens.length then
      let (as, rest) := manyFrom p rest
      (a :: as, rest)
    else ([], tokens)
  termination_by tokens.length

def many (p : Parser α) : Parser (List α) := fun tokens => some (manyFrom p tokens)

-- What follows a first item: a comma and an item, again and again
def afterCommas (p : Parser α) : Parser (List α) := many (do mark ","; p)

-- Items between commas, a comma after the last allowed
def commaSeparated (p : Parser α) : Parser (List α) := do
  let first ← p
  let rest ← afterCommas p
  let _ ← maybe (mark ",")
  return first :: rest

end Parser

end Formulary.Source
