import Formulary.Source.Expr

namespace Formulary.Source

-- What stands between quote marks: a text, octets, or a text with replacement fields, of which
-- only the expressions in the fields are kept
inductive Quotation
  | text (characters : Text)
  | octets (bytes : List UInt8)
  | formatted (fields : List (List Char))
  deriving DecidableEq, Repr

inductive Lexeme
  | name (id : String)
  | keyword (word : String)
  | number (value : Constant)
  | quotation (q : Quotation)
  | mark (text : String)
  | lineEnd
  deriving DecidableEq, Repr

-- A lexeme and its column, counted in octets from the start of its line
structure Token where
  lexeme : Lexeme
  column : Nat
  deriving DecidableEq, Repr

def keywords : List String :=
  ["False", "None", "True", "and", "as", "assert", "async", "await", "break", "class", "continue",
   "def", "del", "elif", "else", "except", "finally", "for", "from", "global", "if", "import", "in",
   "is", "lambda", "nonlocal", "not", "or", "pass", "raise", "return", "try", "while", "with",
   "yield"]

-- Operators and punctuation, longer ones before those that they start with
def marks : List String :=
  ["**=", "//=", "<<=", ">>=", "...",
   "!=", "%=", "&=", "**", "*=", "+=", "-=", "->", "//", "/=", ":=", "<<", "<=", "<>", "==", ">=",
   ">>", "@=", "^=", "|=",
   "%", "&", "(", ")", "*", "+", ",", "-", ".", "/", ":", ";", "<", "=", ">", "@", "[", "]", "^",
   "\x7b", "|", "\x7d", "~"]

-- Outside ASCII every character is taken into a name first and judged with the name as a whole
def opensWord (c : Char) : Bool := c.isAlpha || c == '_' || 0x80 ≤ c.toNat

def continuesWord (c : Char) : Bool := c.isAlphanum || c == '_' || 0x80 ≤ c.toNat

end Formulary.Source
