import Formulary.Failure

namespace Formulary.Json

-- What a document lacks, or holds, at the place where reading it stops
inductive Reason
  | byteOrderMark
  | value
  | name
  | colon
  | comma
  | controlCharacter
  | unterminated
  | escape
  | codeUnit
  | extraData
  deriving DecidableEq, Repr

def Reason.text : Reason → String
  | .byteOrderMark => "Unexpected UTF-8 BOM (decode using utf-8-sig)"
  | .value => "Expecting value"
  | .name => "Expecting property name enclosed in double quotes"
  | .colon => "Expecting ':' delimiter"
  | .comma => "Expecting ',' delimiter"
  | .controlCharacter => "Invalid control character at"
  | .unterminated => "Unterminated string starting at"
  | .escape => "Invalid \\escape"
  | .codeUnit => "Invalid \\uXXXX escape"
  | .extraData => "Extra data"

inductive Fault
  | malformed (reason : Reason) (position : Nat)
  | longInteger (digits : Nat)
  deriving DecidableEq, Repr

-- Lines and columns count from one, positions from zero
def line (document : List Char) (position : Nat) : Nat :=
  (document.take position).count '\n' + 1

def column (document : List Char) (position : Nat) : Nat :=
  ((document.take position).reverse.takeWhile (· != '\n')).length + 1

def Fault.message (document : List Char) : Fault → String
  | .malformed reason position =>
    reason.text ++ ": line " ++ toString (line document position) ++ " column " ++
      toString (column document position) ++ " (char " ++ toString position ++ ")"
  | .longInteger digits =>
    "Exceeds the limit (4300 digits) for integer string conversion: value has " ++ toString digits ++
      " digits; use sys.set_int_max_str_digits() to increase the limit"

end Formulary.Json
