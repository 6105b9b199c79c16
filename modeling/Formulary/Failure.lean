import Formulary.Text.Quoted

namespace Formulary

-- What a name stands for: a piece of markup, or a way to set arguments
inductive Role
  | symbol
  | function
  deriving DecidableEq, Repr

def Role.text : Role → String
  | .symbol => "symbol"
  | .function => "function"

-- Why a tree cannot be set
inductive Failure
  | unclassifiable (shape : Text)
  | misbound (name : Text) (role : Role)
  | unbound (name : Text) (role : Role)
  | arity (name : Text) (expected actual : Nat)
  | longInteger
  | voidEntry
  deriving DecidableEq, Repr

-- An integer has a decimal text while it has no more digits than this
def digitLimit : Nat := 4300

def hasDecimalText (n : Nat) : Bool := n < Nat.pow 10 digitLimit

def longIntegerMessage : String :=
  "Exceeds the limit (4300 digits) for integer string conversion; " ++
    "use sys.set_int_max_str_digits() to increase the limit"

namespace Failure

def message : Failure → Text
  | .unclassifiable shape => "cannot classify node of this shape: " ++ shape
  | .misbound name role => "name " ++ Text.quoted name ++ " is not bound as a " ++ role.text
  | .unbound name role => "no " ++ role.text ++ " binding for " ++ Text.quoted name
  | .arity name expected actual =>
    Text.quoted name ++ " expects " ++ toString expected ++ " argument" ++
      (if expected = 1 then "" else "s") ++ ", got " ++ toString actual
  | .longInteger => longIntegerMessage
  | .voidEntry => "'NoneType' object has no attribute 'describe'"

-- The wrong number of arguments, unless the right one is too long to be told
def miscounted (name : Text) (expected actual : Nat) : Failure :=
  if hasDecimalText expected then .arity name expected actual else .longInteger

end Failure

def integerText (n : Int) : Except Failure String :=
  if hasDecimalText n.natAbs then .ok (toString n) else .error .longInteger

end Formulary
