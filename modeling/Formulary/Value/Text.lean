import Formulary.Value

namespace Formulary.Value

-- A value of a type that a text operation does not take
inductive Misuse
  | escape (type : String)
  | wrap (type : String)
  | unescape (type : String)
  | unwrap (type : String)
  | size (type : String)
  deriving DecidableEq, Repr

def Misuse.message : Misuse → String
  | .escape type => "escape() expects str or SafeString, got " ++ type
  | .wrap type => "wrap() expects str, got " ++ type
  | .unescape type =>
    if type = "bytes" then "cannot use a string pattern on a bytes-like object"
    else "expected string or bytes-like object, got '" ++ type ++ "'"
  | .unwrap type => "'" ++ type ++ "' object has no attribute 'to_text'"
  | .size type => "object of type '" ++ type ++ "' has no len()"

-- The value as markup: markup is never escaped a second time
def escape : Value → Except Misuse Markup
  | .markup m => .ok m
  | .text s => .ok (Markup.escape s)
  | v => .error (.escape v.typeName)

-- The value taken for markup without a look at its characters
def wrap : Value → Except Misuse Markup
  | .markup m => .ok m
  | .text s => .ok ⟨s⟩
  | v => .error (.wrap v.typeName)

def unescape : Value → Except Misuse Text
  | .markup m => .ok (Markup.unescape m.text)
  | .text s => .ok (Markup.unescape s)
  | v => .error (.unescape v.typeName)

def unwrap : Value → Except Misuse Text
  | .markup m => .ok m.text
  | v => .error (.unwrap v.typeName)

def size : Value → Except Misuse Nat
  | .text s => .ok s.length
  | .markup m => .ok m.text.length
  | .list items => .ok items.length
  | .tuple items => .ok items.length
  | .dict entries => .ok entries.length
  | .octets bytes => .ok bytes.length
  | v => .error (.size v.typeName)

end Formulary.Value
