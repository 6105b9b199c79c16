import Formulary.Binding.Template
import Formulary.Markup

namespace Formulary

-- How a function sets its arguments, which are markup already
inductive Rendering
  | wrap (before after : Text)
  | between (separator : Text)
  | template (t : Template)
  | variadic (before after separator : Text)
  | upright (name : Text)

namespace Rendering

-- The number of arguments that it takes, if it does not take any number
def arity : Rendering → Option Nat
  | .wrap _ _ => some 1
  | .between _ => some 2
  | .template t => some t.arity
  | .variadic _ _ _ => none
  | .upright _ => none

def style : Rendering → String
  | .wrap _ _ => "wrap"
  | .between _ => "infix"
  | .template _ => "template"
  | .variadic _ _ _ => "variadic"
  | .upright _ => "opaque"

-- The arguments set, or the number of them that it takes if there are more or fewer
def apply : Rendering → List Text → Except Nat Text
  | .wrap before after, [arg] => .ok (before ++ arg ++ after)
  | .wrap _ _, _ => .error 1
  | .between separator, [left, right] => .ok (left ++ separator ++ right)
  | .between _, _ => .error 2
  | .template t, args => if args.length = t.arity then .ok (t.fill args) else .error t.arity
  | .variadic before after separator, args => .ok (before ++ Text.join separator args ++ after)
  | .upright name, args =>
    .ok ("\\mathrm\x7b" ++ (Markup.escape name).text ++ "\x7d(" ++ Text.join ", " args ++ ")")

end Rendering

structure SymbolBinding where
  name : Text
  text : Text
  deriving DecidableEq, Repr

def SymbolBinding.describe (s : SymbolBinding) : Text := s.name ++ " -> " ++ Text.quoted s.text

structure FunctionBinding where
  name : Text
  rendering : Rendering

namespace FunctionBinding

-- A name that no table knows is set upright before its arguments in parentheses
def unknown (name : Text) : FunctionBinding := ⟨name, .upright name⟩

def invoke (f : FunctionBinding) (args : List Text) : Except Failure Text :=
  match f.rendering.apply args with
  | .ok text => .ok text
  | .error expected => .error (.miscounted f.name expected args.length)

def describe (f : FunctionBinding) : Except Failure Text := do
  let arity ← match f.rendering.arity with
    | none => .ok "*"
    | some n => integerText n
  return f.name ++ "/" ++ arity ++ " (" ++ f.rendering.style ++ ")"

end FunctionBinding

inductive Binding
  | symbol (s : SymbolBinding)
  | function (f : FunctionBinding)

namespace Binding

def role : Binding → Role
  | .symbol _ => .symbol
  | .function _ => .function

def describe : Binding → Except Failure Text
  | .symbol s => .ok s.describe
  | .function f => f.describe

end Binding

end Formulary
