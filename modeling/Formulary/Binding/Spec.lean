import Formulary.Binding
import Formulary.OrderedMap
import Formulary.Value

namespace Formulary

-- A rendering written down as data: a kind, and what that kind needs
abbrev Spec := OrderedMap Value

namespace Spec

-- Why a description of a rendering is not accepted
inductive Cause
  | missing (key : String)
  | notText (key : String)
  | arityNotInteger
  | template (fault : Template.Fault)
  deriving DecidableEq, Repr

inductive Fault
  | field (name : Text) (cause : Cause)
  | unknownKind (name : Text) (kind : String)
  | longInteger
  deriving DecidableEq, Repr

def kinds : List String := ["wrap", "infix", "template", "variadic"]

def Fault.message : Fault → String
  | .field name (.missing key) =>
    "renderer " ++ Text.quoted name ++ " is missing " ++ Text.quoted key
  | .field name (.notText key) =>
    "renderer " ++ Text.quoted name ++ ": " ++ Text.quoted key ++ " must be a string"
  | .field name .arityNotInteger =>
    "renderer " ++ Text.quoted name ++ ": 'arity' must be an integer"
  | .field name (.template fault) => "renderer " ++ Text.quoted name ++ ": " ++ fault.message
  | .unknownKind name kind =>
    "renderer " ++ Text.quoted name ++ " has unknown kind " ++ kind ++ "; expected one of " ++
      ", ".intercalate kinds
  | .longInteger => longIntegerMessage

-- The text under a key; one that may be absent has a text to stand for it
def text (spec : Spec) (key : String) (absent : Option Text) : Except Cause Text :=
  match spec.get? key, absent with
  | some (.text s), _ => .ok s
  | some _, _ => .error (.notText key)
  | none, some s => .ok s
  | none, none => .error (.missing key)

def arity (spec : Spec) : Except Cause (Option Int) :=
  match spec.get? "arity" with
  | none => .ok none
  | some .none => .ok none
  | some (.integer n) => .ok (some n)
  | some _ => .error .arityNotInteger

def wrap (spec : Spec) : Except Cause Rendering := do
  let before ← spec.text "prefix" none
  let after ← spec.text "suffix" (some [])
  return .wrap before after

def between (spec : Spec) : Except Cause Rendering := do
  return .between (← spec.text "separator" none)

-- The arity is looked at before the pattern
def template (name : Text) (spec : Spec) : Except Cause Rendering := do
  let arity ← spec.arity
  let pattern ← spec.text "pattern" none
  match Template.ofPattern name pattern arity with
  | .ok t => return .template t
  | .error fault => throw (.template fault)

def variadic (spec : Spec) : Except Cause Rendering := do
  let before ← spec.text "prefix" none
  let after ← spec.text "suffix" (some [])
  let separator ← spec.text "separator" (some ", ")
  return .variadic before after separator

-- The rendering of the kind that the description names, if there is that kind
def rendering? (name : Text) (spec : Spec) : Option (Except Cause Rendering) :=
  match spec.get? "kind" with
  | some (.text kind) =>
    if kind = "wrap" then some spec.wrap
    else if kind = "infix" then some spec.between
    else if kind = "template" then some (spec.template name)
    else if kind = "variadic" then some spec.variadic
    else none
  | _ => none

def unknownKind (name : Text) (spec : Spec) : Fault :=
  match ((spec.get? "kind").getD .none).quoted with
  | .ok kind => .unknownKind name kind
  | .error _ => .longInteger

end Spec

-- The function that a description stands for
def FunctionBinding.ofSpec (name : Text) (spec : Spec) : Except Spec.Fault FunctionBinding :=
  match spec.rendering? name with
  | none => .error (spec.unknownKind name)
  | some (.error cause) => .error (.field name cause)
  | some (.ok rendering) => .ok ⟨name, rendering⟩

end Formulary
