import Formulary.Text.CodePoint

namespace Formulary

-- Text that is known to be valid math markup
structure Markup where
  text : Text
  deriving DecidableEq, Repr

namespace Markup

-- The characters that markup reserves, each with the markup that shows it. The backslash comes
-- first because every other code brings one in, the caret after the braces that its code holds
def reserved : List (Char × Text) :=
  [('\\', "\\backslash "),
   ('{', "\\\x7b"),
   ('}', "\\\x7d"),
   ('$', "\\$"),
   ('&', "\\&"),
   ('#', "\\#"),
   ('%', "\\%"),
   ('_', "\\_"),
   ('^', "\\hat\x7b\x7d"),
   ('~', "\\sim ")]

def replace (c : Char) (code text : Text) : Text :=
  text.flatMap fun d => if d = .char c then code else [d]

-- Every reserved character gives way to its code, one character after the other in table order
def escape (text : Text) : Markup := ⟨reserved.foldl (fun text r => replace r.1 r.2 text) text⟩

-- The code that the text opens with
def codeAt? (text : Text) : Option (Char × Text) := reserved.find? fun r => r.2.isPrefixOf text

-- One scan from left to right turns each code back into its character
def unescape : Text → Text
  | [] => []
  | c :: rest =>
    match codeAt? (c :: rest) with
    | some r => r.1 :: unescape (rest.drop (r.2.length - 1))
    | none => c :: unescape rest
  termination_by text => text.length
  decreasing_by all_goals grind

end Markup

end Formulary
