import Formulary.Notation

namespace Formulary.Notation

def smallGreek : List String :=
  ["alpha", "beta", "gamma", "delta", "epsilon", "varepsilon", "zeta", "eta", "theta", "vartheta",
   "iota", "kappa", "lambda", "mu", "nu", "xi", "pi", "rho", "sigma", "tau", "upsilon", "phi",
   "varphi", "chi", "psi", "omega"]

-- The capitals that look like Latin ones have no macro
def capitalGreek : List String :=
  ["Gamma", "Delta", "Theta", "Lambda", "Xi", "Pi", "Sigma", "Upsilon", "Phi", "Psi", "Omega"]

def knownSymbols : List (String × String) :=
  (smallGreek ++ capitalGreek).map (fun name => (name, "\\" ++ name)) ++
  [("lam", "\\lambda"),
   ("inf", "\\infty"),
   ("infty", "\\infty"),
   ("nabla", "\\nabla"),
   ("partial", "\\partial"),
   ("hbar", "\\hbar"),
   ("ell", "\\ell"),
   ("emptyset", "\\emptyset")]

-- The template of a pattern with one slot each for two arguments
def twoSlots (pattern : Text)
    (hpos : ∀ number ∈ Piece.slots (Piece.ofPattern pattern), 0 < number)
    (hle : ∀ number ∈ Piece.slots (Piece.ofPattern pattern), number ≤ 2) : Rendering :=
  .template ⟨2, Piece.ofPattern pattern, hpos, hle⟩

-- A function written by its macro, its argument between parentheses that grow with it
def macroCall (name : String) : Rendering := .wrap ("\\" ++ name ++ "\\left(") "\\right)"

def fraction : Rendering := twoSlots "\\frac\x7b#1\x7d\x7b#2\x7d" (by decide) (by decide)

def knownRenderings : List (String × Rendering) :=
  [("neg", .wrap "-" ""),
   ("pos", .wrap "+" ""),
   ("not", .wrap "\\lnot " ""),
   ("+", .between " + "),
   ("-", .between " - "),
   ("*", .between " \\cdot "),
   ("%", .between " \\bmod "),
   ("==", .between " = "),
   ("!=", .between " \\neq "),
   ("<", .between " < "),
   ("<=", .between " \\leq "),
   (">", .between " > "),
   (">=", .between " \\geq "),
   ("and", .between " \\land "),
   ("or", .between " \\lor "),
   ("in", .between " \\in "),
   ("/", fraction),
   ("//", twoSlots "\\left\\lfloor \\frac\x7b#1\x7d\x7b#2\x7d \\right\\rfloor" (by decide) (by decide)),
   ("**", twoSlots "\x7b#1\x7d^\x7b#2\x7d" (by decide) (by decide)),
   ("[]", twoSlots "\x7b#1\x7d_\x7b#2\x7d" (by decide) (by decide)),
   ("frac", fraction),
   ("binom", twoSlots "\\binom\x7b#1\x7d\x7b#2\x7d" (by decide) (by decide)),
   ("root", twoSlots "\\sqrt[#2]\x7b#1\x7d" (by decide) (by decide)),
   ("paren", .wrap "\\left(" "\\right)"),
   ("sqrt", .wrap "\\sqrt\x7b" "\x7d"),
   ("abs", .wrap "\\left|" "\\right|"),
   ("floor", .wrap "\\left\\lfloor " " \\right\\rfloor"),
   ("ceil", .wrap "\\left\\lceil " " \\right\\rceil"),
   ("sin", macroCall "sin"),
   ("cos", macroCall "cos"),
   ("tan", macroCall "tan"),
   ("arcsin", macroCall "arcsin"),
   ("arccos", macroCall "arccos"),
   ("arctan", macroCall "arctan"),
   ("sinh", macroCall "sinh"),
   ("cosh", macroCall "cosh"),
   ("tanh", macroCall "tanh"),
   ("exp", macroCall "exp"),
   ("log", macroCall "log"),
   ("ln", macroCall "ln"),
   ("max", .variadic "\\max\\left(" "\\right)" ", "),
   ("min", .variadic "\\min\\left(" "\\right)" ", ")]

-- The notation that is known without any file
def default : Notation where
  symbols := .ofList (knownSymbols.map fun e => (e.1, ⟨e.1, e.2⟩))
  functions := .ofList (knownRenderings.map fun e => (e.1, ⟨e.1, e.2⟩))

end Formulary.Notation
