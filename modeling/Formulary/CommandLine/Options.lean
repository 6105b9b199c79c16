import Formulary.CommandLine.Path
import Formulary.CommandLine.Word

namespace Formulary.CommandLine

-- The value of a switch that names a file. Two dashes are not taken for a value, and leave the
-- switch there without one
inductive Operand
  | absent
  | blank
  | path (p : Path)
  deriving DecidableEq, Repr

def Operand.ofText (text : Text) : Operand :=
  if text = "--" then .blank else .path (.ofText text)

-- What a run is asked to do
structure Options where
  expressions : List Text
  input : Operand
  table : Operand
  showScope : Bool
  verbose : Bool
  deriving DecidableEq, Repr

-- Why there are no options
inductive Stop
  | help
  | misuse (m : Misuse)
  deriving DecidableEq, Repr

-- Expressions stand together: only one stretch of an argument list holds them
inductive Stretch
  | before
  | within
  | past
  deriving DecidableEq, Repr

-- The options that the words read so far amount to, and the words that found no place
structure Progress where
  options : Options
  stretch : Stretch
  spare : List Text

namespace Progress

def start : Progress := ⟨⟨[], .absent, .absent, false, false⟩, .before, []⟩

-- A word of another kind ends the stretch of expressions
def interrupt (p : Progress) : Progress :=
  if p.stretch = .within then { p with stretch := .past } else p

def leaveOver (p : Progress) (text : Text) : Progress := { p with spare := p.spare ++ [text] }

def take (p : Progress) (text : Text) : Progress :=
  if p.stretch = .past then p.leaveOver text
  else ⟨{ p.options with expressions := p.options.expressions ++ [text] }, .within, p.spare⟩

-- A divider is no expression, but stands among them like one
def divide (p : Progress) : Progress :=
  if p.stretch = .past then p.leaveOver "--" else { p with stretch := .within }

def assign (p : Progress) (s : Switch) (value : Text) : Progress :=
  match s with
  | .input => { p with options.input := .ofText value }
  | .table => { p with options.table := .ofText value }
  | _ => p

def turnOn (p : Progress) : Switch → Except Stop Progress
  | .help => .error .help
  | .showScope => .ok { p with options.showScope := true }
  | .verbose => .ok { p with options.verbose := true }
  | _ => .ok p

end Progress

-- The switches of a bundle, each one letter. A bundle with a letter too many turns on none of them
def unbundle (s : Switch) : Text → Except Misuse (List Switch)
  | [] => .ok [s]
  | letter :: tail =>
    match Switch.ofSpelling? [.char '-', letter] with
    | none => .error (.idleValue s (letter :: tail))
    | some next => do return s :: (← unbundle next tail)

def Progress.turnOnBundle (p : Progress) (s : Switch) (tail : Text) : Except Stop Progress :=
  if tail.isEmpty then .error (.misuse (.idleValue s tail))
  else match unbundle s tail with
    | .error m => .error (.misuse m)
    | .ok switches => switches.foldlM Progress.turnOn p

def Progress.ofWords (p : Progress) : List Word → Except Stop Progress
  | [] => .ok p
  | .plain text :: rest => (p.take text).ofWords rest
  | .divider :: rest => p.divide.ofWords rest
  | .unknown text :: rest => (p.interrupt.leaveOver text).ofWords rest
  | .bundle s tail :: rest => do (← p.interrupt.turnOnBundle s tail).ofWords rest
  | .switch s (some value) :: rest =>
    if s.takesValue then (p.interrupt.assign s value).ofWords rest
    else .error (.misuse (.idleValue s value))
  | .switch s none :: .plain value :: rest =>
    if s.takesValue then (p.interrupt.assign s value).ofWords rest
    else do (← p.interrupt.turnOn s).ofWords (.plain value :: rest)
  | .switch s none :: rest =>
    if s.takesValue then .error (.misuse (.missingValue s))
    else do (← p.interrupt.turnOn s).ofWords rest

def Options.ofWords (words : List Word) : Except Stop Options := do
  let p ← Progress.start.ofWords words
  if p.spare.isEmpty then return p.options else throw (.misuse (.unrecognized p.spare))

-- All words are told apart before the first of them counts
def Options.ofArguments (arguments : List Text) : Except Stop Options :=
  match Word.ofArguments arguments with
  | .error m => .error (.misuse m)
  | .ok words => Options.ofWords words

end Formulary.CommandLine
