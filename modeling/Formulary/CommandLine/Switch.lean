import Formulary.Text.Quoted

namespace Formulary.CommandLine

-- What an argument list asks for by name
inductive Switch
  | help
  | input
  | table
  | showScope
  | verbose
  deriving DecidableEq, Repr

namespace Switch

-- In the order in which a spelling that is too short lists what it could mean
def spellings : List (Text × Switch) :=
  [("-h", .help),
   ("--help", .help),
   ("--input", .input),
   ("--notation", .table),
   ("--show-scope", .showScope),
   ("--verbose", .verbose),
   ("-v", .verbose)]

def ofSpelling? (spelling : Text) : Option Switch := spellings.lookup spelling

-- All spellings of the switch
def label : Switch → String
  | .help => "-h/--help"
  | .input => "--input"
  | .table => "--notation"
  | .showScope => "--show-scope"
  | .verbose => "--verbose/-v"

def takesValue : Switch → Bool
  | .input => true
  | .table => true
  | _ => false

end Switch

-- Why an argument list makes no sense
inductive Misuse
  | ambiguous (spelling : Text) (candidates : List Text)
  | missingValue (switch : Switch)
  | idleValue (switch : Switch) (value : Text)
  | unrecognized (words : List Text)
  deriving DecidableEq, Repr

def Misuse.message : Misuse → Text
  | .ambiguous spelling candidates =>
    "ambiguous option: " ++ spelling ++ " could match " ++ Text.join ", " candidates
  | .missingValue switch => "argument " ++ switch.label ++ ": expected one argument"
  | .idleValue switch value =>
    "argument " ++ switch.label ++ ": ignored explicit argument " ++ Text.quoted value
  | .unrecognized words => "unrecognized arguments: " ++ Text.join " " words

end Formulary.CommandLine
