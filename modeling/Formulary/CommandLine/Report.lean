import Formulary.CommandLine.Path
import Formulary.Failure
import Formulary.Source.Expr.Tree
import Formulary.Text.Utf8

namespace Formulary.CommandLine

-- What ends a run without a word to the user
inductive Breakdown
  | source (fault : Source.Fault)
  | setting (failure : Failure)
  | printing (halves : Text.Unpaired)
  | encoding (refusal : Text.Utf8.Refusal)
  | directory (path : Path)
  | overlong (path : Path)
  | blankPath
  deriving DecidableEq, Repr

def Breakdown.message : Breakdown → Text
  | .source fault => fault.message
  | .setting failure => failure.message
  | .printing halves => halves.message
  | .encoding refusal => refusal.message
  | .directory path => "[Errno 21] Is a directory: " ++ Text.quoted path.text
  | .overlong path => "[Errno 36] File name too long: " ++ Text.quoted path.text
  | .blankPath => "'list' object has no attribute 'exists'"

-- How a run ends: well, with the usage told, with a message, or broken off
inductive Ending
  | done
  | misused
  | stopped (message : Text)
  | broken (breakdown : Breakdown)
  deriving DecidableEq, Repr

def Ending.status : Ending → Nat
  | .done => 0
  | .misused => 2
  | .stopped _ => 1
  | .broken _ => 1

-- The texts that a run prints, the texts that it logs, each ended by a line feed, and its ending
structure Report where
  printed : List Text
  logged : List Text
  ending : Ending
  deriving DecidableEq, Repr

namespace Report

def ended (texts : List Text) : Text := texts.flatMap (· ++ "\n")

def output (r : Report) : Text := ended r.printed

def log (r : Report) : Text := ended r.logged

def empty : Report := ⟨[], [], .done⟩

def stop (message : Text) : Report := ⟨[], [], .stopped message⟩

def logging (lines : List Text) : Report := ⟨[], lines, .done⟩

def breakOff (breakdown : Breakdown) : Report := ⟨[], [], .broken breakdown⟩

-- A text is printed as a whole, unless a half of a pair stands in it, for which standard output has no
-- octets. Then nothing of it is printed
def print (text : Text) : Report :=
  match text.characters with
  | .ok _ => ⟨[text], [], .done⟩
  | .error halves => breakOff (.printing halves)

-- The next part of a run happens only if this one ended well
def andThen (r : Report) (next : Unit → Report) : Report :=
  match r.ending with
  | .done =>
    let s := next ()
    ⟨r.printed ++ s.printed, r.logged ++ s.logged, s.ending⟩
  | _ => r

end Report

end Formulary.CommandLine
