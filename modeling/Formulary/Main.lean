import Formulary.CommandLine.Run

namespace Formulary.CommandLine

-- What the file system holds at a path
def entryAt (path : Path) : IO Entry := do
  try
    return .file (← IO.FS.readBinFile path.text.shown).toList
  catch
    | .inappropriateType .. => return .directory
    | _ => return .absent

-- The paths that a run with these options looks at
def Options.paths (o : Options) : List Path :=
  [o.table, o.input].filterMap fun
    | .path p => some p
    | _ => none

-- The text on standard input, if it is asked for, and the files that a run may read
def surroundings (arguments : List Text) : IO (String × Files) := do
  match Options.ofArguments arguments with
  | .error _ => return ("", fun _ => .absent)
  | .ok options =>
    let entries ← options.paths.mapM fun p => return (p, ← entryAt p)
    let input ← if options.expressions.contains "-" then (← IO.getStdin).readToEnd else pure ""
    return (input, fun path => (entries.lookup path).getD .absent)

-- Where no other parser is at hand to ask for words
def invalidSyntax : Source.Wording := fun _ => ⟨"invalid syntax", none⟩

end Formulary.CommandLine

open Formulary.CommandLine in
def main (arguments : List String) : IO UInt32 := do
  let arguments := arguments.map Formulary.Text.ofString
  let (input, files) ← surroundings arguments
  let report := run invalidSyntax arguments input files
  IO.print report.output.shown
  IO.eprint report.log.shown
  match report.ending with
  | .stopped message => IO.eprintln message.shown
  | .broken breakdown => IO.eprintln breakdown.message.shown
  | _ => pure ()
  return report.ending.status.toUInt32
