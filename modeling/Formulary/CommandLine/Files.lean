import Formulary.CommandLine.Path
import Formulary.Text.Utf8

namespace Formulary.CommandLine

-- What stands at a place in the file system
inductive Entry
  | absent
  | overlong
  | directory
  | file (octets : List UInt8)

abbrev Files := Path → Entry

namespace Files

-- The octets that a name and a whole path may take
def nameLimit : Nat := 255
def pathLimit : Nat := 4095

-- An octet that is no part of a character is kept in a name as the second half of a pair
def isKeptOctet (n : Fin 0x800) : Bool :=
  let number := (CodePoint.half n).number
  0xdc80 ≤ number && number < 0xdd00

-- Whether a name can have the code point in it. No file can be asked for by any other name
def isNameable : CodePoint → Bool
  | .char c => c != '\x00'
  | .half n => isKeptOctet n

def octetCount : Text → Nat
  | [] => 0
  | .char c :: rest => Text.Utf8.width c + octetCount rest
  | .half _ :: rest => 1 + octetCount rest

-- The entry at a place that is given without parent steps. The ways to the files are directories
def entryAt (files : List (Path × List UInt8)) (place : Path) : Entry :=
  if place.names.any fun name => nameLimit < octetCount name then .overlong
  else match files.reverse.lookup place with
    | some octets => .file octets
    | none =>
      if place.names.isEmpty ||
          files.any fun f => f.1.root == place.root && place.names.isPrefixOf f.1.names then
        .directory
      else .absent

-- One step on from a place, which has to be a directory. Above the place that paths are counted
-- from is a directory without files
def step (files : List (Path × List UInt8)) (place : Path) (name : Text) : Except Entry Path :=
  match entryAt files place with
  | .directory =>
    if name ≠ ".." then .ok ⟨place.root, place.names ++ [name]⟩
    else if place.names ≠ [] then .ok ⟨place.root, place.names.dropLast⟩
    else .ok ⟨if place.root = "" then ".." else place.root, []⟩
  | .overlong => .error .overlong
  | _ => .error .absent

-- The file system that holds the given files. Of two files at one place the later counts
def ofList (files : List (Path × List UInt8)) : Files := fun path =>
  let start : Path := ⟨if path.root = "" then "" else "/", []⟩
  if !path.text.all isNameable then .absent
  else if pathLimit < octetCount path.text then .overlong
  else match path.names.foldlM (step files) start with
    | .ok place => entryAt files place
    | .error entry => entry

end Files

end Formulary.CommandLine
