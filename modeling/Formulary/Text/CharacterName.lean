import Formulary.Text.CharacterName.Alias
import Formulary.Text.CharacterName.Alphabets
import Formulary.Text.CharacterName.AncientScripts
import Formulary.Text.CharacterName.Pictures
import Formulary.Text.CharacterName.Scripts
import Formulary.Text.CharacterName.Signs
import Formulary.Text.Lines

namespace Formulary.Text

namespace CharacterName

def stripped? (lead name : List Char) : Option (List Char) :=
  if lead.isPrefixOf name then some (name.drop lead.length) else none

def endingsOf (line : String) : List (List Char) := pieces (· == ';') line.toList

def Row.find? (row : Row) (name : List Char) : Option Char := do
  let ending ← stripped? row.lead.toList name
  let i ← (row.endings.flatMap endingsOf).findIdx? (· == ending)
  return Char.ofNat (row.first + i)

-- The characters of Unicode 14 that have names of their own
def rows : List Row := alphabets ++ signs ++ scripts ++ ancientScripts ++ pictures

def ofRows? (name : List Char) : Option Char := (rows ++ selectors).findSome? fun row => row.find? name

def ofAlias? (name : List Char) : Option Char := do
  let e ← aliases.find? fun e => e.2.contains (String.ofList name)
  return Char.ofNat e.1

def inRanges (ranges : List (Nat × Nat)) (n : Nat) : Bool :=
  ranges.any fun range => range.1 ≤ n && n ≤ range.2

-- The number that four or five hexadecimal digits with capital letters write
def numberOf? (digits : List Char) : Option Nat :=
  if digits.length = 4 ∨ digits.length = 5 then do
    let values ← digits.mapM fun c => "0123456789ABCDEF".toList.findIdx? (· == c)
    return values.foldl (fun n d => n * 16 + d) 0
  else none

-- A character that is named by its code point
def ofNumber? (lead : String) (ranges : List (Nat × Nat)) (name : List Char) : Option Char := do
  let n ← numberOf? (← stripped? lead.toList name)
  if inRanges ranges n then some (Char.ofNat n) else none

def ofIdeograph? (name : List Char) : Option Char :=
  ofNumber? "CJK UNIFIED IDEOGRAPH-"
    [(0x3400, 0x4dbf), (0x4e00, 0x9fff), (0x20000, 0x2a6df), (0x2a700, 0x2b738), (0x2b740, 0x2b81d),
     (0x2b820, 0x2cea1), (0x2ceb0, 0x2ebe0), (0x30000, 0x3134a)] name

def numbered : List (String × List (Nat × Nat)) :=
  [("CJK COMPATIBILITY IDEOGRAPH-", [(0xf900, 0xfa6d), (0xfa70, 0xfad9), (0x2f800, 0x2fa1d)]),
   ("KHITAN SMALL SCRIPT CHARACTER-", [(0x18b00, 0x18cd5)]),
   ("NUSHU CHARACTER-", [(0x1b170, 0x1b2fb)])]

-- In these names no zero leads the code point
def ofNumbered? (name : List Char) : Option Char :=
  numbered.findSome? fun (lead, ranges) =>
    if (name.drop lead.length).head? = some '0' then none else ofNumber? lead ranges name

def initials : List String :=
  ["G", "GG", "N", "D", "DD", "R", "M", "B", "BB", "S", "SS", "", "J", "JJ", "C", "K", "T", "P", "H"]

def vowels : List String :=
  ["A", "AE", "YA", "YAE", "EO", "E", "YEO", "YE", "O", "WA", "WAE", "OE", "YO", "U", "WEO", "WE", "WI",
   "YU", "EU", "YI", "I"]

def finals : List String :=
  ["", "G", "GG", "GS", "N", "NJ", "NH", "D", "L", "LG", "LM", "LB", "LS", "LT", "LP", "LH", "M", "B",
   "BS", "S", "SS", "NG", "J", "C", "K", "T", "P", "H"]

-- A syllable block is named by its sounds, and stands at the place that they have in their orders
def ofSyllable? (name : List Char) : Option Char := do
  let sounds ← stripped? "HANGUL SYLLABLE ".toList name
  initials.zipIdx.findSome? fun (initial, i) => do
    let rest ← stripped? initial.toList sounds
    vowels.zipIdx.findSome? fun (vowel, j) => do
      let last ← stripped? vowel.toList rest
      let k ← finals.findIdx? (· == String.ofList last)
      return Char.ofNat (0xac00 + (i * vowels.length + j) * finals.length + k)

end CharacterName

open CharacterName in
-- The character of a name. Where sounds or a unified code point make the name, letter case counts
def characterNamed? (name : List Char) : Option Char :=
  let capital := name.map Char.toUpper
  (ofIdeograph? name).or ((ofSyllable? name).or
    ((ofNumbered? capital).or ((ofRows? capital).or (ofAlias? capital))))

end Formulary.Text
