namespace Formulary

-- A number of the code space stands for a character or for half of a surrogate pair. Halves are no
-- characters, but escapes can write them one by one, and then they stay what they are
inductive CodePoint
  | char (c : Char)
  | half (n : Fin 0x800)
  deriving DecidableEq, Repr

namespace CodePoint

instance : Coe Char CodePoint := ⟨.char⟩

def firstHalf : Nat := 0xd800

def number : CodePoint → Nat
  | .char c => c.toNat
  | .half n => firstHalf + n.val

-- The code point of a number, if the code space reaches that far
def ofNumber? (n : Nat) : Option CodePoint :=
  if n.isValidChar then some (.char (Char.ofNat n))
  else if h : n - firstHalf < 0x800 then some (.half ⟨n - firstHalf, h⟩)
  else none

def isHighHalf (n : Nat) : Bool := 0xd800 ≤ n && n < 0xdc00

def isLowHalf (n : Nat) : Bool := 0xdc00 ≤ n && n < 0xe000

-- The character that two halves make up
def ofPair (high low : Nat) : CodePoint :=
  .char (Char.ofNat (0x10000 + (high - 0xd800) * 0x400 + (low - 0xdc00)))

-- A half has none of the properties of characters
def is (p : Char → Bool) : CodePoint → Bool
  | .char c => p c
  | .half _ => false

def isHalf : CodePoint → Bool
  | .char _ => false
  | .half _ => true

-- What can be written out: a half has no form of its own there and leaves the replacement character
def shown : CodePoint → Char
  | .char c => c
  | .half _ => '\ufffd'

end CodePoint

-- What names, literals and markup are made of
abbrev Text := List CodePoint

namespace Text

-- One proof for all definitions that look for a text among others
instance : LawfulBEq Text := inferInstance

def ofChars (characters : List Char) : Text := characters.map .char

def ofString (s : String) : Text := ofChars s.toList

instance : Coe String Text := ⟨ofString⟩

-- The text as it can be written out
def shown (text : Text) : String := String.ofList (text.map CodePoint.shown)

-- What is made of characters alone is written out as it was
theorem shown_ofString (s : String) : (ofString s).shown = s := by
  simp [shown, ofString, ofChars, Function.comp_def, CodePoint.shown]

theorem ofString_injective (s t : String) (h : ofString s = ofString t) : s = t := by
  rw [← shown_ofString s, h, shown_ofString]

-- The texts in a row, the separator between each two
def join (separator : Text) (texts : List Text) : Text := separator.intercalate texts

theorem join_cons_cons (separator text next : Text) (rest : List Text) :
    join separator (text :: next :: rest) = text ++ (separator ++ join separator (next :: rest)) := by
  simp [join]

end Text

end Formulary
