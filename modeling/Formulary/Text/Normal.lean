import Formulary.Text.Normal.Table

namespace Formulary.Text.Normal

def entries (table : String) : List (List Char) :=
  ((table.toList.splitBy fun a b => (a == ' ' || a == '\n') == (b == ' ' || b == '\n'))).filter
    fun entry => entry.head?.any fun c => c != ' ' && c != '\n'

def decompositions : List (Char × List Char) :=
  (entries decompositionText).filterMap fun
    | c :: parts => some (c, parts)
    | [] => none

def compositions : List ((Char × Char) × Char) :=
  (entries compositionText).filterMap fun
    | [c, a, b] => some ((a, b), c)
    | _ => none

def combiningClass (c : Char) : Nat :=
  if c.toNat < 0x300 then 0
  else ((classRanges.find? fun r => r.1.1 ≤ c.toNat && c.toNat ≤ r.1.2).map (·.2)).getD 0

-- The Hangul syllables are laid out by leading consonant, vowel and trailing consonant
def firstSyllable : Nat := 0xac00
def firstLead : Nat := 0x1100
def firstVowel : Nat := 0x1161
def beforeTrail : Nat := 0x11a7
def leads : Nat := 19
def vowels : Nat := 21
def trails : Nat := 28

def decompose (c : Char) : List Char :=
  let n := c.toNat - firstSyllable
  if c.toNat < 0x80 then [c]
  else if firstSyllable ≤ c.toNat && n < leads * vowels * trails then
    let lead := Char.ofNat (firstLead + n / (vowels * trails))
    let vowel := Char.ofNat (firstVowel + n % (vowels * trails) / trails)
    if n % trails = 0 then [lead, vowel] else [lead, vowel, Char.ofNat (beforeTrail + n % trails)]
  else ((decompositions.find? (·.1 == c)).map (·.2)).getD [c]

-- A mark moves right past the marks of lower class that follow it
def insertMark (mark : Char) : List Char → List Char
  | [] => [mark]
  | d :: rest =>
    if combiningClass d ≠ 0 && combiningClass d < combiningClass mark then d :: insertMark mark rest
    else mark :: d :: rest

-- Marks on one base character in the order of their classes
def reorder (text : List Char) : List Char := text.foldr insertMark []

def composePair? (a b : Char) : Option Char :=
  let l := a.toNat - firstLead
  let v := b.toNat - firstVowel
  let s := a.toNat - firstSyllable
  let t := b.toNat - beforeTrail
  if firstLead ≤ a.toNat && l < leads && firstVowel ≤ b.toNat && v < vowels then
    some (Char.ofNat (firstSyllable + (l * vowels + v) * trails))
  else if firstSyllable ≤ a.toNat && s < leads * vowels * trails && s % trails = 0 &&
      beforeTrail < b.toNat && t < trails then
    some (Char.ofNat (a.toNat + t))
  else (compositions.find? (·.1 == (a, b))).map (·.2)

-- `base` is the last character that may still take marks, `held` the marks after it that it did
-- not take, last one first
def composeFrom (base : Char) (held : List Char) : List Char → List Char
  | [] => base :: held.reverse
  | c :: rest =>
    let class' := combiningClass c
    let blocked := match held with
      | [] => false
      | mark :: _ => class' ≤ combiningClass mark
    match if blocked then none else composePair? base c with
    | some composed => composeFrom composed held rest
    | none =>
      if class' = 0 then base :: held.reverse ++ composeFrom c [] rest
      else composeFrom base (c :: held) rest

def compose : List Char → List Char
  | [] => []
  | c :: rest => composeFrom c [] rest

-- The compatibility composition of a name: texts that are compatible have one form
def form (text : List Char) : List Char :=
  if text.all (·.toNat < 0x80) then text else compose (reorder (text.flatMap decompose))

end Formulary.Text.Normal
