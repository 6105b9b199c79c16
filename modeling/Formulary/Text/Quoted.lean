import Formulary.Text.CodePoint
import Formulary.Text.Printable

namespace Formulary.Text

def hexText (width n : Nat) : List Char :=
  let digits := Nat.toDigits 16 n
  List.replicate (width - digits.length) '0' ++ digits

-- A text that holds an apostrophe and no double quote goes between double quotes, any other
-- between apostrophes
def quoteMark (text : Text) : Char :=
  if text.contains (.char '\'') && !text.contains (.char '"') then '"' else '\''

-- The four characters that a backslash and one further character stand for
def shortEscape? (mark c : Char) : Option Char :=
  if c = mark ∨ c = '\\' then some c
  else if c = '\n' then some 'n'
  else if c = '\r' then some 'r'
  else if c = '\t' then some 't'
  else none

-- A code point that is spelt out takes the shortest of three forms
def spelt (n : Nat) : List Char :=
  if n < 0x100 then '\\' :: 'x' :: hexText 2 n
  else if n < 0x10000 then '\\' :: 'u' :: hexText 4 n
  else '\\' :: 'U' :: hexText 8 n

def quotedChar (mark c : Char) : List Char :=
  match shortEscape? mark c with
  | some e => ['\\', e]
  | none => if isPrintable c then [c] else spelt c.toNat

def quotedPoint (mark : Char) : CodePoint → List Char
  | .char c => quotedChar mark c
  | .half n => spelt (CodePoint.half n).number

-- A text as messages show it, between quote marks and on one line
def quoted (text : Text) : String :=
  let mark := quoteMark text
  String.ofList (mark :: text.flatMap (quotedPoint mark) ++ [mark])

-- An octet outside printable ASCII is spelt out
def quotedOctet (mark : Char) (b : UInt8) : List Char :=
  match shortEscape? mark (Char.ofNat b.toNat) with
  | some e => ['\\', e]
  | none =>
    if 0x20 ≤ b && b < 0x7f then [Char.ofNat b.toNat] else '\\' :: 'x' :: hexText 2 b.toNat

def quotedOctets (octets : List UInt8) : String :=
  let mark := quoteMark (octets.map fun b => .char (Char.ofNat b.toNat))
  String.ofList ('b' :: mark :: octets.flatMap (quotedOctet mark) ++ [mark])

end Formulary.Text
