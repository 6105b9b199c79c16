namespace Formulary.Text.Utf8

inductive Fault
  | start
  | continuation
  | truncated
  deriving DecidableEq, Repr

-- The refused octets: where they start, how many they are, and the first of them
structure Refusal where
  fault : Fault
  position : Nat
  length : Nat
  octet : UInt8
  deriving DecidableEq, Repr

def hexDigit (n : Nat) : Char := "0123456789abcdef".toList.getD n '0'

def Fault.reason : Fault → String
  | .start => "invalid start byte"
  | .continuation => "invalid continuation byte"
  | .truncated => "unexpected end of data"

def Refusal.message (r : Refusal) : String :=
  let place :=
    if r.length = 1 then
      "byte 0x" ++ String.ofList [hexDigit (r.octet.toNat / 16), hexDigit (r.octet.toNat % 16)] ++
        " in position " ++ toString r.position
    else
      "bytes in position " ++ toString r.position ++ "-" ++ toString (r.position + r.length - 1)
  "'utf-8' codec can't decode " ++ place ++ ": " ++ r.fault.reason

def isContinuation (b : UInt8) : Bool := 0x80 ≤ b && b < 0xc0

-- The second octet is what keeps overlong forms, surrogates and values past the last code point out
def isSecond (lead second : UInt8) : Bool :=
  isContinuation second &&
    (if lead = 0xe0 then 0xa0 ≤ second
     else if lead = 0xed then second < 0xa0
     else if lead = 0xf0 then 0x90 ≤ second
     else if lead = 0xf4 then second < 0x90
     else true)

def low (b : UInt8) : Nat := b.toNat % 64

-- Reads the octets from `position` on, and refuses the first that no text has at its place
def decodeFrom (position : Nat) : List UInt8 → Except Refusal (List Char)
  | [] => .ok []
  | a :: rest =>
    if a < 0x80 then
      (Char.ofNat a.toNat :: ·) <$> decodeFrom (position + 1) rest
    else if a < 0xc2 || 0xf5 ≤ a then
      .error ⟨.start, position, 1, a⟩
    else match rest with
      | [] => .error ⟨.truncated, position, 1, a⟩
      | b :: rest =>
        if !isSecond a b then .error ⟨.continuation, position, 1, a⟩
        else if a < 0xe0 then
          (Char.ofNat (a.toNat % 32 * 64 + low b) :: ·) <$> decodeFrom (position + 2) rest
        else match rest with
          | [] => .error ⟨.truncated, position, 2, a⟩
          | c :: rest =>
            if !isContinuation c then .error ⟨.continuation, position, 2, a⟩
            else if a < 0xf0 then
              (Char.ofNat (a.toNat % 16 * 4096 + low b * 64 + low c) :: ·) <$>
                decodeFrom (position + 3) rest
            else match rest with
              | [] => .error ⟨.truncated, position, 3, a⟩
              | d :: rest =>
                if !isContinuation d then .error ⟨.continuation, position, 3, a⟩
                else
                  (Char.ofNat (a.toNat % 8 * 262144 + low b * 4096 + low c * 64 + low d) :: ·) <$>
                    decodeFrom (position + 4) rest

def decode (octets : List UInt8) : Except Refusal (List Char) := decodeFrom 0 octets

-- The number of octets that a character takes
def width (c : Char) : Nat :=
  if c.toNat < 0x80 then 1 else if c.toNat < 0x800 then 2 else if c.toNat < 0x10000 then 3 else 4

end Formulary.Text.Utf8
