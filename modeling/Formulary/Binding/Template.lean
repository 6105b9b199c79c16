import Formulary.Failure
import Formulary.Text.Digit

namespace Formulary

-- A template is literal characters and slots, numbered from one, that arguments fill
inductive Piece
  | literal (c : CodePoint)
  | slot (number : Nat)
  deriving DecidableEq, Repr

namespace Piece

-- A slot is a number sign and one decimal digit of any script; the leftmost reading counts
def ofPattern : Text → List Piece
  | [] => []
  | .char '#' :: .char d :: rest =>
    match Text.digitValue? d with
    | some number => .slot number :: ofPattern rest
    | none => .literal '#' :: ofPattern (d :: rest)
  | c :: rest => .literal c :: ofPattern rest

def slot? : Piece → Option Nat
  | .literal _ => none
  | .slot number => some number

def slots (pieces : List Piece) : List Nat := pieces.filterMap slot?

def highest (pieces : List Piece) : Nat := (slots pieces).foldr max 0

theorem le_highest (pieces : List Piece) (number : Nat) (h : number ∈ slots pieces) :
    number ≤ highest pieces := by
  unfold highest
  generalize slots pieces = numbers at h
  induction numbers with
  | nil => cases h
  | cons n rest ih =>
    simp only [List.foldr_cons]
    cases List.mem_cons.mp h with
    | inl h => omega
    | inr h => have := ih h; omega

-- The text of a piece, given the arguments
def fill (args : List Text) : Piece → Text
  | .literal c => [c]
  | .slot number => args.getD (number - 1) ""

end Piece

structure Template where
  arity : Nat
  pieces : List Piece
  slots_pos : ∀ number ∈ Piece.slots pieces, 0 < number
  slots_le : ∀ number ∈ Piece.slots pieces, number ≤ arity

namespace Template

-- Why a pattern is no template
inductive Fault
  | slotZero (name : Text)
  | slotBeyond (name : Text) (highest : Nat) (arity : Int)
  | longInteger
  deriving DecidableEq, Repr

def Fault.message : Fault → String
  | .slotZero name =>
    "template for " ++ Text.quoted name ++ " uses slot #0; slots start at #1"
  | .slotBeyond name highest arity =>
    "template for " ++ Text.quoted name ++ " uses slot #" ++ toString highest ++
      " but declares arity " ++ toString arity
  | .longInteger => longIntegerMessage

-- The fault of an arity too low, unless the arity is too long to be told
def Fault.beyond (name : Text) (highest : Nat) (arity : Int) : Fault :=
  if hasDecimalText arity.natAbs then .slotBeyond name highest arity else .longInteger

-- The template of a pattern takes as many arguments as declared, or as its highest slot says
def ofPattern (name pattern : Text) (arity : Option Int) : Except Fault Template :=
  let pieces := Piece.ofPattern pattern
  let highest := Piece.highest pieces
  if hpos : ∀ number ∈ Piece.slots pieces, 0 < number then
    match arity with
    | none => .ok ⟨highest, pieces, hpos, Piece.le_highest pieces⟩
    | some arity =>
      if hle : (highest : Int) ≤ arity then
        .ok ⟨arity.toNat, pieces, hpos, fun number h => by
          have := Piece.le_highest pieces number h
          omega⟩
      else .error (.beyond name highest arity)
  else .error (.slotZero name)

def fill (t : Template) (args : List Text) : Text := t.pieces.flatMap (Piece.fill args)

end Template

end Formulary
