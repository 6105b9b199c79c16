import Formulary.Proofs.Precedence
import Formulary.Text.CodePoint

namespace Formulary.Arithmetic

open Precedence (Token Formula Rules Reads)

inductive Leaf
  | name (id : Text)
  | number (n : Nat)
  deriving DecidableEq, Repr

inductive Sign
  | minus
  | plus
  deriving DecidableEq, Repr

inductive Operation
  | add
  | subtract
  | multiply
  | modulo
  deriving DecidableEq, Repr

abbrev Row := List (Token Leaf Sign Operation)
abbrev Term := Formula Leaf Sign Operation

-- A sign binds more tightly than a product or a remainder, and these more tightly than a sum or a
-- difference. Equal strength groups to the left
def rules : Rules Sign Operation where
  unary _ := 8
  binary
    | .add => 6
    | .subtract => 6
    | .multiply => 7
    | .modulo => 7
  chains _ := true
  apart _ op := by cases op <;> decide

-- What the parts of a term mean
structure Interpretation (V : Type) where
  leaf : Leaf → V
  sign : Sign → V → V
  apply : Operation → V → V → V

def value {V : Type} (i : Interpretation V) : Term → V
  | .atom a => i.leaf a
  | .unary s f => i.sign s (value i f)
  | .binary o f g => i.apply o (value i f) (value i g)

-- Exact integers, the remainder with the sign of the divisor. What a remainder by zero is stays open
def integers (names : Text → Int) (byZero : Int → Int) : Interpretation Int where
  leaf
    | .name id => names id
    | .number n => n
  sign
    | .minus, x => -x
    | .plus, x => x
  apply
    | .add, x, y => x + y
    | .subtract, x, y => x - y
    | .multiply, x, y => x * y
    | .modulo, x, y => if y = 0 then byZero x else x.fmod y

-- The meanings for which sums and products may regroup. Nothing is asked of the remainder
structure Interpretation.Regroups {V : Type} (i : Interpretation V) : Prop where
  add (x y z : V) : i.apply .add x (i.apply .add y z) = i.apply .add (i.apply .add x y) z
  subtract (x y z : V) :
    i.apply .add x (i.apply .subtract y z) = i.apply .subtract (i.apply .add x y) z
  multiply (x y z : V) :
    i.apply .multiply x (i.apply .multiply y z) = i.apply .multiply (i.apply .multiply x y) z

theorem integers_regroups (names : Text → Int) (byZero : Int → Int) :
    (integers names byZero).Regroups where
  add x y z := (Int.add_assoc x y z).symm
  subtract x y z := (Int.add_sub_assoc x y z).symm
  multiply x y z := (Int.mul_assoc x y z).symm

-- A leaf binds more tightly than any operator
def strength : Term → Nat
  | .atom _ => 100
  | .unary s _ => rules.unary s
  | .binary o _ _ => rules.binary o

-- Operators of one strength in a row group to the left: what stands before the row goes to its very
-- first operand
def attach (o : Operation) (f : Term) : Term → Term
  | .binary o' g h =>
    if rules.binary o' = rules.binary o then .binary o' (attach o f g) h
    else .binary o f (.binary o' g h)
  | g => .binary o f g

-- Whether the right operand goes without parentheses though it binds no more tightly
def shares : Operation → Term → Bool
  | .add, .binary .add _ _ => true
  | .multiply, .binary .multiply _ _ => true
  | _, _ => false

def regroup : Term → Term
  | .atom a => .atom a
  | .unary s f => .unary s (regroup f)
  | .binary o f g =>
    if shares o g then attach o (regroup f) (regroup g) else .binary o (regroup f) (regroup g)

-- Whether the first operation of a row of products and remainders takes a remainder
def opensWithRemainder : Term → Bool
  | .binary .modulo _ _ => true
  | .binary .multiply f _ => opensWithRemainder f
  | _ => false

-- A product on the right of a product that opens with a remainder
def takesRemainder : Operation → Term → Bool
  | .multiply, .binary .multiply f _ => opensWithRemainder f
  | _, _ => false

-- No product has a product on its right that opens with a remainder
def Regroupable : Term → Prop
  | .atom _ => True
  | .unary _ f => Regroupable f
  | .binary o f g => Regroupable f ∧ Regroupable g ∧ takesRemainder o g = false

theorem attach_atom (o : Operation) (f : Term) (a : Leaf) :
    attach o f (.atom a) = .binary o f (.atom a) := rfl

theorem attach_unary (o : Operation) (f : Term) (s : Sign) (g : Term) :
    attach o f (.unary s g) = .binary o f (.unary s g) := rfl

theorem strength_attach (o : Operation) (f g : Term) :
    strength (attach o f g) = rules.binary o := by
  cases g with
  | binary o' g h =>
      unfold attach
      split
      · assumption
      · rfl
  | _ => rfl

theorem attach_of_ne (o : Operation) (f g : Term) (h : strength g ≠ rules.binary o) :
    attach o f g = .binary o f g := by
  cases g with
  | binary o' g h' => exact if_neg h
  | _ => rfl

theorem attach_binary (o o' : Operation) (f g h : Term) (ho : rules.binary o' = rules.binary o) :
    attach o f (.binary o' g h) = .binary o' (attach o f g) h :=
  if_pos ho

theorem attach_attach (o o' : Operation) (f g h : Term) (ho : rules.binary o' = rules.binary o) :
    attach o f (attach o' g h) = attach o' (attach o f g) h := by
  induction h with
  | atom a => exact attach_binary o o' f g _ ho
  | unary s h _ => exact attach_binary o o' f g _ ho
  | binary o'' h h' ih _ =>
      by_cases heq : rules.binary o'' = rules.binary o'
      · rw [attach_binary o' o'' g h h' heq, attach_binary o o'' f _ h' (heq.trans ho), ih,
          attach_binary o' o'' _ h h' heq]
      · rw [attach_of_ne o' g (.binary o'' h h') heq, attach_binary o o' f g _ ho,
          attach_of_ne o' _ (.binary o'' h h') heq]

theorem strength_regroup (f : Term) : strength (regroup f) = strength f := by
  cases f with
  | binary o f g =>
      unfold regroup
      split
      · exact strength_attach o _ _
      · rfl
  | _ => rfl

theorem shares_cases (o : Operation) (f : Term) (h : shares o f = true) :
    o = .add ∨ o = .multiply ∧ takesRemainder o f = opensWithRemainder f := by
  unfold shares at h
  split at h
  · exact .inl rfl
  · exact .inr ⟨rfl, rfl⟩
  · cases h

theorem takesRemainder_cases (o : Operation) (f : Term) (h : takesRemainder o f = true) :
    o = .multiply ∧ shares o f = true ∧ opensWithRemainder f = true := by
  unfold takesRemainder at h
  split at h
  · exact ⟨rfl, rfl, h⟩
  · cases h

theorem opensWithRemainder_of_strength (f : Term) (h : strength f ≠ rules.binary .multiply) :
    opensWithRemainder f = false := by
  unfold opensWithRemainder
  split
  · exact absurd rfl h
  · exact absurd rfl h
  · rfl

-- A sum takes any row to its right, a product only one that does not open with a remainder
theorem value_attach {V : Type} (i : Interpretation V) (hi : i.Regroups) (o : Operation) (f g : Term)
    (ho : o = .add ∨ o = .multiply ∧ opensWithRemainder g = false) :
    value i (attach o f g) = i.apply o (value i f) (value i g) := by
  induction g with
  | atom a => rfl
  | unary s g _ => rfl
  | binary o' g h ih _ =>
      by_cases heq : rules.binary o' = rules.binary o
      · rw [attach_binary o o' f g h heq]
        simp only [value]
        rcases ho with rfl | ⟨rfl, hopen⟩
        · rw [ih (.inl rfl)]
          cases o' with
          | add => exact (hi.add _ _ _).symm
          | subtract => exact (hi.subtract _ _ _).symm
          | multiply => cases heq
          | modulo => cases heq
        · cases o' with
          | add => cases heq
          | subtract => cases heq
          | multiply =>
              rw [ih (.inr ⟨rfl, hopen⟩)]
              exact (hi.multiply _ _ _).symm
          | modulo => cases hopen
      · rw [attach_of_ne o f (.binary o' g h) heq]
        rfl

theorem opensWithRemainder_attach (f g : Term) :
    opensWithRemainder (attach .multiply f g) =
      (opensWithRemainder f || opensWithRemainder g) := by
  induction g with
  | atom a => simp [attach, opensWithRemainder]
  | unary s g _ => simp [attach, opensWithRemainder]
  | binary o g h ih _ =>
      cases o with
      | add => simp [attach, opensWithRemainder, rules]
      | subtract => simp [attach, opensWithRemainder, rules]
      | multiply => simpa [attach, opensWithRemainder, rules] using ih
      | modulo => simp [attach, opensWithRemainder, rules]

theorem opensWithRemainder_regroup (f : Term) (hf : Regroupable f) :
    opensWithRemainder (regroup f) = opensWithRemainder f := by
  induction f with
  | atom a => rfl
  | unary s f _ => rfl
  | binary o f g ihf ihg =>
      obtain ⟨hf, hg, htakes⟩ := hf
      by_cases hs : shares o g = true
      · rw [regroup, if_pos hs]
        rcases shares_cases o g hs with rfl | ⟨rfl, hopen⟩
        · rw [opensWithRemainder_of_strength]
          · rfl
          · rw [strength_attach]
            decide
        · rw [opensWithRemainder_attach, ihf hf, ihg hg, ← hopen, htakes, Bool.or_false]
          rfl
      · rw [regroup, if_neg hs]
        cases o with
        | multiply => exact ihf hf
        | _ => rfl

theorem value_regroup {V : Type} (i : Interpretation V) (hi : i.Regroups) (f : Term)
    (hf : Regroupable f) : value i (regroup f) = value i f := by
  induction f with
  | atom a => rfl
  | unary s f ih => exact congrArg (i.sign s) (ih hf)
  | binary o f g ihf ihg =>
      obtain ⟨hf, hg, htakes⟩ := hf
      by_cases hs : shares o g = true
      · have ho : o = .add ∨ o = .multiply ∧ opensWithRemainder (regroup g) = false := by
          rw [opensWithRemainder_regroup g hg]
          rcases shares_cases o g hs with ho | ⟨ho, hopen⟩
          · exact .inl ho
          · exact .inr ⟨ho, hopen.symm.trans htakes⟩
        rw [regroup, if_pos hs, value_attach i hi o _ _ ho, ihf hf, ihg hg]
        rfl
      · rw [regroup, if_neg hs]
        simp only [value, ihf hf, ihg hg]

end Formulary.Arithmetic
