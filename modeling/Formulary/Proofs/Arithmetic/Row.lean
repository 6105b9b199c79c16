import Formulary.Proofs.Arithmetic

namespace Formulary.Arithmetic

open Precedence (Token Formula Reads)

-- A row between parentheses, if its strength is less than its place asks for
def bracket (least strength : Nat) (row : Row) : Row :=
  if strength < least then .opening :: (row ++ [.closing]) else row

-- The least strength that goes without parentheses on the right of an operation
def least (o : Operation) (g : Term) : Nat :=
  if shares o g then rules.binary o else rules.binary o + 1

-- A term written down with few parentheses
def row : Term → Row
  | .atom a => [.atom a]
  | .unary s f => .unary s :: bracket (rules.unary s) (strength f) (row f)
  | .binary o f g =>
    bracket (rules.binary o) (strength f) (row f) ++
      .binary o :: bracket (least o g) (strength g) (row g)

theorem reads_bracket (k s : Nat) (r : Row) (f : Term) (h : Reads rules s r f) :
    Reads rules k (bracket k s r) f := by
  unfold bracket
  split
  · exact .group k (h.mono (Nat.zero_le s))
  · exact h.mono (by omega)

theorem reads_binary (o : Operation) (r r' : Row) (f g : Term) (h : Reads rules (rules.binary o) r f)
    (h' : Reads rules (rules.binary o + 1) r' g) :
    Reads rules (rules.binary o) (r ++ .binary o :: r') (.binary o f g) :=
  .binary _ o (Nat.le_refl _) h h'

-- What stands before the row of a term of that strength becomes part of its first operand
def Attaches (g : Term) : Prop :=
  ∀ (o : Operation) (r : Row) (f : Term), rules.binary o ≤ strength g →
    Reads rules (rules.binary o) r f →
    Reads rules (rules.binary o) (r ++ .binary o :: row g) (attach o f (regroup g))

-- A term that binds more tightly stays one operand
theorem reads_attach_of_reads (o : Operation) (r r' : Row) (f g : Term)
    (hg : strength g ≠ rules.binary o) (h : Reads rules (rules.binary o) r f)
    (h' : Reads rules (rules.binary o + 1) r' g) :
    Reads rules (rules.binary o) (r ++ .binary o :: r') (attach o f g) := by
  rw [attach_of_ne o f g hg]
  exact reads_binary o r r' f g h h'

theorem reads_attach_bracket (o : Operation) (r : Row) (f g : Term)
    (h : Reads rules (rules.binary o) r f) (hrow : Reads rules (strength g) (row g) (regroup g))
    (hg : Attaches g) :
    Reads rules (rules.binary o) (r ++ .binary o :: bracket (rules.binary o) (strength g) (row g))
      (attach o f (regroup g)) := by
  by_cases hs : strength g < rules.binary o
  · have hne : strength (regroup g) ≠ rules.binary o := by rw [strength_regroup]; omega
    rw [bracket, if_pos hs]
    exact reads_attach_of_reads o r _ f _ hne h (.group _ (hrow.mono (Nat.zero_le _)))
  · rw [bracket, if_neg hs]
    exact hg o r f (by omega) h

-- The right operand of an operation, which is one operand or goes on with the row
theorem reads_right (o : Operation) (r : Row) (f g : Term) (h : Reads rules (rules.binary o) r f)
    (hrow : Reads rules (strength g) (row g) (regroup g)) (hg : Attaches g) :
    Reads rules (rules.binary o) (r ++ .binary o :: bracket (least o g) (strength g) (row g))
      (if shares o g then attach o f (regroup g) else .binary o f (regroup g)) := by
  by_cases hs : shares o g = true
  · rw [if_pos hs, least, if_pos hs]
    exact reads_attach_bracket o r f g h hrow hg
  · rw [if_neg hs, least, if_neg hs]
    exact reads_binary o r _ f _ h (reads_bracket _ _ _ _ hrow)

theorem attach_if (o o' : Operation) (f g h : Term) (shared : Bool)
    (ho : rules.binary o' = rules.binary o) :
    attach o f (if shared then attach o' g h else .binary o' g h) =
      if shared then attach o' (attach o f g) h else .binary o' (attach o f g) h := by
  cases shared with
  | false => exact attach_binary o o' f g h ho
  | true => exact attach_attach o o' f g h ho

-- The row of a term reads as the regrouped term, and goes on with a row before it. The second part
-- is what the induction needs of an operand that shares its row
theorem reads_row_and_attaches (g : Term) :
    Reads rules (strength g) (row g) (regroup g) ∧ Attaches g := by
  induction g with
  | atom a =>
      refine ⟨.atom _ a, fun o r f _ hr => ?_⟩
      exact reads_binary o r _ f _ hr (.atom _ a)
  | unary s g ih =>
      have hrow : Reads rules (rules.unary s) (row (.unary s g)) (regroup (.unary s g)) :=
        .unary _ s (Nat.le_refl _) (reads_bracket _ _ _ _ ih.1)
      refine ⟨hrow, fun o r f ho hr => ?_⟩
      exact reads_binary o r _ f _ hr (hrow.mono (Nat.lt_of_le_of_ne ho (rules.apart s o).symm))
  | binary o g h ihg ihh =>
      have hrow : Reads rules (rules.binary o) (row (.binary o g h)) (regroup (.binary o g h)) :=
        reads_right o _ _ h (reads_bracket _ _ _ _ ihg.1) ihh.1 ihh.2
      refine ⟨hrow, fun o' r f ho' hr => ?_⟩
      by_cases heq : rules.binary o = rules.binary o'
      · have hbefore : Reads rules (rules.binary o)
            (r ++ .binary o' :: bracket (rules.binary o) (strength g) (row g))
            (attach o' f (regroup g)) := by
          rw [heq]
          exact reads_attach_bracket o' r f g hr ihg.1 ihg.2
        have hright := reads_right o _ _ h hbefore ihh.1 ihh.2
        rw [List.append_assoc, List.cons_append, heq] at hright
        rw [regroup, attach_if o' o f _ _ _ heq]
        exact heq ▸ hright
      · refine reads_attach_of_reads o' r _ f _ ?_ hr (hrow.mono (Nat.lt_of_le_of_ne ho' (Ne.symm heq)))
        rw [strength_regroup]
        exact heq

theorem reads_row (f : Term) : Reads rules 0 (row f) (regroup f) :=
  (reads_row_and_attaches f).1.mono (Nat.zero_le _)

end Formulary.Arithmetic
