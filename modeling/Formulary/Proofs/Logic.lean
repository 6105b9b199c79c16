import Formulary.Proofs.Meaning
import Formulary.Proofs.Precedence

namespace Formulary.Logic

open Precedence (Token Formula Rules Reads)
open Source (BooleanOp)

inductive Negation
  | not
  deriving DecidableEq, Repr

-- A relation goes by its head
inductive Connective
  | junction (op : BooleanOp)
  | relation (head : Text)
  deriving DecidableEq, Repr

abbrev Row := List (Token Text Negation Connective)
abbrev Sentence := Formula Text Negation Connective

-- A disjunction binds less tightly than a conjunction, then come negations, then relations.
-- Conjunctions and disjunctions group to the left, a relation stands between two operands alone
def rules : Rules Negation Connective where
  unary _ := 3
  binary
    | .junction .or => 1
    | .junction .and => 2
    | .relation _ => 4
  chains
    | .junction _ => true
    | .relation _ => false
  apart _ op := by
    match op with
    | .junction .or => decide
    | .junction .and => decide
    | .relation _ => simp

variable {V : Type}

def value (m : Meaning V) : Sentence → V
  | .atom name => m.name name
  | .unary .not f => m.apply "not" [value m f]
  | .binary (.junction op) f g => m.select op (value m f) (value m g)
  | .binary (.relation head) f g => m.apply head [value m f, value m g]

theorem select_select (m : Meaning V) (op : BooleanOp) (u v w : V) :
    m.select op (m.select op u v) w = m.select op u (m.select op v w) := by
  unfold Meaning.select
  by_cases hu : m.settles op u = true
  · simp [hu]
  · simp [hu]

theorem reads_binary (op : BooleanOp) (row row' : Row) (f g : Sentence)
    (h : Reads rules (rules.binary (.junction op)) row f)
    (h' : Reads rules (rules.binary (.junction op) + 1) row' g) :
    Reads rules (rules.binary (.junction op)) (row ++ .binary (.junction op) :: row')
      (.binary (.junction op) f g) :=
  .binary _ (Connective.junction op) (Nat.le_refl _) h h'

theorem binary_lt_unary (op : BooleanOp) (op' : Negation) :
    rules.binary (.junction op) < rules.unary op' := by
  cases op <;> cases op' <;> decide

-- An operator that binds as tightly as a conjunction or a disjunction is the same one, or it binds
-- more tightly
theorem junction_cases (op : BooleanOp) (op' : Connective)
    (h : rules.binary (.junction op) ≤ rules.binary op') :
    op' = .junction op ∨ rules.binary (.junction op) < rules.binary op' := by
  match op, op' with
  | .or, .junction .or => exact .inl rfl
  | .or, .junction .and => exact .inr (by decide)
  | .and, .junction .and => exact .inl rfl
  | .and, .junction .or => exact absurd h (by decide)
  | .or, .relation _ => exact .inr (by simp [rules])
  | .and, .relation _ => exact .inr (by simp [rules])

-- A right operand with the same connective goes without parentheses: the row then groups to the left,
-- and that selects the same value. The induction is on the reading of the right operand
theorem reads_junction (op : BooleanOp) (row row' : Row) (f g : Sentence)
    (h : Reads rules (rules.binary (.junction op)) row f)
    (h' : Reads rules (rules.binary (.junction op)) row' g) :
    ∃ s, Reads rules (rules.binary (.junction op)) (row ++ .binary (.junction op) :: row') s ∧
      ∀ (V : Type) (m : Meaning V), value m s = m.select op (value m f) (value m g) := by
  have htight : ∀ row' g, Reads rules (rules.binary (.junction op) + 1) row' g →
      ∃ s, Reads rules (rules.binary (.junction op)) (row ++ .binary (.junction op) :: row') s ∧
        ∀ (V : Type) (m : Meaning V), value m s = m.select op (value m f) (value m g) :=
    fun row' g h' => ⟨_, reads_binary op row row' f g h h', fun _ _ => rfl⟩
  generalize hk : rules.binary (.junction op) = k at h'
  induction h' with
  | atom k a =>
      subst hk
      exact htight _ _ (.atom _ a)
  | group k h' _ =>
      subst hk
      exact htight _ _ (.group _ h')
  | unary k op' hk' h' _ =>
      subst hk
      exact htight _ _ (.unary _ op' (binary_lt_unary op op') h')
  | @binary k op' left right g g' hk' hleft hright ih _ =>
      subst hk
      rcases junction_cases op op' hk' with rfl | hlt
      · obtain ⟨s, hs, hvalue⟩ := ih rfl
        refine ⟨.binary (.junction op) s g', ?_, fun V m => ?_⟩
        · have hrow := reads_binary op _ right s g' hs hright
          rwa [List.append_assoc] at hrow
        · change m.select op (value m s) (value m g') = _
          rw [hvalue V m, select_select]
          rfl
      · exact htight _ _ (.binary _ op' hlt hleft hright)

end Formulary.Logic
