import Formulary.Proofs.Binding.Enclosure
import Formulary.Proofs.Notation.Sound

namespace Formulary

open Markup

-- The text of the operator that a rendering writes between or before its arguments, if it writes one
def Rendering.operatorText? : Rendering → Option Text
  | .wrap before [] => some before
  | .between separator => some separator
  | _ => none

-- The operator is there to be seen by who reads the markup
def Rendering.Exposes (marks : List Lexeme) (r : Rendering) : Prop :=
  ∃ x ∈ marks, x ∈ Place.outside.surface (lexemes r.frame)

instance (marks : List Lexeme) (r : Rendering) : Decidable (r.Exposes marks) :=
  inferInstanceAs (Decidable (∃ x ∈ marks, x ∈ Place.outside.surface (lexemes r.frame)))

namespace Notation

-- The signs and words of all operators and relations of the default notation
def operatorMarks : List Lexeme :=
  ((knownRenderings.filterMap (·.2.operatorText?)).flatMap lexemes).filter (· ≠ .plain (.char ' '))

example : operatorMarks =
    [.plain (.char '-'), .plain (.char '+'), .word "lnot", .plain (.char '+'), .plain (.char '-'),
     .word "cdot", .word "bmod", .plain (.char '='), .word "neq", .plain (.char '<'), .word "leq",
     .plain (.char '>'), .word "geq", .word "land", .word "lor", .word "in"] := by
  decide +kernel

-- The heads of operators that can be written as names
def wordOperators : List String := ["neg", "pos", "not", "and", "or", "in"]

-- The characters of the other heads of operators, none of which stands in a name
def signCharacters : List Char := "+-*%=!<>".toList

theorem steady_knownRenderings : ∀ e ∈ knownRenderings, e.2.Steady := by
  decide +kernel

theorem steady_upright (name : Text) : (Rendering.upright name).Steady := by
  have hnone : (Rendering.upright []).Steady := by decide
  exact ⟨hnone.fits, hnone.spaced, hnone.settled, hnone.balanced, hnone.joint⟩

theorem shelters_upright (name : Text) :
    (Rendering.upright name).Shelters ∧ ¬ (Rendering.upright name).Exposes operatorMarks := by
  have hnone : (Rendering.upright []).Shelters ∧
      ¬ (Rendering.upright []).Exposes operatorMarks := by
    decide +kernel
  exact hnone

-- A rendering of the notation shelters its arguments, unless it is that of an operator
theorem shelters_or_operator : ∀ e ∈ knownRenderings,
    e.1 ∈ wordOperators ∨ signCharacters.any e.1.toList.contains = true ∨
      e.2.Shelters ∧ ¬ e.2.Exposes operatorMarks := by
  decide +kernel

theorem exposes_of_wordOperator : ∀ name ∈ wordOperators,
    (default.functionFor name).rendering.Exposes operatorMarks := by
  decide +kernel

theorem whole_knownSymbols : ∀ e ∈ knownSymbols, Whole e.2 := by
  decide +kernel

-- What a head stands for is in the table, or else it is set upright
theorem rendering_functionFor_default (head : Text) :
    (∃ e ∈ knownRenderings, Text.ofString e.1 = head ∧ (default.functionFor head).rendering = e.2) ∨
      (default.functionFor head).rendering = .upright head := by
  rw [functionFor]
  cases hget : default.functions.get? head with
  | none => exact .inr rfl
  | some f =>
      obtain ⟨e, he, heq⟩ := List.mem_map.mp (OrderedMap.mem_of_get?_ofList _ head f hget)
      cases heq
      exact .inl ⟨e, he, rfl, rfl⟩

-- Only what the notation does not know is set upright, and under its own name
theorem eq_of_rendering_functionFor_upright (head name : Text)
    (h : (default.functionFor head).rendering = .upright name) : name = head := by
  have hstyle : ∀ e ∈ knownRenderings, e.2.style ≠ "opaque" := by decide
  rcases rendering_functionFor_default head with ⟨e, he, -, hrendering⟩ | hrendering
  · exact absurd (congrArg Rendering.style (hrendering.symm.trans h)) (hstyle e he)
  · exact (Rendering.upright.inj (hrendering.symm.trans h)).symm

theorem steady_functionFor_default (head : Text) : (default.functionFor head).rendering.Steady := by
  rcases rendering_functionFor_default head with ⟨e, he, -, hrendering⟩ | hrendering
  · exact hrendering ▸ steady_knownRenderings e he
  · exact hrendering ▸ steady_upright head

theorem whole_symbolFor_default (name : Text)
    (hreserved : ∀ r ∈ reserved, r.1 ≠ '_' → .char r.1 ∉ name)
    (hbrackets : ∀ c ∈ name, c ∉ Whole.brackets) : Whole (default.symbolFor name).text := by
  rw [symbolFor]
  cases hget : default.symbols.get? name with
  | none => exact .of_unreserved name hreserved hbrackets
  | some s =>
      obtain ⟨e, he, heq⟩ := List.mem_map.mp (OrderedMap.mem_of_get?_ofList _ name s hget)
      cases heq
      exact whole_knownSymbols e he

-- A name without the signs of operators shelters its arguments if it is no operator that is a word
theorem shelters_functionFor_default (name : String) (hword : name ∉ wordOperators)
    (hsigns : ∀ c ∈ signCharacters, c ∉ name.toList) :
    (default.functionFor name).rendering.Shelters ∧
      ¬ (default.functionFor name).rendering.Exposes operatorMarks := by
  rcases rendering_functionFor_default name with ⟨e, he, hname, hrendering⟩ | hrendering
  · obtain rfl := Text.ofString_injective _ _ hname
    rcases shelters_or_operator e he with hoperator | hsign | hshelters
    · exact absurd hoperator hword
    · obtain ⟨c, hc, hmem⟩ := List.any_eq_true.mp hsign
      exact absurd (List.contains_iff_mem.mp hmem) (hsigns c hc)
    · exact hrendering ▸ hshelters
  · exact hrendering ▸ shelters_upright name

end Notation

end Formulary
