import Formulary.Proofs.Notation.Reachable

namespace Formulary.Notation

-- The number of arguments that the notation asks of a head, if it knows the head and asks for a number
def arity? (table : Notation) (head : Text) : Option Nat :=
  (table.functions.get? head).bind (·.rendering.arity)

theorem arity_functionFor (table : Notation) (head : Text) :
    (table.functionFor head).rendering.arity = table.arity? head := by
  rw [functionFor, arity?]
  cases table.functions.get? head <;> rfl

theorem hasDecimalText_arity_knownRenderings :
    ∀ e ∈ knownRenderings, e.2.arity.all hasDecimalText := by
  decide +kernel

theorem miscounted_default (head : Text) (n actual : Nat) (h : default.arity? head = some n) :
    Failure.miscounted (default.functionFor head).name n actual = .arity head n actual := by
  obtain ⟨f, hget, harity⟩ := Option.bind_eq_some_iff.mp h
  obtain ⟨e, he, heq⟩ := List.mem_map.mp (OrderedMap.mem_of_get?_ofList _ head f hget)
  cases heq
  have hall := hasDecimalText_arity_knownRenderings e he
  rw [harity, Option.all_some] at hall
  rw [keyed_default.name_functionFor, Failure.miscounted, if_pos hall]

end Formulary.Notation
