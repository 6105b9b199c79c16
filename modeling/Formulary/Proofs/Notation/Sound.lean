import Formulary.Notation.Default
import Formulary.Proofs.Binding.Sound
import Formulary.Proofs.Scope.Resolution

namespace Formulary.Notation

open Markup

-- The texts that markup in a notation is put together from: those of its entries, the codes of
-- reserved characters, and what is set around a head that it does not know
def Writes (table : Notation) (text : Text) : Prop :=
  (∃ name s, table.symbols.get? name = some s ∧ text = s.text) ∨
  (∃ head f, table.functions.get? head = some f ∧ text ∈ f.rendering.written) ∨
  text ∈ (Rendering.upright []).written

def HasWord (table : Notation) (letters : Text) : Prop :=
  ∃ text, table.Writes text ∧ .word letters ∈ lexemes text

-- Every entry is in order by itself
structure Fits (table : Notation) : Prop where
  symbol : ∀ name s, table.symbols.get? name = some s → Sound (fun _ => True) s.text
  function : ∀ head f, table.functions.get? head = some f → f.rendering.Fits fun _ => True

theorem fits_upright (table : Notation) (head : Text) :
    (Rendering.upright head).Fits table.HasWord := by
  have hany : (Rendering.upright head).Fits fun _ => True := ⟨by decide, by decide⟩
  refine Rendering.fits_of_written _ hany fun u hu letters hw => ?_
  exact ⟨u, .inr (.inr hu), hw⟩

theorem Fits.sound_symbolFor (table : Notation) (h : table.Fits) (name : Text)
    (hname : table.hasSymbol name = false → ∀ r ∈ reserved, r.1 ≠ '_' → .char r.1 ∉ name) :
    Sound table.HasWord (table.symbolFor name).text := by
  rw [hasSymbol, OrderedMap.contains] at hname
  rw [symbolFor]
  cases hget : table.symbols.get? name with
  | none => exact sound_of_unreserved name (hname (by simp [hget]))
  | some s =>
      refine (h.symbol name s hget).of_words _ fun letters hw => ?_
      exact ⟨s.text, .inl ⟨name, s, hget, rfl⟩, hw⟩

theorem Fits.fits_functionFor (table : Notation) (h : table.Fits) (head : Text) :
    (table.functionFor head).rendering.Fits table.HasWord := by
  rw [functionFor]
  cases hget : table.functions.get? head with
  | none => exact fits_upright table head
  | some f =>
      refine Rendering.fits_of_written _ (h.function head f hget) fun u hu letters hw => ?_
      exact ⟨u, .inr (.inl ⟨head, f, hget, hu⟩), hw⟩

theorem sound_knownSymbols : ∀ e ∈ knownSymbols, Sound (fun _ => True) e.2 := by
  decide +kernel

theorem fits_knownRenderings : ∀ e ∈ knownRenderings, e.2.Fits fun _ => True := by
  decide +kernel

theorem fits_default : default.Fits where
  symbol name s h := by
    obtain ⟨e, he, heq⟩ := List.mem_map.mp (OrderedMap.mem_of_get?_ofList _ name s h)
    cases heq
    exact sound_knownSymbols e he
  function head f h := by
    obtain ⟨e, he, heq⟩ := List.mem_map.mp (OrderedMap.mem_of_get?_ofList _ head f h)
    cases heq
    exact fits_knownRenderings e he

end Formulary.Notation
