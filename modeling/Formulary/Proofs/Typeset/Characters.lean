import Formulary.Proofs.Binding.Characters
import Formulary.Proofs.Notation.Enclosure
import Formulary.Proofs.Typeset.Denotation

namespace Formulary

open Markup

namespace Notation

-- The notation writes the code point only where a name or an argument holds it, and there it does
structure Carries (c : CodePoint) (table : Notation) : Prop where
  symbol : ∀ name, c ∈ (table.symbolFor name).text ↔ c ∈ name
  function : ∀ head args text, (table.functionFor head).invoke args = .ok text →
    (c ∈ text ↔ c ∈ head ∨ ∃ arg ∈ args, c ∈ arg)

theorem ascii_knownSymbols : ∀ e ∈ knownSymbols, Text.Ascii e.1 ∧ Text.Ascii e.2 := by
  decide +kernel

theorem writesAscii_knownRenderings : ∀ e ∈ knownRenderings, Text.Ascii e.1 ∧ e.2.WritesAscii := by
  decide +kernel

-- The entries of the notation are written in ASCII
theorem carries_default (c : CodePoint) (hc : c.IsForeign) : default.Carries c where
  symbol name := by
    rw [symbolFor]
    cases hget : default.symbols.get? name with
    | none => exact Iff.rfl
    | some s =>
        obtain ⟨e, he, heq⟩ := List.mem_map.mp (OrderedMap.mem_of_get?_ofList _ name s hget)
        cases heq
        obtain ⟨hname, htext⟩ := ascii_knownSymbols e he
        exact iff_of_false (hc.notMem_ofString c _ htext) (hc.notMem_ofString c _ hname)
  function head args text h := by
    have hascii : (default.functionFor head).rendering.WritesAscii := by
      rcases rendering_functionFor_default head with ⟨e, he, -, hrendering⟩ | hrendering
      · exact hrendering ▸ (writesAscii_knownRenderings e he).2
      · exact hrendering ▸ Rendering.writesAscii_upright head
    have hname : (∃ name, (default.functionFor head).rendering = .upright name ∧ c ∈ name) ↔
        c ∈ head := by
      constructor
      · rintro ⟨name, hrendering, hmem⟩
        exact eq_of_rendering_functionFor_upright head name hrendering ▸ hmem
      · intro hmem
        rcases rendering_functionFor_default head with ⟨e, he, rfl, -⟩ | hrendering
        · exact absurd hmem (hc.notMem_ofString c _ (writesAscii_knownRenderings e he).1)
        · exact ⟨head, hrendering, hmem⟩
    have happly := (FunctionBinding.invoke_eq_ok_iff _ _ _).mp h
    rw [(hascii.carries c hc).mem_apply_iff c (isInert_of_isForeign c hc) _ args text happly, hname]

end Notation

namespace Tree

-- What a node brings with it holds the code point
def Holds (c : CodePoint) : Tree → Prop
  | .literal value => ∃ text, value.display = .ok text ∧ c ∈ text
  | .identifier (.text name) => c ∈ name
  | .call (.text head) _ => c ∈ head
  | _ => False

theorem holds_literal_iff (c : CodePoint) (value : Value) (shown : Text) (h : value.display = .ok shown) :
    (Tree.literal value).Holds c ↔ c ∈ shown := by
  simp only [Holds, h, Except.ok.injEq, exists_eq_left']

theorem mem_render_iff (c : CodePoint) (hc : IsInert c) (value : Value) (text : Text)
    (h : value.render = .ok text) : c ∈ text ↔ (Tree.literal value).Holds c := by
  by_cases hmarkup : ∃ m, value = .markup m
  · obtain ⟨m, rfl⟩ := hmarkup
    cases h
    exact (holds_literal_iff c (.markup m) m.text rfl).symm
  · obtain ⟨shown, hshown, htext⟩ :=
      value.render_eq_ok_of_ne_markup (fun m hm => hmarkup ⟨m, hm⟩) text h
    rw [htext, hc.mem_escape_iff, holds_literal_iff c value shown hshown]

mutual

-- A code point that the notation carries gets into the markup through what the nodes hold, and from each
-- node that holds it
theorem mem_denote_iff (c : CodePoint) (hc : IsInert c) (table : Notation) (htable : table.Carries c)
    (t : Tree) (hw : t.WellFormed) (text : Text) (h : t.denote table = .ok text) :
    c ∈ text ↔ ∃ node ∈ t.preorder, node.Holds c := by
  match t, hw with
  | .literal value, _ =>
      rw [denote_literal] at h
      rw [mem_render_iff c hc value text h]
      simp [preorder]
  | .identifier (.text name), _ =>
      cases h
      rw [htable.symbol name]
      simp [preorder, Holds]
  | .call (.text head) args, hw =>
      obtain ⟨parts, hparts, hinvoke⟩ := (bind_eq_ok_iff _ _ _).mp h
      rw [htable.function head parts text hinvoke, preorder, List.exists_mem_cons_iff,
        mem_denoteAll_iff c hc table htable args hw parts hparts]
      rfl

theorem mem_denoteAll_iff (c : CodePoint) (hc : IsInert c) (table : Notation)
    (htable : table.Carries c) (args : List Tree) (hw : AllWellFormed args) (parts : List Text)
    (h : denoteAll table args = .ok parts) :
    (∃ part ∈ parts, c ∈ part) ↔ ∃ node ∈ preorderAll args, node.Holds c := by
  match args, hw with
  | [], _ =>
      cases h
      simp [preorderAll]
  | t :: rest, hw =>
      obtain ⟨part, hpart, h⟩ := (bind_eq_ok_iff _ _ _).mp h
      obtain ⟨parts', hparts, h⟩ := (bind_eq_ok_iff _ _ _).mp h
      cases h
      rw [List.exists_mem_cons_iff, mem_denote_iff c hc table htable t hw.1 part hpart,
        mem_denoteAll_iff c hc table htable rest hw.2 parts' hparts]
      simp only [preorderAll, List.mem_append, or_and_right, exists_or]

end

end Tree

end Formulary
