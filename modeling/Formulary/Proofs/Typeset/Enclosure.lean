import Formulary.Proofs.Notation.Enclosure
import Formulary.Proofs.Typeset.Denotation
import Formulary.Proofs.Value.Numeral

namespace Formulary.Tree

open Markup Notation

-- Nothing opens or closes an enclosure here but the notation: values are numbers, and names that the
-- notation does not know have no bracket
def Tidy : Tree → Prop
  | .literal value => value.IsPlain
  | .identifier (.text name) =>
    (∀ r ∈ reserved, r.1 ≠ '_' → .char r.1 ∉ name) ∧ ∀ c ∈ name, c ∉ Whole.brackets
  | .call (.text head) _ =>
    ∀ name, (default.functionFor head).rendering = .upright name → ∀ c ∈ name, c ∉ Whole.brackets
  | _ => True

mutual

theorem whole_denote (t : Tree) (hw : t.WellFormed) (htidy : ∀ node ∈ t.preorder, node.Tidy)
    (text : Text) (h : t.denote .default = .ok text) : Whole text := by
  match t, hw with
  | .literal value, _ =>
      rw [denote_literal] at h
      exact value.whole_render (htidy (.literal value) (self_mem_preorder _)) text h
  | .identifier (.text name), _ =>
      cases h
      obtain ⟨hreserved, hbrackets⟩ := htidy (.identifier (.text name)) (self_mem_preorder _)
      exact whole_symbolFor_default name hreserved hbrackets
  | .call (.text head) args, hw =>
      obtain ⟨parts, hparts, hinvoke⟩ := (bind_eq_ok_iff _ _ _).mp h
      have hwhole := whole_denoteAll args hw
        (fun node hn => htidy node (List.mem_cons_of_mem _ hn)) parts hparts
      exact Rendering.whole_apply _ (steady_functionFor_default head)
        (htidy (.call (.text head) args) (self_mem_preorder _)) parts hwhole text
        ((FunctionBinding.invoke_eq_ok_iff _ _ _).mp hinvoke)

theorem whole_denoteAll (args : List Tree) (hw : AllWellFormed args)
    (htidy : ∀ node ∈ preorderAll args, node.Tidy) (parts : List Text)
    (h : denoteAll .default args = .ok parts) : ∀ part ∈ parts, Whole part := by
  match args, hw with
  | [], _ =>
      cases h
      simp
  | t :: rest, hw =>
      obtain ⟨part, hpart, h⟩ := (bind_eq_ok_iff _ _ _).mp h
      obtain ⟨parts', hparts, h⟩ := (bind_eq_ok_iff _ _ _).mp h
      cases h
      rw [preorderAll, List.forall_mem_append] at htidy
      rw [List.forall_mem_cons]
      exact ⟨whole_denote t hw.1 htidy.1 part hpart,
        whole_denoteAll rest hw.2 htidy.2 parts' hparts⟩

end

-- A call shows no operator on its surface, unless its head is an operator that is a word
theorem surface_denote_call (name : String) (args : List Tree) (hw : AllWellFormed args)
    (htidy : ∀ node ∈ (Tree.call (.text name) args).preorder, node.Tidy)
    (hsigns : ∀ c ∈ signCharacters, c ∉ name.toList) (text : Text)
    (h : (Tree.call (.text name) args).denote .default = .ok text) :
    (∀ x ∈ operatorMarks, x ∉ Place.outside.surface (lexemes text)) ↔ name ∉ wordOperators := by
  obtain ⟨parts, hparts, hinvoke⟩ := (bind_eq_ok_iff _ _ _).mp h
  have happly := (FunctionBinding.invoke_eq_ok_iff _ _ _).mp hinvoke
  have hwhole := whole_denoteAll args hw
    (fun node hn => htidy node (List.mem_cons_of_mem _ hn)) parts hparts
  have hsteady := steady_functionFor_default name
  have hupright := htidy (.call (.text name) args) (self_mem_preorder _)
  constructor
  · intro hnone hword
    obtain ⟨x, hx, hsurface⟩ := exposes_of_wordOperator name hword
    have hsubset := Rendering.surface_frame_subset _ hsteady hupright parts hwhole text happly
    exact hnone x hx (hsubset hsurface)
  · intro hword x hx hsurface
    obtain ⟨hshelters, hexposes⟩ := shelters_functionFor_default name hword hsigns
    rw [Rendering.surface_of_shelters _ hsteady hupright parts hwhole text happly hshelters] at hsurface
    exact hexposes ⟨x, hx, hsurface⟩

end Formulary.Tree
