import Formulary.Proofs.Notation.Sound
import Formulary.Proofs.Typeset.Denotation

namespace Formulary.Tree

open Markup

-- No markup comes from outside of the notation: literals hold data, and a name that stands for itself
-- is free of reserved characters, underscores apart
def Tame (table : Notation) : Tree → Prop
  | .literal value => ∀ m, value ≠ .markup m
  | .identifier (.text name) =>
    table.hasSymbol name = false → ∀ r ∈ reserved, r.1 ≠ '_' → .char r.1 ∉ name
  | _ => True

mutual

-- The induction is on the tree: the notation sets sound arguments soundly, and what any node brings
-- in besides is escaped, tame or the notation's own
theorem sound_denote (table : Notation) (hfits : table.Fits) (t : Tree) (hw : t.WellFormed)
    (htame : ∀ node ∈ t.preorder, node.Tame table) (text : Text)
    (h : t.denote table = .ok text) : Sound table.HasWord text := by
  match t, hw with
  | .literal value, _ =>
      have hvalue : ∀ m, value ≠ .markup m := htame (.literal value) (self_mem_preorder _)
      rw [denote_literal] at h
      obtain ⟨shown, -, htext⟩ := value.render_eq_ok_of_ne_markup hvalue text h
      rw [htext]
      exact (sound_escape (table.fits_upright []).2 shown).1
  | .identifier (.text name), _ =>
      cases h
      exact hfits.sound_symbolFor table name (htame (.identifier (.text name)) (self_mem_preorder _))
  | .call (.text head) args, hw =>
      obtain ⟨parts, hparts, hinvoke⟩ := (bind_eq_ok_iff _ _ _).mp h
      have hsound : ∀ part ∈ parts, Sound table.HasWord part :=
        sound_denoteAll table hfits args hw
          (fun node hn => htame node (List.mem_cons_of_mem _ hn)) parts hparts
      have happly := (FunctionBinding.invoke_eq_ok_iff _ _ _).mp hinvoke
      exact Rendering.sound_apply _ parts text (hfits.fits_functionFor table head) hsound happly

theorem sound_denoteAll (table : Notation) (hfits : table.Fits) (args : List Tree)
    (hw : AllWellFormed args) (htame : ∀ node ∈ preorderAll args, node.Tame table)
    (parts : List Text) (h : denoteAll table args = .ok parts) :
    ∀ part ∈ parts, Sound table.HasWord part := by
  match args, hw with
  | [], _ =>
      cases h
      simp
  | t :: rest, hw =>
      obtain ⟨part, hpart, h⟩ := (bind_eq_ok_iff _ _ _).mp h
      obtain ⟨parts', hparts, h⟩ := (bind_eq_ok_iff _ _ _).mp h
      cases h
      rw [preorderAll, List.forall_mem_append] at htame
      rw [List.forall_mem_cons]
      exact ⟨sound_denote table hfits t hw.1 htame.1 part hpart,
        sound_denoteAll table hfits rest hw.2 htame.2 parts' hparts⟩

end

theorem sound_typeset (table : Notation) (hfits : table.Fits) (t : Tree) (hw : t.WellFormed)
    (htame : ∀ node ∈ t.preorder, node.Tame table) (m : Markup)
    (h : t.typeset table = .ok m) : Sound table.HasWord m.text := by
  rw [typeset_eq_denote table t hw] at h
  cases hdenote : t.denote table with
  | error e =>
      rw [hdenote] at h
      cases h
  | ok text =>
      rw [hdenote] at h
      cases h
      exact sound_denote table hfits t hw htame text hdenote

-- Markup in the default notation can be read as markup whatever the data is: its brackets are nested,
-- no character is stray, and each backslash takes a word of the notation or a single character
theorem typeset_default_readable (t : Tree) (hw : t.WellFormed)
    (hvalues : ∀ m, .literal (.markup m) ∉ t.preorder)
    (hnames : ∀ name, .identifier (.text name) ∈ t.preorder →
      Notation.default.hasSymbol name = false → ∀ r ∈ reserved, r.1 ≠ '_' → .char r.1 ∉ name)
    (m : Markup) (h : t.typeset Notation.default = .ok m) :
    nest [] (lexemes m.text) = some [] ∧
    (∀ c ∈ ['$', '&', '#', '%', '~'], .plain (.char c) ∉ lexemes m.text) ∧
    ∀ letters, .word letters ∈ lexemes m.text →
      letters ≠ [] ∧ Notation.default.HasWord letters := by
  have htame : ∀ node ∈ t.preorder, node.Tame Notation.default := by
    intro node hn
    cases node with
    | literal value =>
        rintro m rfl
        exact hvalues m hn
    | identifier name =>
        cases name with
        | text name => exact hnames name hn
        | _ => trivial
    | call head args => trivial
    | stray value => trivial
  have hsound := sound_typeset Notation.default Notation.fits_default t hw htame m h
  refine ⟨hsound.nested, fun c hc hm => ?_, fun letters hm => hsound.allowed _ hm⟩
  exact hsound.allowed _ hm (List.mem_map_of_mem hc)

-- A head and a literal with brackets of their own, next to a known symbol and a name with underscore
theorem typeset_default_readable_of_brackets :
    let t : Tree := .call (.text "\x7d\\left") [.call (.text "**")
      [.identifier (.text "pi"), .literal (.text "\\right~\x7b")], .identifier (.text "x_1")]
    let m : Markup :=
      ⟨"\\mathrm\x7b\\\x7d\\backslash left\x7d(\x7b\\pi\x7d^\x7b\\backslash right\\sim \\\x7b\x7d, x_1)"⟩
    t.WellFormed ∧ t.typeset Notation.default = .ok m ∧ nest [] (lexemes m.text) = some [] := by
  intro t m
  have hw : t.WellFormed := by simp [t, WellFormed, AllWellFormed]
  have hoption : (t.denote Notation.default).toOption = some m.text := by decide +kernel
  have hdenote : t.denote Notation.default = .ok m.text := by
    cases hd : t.denote Notation.default with
    | error e => simp [hd, Except.toOption] at hoption
    | ok text => simpa [hd, Except.toOption] using hoption
  have htypeset : t.typeset Notation.default = .ok m := by
    rw [typeset_eq_denote _ t hw, hdenote]
    rfl
  refine ⟨hw, htypeset, (typeset_default_readable t hw ?_ ?_ m htypeset).1⟩
  · simp [t, preorder, preorderAll]
  · have hfree : ∀ name ∈ [Text.ofString "pi", Text.ofString "x_1"],
        ∀ r ∈ reserved, r.1 ≠ '_' → .char r.1 ∉ name := by decide
    intro name hn _
    refine hfree name ?_
    simpa [t, preorder, preorderAll] using hn

end Formulary.Tree
