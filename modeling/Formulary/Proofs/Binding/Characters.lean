import Formulary.Proofs.Binding.Enclosure
import Formulary.Proofs.Markup.Substitution
import Formulary.Proofs.Text.Ascii

namespace Formulary

namespace Text

theorem mem_join_iff (c : CodePoint) (separator : Text) (h : c ∉ separator) (parts : List Text) :
    c ∈ join separator parts ↔ ∃ part ∈ parts, c ∈ part := by
  induction parts with
  | nil => simp [join]
  | cons part rest ih =>
      cases rest with
      | nil => simp [join]
      | cons next rest =>
          rw [join_cons_cons, List.mem_append, List.mem_append, ih, or_iff_right h]
          exact (List.exists_mem_cons_iff _ part (next :: rest)).symm

end Text

namespace Markup

-- A code point that is neither escaped nor brought in by what is
def IsInert (c : CodePoint) : Prop := ∀ r ∈ reserved, c ≠ .char r.1 ∧ c ∉ r.2

theorem isInert_of_isForeign (c : CodePoint) (hc : c.IsForeign) : IsInert c := by
  intro r hr
  have hreserved : ∀ r ∈ reserved,
      Text.isAscii r.1 = true ∧ ∀ d ∈ r.2, d.is Text.isAscii = true := by
    decide
  obtain ⟨hname, hcode⟩ := hreserved r hr
  exact ⟨hc.ne_of_is c _ hname, fun hmem => hc.ne_of_is c c (hcode c hmem) rfl⟩

theorem IsInert.mem_codeIn_iff (c : CodePoint) (h : IsInert c) (d : CodePoint) :
    c ∈ codeIn reserved d ↔ c = d := by
  unfold codeIn
  split
  · rename_i r hfind
    obtain ⟨hne, hcode⟩ := h r (List.mem_of_find?_eq_some hfind)
    obtain rfl : d = .char r.1 := by simpa using List.find?_some hfind
    exact iff_of_false hcode hne
  · exact List.mem_singleton

theorem IsInert.mem_escape_iff (c : CodePoint) (h : IsInert c) (s : Text) :
    c ∈ (escape s).text ↔ c ∈ s := by
  rw [escape_eq_flatMap_codeIn, List.mem_flatMap]
  simp only [h.mem_codeIn_iff, exists_eq_right']

end Markup

namespace Piece

def isAscii : Piece → Bool
  | .literal c => c.is Text.isAscii
  | .slot _ => true

theorem mem_flatMap_fill_iff (c : CodePoint) (args : List Text) (pieces : List Piece) :
    c ∈ pieces.flatMap (fill args) ↔
      .literal c ∈ pieces ∨ ∃ number ∈ slots pieces, c ∈ args.getD (number - 1) [] := by
  induction pieces with
  | nil => simp [slots]
  | cons piece rest ih =>
      rw [List.flatMap_cons, List.mem_append, ih]
      cases piece with
      | literal d => simp [fill, slots, slot?, or_assoc]
      | slot number =>
          have hslots : slots (.slot number :: rest) = number :: slots rest := rfl
          simp only [fill, hslots, List.mem_cons, reduceCtorEq, false_or, exists_eq_or_imp]
          exact or_left_comm

-- Where no argument is left out, a code point comes from the pieces or from any of the arguments
theorem mem_flatMap_fill_iff_of_slots (c : CodePoint) (args : List Text) (pieces : List Piece)
    (h : ∀ number < args.length, number + 1 ∈ slots pieces) :
    c ∈ pieces.flatMap (fill args) ↔ .literal c ∈ pieces ∨ ∃ arg ∈ args, c ∈ arg := by
  rw [mem_flatMap_fill_iff]
  refine or_congr_right ⟨?_, ?_⟩
  · rintro ⟨number, -, hc⟩
    rw [List.getD_eq_getElem?_getD] at hc
    cases hget : args[number - 1]? with
    | none => simp [hget] at hc
    | some arg => exact ⟨arg, List.mem_of_getElem? hget, by simpa [hget] using hc⟩
  · rintro ⟨arg, harg, hc⟩
    obtain ⟨number, hnumber, rfl⟩ := List.mem_iff_getElem.mp harg
    exact ⟨number + 1, h number hnumber, by simpa [hnumber] using hc⟩

end Piece

namespace Rendering

-- How many slots there are to fill
def places : Rendering → Nat
  | .wrap _ _ => 1
  | .between _ => 2
  | .template t => t.arity
  | .variadic _ _ _ => 1
  | .upright _ => 2

theorem length_fillings_of_apply (r : Rendering) (args : List Text) (text : Text)
    (h : r.apply args = .ok text) : (r.fillings args).length = r.places := by
  cases r with
  | wrap before after =>
      obtain ⟨arg, rfl, -⟩ := (apply_wrap_eq_ok_iff before after args text).mp h
      rfl
  | between separator =>
      obtain ⟨left, right, rfl, -⟩ := (apply_between_eq_ok_iff separator args text).mp h
      rfl
  | template t => exact ((apply_template_eq_ok_iff t args text).mp h).1
  | variadic before after separator => rfl
  | upright name => rfl

-- A rendering that never writes the code point itself and leaves out no argument
structure Carries (c : CodePoint) (r : Rendering) : Prop where
  pieces : .literal c ∉ r.pieces
  joint : c ∉ r.joint
  slots : ∀ number < r.places, number + 1 ∈ Piece.slots r.pieces

-- A rendering that is written in ASCII and leaves out no argument
def WritesAscii (r : Rendering) : Prop :=
  (∀ piece ∈ r.pieces, piece.isAscii = true) ∧ (∀ c ∈ r.joint, c.is Text.isAscii = true) ∧
    ∀ number < r.places, number + 1 ∈ Piece.slots r.pieces

instance (r : Rendering) : Decidable r.WritesAscii :=
  inferInstanceAs (Decidable ((∀ piece ∈ r.pieces, piece.isAscii = true) ∧
    (∀ c ∈ r.joint, c.is Text.isAscii = true) ∧ ∀ number < r.places, number + 1 ∈ Piece.slots r.pieces))

theorem WritesAscii.carries (c : CodePoint) (hc : c.IsForeign) (r : Rendering) (h : r.WritesAscii) :
    r.Carries c where
  pieces hmem := hc.ne_of_is c c (h.1 _ hmem) rfl
  joint hmem := hc.ne_of_is c c (h.2.1 c hmem) rfl
  slots := h.2.2

theorem exists_mem_fillings_iff (c : CodePoint) (hc : Markup.IsInert c) (r : Rendering)
    (hjoint : c ∉ r.joint) (args : List Text) :
    (∃ filling ∈ r.fillings args, c ∈ filling) ↔
      (∃ name, r = .upright name ∧ c ∈ name) ∨ ∃ arg ∈ args, c ∈ arg := by
  cases r with
  | variadic before after separator => simp [fillings, Text.mem_join_iff c _ hjoint]
  | upright name => simp [fillings, Text.mem_join_iff c _ hjoint, hc.mem_escape_iff]
  | _ => simp [fillings]

-- Such a code point comes from an argument, or from the name that is set upright
theorem Carries.mem_apply_iff (c : CodePoint) (hc : Markup.IsInert c) (r : Rendering)
    (hr : r.Carries c) (args : List Text) (text : Text) (h : r.apply args = .ok text) :
    c ∈ text ↔ (∃ name, r = .upright name ∧ c ∈ name) ∨ ∃ arg ∈ args, c ∈ arg := by
  have hslots : ∀ number < (r.fillings args).length, number + 1 ∈ Piece.slots r.pieces := by
    rw [r.length_fillings_of_apply args text h]
    exact hr.slots
  rw [r.eq_fill_of_apply args text h, Piece.mem_flatMap_fill_iff_of_slots c _ _ hslots,
    or_iff_right hr.pieces, exists_mem_fillings_iff c hc r hr.joint]

-- A name has no part in what is written around the arguments
theorem writesAscii_upright (name : Text) : (Rendering.upright name).WritesAscii := by
  have hnone : (Rendering.upright []).WritesAscii := by decide
  exact hnone

end Rendering

end Formulary
