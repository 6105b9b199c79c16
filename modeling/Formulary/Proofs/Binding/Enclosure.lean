import Formulary.Proofs.Binding.Sound
import Formulary.Proofs.Markup.Enclosure

namespace Formulary

open Markup

namespace Piece

-- Whether the reader stands in a place of the given kind wherever there is a slot
def slotsAt (kind : Place → Bool) (p : Place) (taken : Option Text) : List Piece → Bool
  | [] => true
  | .literal c :: rest =>
    match p.walk (readNext taken c).1 with
    | none => false
    | some q => slotsAt kind q (readNext taken c).2 rest
  | .slot _ :: rest => kind p && slotsAt kind p none rest

-- No sign of a fence is due at a slot
def settled (p : Place) : Bool := !p.due

-- There is an enclosure around a slot as well
def sheltered (p : Place) : Bool := !p.due && !p.inside.isEmpty

theorem slotsAt_literal_iff (kind : Place → Bool) (p : Place) (taken : Option Text) (c : CodePoint)
    (rest : List Piece) :
    slotsAt kind p taken (.literal c :: rest) ↔
      ∃ q, p.walk (readNext taken c).1 = some q ∧ slotsAt kind q (readNext taken c).2 rest := by
  rw [slotsAt]
  cases p.walk (readNext taken c).1 <;> simp

theorem whole_fill_slot (args : List Text) (number : Nat) (h : ∀ a ∈ args, Whole a) :
    Whole ((Piece.slot number).fill args) := by
  change Whole (args.getD (number - 1) "")
  rw [List.getD_eq_getElem?_getD]
  cases hget : args[number - 1]? with
  | none => exact .nil
  | some a => exact h a (List.mem_of_getElem? hget)

section Filled

variable (args : List Text) (h : ∀ a ∈ args, Whole a)

include h

theorem readFrom_slot_of_whole (number : Nat) (rest : List Piece)
    (hrest : rest.head?.all setsApart) :
    readFrom none ((Piece.slot number :: rest).flatMap (fill args)) =
      lexemes ((Piece.slot number).fill args) ++ readFrom none (rest.flatMap (fill args)) :=
  readFrom_slot args number rest (fun a ha => (h a ha).sound) hrest

-- Whole arguments take the reader where no arguments would
theorem walk_fill (p : Place) (taken : Option Text) (pieces : List Piece)
    (hspaced : spaced taken pieces) (hslots : slotsAt settled p taken pieces) :
    p.walk (readFrom taken (pieces.flatMap (fill args))) =
      p.walk (readFrom taken (pieces.flatMap (fill []))) := by
  induction pieces generalizing p taken with
  | nil => rfl
  | cons piece rest ih =>
      cases piece with
      | literal c =>
          obtain ⟨q, hwalk, hslots⟩ := (slotsAt_literal_iff _ _ _ _ _).mp hslots
          simp only [List.flatMap_cons, fill, List.singleton_append, readFrom, Place.walk_append,
            hwalk]
          exact ih q _ hspaced hslots
      | slot number =>
          obtain ⟨rfl, hapart, hspaced⟩ := (spaced_slot_iff taken number rest).mp hspaced
          obtain ⟨hp, hslots⟩ := Bool.and_eq_true_iff.mp hslots
          have hslot := p.walk_of_balanced (by simpa [settled] using hp) _
            (whole_fill_slot args number h).balanced
          rw [readFrom_slot_of_whole args h number rest hapart, Place.walk_append, hslot]
          exact ih p none hspaced hslots

-- The pieces stay on the surface where they are, whatever the arguments bring with them
theorem surface_subset_fill (p : Place) (taken : Option Text) (pieces : List Piece)
    (hspaced : spaced taken pieces) (hslots : slotsAt settled p taken pieces) :
    p.surface (readFrom taken (pieces.flatMap (fill []))) ⊆
      p.surface (readFrom taken (pieces.flatMap (fill args))) := by
  induction pieces generalizing p taken with
  | nil => exact List.Subset.refl _
  | cons piece rest ih =>
      cases piece with
      | literal c =>
          obtain ⟨q, hwalk, hslots⟩ := (slotsAt_literal_iff _ _ _ _ _).mp hslots
          simp only [List.flatMap_cons, fill, List.singleton_append, readFrom,
            p.surface_append q _ _ hwalk]
          exact List.append_subset.mpr ⟨List.subset_append_left _ _,
            List.subset_append_of_subset_right _ (ih q _ hspaced hslots)⟩
      | slot number =>
          obtain ⟨rfl, hapart, hspaced⟩ := (spaced_slot_iff taken number rest).mp hspaced
          obtain ⟨hp, hslots⟩ := Bool.and_eq_true_iff.mp hslots
          have hslot := p.walk_of_balanced (by simpa [settled] using hp) _
            (whole_fill_slot args number h).balanced
          rw [readFrom_slot_of_whole args h number rest hapart, p.surface_append p _ _ hslot]
          exact List.subset_append_of_subset_right _ (ih p none hspaced hslots)

-- Arguments in enclosures bring nothing to the surface
theorem surface_fill (p : Place) (taken : Option Text) (pieces : List Piece)
    (hspaced : spaced taken pieces) (hslots : slotsAt sheltered p taken pieces) :
    p.surface (readFrom taken (pieces.flatMap (fill args))) =
      p.surface (readFrom taken (pieces.flatMap (fill []))) := by
  induction pieces generalizing p taken with
  | nil => rfl
  | cons piece rest ih =>
      cases piece with
      | literal c =>
          obtain ⟨q, hwalk, hslots⟩ := (slotsAt_literal_iff _ _ _ _ _).mp hslots
          simp only [List.flatMap_cons, fill, List.singleton_append, readFrom,
            p.surface_append q _ _ hwalk, ih q _ hspaced hslots]
      | slot number =>
          obtain ⟨rfl, hapart, hspaced⟩ := (spaced_slot_iff taken number rest).mp hspaced
          obtain ⟨hp, hslots⟩ := Bool.and_eq_true_iff.mp hslots
          obtain ⟨hdue, hinside⟩ := Bool.and_eq_true_iff.mp hp
          have hbalanced := (whole_fill_slot args number h).balanced
          have hslot := p.walk_of_balanced (by simpa using hdue) _ hbalanced
          have hhidden := p.surface_of_balanced (by simpa using hdue) (by simpa using hinside) _ hbalanced
          rw [readFrom_slot_of_whole args h number rest hapart, p.surface_append p _ _ hslot, hhidden]
          exact ih p none hspaced hslots

end Filled

end Piece

namespace Rendering

-- A rendering as literal text and slots. Where the arguments are joined, the row of them fills one slot,
-- and so does a name that is set upright
def pieces : Rendering → List Piece
  | .wrap before after => before.map .literal ++ .slot 1 :: after.map .literal
  | .between separator => .slot 1 :: (separator.map .literal ++ [.slot 2])
  | .template t => t.pieces
  | .variadic before after _ => before.map .literal ++ .slot 1 :: after.map .literal
  | .upright _ =>
    (Text.ofString "\\mathrm\x7b").map .literal ++
      .slot 1 :: ((Text.ofString "\x7d(").map .literal ++
        .slot 2 :: (Text.ofString ")").map .literal)

-- What joins the arguments
def joint : Rendering → Text
  | .variadic _ _ separator => separator
  | .upright _ => ", "
  | _ => []

-- What fills the slots
def fillings (r : Rendering) (args : List Text) : List Text :=
  match r with
  | .variadic _ _ _ => [Text.join r.joint args]
  | .upright name => [(escape name).text, Text.join r.joint args]
  | _ => args

-- What there is without any arguments
def frame (r : Rendering) : Text := r.pieces.flatMap (Piece.fill [])

theorem flatMap_literal (args : List Text) (text : Text) :
    (text.map Piece.literal).flatMap (Piece.fill args) = text := by
  induction text with
  | nil => rfl
  | cons c rest ih => rw [List.map_cons, List.flatMap_cons, ih, Piece.fill, List.singleton_append]

theorem eq_fill_of_apply (r : Rendering) (args : List Text) (text : Text)
    (h : r.apply args = .ok text) :
    text = r.pieces.flatMap (Piece.fill (r.fillings args)) := by
  cases r with
  | wrap before after =>
      obtain ⟨arg, rfl, rfl⟩ := (apply_wrap_eq_ok_iff before after args text).mp h
      simp [pieces, fillings, flatMap_literal, Piece.fill]
  | between separator =>
      obtain ⟨left, right, rfl, rfl⟩ := (apply_between_eq_ok_iff separator args text).mp h
      simp [pieces, fillings, flatMap_literal, Piece.fill]
  | template t =>
      obtain ⟨-, rfl⟩ := (apply_template_eq_ok_iff t args text).mp h
      rfl
  | variadic before after separator =>
      cases h
      simp [pieces, fillings, flatMap_literal, Piece.fill, joint]
  | upright name =>
      cases h
      simp [pieces, fillings, flatMap_literal, Piece.fill, joint]

-- What a rendering needs for its own enclosures not to be disturbed by whole arguments
structure Steady (r : Rendering) : Prop where
  fits : r.Fits fun _ => True
  spaced : Piece.spaced none r.pieces
  settled : Piece.slotsAt Piece.settled .outside none r.pieces
  balanced : Place.outside.walk (lexemes r.frame) = some .outside
  joint : Whole r.joint

instance (r : Rendering) : Decidable r.Steady :=
  decidable_of_iff
    ((r.Fits fun _ => True) ∧ Piece.spaced none r.pieces ∧
      Piece.slotsAt Piece.settled .outside none r.pieces ∧
      Place.outside.walk (lexemes r.frame) = some .outside ∧ Whole r.joint)
    ⟨fun h => ⟨h.1, h.2.1, h.2.2.1, h.2.2.2.1, h.2.2.2.2⟩,
      fun h => ⟨h.fits, h.spaced, h.settled, h.balanced, h.joint⟩⟩

-- Each argument stands in an enclosure
def Shelters (r : Rendering) : Prop := Piece.slotsAt Piece.sheltered .outside none r.pieces

instance (r : Rendering) : Decidable r.Shelters :=
  inferInstanceAs (Decidable (Piece.slotsAt Piece.sheltered .outside none r.pieces = true))

section Applied

variable (r : Rendering) (hr : r.Steady)
  (hname : ∀ name, r = .upright name → ∀ c ∈ name, c ∉ Whole.brackets)
  (args : List Text) (h : ∀ a ∈ args, Whole a)

include hr hname h

theorem whole_fillings : ∀ a ∈ r.fillings args, Whole a := by
  cases r with
  | wrap before after => exact h
  | between separator => exact h
  | template t => exact h
  | variadic before after separator =>
      refine List.forall_mem_singleton.mpr ?_
      exact .join separator args hr.fits.2 hr.joint h
  | upright name =>
      refine List.forall_mem_cons.mpr ⟨(Whole.escape name (hname name rfl)).1, ?_⟩
      refine List.forall_mem_singleton.mpr ?_
      exact .join ", " args separates_comma hr.joint h

variable (text : Text) (happly : r.apply args = .ok text)

include happly

theorem whole_apply : Whole text where
  sound := r.sound_apply args text hr.fits (fun a ha => (h a ha).sound) happly
  balanced := by
    have hfillings := whole_fillings r hr hname args h
    rw [r.eq_fill_of_apply args text happly]
    exact (Piece.walk_fill _ hfillings _ _ _ hr.spaced hr.settled).trans hr.balanced

-- What the rendering itself sets on the surface is not hidden by any arguments
theorem surface_frame_subset :
    Place.outside.surface (lexemes r.frame) ⊆ Place.outside.surface (lexemes text) := by
  have hfillings := whole_fillings r hr hname args h
  rw [r.eq_fill_of_apply args text happly]
  exact Piece.surface_subset_fill _ hfillings _ _ _ hr.spaced hr.settled

theorem surface_of_shelters (hshelters : r.Shelters) :
    Place.outside.surface (lexemes text) = Place.outside.surface (lexemes r.frame) := by
  have hfillings := whole_fillings r hr hname args h
  rw [r.eq_fill_of_apply args text happly]
  exact Piece.surface_fill _ hfillings _ _ _ hr.spaced hshelters

end Applied

end Rendering

end Formulary
