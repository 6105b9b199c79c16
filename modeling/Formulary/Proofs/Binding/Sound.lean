import Formulary.Proofs.Binding
import Formulary.Proofs.Markup.Sound

namespace Formulary

open Markup

variable {known : Text → Prop}

namespace Piece

-- Whether no reader can join the piece to what comes before it
def setsApart : Piece → Bool
  | .literal c => !c.isLetter
  | .slot _ => false

-- Whether each slot stands where any markup fits, with no word left open before it and neither a
-- letter nor another slot right after it
def spaced (taken : Option Text) : List Piece → Bool
  | [] => true
  | .literal c :: rest => spaced (readNext taken c).2 rest
  | .slot _ :: rest => taken.isNone && rest.head?.all setsApart && spaced none rest

theorem spaced_slot_iff (taken : Option Text) (number : Nat) (rest : List Piece) :
    spaced taken (.slot number :: rest) ↔
      taken = none ∧ rest.head?.all setsApart ∧ spaced none rest := by
  simp [spaced, and_assoc]

theorem apart_fill (args : List Text) (pieces : List Piece) (h : pieces.head?.all setsApart) :
    Apart (pieces.flatMap (fill args)) := by
  match pieces with
  | [] => simp [Apart]
  | .literal c :: rest => simpa [Apart, fill, setsApart] using h
  | .slot number :: rest => simp [setsApart] at h

theorem sound_fill_slot (args : List Text) (number : Nat) (h : ∀ a ∈ args, Sound known a) :
    Sound known ((Piece.slot number).fill args) := by
  change Sound known (args.getD (number - 1) "")
  rw [List.getD_eq_getElem?_getD]
  cases hget : args[number - 1]? with
  | none => exact sound_nil
  | some a => exact h a (List.mem_of_getElem? hget)

theorem readFrom_slot (args : List Text) (number : Nat) (rest : List Piece)
    (h : ∀ a ∈ args, Sound known a) (hrest : rest.head?.all setsApart) :
    readFrom none ((Piece.slot number :: rest).flatMap (fill args)) =
      lexemes ((Piece.slot number).fill args) ++ lexemes (rest.flatMap (fill args)) :=
  lexemes_append_of_apart _ _ ((sound_fill_slot args number h).word_nil_notMem _)
    (apart_fill args rest hrest)

-- Sound arguments leave the brackets of the pieces as they are without any
theorem nest_fill (args : List Text) (h : ∀ a ∈ args, Sound known a) (taken : Option Text)
    (pieces : List Piece) (hp : spaced taken pieces) (stack : List Bracket) :
    nest stack (readFrom taken (pieces.flatMap (fill args))) =
      nest stack (readFrom taken (pieces.flatMap (fill []))) := by
  induction pieces generalizing taken stack with
  | nil => rfl
  | cons piece rest ih =>
      cases piece with
      | literal c =>
          simp only [List.flatMap_cons, fill, List.singleton_append, readFrom, nest_append]
          exact congrArg _ (funext fun stack => ih _ hp stack)
      | slot number =>
          obtain ⟨rfl, hapart, hspaced⟩ := (spaced_slot_iff taken number rest).mp hp
          have hslot : nest stack (lexemes ((Piece.slot number).fill args)) = some stack :=
            nest_of_balanced stack _ (sound_fill_slot args number h).nested
          rw [readFrom_slot args number rest h hapart, nest_append, hslot]
          exact ih none hspaced stack

theorem allowed_fill (args : List Text) (h : ∀ a ∈ args, Sound known a) (taken : Option Text)
    (pieces : List Piece) (hp : spaced taken pieces)
    (hfixed : ∀ x ∈ readFrom taken (pieces.flatMap (fill [])), x.Allowed known) :
    ∀ x ∈ readFrom taken (pieces.flatMap (fill args)), x.Allowed known := by
  induction pieces generalizing taken with
  | nil => exact hfixed
  | cons piece rest ih =>
      cases piece with
      | literal c =>
          simp only [List.flatMap_cons, fill, List.singleton_append, readFrom,
            List.forall_mem_append] at hfixed ⊢
          exact ⟨hfixed.1, ih _ hp hfixed.2⟩
      | slot number =>
          obtain ⟨rfl, hapart, hspaced⟩ := (spaced_slot_iff taken number rest).mp hp
          rw [readFrom_slot args number rest h hapart, List.forall_mem_append]
          exact ⟨(sound_fill_slot args number h).allowed, ih none hspaced hfixed⟩

end Piece

theorem Template.sound_fill (t : Template) (args : List Text) (hspaced : Piece.spaced none t.pieces)
    (ht : Sound known (t.fill [])) (h : ∀ a ∈ args, Sound known a) :
    Sound known (t.fill args) where
  nested := (Piece.nest_fill args h none t.pieces hspaced []).trans ht.nested
  allowed := Piece.allowed_fill args h none t.pieces hspaced ht.allowed

namespace Rendering

-- What makes a rendering set sound arguments soundly
def Fits (known : Text → Prop) : Rendering → Prop
  | .wrap before after => Encloses known before after
  | .between separator => Separates known separator
  | .template t => Piece.spaced none t.pieces ∧ Sound known (t.fill [])
  | .variadic before after separator =>
    Encloses known before after ∧ Separates known separator
  | .upright _ =>
    Encloses known "\\mathrm\x7b" "\x7d()" ∧ ∀ r ∈ reserved, Sound known r.2

instance (known : Text → Prop) [DecidablePred known] (r : Rendering) : Decidable (r.Fits known) :=
  match r with
  | .wrap before after => inferInstanceAs (Decidable (Encloses known before after))
  | .between separator => inferInstanceAs (Decidable (Separates known separator))
  | .template t =>
    inferInstanceAs (Decidable (Piece.spaced none t.pieces ∧ Sound known (t.fill [])))
  | .variadic before after separator =>
    inferInstanceAs (Decidable (Encloses known before after ∧ Separates known separator))
  | .upright _ =>
    inferInstanceAs (Decidable (Encloses known "\\mathrm\x7b" "\x7d()" ∧
      ∀ r ∈ reserved, Sound known r.2))

-- The texts with macros that a rendering brings along, whatever its arguments are
def written : Rendering → List Text
  | .wrap before after => [before, after]
  | .between separator => [separator]
  | .template t => [t.fill []]
  | .variadic before after separator => [before, after, separator]
  | .upright _ => "\\mathrm\x7b" :: "\x7d()" :: reserved.map Prod.snd

theorem fits_of_written (r : Rendering) (h : r.Fits fun _ => True)
    (hwords : ∀ u ∈ r.written, ∀ letters, .word letters ∈ lexemes u → known letters) :
    r.Fits known := by
  cases r with
  | wrap before after =>
      exact h.of_words _ _ (hwords before (by simp [written])) (hwords after (by simp [written]))
  | between separator => exact h.of_words separator (hwords separator (by simp [written]))
  | template t => exact ⟨h.1, h.2.of_words _ (hwords _ (by simp [written]))⟩
  | variadic before after separator =>
      have hbefore := hwords before (by simp [written])
      have hafter := hwords after (by simp [written])
      have hseparator := hwords separator (by simp [written])
      exact ⟨h.1.of_words _ _ hbefore hafter, h.2.of_words separator hseparator⟩
  | upright name =>
      have hbrace := hwords "\\mathrm\x7b" (by simp [written])
      have hends := hwords "\x7d()" (by simp [written])
      refine ⟨h.1.of_words _ _ hbrace hends, fun r hr => ?_⟩
      have hcode : r.2 ∈ reserved.map Prod.snd := List.mem_map.mpr ⟨r, hr, rfl⟩
      exact (h.2 r hr).of_words _ (hwords r.2 (by simp [written, hcode]))

-- Whatever the name is, it is braced in, and brackets that all close stand around the arguments
theorem encloses_upright (name : Text) (h : (Rendering.upright name).Fits known) :
    Encloses known ("\\mathrm\x7b" ++ (escape name).text ++ "\x7d(") ")" where
  closed := by
    refine closed_append _ _ (closed_append _ _ h.1.closed ?_) (by decide)
    exact (sound_escape h.2 name).2
  apart := by decide
  sound := by
    have hname := h.1.sound_append _ _ _ (sound_escape h.2 name).1
    rwa [List.append_assoc]

theorem separates_comma : Separates known ", " := by
  constructor
  · decide
  · decide
  · decide
  · exact sound_of_unreserved _ (by decide)

theorem sound_apply (r : Rendering) (args : List Text) (text : Text) (hr : r.Fits known)
    (h : ∀ a ∈ args, Sound known a) (happly : r.apply args = .ok text) : Sound known text := by
  cases r with
  | wrap before after =>
      obtain ⟨arg, rfl, rfl⟩ := (apply_wrap_eq_ok_iff before after args text).mp happly
      exact hr.sound_append before after arg (h arg List.mem_cons_self)
  | between separator =>
      obtain ⟨left, right, rfl, rfl⟩ := (apply_between_eq_ok_iff separator args text).mp happly
      have hright : right ∈ [left, right] := List.mem_cons_of_mem left List.mem_cons_self
      rw [List.append_assoc]
      exact hr.sound_append separator left right (h left List.mem_cons_self) (h right hright)
  | template t =>
      obtain ⟨-, rfl⟩ := (apply_template_eq_ok_iff t args text).mp happly
      exact t.sound_fill args hr.1 hr.2 h
  | variadic before after separator =>
      cases happly
      exact hr.1.sound_append before after _ (hr.2.sound_join separator args h)
  | upright name =>
      cases happly
      have hargs := separates_comma.sound_join _ args h
      exact (encloses_upright name hr).sound_append _ _ _ hargs

end Rendering

end Formulary
