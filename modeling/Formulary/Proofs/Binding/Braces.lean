import Formulary.Proofs.Binding.Template
import Formulary.Proofs.Markup.Braces
import Formulary.Proofs.Notation.Enclosure

namespace Formulary

open Markup

namespace Markup.Braces

-- Where the reader gets by the pieces, as long as matched texts fill the slots. A slot must not stand
-- right behind a backslash
def along? (b : Braces) : List Piece → Option Braces
  | [] => some b
  | .literal c :: rest => (b.next? c).bind (·.along? rest)
  | .slot _ :: rest => if b.taken then none else b.along? rest

-- The slots outside of braces
def bareSlots (b : Braces) : List Piece → List Nat
  | [] => []
  | .literal c :: rest =>
    match b.next? c with
    | none => []
    | some b' => b'.bareSlots rest
  | .slot number :: rest =>
    if b = outside then number :: b.bareSlots rest else b.bareSlots rest

theorem matched_fill_slot (args : List Text) (number : Nat) (h : ∀ a ∈ args, Matched a) :
    Matched ((Piece.slot number).fill args) := by
  change Matched (args.getD (number - 1) [])
  rw [List.getD_eq_getElem?_getD]
  cases hget : args[number - 1]? with
  | none => exact rfl
  | some a => exact h a (List.mem_of_getElem? hget)

-- Matched texts lead past the slots, and bear what they bear if the slot is outside of braces
theorem walk_fill (args : List Text) (h : ∀ a ∈ args, Matched a) (b b' : Braces)
    (pieces : List Piece) (halong : b.along? pieces = some b') :
    b.walk (pieces.flatMap (Piece.fill args)) = some b' ∧
      ∀ c, c ∈ b.bare (pieces.flatMap (Piece.fill args)) ↔
        c ∈ b.bare (pieces.flatMap (Piece.fill [])) ∨
          ∃ number ∈ b.bareSlots pieces, c ∈ outside.bare ((Piece.slot number).fill args) := by
  induction pieces generalizing b with
  | nil =>
      cases halong
      exact ⟨rfl, by simp [bare, bareSlots]⟩
  | cons piece rest ih =>
      cases piece with
      | literal d =>
          obtain ⟨next, hnext, halong⟩ := Option.bind_eq_some_iff.mp halong
          obtain ⟨hrest, hbare⟩ := ih next halong
          simp only [List.flatMap_cons, Piece.fill, List.singleton_append, walk, bare, hnext, bareSlots]
          refine ⟨hrest, fun c => ?_⟩
          rw [List.mem_append, List.mem_append, hbare c]
          exact or_assoc.symm
      | slot number =>
          rw [along?] at halong
          split at halong
          · cases halong
          rename_i htaken
          obtain ⟨hrest, hbare⟩ := ih b halong
          have hslot := matched_fill_slot args number h
          obtain ⟨hpast, hslots⟩ := b.walk_matched (by simpa using htaken) _ hslot
          have hempty : (Piece.slot number).fill [] = [] := rfl
          rw [List.flatMap_cons, List.flatMap_cons, hempty, List.nil_append, walk_append, hpast]
          refine ⟨hrest, fun c => ?_⟩
          rw [bare_append _ _ _ _ hpast, hslots, List.mem_append, hbare c, bareSlots]
          split
          · simp only [List.mem_cons, exists_eq_or_imp]
            exact or_left_comm
          · simp

end Markup.Braces

namespace Rendering

-- What a rendering needs to match its own braces around matched arguments, and to join them with no bracket
structure Braced (r : Rendering) : Prop where
  along : Braces.outside.along? r.pieces = some .outside
  joint : Matched r.joint
  bracket : .char ']' ∉ Braces.outside.bare r.joint

instance (r : Rendering) : Decidable r.Braced :=
  decidable_of_iff
    (Braces.outside.along? r.pieces = some .outside ∧ Matched r.joint ∧
      .char ']' ∉ Braces.outside.bare r.joint)
    ⟨fun h => ⟨h.1, h.2.1, h.2.2⟩, fun h => ⟨h.along, h.joint, h.bracket⟩⟩

-- The slots that arguments fill
def argumentSlots : Rendering → List Nat
  | .wrap _ _ => [1]
  | .between _ => [1, 2]
  | .template t => Piece.slots t.pieces
  | .variadic _ _ _ => [1]
  | .upright _ => [2]

theorem fillings_of_template (r : Rendering) (h : r.style = "template") (args : List Text) :
    r.fillings args = args := by
  cases r <;> first | rfl | simp [style] at h

section Applied

variable (r : Rendering) (hr : r.Braced) (args : List Text) (h : ∀ a ∈ args, Matched a)

include hr h

theorem matched_fillings : ∀ a ∈ r.fillings args, Matched a := by
  cases r with
  | variadic before after separator =>
      exact List.forall_mem_singleton.mpr (Matched.join separator args hr.joint h).1
  | upright name =>
      refine List.forall_mem_cons.mpr ⟨(Matched.escape name).1, ?_⟩
      exact List.forall_mem_singleton.mpr (Matched.join ", " args hr.joint h).1
  | _ => exact h

-- Where every argument has a slot, what the slots bear is what the arguments bear
theorem exists_argumentSlot_iff (text : Text) (happly : r.apply args = .ok text)
    (hstyle : r.style ≠ "template") :
    (∃ number ∈ r.argumentSlots,
        .char ']' ∈ Braces.outside.bare ((Piece.slot number).fill (r.fillings args))) ↔
      ∃ a ∈ args, .char ']' ∈ Braces.outside.bare a := by
  cases r with
  | wrap before after =>
      obtain ⟨arg, rfl, -⟩ := (apply_wrap_eq_ok_iff before after args text).mp happly
      simp [argumentSlots, fillings, Piece.fill]
  | between separator =>
      obtain ⟨left, right, rfl, -⟩ := (apply_between_eq_ok_iff separator args text).mp happly
      simp [argumentSlots, fillings, Piece.fill]
  | template t => exact absurd rfl hstyle
  | variadic before after separator =>
      rw [← (Matched.join separator args hr.joint h).2 _ hr.bracket]
      simp [argumentSlots, fillings, Piece.fill, joint]
  | upright name =>
      rw [← (Matched.join ", " args hr.joint h).2 _ hr.bracket]
      simp [argumentSlots, fillings, Piece.fill, joint]

theorem matched_apply (text : Text) (happly : r.apply args = .ok text) :
    Matched text ∧ ∀ c, c ∈ Braces.outside.bare text ↔
      c ∈ Braces.outside.bare r.frame ∨ ∃ number ∈ Braces.outside.bareSlots r.pieces,
        c ∈ Braces.outside.bare ((Piece.slot number).fill (r.fillings args)) := by
  rw [r.eq_fill_of_apply args text happly]
  exact Braces.walk_fill _ (matched_fillings r hr args h) _ _ _ hr.along

end Applied

end Rendering

namespace Notation

-- The functions that set each argument in braces, other than the root
def bracingNames : List String := ["/", "//", "**", "[]", "frac", "binom", "sqrt"]

theorem braced_knownRenderings : ∀ e ∈ knownRenderings, e.2.Braced := by
  decide +kernel

theorem braced_upright (name : Text) : (Rendering.upright name).Braced := by
  have hnone : (Rendering.upright []).Braced := by decide
  exact ⟨hnone.along, hnone.joint, hnone.bracket⟩

-- The root bears the bracket that ends its index. Of the others, none bears a bracket of its own, and
-- they set either all arguments in braces or none
theorem brackets_knownRenderings : ∀ e ∈ knownRenderings,
    (e.1 = "root" ∧ .char ']' ∈ Braces.outside.bare e.2.frame) ∨
    (e.1 ≠ "root" ∧ .char ']' ∉ Braces.outside.bare e.2.frame ∧
      ((e.1 ∈ bracingNames ∧ Braces.outside.bareSlots e.2.pieces = []) ∨
        (e.1 ∉ bracingNames ∧ e.2.style ≠ "template" ∧
          Braces.outside.bareSlots e.2.pieces = e.2.argumentSlots))) := by
  decide +kernel

theorem style_functionFor_bracing : ∀ name ∈ "root" :: bracingNames,
    (default.functionFor name).rendering.style ≠ "opaque" := by
  decide +kernel

theorem braced_functionFor_default (head : Text) : (default.functionFor head).rendering.Braced := by
  rcases rendering_functionFor_default head with ⟨e, he, -, hrendering⟩ | hrendering
  · exact hrendering ▸ braced_knownRenderings e he
  · exact hrendering ▸ braced_upright head

-- What the notation makes of matched arguments is matched. It bears a bracket if it is a root, or if an
-- argument that it does not set in braces bears one
theorem matched_invoke (head : Text) (args : List Text) (h : ∀ a ∈ args, Matched a) (text : Text)
    (hinvoke : (default.functionFor head).invoke args = .ok text) :
    Matched text ∧
      (.char ']' ∈ Braces.outside.bare text ↔ head = "root" ∨
        (head ∉ bracingNames.map Text.ofString ∧ ∃ a ∈ args, .char ']' ∈ Braces.outside.bare a)) := by
  have happly := (FunctionBinding.invoke_eq_ok_iff _ _ _).mp hinvoke
  have hbraced := braced_functionFor_default head
  obtain ⟨hmatched, hbare⟩ := Rendering.matched_apply _ hbraced args h text happly
  have hslots := Rendering.exists_argumentSlot_iff _ hbraced args h text happly
  refine ⟨hmatched, ?_⟩
  rw [hbare]
  rcases rendering_functionFor_default head with ⟨e, he, rfl, hrendering⟩ | hrendering
  · have hinjective (s t : String) : Text.ofString s = Text.ofString t ↔ s = t :=
      ⟨Text.ofString_injective s t, congrArg _⟩
    have hmem : Text.ofString e.1 ∈ bracingNames.map Text.ofString ↔ e.1 ∈ bracingNames := by
      simp [hinjective]
    rw [hinjective, hmem]
    rw [hrendering] at hslots ⊢
    rcases brackets_knownRenderings e he with
      ⟨hroot, hframe⟩ | ⟨hroot, hframe, ⟨hbracing, hnone⟩ | ⟨hbracing, hstyle, hall⟩⟩
    · simp [hroot, hframe]
    · simp [hroot, hframe, hbracing, hnone]
    · rw [hall, hslots hstyle]
      simp [hroot, hframe, hbracing]
  · have hopaque (name : String) (hname : name ∈ "root" :: bracingNames) : head ≠ name := by
      rintro rfl
      exact style_functionFor_bracing name hname (congrArg Rendering.style hrendering)
    have hbracing : head ∉ bracingNames.map Text.ofString := by
      rintro hmem
      obtain ⟨name, hname, rfl⟩ := List.mem_map.mp hmem
      exact hopaque name (List.mem_cons_of_mem _ hname) rfl
    have hframe : (.char ']') ∉ Braces.outside.bare (Rendering.upright head).frame :=
      show (.char ']') ∉ Braces.outside.bare (Rendering.upright []).frame by decide
    have hall : Braces.outside.bareSlots (Rendering.upright head).pieces =
        (Rendering.upright head).argumentSlots :=
      show Braces.outside.bareSlots (Rendering.upright []).pieces = [2] by decide
    have hroot := hopaque "root" List.mem_cons_self
    rw [hrendering] at hslots ⊢
    rw [hall, hslots (by simp [Rendering.style])]
    simp [hroot, hframe, hbracing]

theorem matched_knownSymbols : ∀ e ∈ knownSymbols,
    Matched e.2 ∧ .char ']' ∉ Braces.outside.bare e.2 := by
  decide +kernel

theorem matched_symbolFor_default (name : Text)
    (h : ∀ c ∈ name, c ∉ [.char '\\', .char '{', .char '}', .char ']']) :
    Matched (default.symbolFor name).text ∧
      .char ']' ∉ Braces.outside.bare (default.symbolFor name).text := by
  rw [symbolFor]
  cases hget : default.symbols.get? name with
  | none =>
      have hplain : [.char '\\', .char '{', .char '}'] ⊆
          [CodePoint.char '\\', .char '{', .char '}', .char ']'] := by simp
      obtain ⟨hmatched, hbare⟩ := Matched.of_plain name fun c hc hmem => h c hc (hplain hmem)
      exact ⟨hmatched, fun hmem => h _ (hbare ▸ hmem) (by decide)⟩
  | some s =>
      obtain ⟨e, he, heq⟩ := List.mem_map.mp (OrderedMap.mem_of_get?_ofList _ name s hget)
      cases heq
      exact matched_knownSymbols e he

-- A root sets its second argument as the index of the first
theorem invoke_root (base index text : Text)
    (h : (default.functionFor "root").invoke [base, index] = .ok text) :
    text = "\\sqrt[" ++ index ++ "]\x7b" ++ base ++ "\x7d" := by
  have happly := (FunctionBinding.invoke_eq_ok_iff _ _ _).mp h
  have hpieces : (default.functionFor "root").rendering.pieces =
      Cut.pieces ⟨[("\\sqrt[", 2), ("]\x7b", 1)], "\x7d"⟩ := by
    decide +kernel
  have hstyle : (default.functionFor "root").rendering.style = "template" := by decide +kernel
  have hfillings := Rendering.fillings_of_template _ hstyle [base, index]
  rw [Rendering.eq_fill_of_apply _ _ _ happly, hfillings, hpieces, Cut.flatMap_pieces]
  simp [Cut.fill]

end Notation

end Formulary
