import Formulary.Proofs.Markup.Escape
import Formulary.Proofs.Markup.Lexeme

namespace Formulary.Markup

-- The characters that are never to be read as they stand
def stray : List CodePoint := ['$', '&', '#', '%', '~']

-- Every backslash takes something, and only known words follow one
def Lexeme.Allowed (known : Text → Prop) : Lexeme → Prop
  | .word letters => letters ≠ [] ∧ known letters
  | .control _ => True
  | .plain c => c ∉ stray

instance (known : Text → Prop) [DecidablePred known] (x : Lexeme) : Decidable (x.Allowed known) :=
  match x with
  | .word letters => inferInstanceAs (Decidable (letters ≠ [] ∧ known letters))
  | .control _ => .isTrue trivial
  | .plain c => inferInstanceAs (Decidable (c ∉ stray))

-- Text that can be read as markup by itself
structure Sound (known : Text → Prop) (text : Text) : Prop where
  nested : nest [] (lexemes text) = some []
  allowed : ∀ x ∈ lexemes text, x.Allowed known

instance (known : Text → Prop) [DecidablePred known] (text : Text) : Decidable (Sound known text) :=
  decidable_of_iff
    (nest [] (lexemes text) = some [] ∧ ∀ x ∈ lexemes text, x.Allowed known)
    ⟨fun h => ⟨h.1, h.2⟩, fun h => ⟨h.nested, h.allowed⟩⟩

variable {known : Text → Prop}

-- The words of a single text can be told from its lexemes alone
theorem Sound.of_words (text : Text) (h : Sound (fun _ => True) text)
    (hwords : ∀ letters, .word letters ∈ lexemes text → known letters) : Sound known text where
  nested := h.nested
  allowed x hx := by
    cases x with
    | word letters => exact ⟨(h.allowed _ hx).1, hwords letters hx⟩
    | control _ => trivial
    | plain _ => exact h.allowed _ hx

theorem Sound.word_nil_notMem (u : Text) (h : Sound known u) : .word [] ∉ lexemes u :=
  fun hm => (h.allowed _ hm).1 rfl

theorem sound_nil : Sound known [] := ⟨rfl, by simp [lexemes, readFrom, readEnd]⟩

theorem Sound.append (u v : Text) (hu : Sound known u) (hv : Sound known v)
    (h : lexemes (u ++ v) = lexemes u ++ lexemes v) : Sound known (u ++ v) where
  nested := by
    rw [h, nest_append, hu.nested]
    exact hv.nested
  allowed x hx := by
    rw [h] at hx
    exact (List.mem_append.mp hx).elim (hu.allowed x) (hv.allowed x)

theorem Sound.append_of_closed (u v : Text) (hu : Sound known u) (hv : Sound known v)
    (h : Closed u) : Sound known (u ++ v) :=
  hu.append u v hv (lexemes_append_of_closed u v h)

theorem Sound.append_of_apart (u v : Text) (hu : Sound known u) (hv : Sound known v)
    (h : Apart v) : Sound known (u ++ v) :=
  hu.append u v hv (lexemes_append_of_apart u v (hu.word_nil_notMem u) h)

-- What stands before and after any sound text, only the two of them being balanced together
structure Encloses (known : Text → Prop) (before after : Text) : Prop where
  closed : Closed before
  apart : Apart after
  sound : Sound known (before ++ after)

instance (known : Text → Prop) [DecidablePred known] (before after : Text) :
    Decidable (Encloses known before after) :=
  decidable_of_iff (Closed before ∧ Apart after ∧ Sound known (before ++ after))
    ⟨fun h => ⟨h.1, h.2.1, h.2.2⟩, fun h => ⟨h.closed, h.apart, h.sound⟩⟩

theorem Encloses.of_words (before after : Text) (h : Encloses (fun _ => True) before after)
    (hbefore : ∀ letters, .word letters ∈ lexemes before → known letters)
    (hafter : ∀ letters, .word letters ∈ lexemes after → known letters) :
    Encloses known before after where
  closed := h.closed
  apart := h.apart
  sound := by
    refine h.sound.of_words _ fun letters hw => ?_
    rw [lexemes_append_of_closed before after h.closed, List.mem_append] at hw
    exact hw.elim (hbefore letters) (hafter letters)

theorem Encloses.sound_append (before after u : Text) (h : Encloses known before after)
    (hu : Sound known u) : Sound known (before ++ u ++ after) := by
  have hends : lexemes (before ++ after) = lexemes before ++ lexemes after :=
    lexemes_append_of_closed before after h.closed
  have hallowed : ∀ x ∈ lexemes before ++ lexemes after, x.Allowed known := by
    rw [← hends]
    exact h.sound.allowed
  have hbefore : lexemes (before ++ u) = lexemes before ++ lexemes u :=
    lexemes_append_of_closed before u h.closed
  have hend : .word [] ∉ lexemes (before ++ u) := by
    rw [hbefore, List.mem_append, not_or]
    refine ⟨fun hm => ?_, hu.word_nil_notMem u⟩
    exact (hallowed _ (List.mem_append_left _ hm)).1 rfl
  have hall : lexemes (before ++ u ++ after) = lexemes before ++ lexemes u ++ lexemes after := by
    rw [lexemes_append_of_apart _ after hend h.apart, hbefore]
  constructor
  · rw [hall, nest_insert _ _ _ _ hu.nested, ← hends]
    exact h.sound.nested
  · intro x hx
    rw [hall, List.mem_append, List.mem_append] at hx
    rcases hx with (hx | hx) | hx
    · exact hallowed x (List.mem_append_left _ hx)
    · exact hu.allowed x hx
    · exact hallowed x (List.mem_append_right _ hx)

-- What stands between two sound texts
structure Separates (known : Text → Prop) (separator : Text) : Prop where
  closed : Closed separator
  apart : Apart separator
  ne_nil : separator ≠ []
  sound : Sound known separator

instance (known : Text → Prop) [DecidablePred known] (separator : Text) :
    Decidable (Separates known separator) :=
  decidable_of_iff
    (Closed separator ∧ Apart separator ∧ separator ≠ [] ∧ Sound known separator)
    ⟨fun h => ⟨h.1, h.2.1, h.2.2.1, h.2.2.2⟩, fun h => ⟨h.closed, h.apart, h.ne_nil, h.sound⟩⟩

theorem Separates.of_words (separator : Text) (h : Separates (fun _ => True) separator)
    (hwords : ∀ letters, .word letters ∈ lexemes separator → known letters) :
    Separates known separator :=
  ⟨h.closed, h.apart, h.ne_nil, h.sound.of_words separator hwords⟩

theorem apart_append (u v : Text) (h : u ≠ []) (hu : Apart u) : Apart (u ++ v) := by
  cases u with
  | nil => exact absurd rfl h
  | cons c u => exact hu

theorem Separates.sound_append (separator u v : Text) (h : Separates known separator)
    (hu : Sound known u) (hv : Sound known v) : Sound known (u ++ (separator ++ v)) := by
  have hseparated : Sound known (separator ++ v) :=
    h.sound.append_of_closed separator v hv h.closed
  exact hu.append_of_apart u _ hseparated (apart_append separator v h.ne_nil h.apart)

theorem Separates.sound_join (separator : Text) (texts : List Text) (h : Separates known separator)
    (ht : ∀ t ∈ texts, Sound known t) : Sound known (Text.join separator texts) := by
  induction texts with
  | nil => exact sound_nil
  | cons t rest ih =>
      have hrest := ih fun t' ht' => ht t' (List.mem_cons_of_mem t ht')
      cases rest with
      | nil => simpa [Text.join] using ht t List.mem_cons_self
      | cons t' rest =>
          rw [Text.join_cons_cons]
          exact h.sound_append separator t _ (ht t List.mem_cons_self) hrest

-- Closed pieces can be set one after the other
theorem sound_flatMap (f : CodePoint → Text) (text : Text)
    (h : ∀ c ∈ text, Sound known (f c) ∧ Closed (f c)) :
    Sound known (text.flatMap f) ∧ Closed (text.flatMap f) := by
  induction text with
  | nil => exact ⟨sound_nil, rfl⟩
  | cons c text ih =>
      obtain ⟨hc, hclosed⟩ := h c List.mem_cons_self
      obtain ⟨hs, hrest⟩ := ih fun d hd => h d (List.mem_cons_of_mem c hd)
      rw [List.flatMap_cons]
      exact ⟨hc.append_of_closed _ _ hs hclosed, closed_append _ _ hclosed hrest⟩

-- The underscore alone of all reserved characters does no harm as it stands
theorem sound_singleton (c : CodePoint) (h : ∀ r ∈ reserved, r.1 ≠ '_' → c ≠ .char r.1) :
    Sound known [c] ∧ Closed [c] := by
  have hreserved (d : Char) (hd : d ∈ reserved.map Prod.fst) (hne : d ≠ '_') : c ≠ .char d := by
    obtain ⟨r, hr, rfl⟩ := List.mem_map.mp hd
    exact h r hr hne
  have hfresh : readFresh c = ([.plain c], none) := if_neg (hreserved '\\' (by decide) (by decide))
  have hlexemes : lexemes [c] = [.plain c] := by
    simp [lexemes, readFrom, readNext, hfresh, readEnd]
  have hopens : (Lexeme.plain c).opens? = none :=
    if_neg (hreserved '\x7b' (by decide) (by decide))
  have hcloses : (Lexeme.plain c).closes? = none :=
    if_neg (hreserved '\x7d' (by decide) (by decide))
  refine ⟨⟨?_, ?_⟩, ?_⟩
  · simp [hlexemes, nest, turn, hopens, hcloses]
  · rw [hlexemes, List.forall_mem_singleton]
    have hstray : ∀ d ∈ stray, ∃ r ∈ reserved, r.1 ≠ '_' ∧ d = .char r.1 := by decide
    intro hc
    obtain ⟨r, hr, hne, heq⟩ := hstray c hc
    exact h r hr hne heq
  · simp [Closed, takenAfter, readNext, hfresh]

theorem sound_of_unreserved (text : Text)
    (h : ∀ r ∈ reserved, r.1 ≠ '_' → .char r.1 ∉ text) : Sound known text := by
  have hsingle (c : CodePoint) (hc : c ∈ text) : Sound known [c] ∧ Closed [c] := by
    refine sound_singleton c fun r hr hne heq => h r hr hne ?_
    rwa [← heq]
  have hflat := (sound_flatMap (fun c => [c]) text hsingle).1
  rwa [List.flatMap_singleton'] at hflat

theorem closed_code : ∀ r ∈ reserved, Closed r.2 := by decide

-- Escaped text is sound, whatever it shows, and open for no letter
theorem sound_escape (hcodes : ∀ r ∈ reserved, Sound known r.2) (s : Text) :
    Sound known (escape s).text ∧ Closed (escape s).text := by
  rw [escape_eq_flatMap]
  refine sound_flatMap _ s fun d _ => ?_
  by_cases h : ∃ r ∈ reserved, d = .char r.1
  · obtain ⟨r, hr, rfl⟩ := h
    rw [escape_reserved r hr]
    exact ⟨hcodes r hr, closed_code r hr⟩
  · have hfree : ∀ r ∈ reserved, d ≠ .char r.1 := fun r hr hd => h ⟨r, hr, hd⟩
    rw [escape_unreserved d hfree]
    exact sound_singleton d fun r hr _ => hfree r hr

end Formulary.Markup
