import Formulary.Proofs.Markup.Sound

namespace Formulary.Markup

-- What keeps a piece of markup together for the reader
inductive Enclosure
  | brace
  | square
  | round
  | fence
  deriving DecidableEq, Repr

namespace Enclosure

def first : Enclosure → Lexeme
  | .brace => .plain (.char '\x7b')
  | .square => .plain (.char '[')
  | .round => .plain (.char '(')
  | .fence => .word "left"

def last : Enclosure → Lexeme
  | .brace => .plain (.char '\x7d')
  | .square => .plain (.char ']')
  | .round => .plain (.char ')')
  | .fence => .word "right"

def all : List Enclosure := [.brace, .square, .round, .fence]

def opened? (x : Lexeme) : Option Enclosure := all.find? (·.first == x)

def closed? (x : Lexeme) : Option Enclosure := all.find? (·.last == x)

end Enclosure

-- Where a reader stands: the enclosures around, the innermost first, and whether the sign that a fence
-- is drawn with is still to come
structure Place where
  inside : List Enclosure
  due : Bool
  deriving DecidableEq, Repr

namespace Place

def outside : Place := ⟨[], false⟩

-- The place after one more lexeme, unless it closes what is not open. A fence takes the lexeme after it
-- whatever that is
def next? (p : Place) (x : Lexeme) : Option Place :=
  if p.due then some ⟨p.inside, false⟩
  else match Enclosure.opened? x, Enclosure.closed? x with
    | some e, _ => some ⟨e :: p.inside, e == .fence⟩
    | none, some e => if p.inside.head? = some e then some ⟨p.inside.tail, e == .fence⟩ else none
    | none, none => some p

def walk (p : Place) (xs : List Lexeme) : Option Place := xs.foldlM next? p

-- A lexeme read here is in no enclosure and belongs to none
def isOpen (p : Place) : Bool := p.inside.isEmpty && !p.due

-- The lexemes at nesting depth zero, as far as the enclosures fit
def surface (p : Place) : List Lexeme → List Lexeme
  | [] => []
  | x :: xs =>
    (if p.isOpen then [x] else []) ++
      match p.next? x with
      | none => []
      | some q => q.surface xs

theorem walk_cons (p : Place) (x : Lexeme) (xs : List Lexeme) :
    p.walk (x :: xs) = (p.next? x).bind fun q => q.walk xs := List.foldlM_cons

theorem walk_append (p : Place) (xs ys : List Lexeme) :
    p.walk (xs ++ ys) = (p.walk xs).bind fun q => q.walk ys := List.foldlM_append

theorem surface_append (p q : Place) (xs ys : List Lexeme) (h : p.walk xs = some q) :
    p.surface (xs ++ ys) = p.surface xs ++ q.surface ys := by
  induction xs generalizing p with
  | nil =>
      cases h
      rfl
  | cons x xs ih =>
      rw [walk_cons] at h
      obtain ⟨middle, hnext, hwalk⟩ := Option.bind_eq_some_iff.mp h
      simp only [List.cons_append, surface, hnext, ih middle hwalk, List.append_assoc]

-- The same place with more enclosures around it
def within (p : Place) (around : List Enclosure) : Place := ⟨p.inside ++ around, p.due⟩

theorem next?_within (p q : Place) (around : List Enclosure) (x : Lexeme)
    (h : p.next? x = some q) : (p.within around).next? x = some (q.within around) := by
  unfold next? at h ⊢
  rw [within]
  split at h
  · rename_i hdue
    cases h
    simp [hdue, within]
  · rename_i hdue
    rw [if_neg hdue]
    split at h
    · cases h
      rfl
    · rename_i e _ _
      cases hinside : p.inside with
      | nil => simp [hinside] at h
      | cons top rest =>
          simp only [hinside, List.head?_cons, List.tail_cons, Option.ite_none_right_eq_some,
            Option.some.injEq] at h
          obtain ⟨rfl, rfl⟩ := h
          simp [within]
    · cases h
      rfl

theorem walk_within (p q : Place) (around : List Enclosure) (xs : List Lexeme)
    (h : p.walk xs = some q) : (p.within around).walk xs = some (q.within around) := by
  induction xs generalizing p with
  | nil =>
      cases h
      rfl
  | cons x xs ih =>
      rw [walk_cons] at h ⊢
      obtain ⟨middle, hnext, hwalk⟩ := Option.bind_eq_some_iff.mp h
      rw [p.next?_within middle around x hnext]
      exact ih middle hwalk

-- Below an enclosure nothing is on the surface until it closes
theorem surface_within (p q : Place) (around : List Enclosure) (haround : around ≠ [])
    (xs : List Lexeme) (h : p.walk xs = some q) : (p.within around).surface xs = [] := by
  induction xs generalizing p with
  | nil => rfl
  | cons x xs ih =>
      rw [walk_cons] at h
      obtain ⟨middle, hnext, hwalk⟩ := Option.bind_eq_some_iff.mp h
      have hclosed : (p.within around).isOpen = false := by simp [isOpen, within, haround]
      simp [surface, hclosed, p.next?_within middle around x hnext, ih middle hwalk]

theorem within_outside (p : Place) (h : p.due = false) : outside.within p.inside = p := by
  cases p
  cases h
  rfl

-- What closes all that it opens leaves the reader where he was, wherever that is
theorem walk_of_balanced (p : Place) (hp : p.due = false) (xs : List Lexeme)
    (h : outside.walk xs = some outside) : p.walk xs = some p := by
  have hwalk := walk_within outside outside p.inside xs h
  rwa [within_outside p hp] at hwalk

theorem surface_of_balanced (p : Place) (hp : p.due = false) (hinside : p.inside ≠ [])
    (xs : List Lexeme) (h : outside.walk xs = some outside) : p.surface xs = [] := by
  have hsurface := surface_within outside outside p.inside hinside xs h
  rwa [within_outside p hp] at hsurface

end Place

-- Sound text that closes every enclosure that it opens
structure Whole (text : Text) : Prop where
  sound : Sound (fun _ => True) text
  balanced : Place.outside.walk (lexemes text) = some .outside

instance (text : Text) : Decidable (Whole text) :=
  decidable_of_iff
    (Sound (fun _ => True) text ∧ Place.outside.walk (lexemes text) = some .outside)
    ⟨fun h => ⟨h.1, h.2⟩, fun h => ⟨h.sound, h.balanced⟩⟩

namespace Whole

theorem nil : Whole [] := ⟨sound_nil, rfl⟩

theorem append_of_closed (u v : Text) (hu : Whole u) (hv : Whole v) (h : Closed u) :
    Whole (u ++ v) where
  sound := hu.sound.append_of_closed u v hv.sound h
  balanced := by
    rw [lexemes_append_of_closed u v h, Place.walk_append, hu.balanced]
    exact hv.balanced

theorem append_of_apart (u v : Text) (hu : Whole u) (hv : Whole v) (h : Apart v) :
    Whole (u ++ v) where
  sound := hu.sound.append_of_apart u v hv.sound h
  balanced := by
    rw [lexemes_append_of_apart u v (hu.sound.word_nil_notMem u) h, Place.walk_append, hu.balanced]
    exact hv.balanced

-- Whole texts in a row, with a whole text between each two that leaves no word open
theorem join (separator : Text) (texts : List Text) (h : Separates (fun _ => True) separator)
    (hwhole : Whole separator) (ht : ∀ t ∈ texts, Whole t) : Whole (Text.join separator texts) := by
  induction texts with
  | nil => exact nil
  | cons t rest ih =>
      rw [List.forall_mem_cons] at ht
      cases rest with
      | nil => simpa [Text.join] using ht.1
      | cons t' rest =>
          have hrest : Whole (separator ++ Text.join separator (t' :: rest)) :=
            hwhole.append_of_closed separator _ (ih ht.2) h.closed
          rw [Text.join_cons_cons]
          exact ht.1.append_of_apart t _ hrest (apart_append separator _ h.ne_nil h.apart)

theorem flatMap (f : CodePoint → Text) (text : Text)
    (h : ∀ c ∈ text, Whole (f c) ∧ Closed (f c)) :
    Whole (text.flatMap f) ∧ Closed (text.flatMap f) := by
  induction text with
  | nil => exact ⟨nil, rfl⟩
  | cons c text ih =>
      rw [List.forall_mem_cons] at h
      obtain ⟨⟨hc, hclosed⟩, hrest⟩ := h
      obtain ⟨hw, hend⟩ := ih hrest
      rw [List.flatMap_cons]
      exact ⟨hc.append_of_closed _ _ hw hclosed, closed_append _ _ hclosed hend⟩

-- The brackets that are not reserved, and that data may hold as they are
def brackets : List CodePoint := ['(', ')', '[', ']']

theorem lexemes_singleton (c : CodePoint) (h : c ≠ .char '\\') : lexemes [c] = [.plain c] := by
  have hfresh : readFresh c = ([.plain c], none) := if_neg h
  simp [lexemes, readFrom, readNext, hfresh, readEnd]

-- A character that belongs to an enclosure is a bracket or else reserved
theorem bracket_or_reserved :
    ∀ c ∈ ['\x7b', '[', '(', '\x7d', ']', ')', '\\'].map CodePoint.char,
      c ∈ brackets ∨ ∃ r ∈ reserved, r.1 ≠ '_' ∧ c = .char r.1 := by
  decide

theorem singleton (c : CodePoint) (hreserved : ∀ r ∈ reserved, r.1 ≠ '_' → c ≠ .char r.1)
    (hbracket : c ∉ brackets) : Whole [c] ∧ Closed [c] := by
  obtain ⟨hsound, hclosed⟩ : Sound (fun _ => True) [c] ∧ Closed [c] := sound_singleton c hreserved
  have hother : c ∉ ['\x7b', '[', '(', '\x7d', ']', ')', '\\'].map CodePoint.char := by
    intro hc
    rcases bracket_or_reserved c hc with hc | ⟨r, hr, hne, heq⟩
    · exact hbracket hc
    · exact hreserved r hr hne heq
  simp only [List.map_cons, List.map_nil, List.mem_cons, List.not_mem_nil, or_false, not_or] at hother
  obtain ⟨hbrace, hsquare, hround, hbrace', hsquare', hround', hbackslash⟩ := hother
  have hopened : Enclosure.opened? (.plain c) = none := by
    simp [Enclosure.opened?, Enclosure.all, Enclosure.first, Ne.symm hbrace, Ne.symm hsquare,
      Ne.symm hround]
  have hlast : Enclosure.closed? (.plain c) = none := by
    simp [Enclosure.closed?, Enclosure.all, Enclosure.last, Ne.symm hbrace', Ne.symm hsquare',
      Ne.symm hround']
  refine ⟨⟨hsound, ?_⟩, hclosed⟩
  rw [lexemes_singleton c hbackslash, Place.walk_cons, Place.next?, hopened, hlast]
  rfl

theorem code : ∀ r ∈ reserved, Whole r.2 := by
  decide

-- Text without a reserved character and without a bracket is whole as it stands
theorem of_unreserved (text : Text) (hreserved : ∀ r ∈ reserved, r.1 ≠ '_' → .char r.1 ∉ text)
    (hbrackets : ∀ c ∈ text, c ∉ brackets) : Whole text := by
  have hsingle (c : CodePoint) (hc : c ∈ text) : Whole [c] ∧ Closed [c] := by
    refine singleton c (fun r hr hne heq => hreserved r hr hne ?_) (hbrackets c hc)
    rwa [← heq]
  have hflat := (flatMap (fun c => [c]) text hsingle).1
  rwa [List.flatMap_singleton'] at hflat

-- Escaped text is whole if what it shows has no bracket
theorem escape (s : Text) (h : ∀ c ∈ s, c ∉ brackets) :
    Whole (Markup.escape s).text ∧ Closed (Markup.escape s).text := by
  rw [escape_eq_flatMap]
  refine flatMap _ s fun d hd => ?_
  by_cases hcode : ∃ r ∈ reserved, d = .char r.1
  · obtain ⟨r, hr, rfl⟩ := hcode
    rw [escape_reserved r hr]
    exact ⟨code r hr, closed_code r hr⟩
  · have hfree : ∀ r ∈ reserved, d ≠ .char r.1 := fun r hr hd => hcode ⟨r, hr, hd⟩
    rw [escape_unreserved d hfree]
    exact singleton d (fun r hr _ => hfree r hr) (h d hd)

end Whole

end Formulary.Markup
