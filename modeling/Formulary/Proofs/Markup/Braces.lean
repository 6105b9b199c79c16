import Formulary.Proofs.Markup.Sound

namespace Formulary.Markup

-- How deep in braces a reader is, and whether a backslash takes the next character
structure Braces where
  taken : Bool
  depth : Nat
  deriving DecidableEq, Repr

namespace Braces

def outside : Braces := ⟨false, 0⟩

-- There is no way on from a brace that closes nothing
def next? (b : Braces) (c : CodePoint) : Option Braces :=
  if b.taken then some ⟨false, b.depth⟩
  else if c = .char '\\' then some ⟨true, b.depth⟩
  else if c = .char '{' then some ⟨false, b.depth + 1⟩
  else if c = .char '}' then if b.depth = 0 then none else some ⟨false, b.depth - 1⟩
  else some b

def walk (b : Braces) : Text → Option Braces
  | [] => some b
  | c :: rest => (b.next? c).bind (·.walk rest)

-- What is read outside of braces and not taken by a backslash
def bare (b : Braces) : Text → Text
  | [] => []
  | c :: rest =>
    (if b = outside then [c] else []) ++
      match b.next? c with
      | none => []
      | some b' => b'.bare rest

-- The text before the first such character outside of braces, and what comes after that character
def before? (stop : CodePoint) (b : Braces) : Text → Option (Text × Text)
  | [] => none
  | c :: rest =>
    if b = outside ∧ c = stop then some ([], rest)
    else do
      let (text, after) ← (← b.next? c).before? stop rest
      return (c :: text, after)

theorem walk_append (b : Braces) (s t : Text) : b.walk (s ++ t) = (b.walk s).bind (·.walk t) := by
  induction s generalizing b with
  | nil => rfl
  | cons c s ih =>
      rw [List.cons_append, walk, walk]
      cases b.next? c with
      | none => rfl
      | some b' => exact ih b'

theorem bare_append (b b' : Braces) (s t : Text) (h : b.walk s = some b') :
    b.bare (s ++ t) = b.bare s ++ b'.bare t := by
  induction s generalizing b with
  | nil =>
      cases h
      rfl
  | cons c s ih =>
      obtain ⟨next, hnext, h⟩ := Option.bind_eq_some_iff.mp h
      simp only [List.cons_append, bare, hnext, ih next h, List.append_assoc]

-- A reader that is deeper in braces goes the same way there
theorem next?_deeper (b b' : Braces) (c : CodePoint) (k : Nat) (h : b.next? c = some b') :
    next? ⟨b.taken, b.depth + k⟩ c = some ⟨b'.taken, b'.depth + k⟩ := by
  unfold next? at *
  grind

theorem walk_deeper (b b' : Braces) (text : Text) (k : Nat) (h : b.walk text = some b') :
    walk ⟨b.taken, b.depth + k⟩ text = some ⟨b'.taken, b'.depth + k⟩ := by
  induction text generalizing b with
  | nil =>
      cases h
      rfl
  | cons c rest ih =>
      obtain ⟨next, hnext, h⟩ := Option.bind_eq_some_iff.mp h
      rw [walk, next?_deeper b next c k hnext]
      exact ih next h

theorem bare_deeper (b b' : Braces) (text : Text) (k : Nat) (h : b.walk text = some b') :
    bare ⟨b.taken, b.depth + (k + 1)⟩ text = [] := by
  induction text generalizing b with
  | nil => rfl
  | cons c rest ih =>
      obtain ⟨next, hnext, h⟩ := Option.bind_eq_some_iff.mp h
      rw [bare, next?_deeper b next c (k + 1) hnext]
      simpa [outside] using ih next h

-- No brace closes outside of braces on a way that leads on
theorem closing_notMem_bare (b b' : Braces) (text : Text) (h : b.walk text = some b') :
    .char '}' ∉ b.bare text := by
  induction text generalizing b with
  | nil => simp [bare]
  | cons c rest ih =>
      obtain ⟨next, hnext, h⟩ := Option.bind_eq_some_iff.mp h
      rw [bare, hnext, List.mem_append, not_or]
      refine ⟨fun hc => ?_, ih next h⟩
      split at hc
      · rename_i hb
        rw [hb, ← List.mem_singleton.mp hc] at hnext
        cases hnext
      · cases hc

-- Up to where a text leads there is nothing to stop at
theorem before?_append (stop : CodePoint) (b b' : Braces) (text rest : Text)
    (h : b.walk text = some b') (hstop : stop ∉ b.bare text) :
    b.before? stop (text ++ rest) = (b'.before? stop rest).map fun p => (text ++ p.1, p.2) := by
  induction text generalizing b with
  | nil =>
      cases h
      simp
  | cons c text ih =>
      obtain ⟨next, hnext, h⟩ := Option.bind_eq_some_iff.mp h
      rw [bare, hnext, List.mem_append, not_or] at hstop
      have hc : ¬ (b = outside ∧ c = stop) := fun ⟨hb, hc⟩ => hstop.1 (by simp [hb, hc])
      rw [List.cons_append, before?, if_neg hc, hnext]
      simp only [Option.bind_eq_bind, Option.bind_some, ih next h hstop.2]
      cases b'.before? stop rest <;> rfl

-- Where a text bears the stop outside of braces, it is not read to its end
theorem length_of_before? (stop : CodePoint) (b : Braces) (text rest : Text) (p : Text × Text)
    (hstop : stop ∈ b.bare text) (h : b.before? stop (text ++ rest) = some p) :
    p.1.length < text.length := by
  induction text generalizing b p with
  | nil => cases hstop
  | cons c text ih =>
      rw [List.cons_append, before?] at h
      split at h
      · cases h
        exact Nat.succ_pos _
      · rename_i hc
        obtain ⟨next, hnext, h⟩ := Option.bind_eq_some_iff.mp h
        obtain ⟨q, hq, h⟩ := Option.bind_eq_some_iff.mp h
        cases h
        rw [bare, hnext, List.mem_append] at hstop
        rcases hstop with hstop | hstop
        · split at hstop
          · exact absurd ⟨‹_›, (List.mem_singleton.mp hstop).symm⟩ hc
          · cases hstop
        · exact Nat.succ_lt_succ (ih next q hstop hq)

end Braces

-- Each brace of the text closes in the text, and it ends in no backslash that takes what follows
def Matched (text : Text) : Prop := Braces.outside.walk text = some .outside

instance (text : Text) : Decidable (Matched text) :=
  inferInstanceAs (Decidable (Braces.outside.walk text = some .outside))

theorem Matched.append (s t : Text) (hs : Matched s) (ht : Matched t) : Matched (s ++ t) := by
  rw [Matched, Braces.walk_append, hs]
  exact ht

theorem Matched.bare_append (s t : Text) (hs : Matched s) :
    Braces.outside.bare (s ++ t) = Braces.outside.bare s ++ Braces.outside.bare t :=
  Braces.bare_append _ _ s t hs

-- A matched text bears nothing outside of braces where the reader is in braces
theorem Braces.walk_matched (b : Braces) (hb : b.taken = false) (text : Text) (h : Matched text) :
    b.walk text = some b ∧
      b.bare text = if b = outside then outside.bare text else [] := by
  obtain ⟨taken, depth⟩ := b
  obtain rfl : taken = false := hb
  have hwalk := walk_deeper _ _ text depth h
  refine ⟨by simpa [outside] using hwalk, ?_⟩
  cases depth with
  | zero => rfl
  | succ depth =>
      have hbare := bare_deeper _ _ text depth h
      simpa [outside] using hbare

-- What is no brace and no backslash is read as it is
theorem Matched.of_plain (text : Text) (h : ∀ c ∈ text, c ∉ [.char '\\', .char '{', .char '}']) :
    Matched text ∧ Braces.outside.bare text = text := by
  induction text with
  | nil => exact ⟨rfl, rfl⟩
  | cons c rest ih =>
      rw [List.forall_mem_cons] at h
      obtain ⟨hclosed, hbare⟩ := ih h.2
      have hnext : Braces.outside.next? c = some .outside := by
        unfold Braces.next?
        grind [Braces.outside]
      refine ⟨?_, ?_⟩
      · rw [Matched, Braces.walk, hnext]
        exact hclosed
      · simp [Braces.bare, hnext, hbare]

theorem Matched.escape_singleton (c : CodePoint) : Matched (escape [c]).text ∧
    (.char ']' ∈ Braces.outside.bare (escape [c]).text ↔ .char ']' = c) := by
  have hcodes : ∀ r ∈ reserved, Matched r.2 ∧ .char ']' ∉ Braces.outside.bare r.2 ∧ r.1 ≠ ']' := by
    decide
  by_cases hc : ∃ r ∈ reserved, c = .char r.1
  · obtain ⟨r, hr, rfl⟩ := hc
    obtain ⟨hclosed, hbare, hne⟩ := hcodes r hr
    rw [escape_reserved r hr]
    exact ⟨hclosed, by simp [hbare, hne.symm]⟩
  · have hfree : ∀ r ∈ reserved, c ≠ .char r.1 := fun r hr heq => hc ⟨r, hr, heq⟩
    have hbraces : ['\\', '{', '}'] ⊆ reserved.map Prod.fst := by simp [reserved]
    have hplain : ∀ d ∈ [c], d ∉ [.char '\\', .char '{', .char '}'] := by
      refine List.forall_mem_singleton.mpr fun hmem => ?_
      obtain ⟨d, hd, rfl⟩ := List.mem_map.mp (show c ∈ ['\\', '{', '}'].map .char from hmem)
      obtain ⟨r, hr, hrd⟩ := List.mem_map.mp (hbraces hd)
      exact hfree r hr (congrArg _ hrd.symm)
    obtain ⟨hmatched, hbare⟩ := Matched.of_plain [c] hplain
    rw [escape_unreserved c hfree, hbare]
    exact ⟨hmatched, List.mem_singleton⟩

-- Escaped text is closed, and it bears the brackets that the text has
theorem Matched.escape (text : Text) : Matched (escape text).text ∧
    (.char ']' ∈ Braces.outside.bare (escape text).text ↔ .char ']' ∈ text) := by
  induction text with
  | nil => decide
  | cons c rest ih =>
      obtain ⟨hfirst, hbears⟩ := Matched.escape_singleton c
      rw [escape_cons]
      refine ⟨hfirst.append _ _ ih.1, ?_⟩
      rw [Matched.bare_append _ _ hfirst, List.mem_append, List.mem_cons, hbears, ih.2]

-- A row of matched texts bears what they bear, if what joins them does not
theorem Matched.join (separator : Text) (texts : List Text) (hseparator : Matched separator)
    (h : ∀ text ∈ texts, Matched text) : Matched (Text.join separator texts) ∧
      ∀ c, c ∉ Braces.outside.bare separator →
        (c ∈ Braces.outside.bare (Text.join separator texts) ↔
          ∃ text ∈ texts, c ∈ Braces.outside.bare text) := by
  induction texts with
  | nil => exact ⟨rfl, by simp [Text.join, Braces.bare]⟩
  | cons text rest ih =>
      rw [List.forall_mem_cons] at h
      obtain ⟨hmatched, hbare⟩ := ih h.2
      cases rest with
      | nil => simpa [Text.join] using h.1
      | cons next rest =>
          rw [Text.join_cons_cons]
          refine ⟨h.1.append _ _ (hseparator.append _ _ hmatched), fun c hc => ?_⟩
          rw [h.1.bare_append, hseparator.bare_append, List.mem_append, List.mem_append, hbare c hc,
            or_iff_right hc]
          simp only [List.mem_cons, exists_eq_or_imp]

-- What follows an opening, if the text begins with it
def after? (opening text : Text) : Option Text :=
  if opening.isPrefixOf text then some (text.drop opening.length) else none

theorem after?_append (opening text : Text) : after? opening (opening ++ text) = some text := by
  simp [after?]

-- The optional argument of a root and the group that follows it, with what is left
def readRoot? (text : Text) : Option (Text × Text × Text) := do
  let rest ← after? "\\sqrt[" text
  let (index, rest) ← Braces.outside.before? (.char ']') rest
  let rest ← after? "\x7b" rest
  let (radicand, rest) ← Braces.outside.before? (.char '}') rest
  return (index, radicand, rest)

theorem before?_of_matched (stop : CodePoint) (text rest : Text) (h : Matched text)
    (hstop : stop ∉ Braces.outside.bare text) :
    Braces.outside.before? stop (text ++ stop :: rest) = some (text, rest) := by
  rw [Braces.before?_append stop _ _ text _ h hstop, Braces.before?, if_pos ⟨rfl, rfl⟩]
  simp

-- A root is read back exactly if its index bears no bracket that would end the index
theorem readRoot?_eq_some_iff (index radicand rest : Text) (hindex : Matched index)
    (hradicand : Matched radicand) :
    readRoot? ("\\sqrt[" ++ index ++ "]\x7b" ++ radicand ++ "\x7d" ++ rest) =
        some (index, radicand, rest) ↔
      .char ']' ∉ Braces.outside.bare index := by
  have htext : Text.ofString "\\sqrt[" ++ index ++ "]\x7b" ++ radicand ++ "\x7d" ++ rest =
      Text.ofString "\\sqrt[" ++ (index ++ .char ']' :: (Text.ofString "\x7b" ++
        (radicand ++ .char '}' :: rest))) := by
    simp [Text.ofString, Text.ofChars]
  rw [htext, readRoot?, after?_append, Option.bind_eq_bind, Option.bind_some]
  constructor
  · intro h hbare
    obtain ⟨p, hp, h⟩ := Option.bind_eq_some_iff.mp h
    have hlength := Braces.length_of_before? _ _ _ _ p hbare hp
    obtain ⟨rest', -, h⟩ := Option.bind_eq_some_iff.mp h
    obtain ⟨q, -, h⟩ := Option.bind_eq_some_iff.mp h
    cases h
    exact Nat.lt_irrefl _ hlength
  · intro hbare
    have hclosing : .char '}' ∉ Braces.outside.bare radicand :=
      Braces.closing_notMem_bare _ _ radicand hradicand
    simp only [Option.bind_eq_bind, Option.bind_some, before?_of_matched _ _ _ hindex hbare,
      after?_append, before?_of_matched _ _ _ hradicand hclosing]
    rfl

end Formulary.Markup
