import Formulary.Proofs.Markup.Escape
import Mathlib.Computability.Language

namespace Formulary.Markup

open scoped Computability

-- What a table makes of a character: the code in its first entry for it, or else the character itself
def codeIn (table : List (Char × Text)) (d : CodePoint) : Text :=
  match table.find? fun r => d = .char r.1 with
  | some r => r.2
  | none => [d]

-- No entry brings in a character that is still to be replaced
def Ordered (table : List (Char × Text)) : Prop :=
  table.Pairwise fun r later => .char later.1 ∉ r.2

instance (table : List (Char × Text)) : Decidable (Ordered table) :=
  inferInstanceAs (Decidable (table.Pairwise fun r later => .char later.1 ∉ r.2))

theorem codeIn_cons (r : Char × Text) (table : List (Char × Text)) (d : CodePoint) :
    codeIn (r :: table) d = if d = .char r.1 then r.2 else codeIn table d := by
  by_cases h : d = .char r.1 <;> simp [codeIn, h]

-- A table leaves a text alone that holds none of its characters
theorem flatMap_codeIn_of_notMem (table : List (Char × Text)) (text : Text)
    (h : ∀ r ∈ table, .char r.1 ∉ text) : text.flatMap (codeIn table) = text := by
  have hself : ∀ d ∈ text, codeIn table d = [d] := by
    intro d hd
    have hnone : table.find? (fun r => d = .char r.1) = none := by
      refine List.find?_eq_none.mpr fun r hr heq => h r hr ?_
      rwa [← of_decide_eq_true heq]
    rw [codeIn, hnone]
  rw [List.flatMap_congr hself, List.flatMap_singleton']

-- In an ordered table the replacements one after the other come to a single substitution. The
-- induction is on the table: what its first entry brings in goes through the rest as it is
theorem foldl_replace_eq_flatMap (table : List (Char × Text)) (h : Ordered table) (s : Text) :
    table.foldl (fun text r => replace r.1 r.2 text) s = s.flatMap (codeIn table) := by
  induction table generalizing s with
  | nil => exact (flatMap_codeIn_of_notMem [] s (by simp)).symm
  | cons r table ih =>
      obtain ⟨hr, htable⟩ := List.pairwise_cons.mp h
      rw [List.foldl_cons, ih htable, replace, List.flatMap_assoc]
      refine List.flatMap_congr fun d _ => ?_
      rw [codeIn_cons]
      split
      · exact flatMap_codeIn_of_notMem table r.2 hr
      · simp

-- A character on its way through a table, and whether a code has brought it in
structure Passing where
  point : CodePoint
  brought : Bool
  deriving DecidableEq, Repr

def pass (r : Char × Text) (text : List Passing) : List Passing :=
  text.flatMap fun d => if d.point = .char r.1 then r.2.map (⟨·, true⟩) else [d]

-- The text after the replacements of a table
def passes (table : List (Char × Text)) (s : Text) : List Passing :=
  table.foldl (fun text r => pass r text) (s.map (⟨·, false⟩))

theorem passes_concat (table : List (Char × Text)) (r : Char × Text) (s : Text) :
    passes (table ++ [r]) s = pass r (passes table s) := by
  simp [passes]

theorem map_point_pass (r : Char × Text) (text : List Passing) :
    (pass r text).map Passing.point = replace r.1 r.2 (text.map Passing.point) := by
  rw [pass, replace, List.map_flatMap, List.flatMap_map]
  refine List.flatMap_congr fun d _ => ?_
  split <;> simp [Function.comp_def]

-- To remember where characters come from changes nothing
theorem map_point_passes (table : List (Char × Text)) (s : Text) :
    (passes table s).map Passing.point = table.foldl (fun text r => replace r.1 r.2 text) s := by
  induction table using List.reverseRecOn with
  | nil => simp [passes, Function.comp_def]
  | append_singleton table r ih =>
      rw [passes_concat, map_point_pass, ih, List.foldl_append, List.foldl_cons, List.foldl_nil]

-- What is brought in stands in a code
theorem exists_code_of_brought (table : List (Char × Text)) (s : Text) (d : Passing)
    (hd : d ∈ passes table s) (hbrought : d.brought = true) : ∃ r ∈ table, d.point ∈ r.2 := by
  induction table using List.reverseRecOn with
  | nil =>
      obtain ⟨c, -, rfl⟩ := List.mem_map.mp hd
      cases hbrought
  | append_singleton table r ih =>
      rw [passes_concat, pass, List.mem_flatMap] at hd
      obtain ⟨e, he, hd⟩ := hd
      split at hd
      · obtain ⟨c, hc, rfl⟩ := List.mem_map.mp hd
        exact ⟨r, by simp, hc⟩
      · obtain rfl := List.mem_singleton.mp hd
        obtain ⟨r', hr', hmem⟩ := ih he
        exact ⟨r', List.mem_append_left _ hr', hmem⟩

-- An ordered table never comes back to a character that it has brought in
theorem point_ne_of_brought (before after : List (Char × Text)) (r : Char × Text)
    (h : Ordered (before ++ r :: after)) (s : Text) (d : Passing) (hd : d ∈ passes before s)
    (hbrought : d.brought = true) : d.point ≠ .char r.1 := by
  obtain ⟨r', hr', hmem⟩ := exists_code_of_brought before s d hd hbrought
  have hfree := (List.pairwise_append.mp h).2.2 r' hr' r List.mem_cons_self
  exact fun heq => hfree (heq ▸ hmem)

theorem ordered_reserved : Ordered reserved := by decide

theorem escape_eq_flatMap_codeIn (s : Text) : (escape s).text = s.flatMap (codeIn reserved) := by
  simp only [escape]
  rw [foldl_replace_eq_flatMap reserved ordered_reserved]

-- Escaping is one substitution for all characters at a time: no step of the table replaces what an earlier
-- one has brought in. So the parts of a text are escaped apart
theorem escape_substitutes_at_once :
    (∀ s : Text, (escape s).text = s.flatMap (codeIn reserved)) ∧
    (∀ (table : List (Char × Text)) (s : Text),
      (passes table s).map Passing.point = table.foldl (fun text r => replace r.1 r.2 text) s) ∧
    (∀ before r after, reserved = before ++ r :: after → ∀ s : Text, ∀ d ∈ passes before s,
      d.brought = true → d.point ≠ .char r.1) ∧
    ∀ s t : Text, (escape (s ++ t)).text = (escape s).text ++ (escape t).text := by
  refine ⟨escape_eq_flatMap_codeIn, map_point_passes, fun before r after htable s => ?_, escape_append⟩
  exact point_ne_of_brought before after r (htable ▸ ordered_reserved) s

-- What there is at the caret's turn: a brace's code has brought in a backslash and a brace, the underscore's
-- a backslash and an underscore, and neither has brought in a caret
theorem escape_substitutes_at_once_of_caret :
    let before := reserved.take 8
    let caret : Char × Text := ('^', "\\hat\x7b\x7d")
    let text : List Passing :=
      [⟨.char '\\', true⟩, ⟨.char '\x7b', true⟩, ⟨.char '^', false⟩, ⟨.char '\\', true⟩, ⟨.char '_', true⟩]
    reserved = before ++ caret :: reserved.drop 9 ∧ passes before "\x7b^_" = text ∧
      (∀ d ∈ text, d.brought = true → d.point ≠ .char '^') ∧
      (escape "\x7b^_").text = "\\\x7b\\hat\x7b\x7d\\_" := by
  intro before caret text
  obtain ⟨hflat, -, hfree, -⟩ := escape_substitutes_at_once
  have htable : reserved = before ++ caret :: reserved.drop 9 := rfl
  have htext : passes before "\x7b^_" = text := by decide
  refine ⟨htable, htext, fun d hd => hfree before caret _ htable "\x7b^_" d (htext ▸ hd), ?_⟩
  rw [hflat]
  decide

-- With the backslash last, it takes up the codes of the others
example : ¬ Ordered reserved.reverse ∧
    reserved.reverse.foldl (fun text r => replace r.1 r.2 text) "\x7b" = "\\backslash \x7b" := by
  decide

-- What escaped text is put together from: single characters that are not reserved, and codes
def pieces : Language CodePoint :=
  {w | (∃ d, w = [d] ∧ ∀ r ∈ reserved, d ≠ .char r.1) ∨ ∃ r ∈ reserved, w = r.2}

theorem codeIn_reserved : ∀ r ∈ reserved, codeIn reserved (.char r.1) = r.2 := by decide

theorem codeIn_of_unreserved (d : CodePoint) (h : ∀ r ∈ reserved, d ≠ .char r.1) :
    codeIn reserved d = [d] := by
  have hself := flatMap_codeIn_of_notMem reserved [d] fun r hr hmem =>
    h r hr (List.mem_singleton.mp hmem).symm
  rwa [List.flatMap_singleton] at hself

-- There is a piece for each character, and no other piece
theorem mem_pieces_iff (w : Text) : w ∈ pieces ↔ ∃ d, codeIn reserved d = w := by
  constructor
  · rintro (⟨d, rfl, hd⟩ | ⟨r, hr, rfl⟩)
    · exact ⟨d, codeIn_of_unreserved d hd⟩
    · exact ⟨.char r.1, codeIn_reserved r hr⟩
  · rintro ⟨d, rfl⟩
    by_cases h : ∃ r ∈ reserved, d = .char r.1
    · obtain ⟨r, hr, rfl⟩ := h
      exact .inr ⟨r, hr, codeIn_reserved r hr⟩
    · have hfree : ∀ r ∈ reserved, d ≠ .char r.1 := fun r hr hd => h ⟨r, hr, hd⟩
      exact .inl ⟨d, codeIn_of_unreserved d hfree, hfree⟩

-- A row of pieces is the text of its characters, escaped one by one
theorem exists_map_codeIn (row : List Text) (h : ∀ w ∈ row, w ∈ pieces) :
    ∃ s : Text, s.map (codeIn reserved) = row := by
  induction row with
  | nil => exact ⟨[], rfl⟩
  | cons w row ih =>
      rw [List.forall_mem_cons] at h
      obtain ⟨d, rfl⟩ := (mem_pieces_iff w).mp h.1
      obtain ⟨s, rfl⟩ := ih h.2
      exact ⟨d :: s, rfl⟩

theorem escape_eq_flatten (s : Text) : (escape s).text = (s.map (codeIn reserved)).flatten := by
  rw [escape_eq_flatMap_codeIn, List.flatMap_def]

theorem mem_kstar_pieces_iff (t : Text) : t ∈ pieces∗ ↔ ∃ s, (escape s).text = t := by
  rw [Language.mem_kstar]
  constructor
  · rintro ⟨row, rfl, hrow⟩
    obtain ⟨s, rfl⟩ := exists_map_codeIn row hrow
    exact ⟨s, escape_eq_flatten s⟩
  · rintro ⟨s, rfl⟩
    refine ⟨s.map (codeIn reserved), escape_eq_flatten s, ?_⟩
    rw [List.forall_mem_map]
    exact fun d _ => (mem_pieces_iff _).mpr ⟨d, rfl⟩

-- The one scan finds the pieces that a text was put together from
theorem map_unescape_flatten (row : List Text) (h : ∀ w ∈ row, w ∈ pieces) :
    (unescape row.flatten).map (codeIn reserved) = row := by
  obtain ⟨s, rfl⟩ := exists_map_codeIn row h
  rw [← escape_eq_flatten, unescape_escape]

theorem escape_unescape_eq_iff (t : Text) : (escape (unescape t)).text = t ↔ t ∈ pieces∗ := by
  rw [mem_kstar_pieces_iff]
  constructor
  · exact fun h => ⟨unescape t, h⟩
  · rintro ⟨s, rfl⟩
    rw [unescape_escape]

instance (t : Text) : Decidable (t ∈ pieces∗) := decidable_of_iff _ (escape_unescape_eq_iff t)

-- Escaped text is what is put together from pieces, in one way only, and unescaping finds that way. On
-- these texts, and on no others, escaping leads back to where unescaping came from
theorem escape_undoes_unescape_iff :
    (∀ t : Text, (escape (unescape t)).text = t ↔ t ∈ pieces∗) ∧
    {t | t ∈ pieces∗} = Set.range (fun s : Text => (escape s).text) ∧
    Set.InjOn unescape {t | t ∈ pieces∗} ∧
    ∀ row : List Text, (∀ w ∈ row, w ∈ pieces) →
      (unescape row.flatten).map (codeIn reserved) = row := by
  refine ⟨escape_unescape_eq_iff, Set.ext mem_kstar_pieces_iff, fun t ht t' ht' h => ?_,
    map_unescape_flatten⟩
  have hback := (escape_unescape_eq_iff t).mpr ht
  have hback' := (escape_unescape_eq_iff t').mpr ht'
  rw [← hback, h, hback']

-- A brace by itself, a word that is no code, and a code without the blank at its end
example : ∀ s ∈ ["\x7b", "\\sin", "\\backslash"], Text.ofString s ∉ pieces∗ := by decide +kernel

end Formulary.Markup
