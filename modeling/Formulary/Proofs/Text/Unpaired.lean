import Formulary.Text.Unpaired
import Mathlib.Data.List.TakeWhile

namespace Formulary.Text

-- There is no half of a pair in the text, so that octets stand for all of it
def HasOctets (text : Text) : Prop := ∀ n, .half n ∉ text

-- The halves stand in the text: there is none before them, and none that follows them at once
def Unpaired.StandsIn (u : Unpaired) (text : Text) : Prop :=
  ∃ before run after, text = ofChars before ++ .half u.first :: (run ++ after) ∧
    u.position = before.length ∧ u.length = run.length + 1 ∧
    (∀ c ∈ run, c.isHalf = true) ∧ ∀ c ∈ after.head?, c.isHalf = false

theorem hasOctets_ofChars (characters : List Char) : HasOctets (ofChars characters) := by
  simp [HasOctets, ofChars]

@[simp]
theorem hasOctets_ofString (s : String) : HasOctets s := hasOctets_ofChars s.toList

@[simp]
theorem hasOctets_append (s t : Text) : HasOctets (s ++ t) ↔ HasOctets s ∧ HasOctets t := by
  simp [HasOctets, forall_and]

theorem hasOctets_join (separator : Text) (texts : List Text) (hseparator : separator.HasOctets)
    (h : ∀ text ∈ texts, text.HasOctets) : (join separator texts).HasOctets := by
  induction texts with
  | nil => simp [join, HasOctets]
  | cons text rest ih =>
      rw [List.forall_mem_cons] at h
      cases rest with
      | nil => simpa [join] using h.1
      | cons next rest =>
          rw [join_cons_cons, hasOctets_append, hasOctets_append]
          exact ⟨h.1, hseparator, ih h.2⟩

theorem not_hasOctets_iff (text : Text) : ¬ text.HasOctets ↔ ∃ n, .half n ∈ text := by
  simp [HasOctets]

theorem Unpaired.StandsIn.not_hasOctets (u : Unpaired) (text : Text) (h : u.StandsIn text) :
    ¬ text.HasOctets := by
  obtain ⟨before, run, after, rfl, -⟩ := h
  exact (not_hasOctets_iff _).mpr ⟨u.first, by simp⟩

theorem charactersFrom_eq_ok_iff (position : Nat) (text : Text) (characters : List Char) :
    charactersFrom position text = .ok characters ↔ text = ofChars characters := by
  fun_induction charactersFrom position text generalizing characters with
  | case1 => cases characters <;> simp [ofChars]
  | case2 position c rest ih =>
      constructor
      · intro h
        cases hrest : charactersFrom (position + 1) rest with
        | error u => simp [hrest] at h
        | ok more =>
            rw [hrest] at h
            cases h
            rw [(ih more).mp hrest]
            rfl
      · intro h
        cases characters with
        | nil => cases h
        | cons d more =>
            obtain ⟨hc, hrest⟩ := List.cons.inj h
            cases hc
            rw [(ih more).mpr hrest]
            rfl
  | case3 position n rest => cases characters <;> simp [ofChars]

theorem takeWhile_isHalf_append (run after : Text) (hrun : ∀ c ∈ run, c.isHalf = true)
    (hafter : ∀ c ∈ after.head?, c.isHalf = false) :
    (run ++ after).takeWhile CodePoint.isHalf = run := by
  have hstop : after.takeWhile CodePoint.isHalf = [] := by
    cases after with
    | nil => rfl
    | cons c rest => simp [hafter c rfl]
  rw [List.takeWhile_append_of_pos hrun, hstop, List.append_nil]

-- The scan stops at the first half, and takes the halves right behind it along
theorem charactersFrom_eq_error_iff (position : Nat) (text : Text) (u : Unpaired) :
    charactersFrom position text = .error u ↔
      ∃ before run after, text = ofChars before ++ .half u.first :: (run ++ after) ∧
        u.position = position + before.length ∧ u.length = run.length + 1 ∧
        (∀ c ∈ run, c.isHalf = true) ∧ ∀ c ∈ after.head?, c.isHalf = false := by
  fun_induction charactersFrom position text with
  | case1 => simp
  | case2 position c rest ih =>
      have hmap : (c :: ·) <$> charactersFrom (position + 1) rest = .error u ↔
          charactersFrom (position + 1) rest = .error u := by
        cases charactersFrom (position + 1) rest <;> simp
      rw [hmap, ih]
      constructor
      · rintro ⟨before, run, after, rfl, hposition, hrun⟩
        exact ⟨c :: before, run, after, rfl, by simp [hposition]; omega, hrun⟩
      · rintro ⟨before, run, after, htext, hposition, hrun⟩
        cases before with
        | nil => simp [ofChars] at htext
        | cons d before =>
            obtain ⟨-, hrest⟩ := List.cons.inj htext
            refine ⟨before, run, after, hrest, ?_, hrun⟩
            rw [hposition, List.length_cons]
            omega
  | case3 position n rest =>
      constructor
      · rintro ⟨⟩
        refine ⟨[], rest.takeWhile CodePoint.isHalf, rest.dropWhile CodePoint.isHalf, ?_, rfl, rfl,
          fun c hc => List.mem_takeWhile_imp hc, fun c hc => ?_⟩
        · rw [List.takeWhile_append_dropWhile]
          rfl
        · have hstop := List.head?_dropWhile_not CodePoint.isHalf rest
          rw [Option.mem_def.mp hc] at hstop
          simpa using hstop
      · rintro ⟨before, run, after, htext, hposition, hlength, hrun, hafter⟩
        cases before with
        | cons d before => simp [ofChars] at htext
        | nil =>
            obtain ⟨hn, rfl⟩ := List.cons.inj htext
            cases hn
            rw [takeWhile_isHalf_append run after hrun hafter]
            cases u
            simp_all

theorem characters_eq_ok_iff (text : Text) (characters : List Char) :
    text.characters = .ok characters ↔ text = ofChars characters :=
  charactersFrom_eq_ok_iff 0 text characters

-- A refusal is about halves of pairs that stand in the text, and these are refused
theorem characters_eq_error_iff (text : Text) (u : Unpaired) :
    text.characters = .error u ↔ u.StandsIn text := by
  rw [characters, charactersFrom_eq_error_iff]
  simp only [Nat.zero_add]
  rfl

-- A text with octets for all of it is made of characters
theorem hasOctets_iff (text : Text) : text.HasOctets ↔ ∃ characters, text.characters = .ok characters := by
  constructor
  · intro h
    cases hcharacters : text.characters with
    | ok characters => exact ⟨characters, rfl⟩
    | error u => exact absurd h ((characters_eq_error_iff text u).mp hcharacters).not_hasOctets
  · rintro ⟨characters, h⟩
    rw [(characters_eq_ok_iff text characters).mp h]
    exact hasOctets_ofChars characters

theorem exists_standsIn_iff (text : Text) : (∃ u : Unpaired, u.StandsIn text) ↔ ¬ text.HasOctets := by
  constructor
  · rintro ⟨u, hu⟩
    exact hu.not_hasOctets
  · intro h
    cases hcharacters : text.characters with
    | ok characters => exact absurd ((hasOctets_iff text).mpr ⟨characters, hcharacters⟩) h
    | error u => exact ⟨u, (characters_eq_error_iff text u).mp hcharacters⟩

end Formulary.Text
