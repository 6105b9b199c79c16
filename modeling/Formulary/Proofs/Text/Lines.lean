import Formulary.Text.Lines
import Mathlib.Data.List.DropRight

namespace Formulary.Text

section Counting

variable {α β : Type} (f : α → List β) (items : List α) (h : ∀ a ∈ items, f a ≠ [])

include h

-- Where nothing goes to nothing, the number stays just if each goes to one
theorem length_flatMap_eq_iff :
    items.length ≤ (items.flatMap f).length ∧
      ((items.flatMap f).length = items.length ↔ ∀ a ∈ items, (f a).length = 1) := by
  induction items with
  | nil => simp
  | cons a rest ih =>
      rw [List.forall_mem_cons] at h
      obtain ⟨hle, hiff⟩ := ih h.2
      have hpos := List.length_pos_iff.mpr h.1
      rw [List.flatMap_cons, List.length_append, List.length_cons, List.forall_mem_cons, ← hiff]
      omega

end Counting

section Cut

variable {α : Type} (isEnd : α → Bool)

theorem pieces_eq_splitOnP (text : List α) : pieces isEnd text = text.splitOnP isEnd := by
  induction text with
  | nil => exact List.splitOnP_nil.symm
  | cons c rest ih =>
      rw [pieces, ih, List.splitOnP_cons_eq_if_modifyHead]
      cases isEnd c with
      | true => rfl
      | false =>
          cases hrest : rest.splitOnP isEnd with
          | nil => exact absurd hrest (List.splitOnP_ne_nil isEnd rest)
          | cons piece more => rfl

-- A text has no end in it, or it falls apart at one
theorem cut_induction {motive : List α → Prop}
    (free : ∀ x, (∀ c ∈ x, isEnd c = false) → motive x)
    (cut : ∀ x c y, isEnd c = true → motive x → motive y → motive (x ++ c :: y))
    (text : List α) : motive text := by
  by_cases h : ∃ c ∈ text, isEnd c = true
  · obtain ⟨c, hmem, hc⟩ := h
    obtain ⟨x, y, htext⟩ := List.append_of_mem hmem
    rw [htext]
    exact cut x c y hc (cut_induction free cut x) (cut_induction free cut y)
  · exact free text fun c hc => by simpa using fun hend => h ⟨c, hc, hend⟩
  termination_by text.length
  decreasing_by
    · simp [htext]
    · simp [htext]
      omega

end Cut

-- What comes out the same for a text with one more blank before or behind it
structure IgnoresBlanks {α : Type} (f : List Char → α) : Prop where
  cons : ∀ b text, isBlank b = true → f (b :: text) = f text
  concat : ∀ b text, isBlank b = true → f (text ++ [b]) = f text

section Trimmed

variable {α : Type} (isBlank : α → Bool) (items : List α)

-- What is trimmed off
theorem exists_trim : ∃ before after, items = before ++ (trim isBlank items ++ after) ∧
    (∀ c ∈ before, isBlank c = true) ∧ ∀ c ∈ after, isBlank c = true := by
  refine ⟨items.takeWhile isBlank, (items.dropWhile isBlank).rtakeWhile isBlank, ?_,
    fun c hc => List.mem_takeWhile_imp hc, fun c hc => List.mem_rtakeWhile_imp hc⟩
  have htrim : trim isBlank items = (items.dropWhile isBlank).rdropWhile isBlank := rfl
  rw [htrim, List.rdropWhile_append_rtakeWhile, List.takeWhile_append_dropWhile]

theorem mem_trim_iff (a : α) (h : isBlank a = false) : a ∈ trim isBlank items ↔ a ∈ items := by
  obtain ⟨before, after, hitems, hbefore, hafter⟩ := exists_trim isBlank items
  have hother (blanks : List α) (hblanks : ∀ c ∈ blanks, isBlank c = true) : a ∉ blanks := fun hmem =>
    Bool.false_ne_true (h.symm.trans (hblanks a hmem))
  have hmem : a ∈ items ↔ a ∈ before ++ (trim isBlank items ++ after) := by rw [← hitems]
  rw [hmem, List.mem_append, List.mem_append, or_iff_right (hother before hbefore),
    or_iff_left (hother after hafter)]

end Trimmed

theorem exists_strip (text : List Char) : ∃ before after, text = before ++ (strip text ++ after) ∧
    (∀ c ∈ before, isBlank c = true) ∧ ∀ c ∈ after, isBlank c = true := exists_trim isBlank text

namespace IgnoresBlanks

variable {α : Type} {f : List Char → α} (hf : IgnoresBlanks f)

include hf

theorem blank_append (before text : List Char) (h : ∀ c ∈ before, isBlank c = true) :
    f (before ++ text) = f text := by
  induction before with
  | nil => rfl
  | cons c before ih =>
      rw [List.forall_mem_cons] at h
      rw [List.cons_append, hf.cons c _ h.1, ih h.2]

theorem append_blank (text after : List Char) (h : ∀ c ∈ after, isBlank c = true) :
    f (text ++ after) = f text := by
  induction after using List.reverseRecOn with
  | nil => rw [List.append_nil]
  | append_singleton after c ih =>
      rw [List.forall_mem_append, List.forall_mem_singleton] at h
      rw [← List.append_assoc, hf.concat c _ h.2, ih h.1]

theorem apply_strip (text : List Char) : f (strip text) = f text := by
  obtain ⟨before, after, htext, hbefore, hafter⟩ := exists_strip text
  calc
    f (strip text) = f (strip text ++ after) := (hf.append_blank _ after hafter).symm
    _ = f (before ++ (strip text ++ after)) := (hf.blank_append before _ hbefore).symm
    _ = f text := by rw [← htext]

end IgnoresBlanks

theorem ignoresBlanks_strip : IgnoresBlanks strip where
  cons b text hb := by simp [strip, trim, hb]
  concat b text hb := by
    change ((text ++ [b]).dropWhile isBlank).rdropWhile isBlank =
      (text.dropWhile isBlank).rdropWhile isBlank
    rw [List.dropWhile_append]
    split
    · rename_i hempty
      simp [List.isEmpty_iff.mp hempty, hb]
    · rw [List.rdropWhile_concat_pos _ _ _ hb]

theorem length_strip_le (text : List Char) : (strip text).length ≤ text.length := by
  obtain ⟨before, after, htext, -, -⟩ := exists_strip text
  have hlength := congrArg List.length htext
  simp only [List.length_append] at hlength
  omega

theorem isBlank_of_strip_eq_nil (text : List Char) (h : strip text = []) :
    ∀ c ∈ text, isBlank c = true := by
  obtain ⟨before, after, htext, hbefore, hafter⟩ := exists_strip text
  rw [htext, h, List.nil_append]
  exact List.forall_mem_append.mpr ⟨hbefore, hafter⟩

section Filled

variable (isEnd : Char → Bool)

theorem filledLines_append_cons (x : List Char) (c : Char) (y : List Char) (hc : isEnd c = true) :
    filledLines isEnd (x ++ c :: y) = filledLines isEnd x ++ filledLines isEnd y := by
  simp [filledLines, pieces_eq_splitOnP, List.splitOnP_append_cons x y hc]

theorem filledLines_of_free (x : List Char) (h : ∀ c ∈ x, isEnd c = false) :
    filledLines isEnd x = if strip x = [] then [] else [strip x] := by
  rw [filledLines, pieces_eq_splitOnP, List.splitOnP_eq_singleton h]
  by_cases hx : strip x = [] <;> simp [hx]

theorem filledLines_nil : filledLines isEnd [] = [] := by
  simp [filledLines_of_free, strip, trim]

-- Each line is there for itself: it is not empty, and there are no blanks around it
theorem mem_filledLines (text line : List Char) (h : line ∈ filledLines isEnd text) :
    line ≠ [] ∧ strip line = line := by
  obtain ⟨hmem, hfilled⟩ := List.mem_filter.mp h
  obtain ⟨piece, -, rfl⟩ := List.mem_map.mp hmem
  exact ⟨by simpa using hfilled, ignoresBlanks_strip.apply_strip piece⟩

-- The induction is on the ends in the text. A blank in front belongs to the first line, if it is no end
theorem ignoresBlanks_filledLines : IgnoresBlanks (filledLines isEnd) where
  cons b text hb := by
    cases hend : isEnd b with
    | true =>
        have hcut := filledLines_append_cons isEnd [] b text hend
        rwa [filledLines_nil, List.nil_append, List.nil_append] at hcut
    | false =>
        induction text using cut_induction isEnd with
        | free x hx =>
            have hcons : ∀ c ∈ b :: x, isEnd c = false := List.forall_mem_cons.mpr ⟨hend, hx⟩
            rw [filledLines_of_free isEnd _ hcons, filledLines_of_free isEnd x hx,
              ignoresBlanks_strip.cons b x hb]
        | cut x c y hc ihx _ =>
            rw [← List.cons_append, filledLines_append_cons isEnd _ c y hc, ihx,
              filledLines_append_cons isEnd x c y hc]
  concat b text hb := by
    cases hend : isEnd b with
    | true => rw [filledLines_append_cons isEnd text b [] hend, filledLines_nil, List.append_nil]
    | false =>
        induction text using cut_induction isEnd with
        | free x hx =>
            have hconcat : ∀ c ∈ x ++ [b], isEnd c = false :=
              List.forall_mem_append.mpr ⟨hx, List.forall_mem_singleton.mpr hend⟩
            rw [filledLines_of_free isEnd _ hconcat, filledLines_of_free isEnd x hx,
              ignoresBlanks_strip.concat b x hb]
        | cut x c y hc _ ihy =>
            rw [List.append_assoc, List.cons_append, filledLines_append_cons isEnd x c _ hc, ihy,
              filledLines_append_cons isEnd x c y hc]

end Filled

section Refined

variable (coarse fine : Char → Bool)

-- Where more characters end a line, the lines fall apart further
theorem filledLines_eq_flatMap (h : ∀ c, coarse c = true → fine c = true) (text : List Char) :
    filledLines fine text = (filledLines coarse text).flatMap (filledLines fine) := by
  induction text using cut_induction coarse with
  | free x hx =>
      have hstrip := (ignoresBlanks_filledLines fine).apply_strip x
      rw [filledLines_of_free coarse x hx]
      split
      · rename_i hblank
        rw [← hstrip, hblank, filledLines_nil, List.flatMap_nil]
      · rw [List.flatMap_singleton, hstrip]
  | cut x c y hc ihx ihy =>
      rw [filledLines_append_cons coarse x c y hc, filledLines_append_cons fine x c y (h c hc),
        List.flatMap_append, ← ihx, ← ihy]

variable (hblank : ∀ c, fine c = true → isBlank c = true)

include hblank

-- There is no line only where there is nothing but blanks
theorem isBlank_of_filledLines_eq_nil (text : List Char) (h : filledLines fine text = []) :
    ∀ c ∈ text, isBlank c = true := by
  induction text using cut_induction fine with
  | free x hx =>
      rw [filledLines_of_free fine x hx] at h
      refine isBlank_of_strip_eq_nil x ?_
      by_contra hne
      rw [if_neg hne] at h
      cases h
  | cut x c y hc ihx ihy =>
      rw [filledLines_append_cons fine x c y hc, List.append_eq_nil_iff] at h
      refine List.forall_mem_append.mpr ⟨ihx h.1, List.forall_mem_cons.mpr ⟨hblank c hc, ihy h.2⟩⟩

-- An end inside of a stripped line leaves something on both of its sides
theorem notMem_of_length_filledLines (line : List Char) (hline : strip line = line)
    (h : (filledLines fine line).length = 1) : ∀ c ∈ line, fine c = false := by
  intro c hmem
  by_contra hc
  rw [Bool.not_eq_false] at hc
  obtain ⟨x, y, hxy⟩ := List.append_of_mem hmem
  have hx : filledLines fine x ≠ [] := by
    intro hnil
    have hbefore : ∀ d ∈ x ++ [c], isBlank d = true :=
      List.forall_mem_append.mpr
        ⟨isBlank_of_filledLines_eq_nil fine hblank x hnil, List.forall_mem_singleton.mpr (hblank c hc)⟩
    have hstrip := ignoresBlanks_strip.blank_append (x ++ [c]) y hbefore
    have hle := length_strip_le y
    rw [List.append_assoc, List.singleton_append, ← hxy, hline] at hstrip
    rw [← hstrip, hxy, List.length_append, List.length_cons] at hle
    omega
  have hy : filledLines fine y ≠ [] := by
    intro hnil
    have hafter : ∀ d ∈ c :: y, isBlank d = true :=
      List.forall_mem_cons.mpr ⟨hblank c hc, isBlank_of_filledLines_eq_nil fine hblank y hnil⟩
    have hstrip := ignoresBlanks_strip.append_blank x (c :: y) hafter
    have hle := length_strip_le x
    rw [← hxy, hline] at hstrip
    rw [← hstrip, hxy, List.length_append, List.length_cons] at hle
    omega
  have hxpos := List.length_pos_iff.mpr hx
  have hypos := List.length_pos_iff.mpr hy
  rw [hxy, filledLines_append_cons fine x c y hc, List.length_append] at h
  omega

-- The lines stay what they are exactly if none of the further ends is inside of one
theorem filledLines_eq_filledLines_iff (h : ∀ c, coarse c = true → fine c = true)
    (text : List Char) :
    filledLines fine text = filledLines coarse text ↔
      ∀ line ∈ filledLines coarse text, ∀ c ∈ line, fine c = false := by
  have hlines := mem_filledLines coarse text
  rw [filledLines_eq_flatMap coarse fine h text]
  constructor
  · intro heq line hline
    have hne : ∀ l ∈ filledLines coarse text, filledLines fine l ≠ [] := by
      intro l hl hnil
      obtain ⟨hfilled, hstrip⟩ := hlines l hl
      have hvoid := ignoresBlanks_strip.append_blank [] l
        (isBlank_of_filledLines_eq_nil fine hblank l hnil)
      rw [List.nil_append, hstrip] at hvoid
      exact hfilled hvoid
    have hone := (length_flatMap_eq_iff _ _ hne).2.mp (congrArg List.length heq)
    exact notMem_of_length_filledLines fine hblank line (hlines line hline).2 (hone line hline)
  · intro hfree
    have hself : ∀ line ∈ filledLines coarse text, filledLines fine line = [line] := by
      intro line hline
      obtain ⟨hfilled, hstrip⟩ := hlines line hline
      rw [filledLines_of_free fine line (hfree line hline), hstrip, if_neg hfilled]
    rw [List.flatMap_congr hself, List.flatMap_singleton']

end Refined

end Formulary.Text
