import Formulary.Proofs.Binding.Enclosure

namespace Formulary

namespace Text

-- A number sign and a decimal digit of this value stand in the text
def HasSlot (text : Text) (number : Nat) : Prop :=
  ∃ d, [.char '#', .char d] <:+: text ∧ digitValue? d = some number

theorem hasSlot_cons_iff (c : CodePoint) (text : Text) (number : Nat) :
    HasSlot (c :: text) number ↔
      (c = .char '#' ∧ ∃ d after, text = .char d :: after ∧ digitValue? d = some number) ∨
        HasSlot text number := by
  simp only [HasSlot, List.infix_cons_iff, or_and_right, exists_or]
  refine or_congr_left ⟨?_, ?_⟩
  · rintro ⟨d, ⟨after, hprefix⟩, hd⟩
    cases hprefix
    exact ⟨rfl, d, after, rfl, hd⟩
  · rintro ⟨rfl, d, after, rfl, hd⟩
    exact ⟨d, ⟨after, rfl⟩, hd⟩

theorem not_hasSlot_nil (number : Nat) : ¬ HasSlot [] number := by simp [HasSlot]

end Text

-- A text cut at slots: what stands before each slot with the number of it, and what is left
structure Cut where
  segments : List (Text × Nat)
  last : Text

namespace Cut

-- The cut of a pattern. No slot stands in what comes before a slot, so each is the leftmost one
inductive Of : Text → Cut → Prop
  | last (text : Text) (literal : ∀ number, ¬ text.HasSlot number) : Of text ⟨[], text⟩
  | slot (before : Text) (d : Char) (number : Nat) (after : Text) (cut : Cut)
      (literal : ∀ number, ¬ before.HasSlot number) (digit : Text.digitValue? d = some number)
      (rest : Of after cut) :
      Of (before ++ .char '#' :: .char d :: after) ⟨(before, number) :: cut.segments, cut.last⟩

def numbers (cut : Cut) : List Nat := cut.segments.map Prod.snd

def highest (cut : Cut) : Nat := cut.numbers.foldr max 0

-- Each slot replaced by the argument of its number, and the rest as it is
def fill (cut : Cut) (args : List Text) : Text :=
  cut.segments.flatMap (fun s => s.1 ++ args.getD (s.2 - 1) []) ++ cut.last

def pieces (cut : Cut) : List Piece :=
  cut.segments.flatMap (fun s => s.1.map .literal ++ [.slot s.2]) ++ cut.last.map .literal

theorem slots_pieces (cut : Cut) : Piece.slots cut.pieces = cut.numbers := by
  have hliteral : ∀ text : Text, (text.map Piece.literal).filterMap Piece.slot? = [] := fun text => by
    simp [List.filterMap_map, Function.comp_def, Piece.slot?]
  simp only [Piece.slots, pieces, numbers, List.filterMap_append, List.filterMap_flatMap, hliteral,
    List.append_nil, List.nil_append]
  induction cut.segments with
  | nil => rfl
  | cons s rest ih => exact congrArg (s.2 :: ·) ih

theorem flatMap_pieces (cut : Cut) (args : List Text) :
    cut.pieces.flatMap (Piece.fill args) = cut.fill args := by
  simp only [pieces, fill, List.flatMap_append, List.flatMap_assoc, Rendering.flatMap_literal,
    List.flatMap_singleton]
  rfl

-- A character laid before a text that is cut already
def cons (c : CodePoint) : Cut → Cut
  | ⟨[], last⟩ => ⟨[], c :: last⟩
  | ⟨(text, number) :: rest, last⟩ => ⟨(c :: text, number) :: rest, last⟩

-- The cut that pieces come from
def ofPieces : List Piece → Cut
  | [] => ⟨[], []⟩
  | .literal c :: rest => (ofPieces rest).cons c
  | .slot number :: rest => ⟨([], number) :: (ofPieces rest).segments, (ofPieces rest).last⟩

theorem ofPieces_literals (text : Text) : ofPieces (text.map .literal) = ⟨[], text⟩ := by
  induction text with
  | nil => rfl
  | cons c rest ih => rw [List.map_cons, ofPieces, ih, cons]

theorem ofPieces_literals_slot (text : Text) (number : Nat) (rest : List Piece) :
    ofPieces (text.map .literal ++ .slot number :: rest) =
      ⟨(text, number) :: (ofPieces rest).segments, (ofPieces rest).last⟩ := by
  induction text with
  | nil => rfl
  | cons c text ih => rw [List.map_cons, List.cons_append, ofPieces, ih, cons]

theorem ofPieces_pieces (cut : Cut) : ofPieces cut.pieces = cut := by
  obtain ⟨segments, last⟩ := cut
  induction segments with
  | nil => exact ofPieces_literals last
  | cons s rest ih =>
      have hcons : pieces ⟨s :: rest, last⟩ =
          s.1.map .literal ++ .slot s.2 :: pieces ⟨rest, last⟩ := by simp [pieces]
      rw [hcons, ofPieces_literals_slot, ih]

end Cut

namespace Piece

-- A character that begins no slot is a literal one
theorem ofPattern_cons (c : CodePoint) (text : Text)
    (h : ∀ d after, c = .char '#' → text = .char d :: after → Text.digitValue? d = none) :
    ofPattern (c :: text) = .literal c :: ofPattern text := by
  rw [ofPattern.eq_def]
  split
  · rename_i heq
    cases heq
  · rename_i d rest heq
    cases heq
    simp [h d rest rfl rfl]
  · rename_i heq
    cases heq
    rfl

theorem ofPattern_slot (d : Char) (number : Nat) (text : Text) (h : Text.digitValue? d = some number) :
    ofPattern (.char '#' :: .char d :: text) = .slot number :: ofPattern text := by
  rw [ofPattern, h]

-- The number sign is no digit, so it cannot make a slot of the number sign before it
theorem ofPattern_literals_append (before after : Text) (h : ∀ number, ¬ before.HasSlot number)
    (hafter : ∀ d rest, after = .char d :: rest → Text.digitValue? d = none) :
    ofPattern (before ++ after) = before.map .literal ++ ofPattern after := by
  induction before with
  | nil => rfl
  | cons c rest ih =>
      have hrest : ∀ number, ¬ Text.HasSlot rest number := fun number hslot =>
        h number ((Text.hasSlot_cons_iff _ _ _).mpr (.inr hslot))
      have hcons : ofPattern (c :: (rest ++ after)) = .literal c :: ofPattern (rest ++ after) := by
        refine ofPattern_cons _ _ fun d more hc hmore => ?_
        cases rest with
        | nil => exact hafter d more hmore
        | cons e rest =>
            obtain ⟨rfl, -⟩ := List.cons.inj hmore
            refine Option.eq_none_iff_forall_ne_some.mpr fun number hd => ?_
            exact h number ((Text.hasSlot_cons_iff _ _ _).mpr (.inl ⟨hc, d, rest, rfl, hd⟩))
      rw [List.cons_append, hcons, ih hrest]
      rfl

end Piece

namespace Cut

theorem Of.ofPattern_eq {pattern : Text} {cut : Cut} (h : Of pattern cut) :
    Piece.ofPattern pattern = cut.pieces := by
  induction h with
  | last text literal =>
      have h := Piece.ofPattern_literals_append text [] literal (by simp)
      rwa [List.append_nil, show Piece.ofPattern [] = [] from rfl, List.append_nil] at h
  | slot before d number after cut literal digit _ ih =>
      have hsign : ∀ e rest, CodePoint.char '#' :: .char d :: after = .char e :: rest →
          Text.digitValue? e = none := by
        rintro e rest heq
        cases heq
        decide
      rw [Piece.ofPattern_literals_append before _ literal hsign, Piece.ofPattern_slot d number after digit,
        ih]
      simp [pieces]

theorem Of.cons (c : CodePoint) (text : Text) (cut : Cut) (h : Of text cut)
    (hc : ∀ d after, c = .char '#' → text = .char d :: after → Text.digitValue? d = none) :
    Of (c :: text) (cut.cons c) := by
  have hslot : ∀ before after, text = before ++ after → (∀ number, ¬ Text.HasSlot before number) →
      ∀ number, ¬ Text.HasSlot (c :: before) number := by
    rintro before after rfl hbefore number hslot
    rcases (Text.hasSlot_cons_iff _ _ _).mp hslot with ⟨rfl, d, more, rfl, hd⟩ | hslot
    · rw [hc d (more ++ after) rfl rfl] at hd
      cases hd
    · exact hbefore number hslot
  cases h with
  | last text literal =>
      exact .last _ (hslot text [] (List.append_nil _).symm literal)
  | slot before d number after cut literal digit rest =>
      exact .slot (c :: before) d number after cut (hslot before _ rfl literal) digit rest

theorem of_ofPattern (pattern : Text) : Of pattern (ofPieces (Piece.ofPattern pattern)) := by
  fun_induction Piece.ofPattern pattern with
  | case1 => exact .last [] Text.not_hasSlot_nil
  | case2 d rest number hd ih => exact .slot [] d number rest _ Text.not_hasSlot_nil hd ih
  | case3 d rest hd ih =>
      refine ih.cons _ _ _ fun e after _ heq => ?_
      obtain ⟨rfl, -⟩ := CodePoint.char.inj (List.cons.inj heq).1
      exact hd
  | case4 c rest hc ih =>
      refine ih.cons _ _ _ fun d after hsign heq => ?_
      exact (hc d after hsign heq).elim

-- There is one way to cut a pattern
theorem of_iff (pattern : Text) (cut : Cut) :
    Of pattern cut ↔ ofPieces (Piece.ofPattern pattern) = cut := by
  constructor
  · intro h
    rw [h.ofPattern_eq, ofPieces_pieces]
  · rintro rfl
    exact of_ofPattern pattern

-- The slots that a template is made of are those of the cut
theorem slots_and_highest (pattern : Text) (cut : Cut) (hcut : Of pattern cut) :
    Piece.slots (Piece.ofPattern pattern) = cut.numbers ∧
      Piece.highest (Piece.ofPattern pattern) = cut.highest := by
  rw [Piece.highest, hcut.ofPattern_eq, cut.slots_pieces, Cut.highest]
  exact ⟨rfl, rfl⟩

end Cut

namespace Template

-- What a pattern is refused for: a slot numbered zero first, then an arity that leaves a slot without
-- its argument
theorem ofPattern_eq_error_iff (name pattern : Text) (arity : Option Int) (fault : Fault) :
    ofPattern name pattern arity = .error fault ↔
      (0 ∈ Piece.slots (Piece.ofPattern pattern) ∧ fault = .slotZero name) ∨
      (0 ∉ Piece.slots (Piece.ofPattern pattern) ∧ ∃ n, arity = some n ∧
        n < Piece.highest (Piece.ofPattern pattern) ∧
        fault = .beyond name (Piece.highest (Piece.ofPattern pattern)) n) := by
  have hpos : (∀ number ∈ Piece.slots (Piece.ofPattern pattern), 0 < number) ↔
      0 ∉ Piece.slots (Piece.ofPattern pattern) := by
    refine ⟨fun h hzero => absurd (h 0 hzero) (by omega), fun h number hnumber => ?_⟩
    exact Nat.pos_of_ne_zero fun hzero => h (hzero ▸ hnumber)
  by_cases hzero : 0 ∈ Piece.slots (Piece.ofPattern pattern)
  · rw [ofPattern, dif_neg (fun h => hpos.mp h hzero)]
    simp [hzero, eq_comm]
  · rw [ofPattern, dif_pos (hpos.mpr hzero)]
    cases arity with
    | none => simp [hzero]
    | some n =>
        by_cases hle : (Piece.highest (Piece.ofPattern pattern) : Int) ≤ n
        · simp [hzero, hle, Int.not_lt.mpr hle]
        · simp [hzero, hle, Int.not_le.mp hle, eq_comm]

theorem ofPattern_eq_ok_imp (name pattern : Text) (arity : Option Int) (t : Template)
    (h : ofPattern name pattern arity = .ok t) :
    t.pieces = Piece.ofPattern pattern ∧
      (t.arity : Int) = arity.getD (Piece.highest (Piece.ofPattern pattern)) := by
  by_cases hpos : ∀ number ∈ Piece.slots (Piece.ofPattern pattern), 0 < number
  · rw [ofPattern, dif_pos hpos] at h
    cases arity with
    | none =>
        cases h
        exact ⟨rfl, rfl⟩
    | some n =>
        by_cases hle : (Piece.highest (Piece.ofPattern pattern) : Int) ≤ n
        · replace h := (dif_pos hle).symm.trans h
          cases h
          exact ⟨rfl, Int.toNat_of_nonneg (by omega)⟩
        · replace h := (dif_neg hle).symm.trans h
          cases h
  · rw [ofPattern, dif_neg hpos] at h
    cases h

-- What there is to say against the slots of a pattern: the number zero first, then an arity below the
-- highest number
def slotFaults (name pattern : Text) (arity : Option Int) : List Fault :=
  let cut := Cut.ofPieces (Piece.ofPattern pattern)
  if 0 ∈ cut.numbers then [.slotZero name]
  else match arity with
    | none => []
    | some n => if n < cut.highest then [.beyond name cut.highest n] else []

theorem reports_ofPattern (name pattern : Text) (arity : Option Int) :
    Reports (ofPattern name pattern arity) (slotFaults name pattern arity) := by
  intro fault
  obtain ⟨hslots, hhighest⟩ := Cut.slots_and_highest pattern _ (Cut.of_ofPattern pattern)
  rw [ofPattern_eq_error_iff, hslots, hhighest]
  unfold slotFaults
  generalize Cut.ofPieces (Piece.ofPattern pattern) = cut
  by_cases hzero : 0 ∈ cut.numbers
  · simp [hzero, eq_comm]
  · cases arity with
    | none => simp [hzero]
    | some n => by_cases hlow : n < cut.highest <;> simp [hzero, hlow, eq_comm]

theorem ofPattern_isOk_iff (name pattern : Text) (arity : Option Int) (cut : Cut)
    (hcut : Cut.Of pattern cut) :
    (∃ t, ofPattern name pattern arity = .ok t) ↔
      0 ∉ cut.numbers ∧ ∀ n, arity = some n → cut.highest ≤ n := by
  rw [(reports_ofPattern name pattern arity).isOk_iff]
  unfold slotFaults
  rw [(Cut.of_iff pattern cut).mp hcut]
  by_cases hzero : 0 ∈ cut.numbers
  · simp [hzero]
  · cases arity <;> simp [hzero]

-- A template sets its pattern with each slot replaced by the argument of its number, all at once. What is
-- refused is a slot numbered zero and an arity that leaves a slot without its argument
theorem invoke_eq_fill_cut (name pattern : Text) (arity : Option Int) :
    ∃ cut, Cut.Of pattern cut ∧ (∀ other, Cut.Of pattern other → other = cut) ∧
      (∀ fault, ofPattern name pattern arity = .error fault ↔
        (0 ∈ cut.numbers ∧ fault = .slotZero name) ∨
        (0 ∉ cut.numbers ∧ ∃ n, arity = some n ∧ n < cut.highest ∧
          fault = .beyond name cut.highest n)) ∧
      ∀ t, ofPattern name pattern arity = .ok t →
        (t.arity : Int) = arity.getD cut.highest ∧
        ∀ args, args.length = t.arity →
          (∀ number ∈ cut.numbers, 1 ≤ number ∧ number ≤ args.length) ∧
          (FunctionBinding.mk name (.template t)).invoke args = .ok (cut.fill args) := by
  obtain ⟨cut, hcut⟩ : ∃ cut, Cut.Of pattern cut := ⟨_, Cut.of_ofPattern pattern⟩
  have hslots : Piece.slots (Piece.ofPattern pattern) = cut.numbers := by
    rw [hcut.ofPattern_eq, cut.slots_pieces]
  have hhighest : Piece.highest (Piece.ofPattern pattern) = cut.highest := by
    rw [Piece.highest, hslots, Cut.highest]
  refine ⟨cut, hcut, fun other hother => ?_, fun fault => ?_, fun t ht => ?_⟩
  · exact ((Cut.of_iff pattern other).mp hother).symm.trans ((Cut.of_iff pattern cut).mp hcut)
  · rw [ofPattern_eq_error_iff, hslots, hhighest]
  · obtain ⟨hpieces, harity⟩ := ofPattern_eq_ok_imp name pattern arity t ht
    refine ⟨by rw [harity, hhighest], fun args hargs => ⟨fun number hnumber => ?_, ?_⟩⟩
    · rw [← hslots, ← hpieces] at hnumber
      exact ⟨t.slots_pos number hnumber, hargs ▸ t.slots_le number hnumber⟩
    · rw [FunctionBinding.invoke_eq_ok_iff, Rendering.apply_template_eq_ok_iff]
      exact ⟨hargs, by rw [fill, hpieces, hcut.ofPattern_eq, cut.flatMap_pieces]⟩

-- Number signs beside a slot, a digit of another script, and arguments that look like slots and groups
theorem invoke_eq_fill_cut_of_signs :
    ∃ t, ofPattern "f" "##1#٢0#1#" none = .ok t ∧ (["#2", "\\g<1>"] : List Text).length = t.arity ∧
      (FunctionBinding.mk "f" (.template t)).invoke ["#2", "\\g<1>"] = .ok "##2\\g<1>0#2#" := by
  obtain ⟨cut, hcut, -, herror, hok⟩ := invoke_eq_fill_cut "f" "##1#٢0#1#" none
  obtain rfl := (Cut.of_iff _ _).mp hcut
  cases h : ofPattern "f" "##1#٢0#1#" none with
  | error fault =>
      have hzero : 0 ∉ (Cut.ofPieces (Piece.ofPattern "##1#٢0#1#")).numbers := by decide +kernel
      rcases (herror fault).mp h with ⟨hslot, -⟩ | ⟨-, n, hn, -⟩
      · exact absurd hslot hzero
      · cases hn
  | ok t =>
      obtain ⟨harity, hfill⟩ := hok t h
      have hlength : 2 = t.arity := Int.ofNat.inj (harity.trans (by decide +kernel)).symm
      refine ⟨t, rfl, hlength, ?_⟩
      rw [(hfill ["#2", "\\g<1>"] hlength).2]
      exact congrArg Except.ok (by decide +kernel)

end Template

end Formulary
