import Formulary.Formula
import Formulary.Proofs.Source.Acceptance
import Formulary.Proofs.Source.Typeset
import Formulary.Proofs.Text.Lines
import Formulary.Proofs.Text.Unpaired
import Formulary.Proofs.Typeset.Report

namespace Formulary

-- Why a source has no markup in a notation, or has markup that cannot be printed
inductive Refusal
  | source (fault : Source.Fault)
  | setting (failure : Failure)
  | printing (halves : Text.Unpaired)
  deriving DecidableEq, Repr

namespace Refusal

def message : Refusal → Text
  | .source fault => fault.message
  | .setting failure => failure.message
  | .printing halves => halves.message

-- Whether the refusal is one of those that are told together with the expression they are about. A half
-- of a pair, a NUL and an integer that is too long are noticed by others, and so is an entry that is void
def isOwn : Refusal → Bool
  | .source (.unpaired _) => false
  | .source .nul => false
  | .setting .longInteger => false
  | .setting .voidEntry => false
  | .printing _ => false
  | _ => true

end Refusal

-- A formula in source form, set in a notation
def Markup.ofSource (wording : Source.Wording) (table : Notation) (source : Text) :
    Except Refusal Markup :=
  match Tree.ofSource wording source with
  | .error fault => .error (.source fault)
  | .ok t =>
    match t.typeset table with
    | .error failure => .error (.setting failure)
    | .ok m => .ok m

namespace Text

-- Neither a half of a pair nor a NUL is a blank
theorem half_mem_trim_iff (n : Fin 0x800) (source : Text) :
    .half n ∈ trim (·.is isBlank) source ↔ .half n ∈ source := mem_trim_iff _ source _ rfl

theorem hasOctets_trim_iff (source : Text) :
    HasOctets (trim (·.is isBlank) source) ↔ source.HasOctets :=
  forall_congr' fun n => not_congr (half_mem_trim_iff n source)

theorem nul_mem_of_characters (source : Text) (characters : List Char)
    (h : Text.characters (trim (·.is isBlank) source) = .ok characters) :
    '\x00' ∈ characters ↔ .char '\x00' ∈ source := by
  have hblank : (CodePoint.char '\x00').is isBlank = false := by decide
  rw [← mem_trim_iff _ source _ hblank, (characters_eq_ok_iff _ _).mp h]
  simp [ofChars]

end Text

namespace Source.Expr

variable (wording : Wording) (source : Text)

-- A source is refused before it is read, or the parser has something to say about it, or it writes an
-- expression
theorem ofSource_cases :
    (∃ halves : Text.Unpaired, halves.StandsIn (Text.trim (·.is Text.isBlank) source) ∧
      ofSource wording source = .error (.unpaired halves)) ∨
    source.HasOctets ∧
      ((.char '\x00' ∈ source ∧ ofSource wording source = .error .nul) ∨
        .char '\x00' ∉ source ∧ ∃ text, Text.trim (·.is Text.isBlank) source = Text.ofChars text ∧
          ((ofText? (Text.unifyLineEnds text) = none ∧
              ofSource wording source = .error (.malformed (wording text))) ∨
            ∃ e, ofText? (Text.unifyLineEnds text) = some e ∧ ofSource wording source = .ok e)) := by
  cases htext : Text.characters (Text.trim (·.is Text.isBlank) source) with
  | error halves =>
      exact .inl ⟨halves, (Text.characters_eq_error_iff _ _).mp htext, by simp [ofSource, htext]⟩
  | ok text =>
      have hoctets := (Text.hasOctets_trim_iff source).mp ((Text.hasOctets_iff _).mpr ⟨text, htext⟩)
      have hnul := Text.nul_mem_of_characters source text htext
      refine .inr ⟨hoctets, ?_⟩
      by_cases h : '\x00' ∈ text
      · exact .inl ⟨hnul.mp h, by simp [ofSource, htext, h]⟩
      · refine .inr ⟨fun hmem => h (hnul.mpr hmem), text, (Text.characters_eq_ok_iff _ _).mp htext, ?_⟩
        cases he : ofText? (Text.unifyLineEnds text) with
        | none => exact .inl ⟨rfl, by simp [ofSource, htext, h, he]⟩
        | some e => exact .inr ⟨e, rfl, by simp [ofSource, htext, h, he]⟩

-- The expression is read from the characters of the source
theorem exists_ofText?_of_ofSource (e : Expr) (h : ofSource wording source = .ok e) :
    ∃ text, Text.trim (·.is Text.isBlank) source = Text.ofChars text ∧
      ofText? (Text.unifyLineEnds text) = some e := by
  rcases ofSource_cases wording source with
    ⟨halves, -, hs⟩ | ⟨-, ⟨-, hs⟩ | ⟨-, text, htext, ⟨-, hs⟩ | ⟨e', he, hs⟩⟩⟩
  · cases hs.symm.trans h
  · cases hs.symm.trans h
  · cases hs.symm.trans h
  · exact ⟨text, htext, Except.ok.inj (hs.symm.trans h) ▸ he⟩

end Source.Expr

namespace Tree

variable (wording : Source.Wording) (source : Text)

-- A source is refused where it writes no expression, or for what its expression is
theorem ofSource_eq_error_iff (fault : Source.Fault) :
    ofSource wording source = .error fault ↔ Source.Expr.ofSource wording source = .error fault ∨
      ∃ e, Source.Expr.ofSource wording source = .ok e ∧ e.toTree = .error fault :=
  bind_eq_error_iff _ _ _

theorem ofSource_eq_unpaired_iff (halves : Text.Unpaired) :
    ofSource wording source = .error (.unpaired halves) ↔
      halves.StandsIn (Text.trim (·.is Text.isBlank) source) := by
  rw [ofSource_eq_error_iff]
  constructor
  · rintro (h | ⟨e, -, h⟩)
    · rw [← Text.characters_eq_error_iff]
      rcases Source.Expr.ofSource_cases wording source with
        ⟨halves', hstands, hs⟩ | ⟨-, ⟨-, hs⟩ | ⟨-, text, -, ⟨-, hs⟩ | ⟨e, -, hs⟩⟩⟩
      · cases hs.symm.trans h
        exact (Text.characters_eq_error_iff _ _).mpr hstands
      all_goals cases hs.symm.trans h
    · exact (e.isUnsupported_of_toTree _ h).elim
  · intro hstands
    refine .inl ?_
    rw [Source.Expr.ofSource, (Text.characters_eq_error_iff _ _).mpr hstands]

theorem ofSource_eq_nul_iff :
    ofSource wording source = .error .nul ↔ source.HasOctets ∧ .char '\x00' ∈ source := by
  rw [ofSource_eq_error_iff]
  rcases Source.Expr.ofSource_cases wording source with
    ⟨halves, hstands, hs⟩ | ⟨hoctets, ⟨hnul, hs⟩ | ⟨hnul, text, -, ⟨-, hs⟩ | ⟨e, -, hs⟩⟩⟩
  · have hnone := (Text.hasOctets_trim_iff source).not.mp hstands.not_hasOctets
    simp [hs, hnone]
  · simp [hs, hoctets, hnul]
  · simp [hs, hnul]
  · have htree : e.toTree ≠ .error .nul := fun h => e.isUnsupported_of_toTree _ h
    simp [hs, hnul, htree]

-- A source is refused for a half of a pair, for a NUL, for what the parser cannot read, or for what the
-- expression is that it writes
theorem ofSource_error (fault : Source.Fault) (h : ofSource wording source = .error fault) :
    (∃ halves : Text.Unpaired, fault = .unpaired halves ∧
      halves.StandsIn (Text.trim (·.is Text.isBlank) source)) ∨
    (fault = .nul ∧ .char '\x00' ∈ source) ∨
    (∃ text, fault = .malformed (wording text) ∧
      Text.trim (·.is Text.isBlank) source = Text.ofChars text ∧
      Source.Expr.ofText? (Text.unifyLineEnds text) = none) ∨
    ∃ e, Source.Expr.ofSource wording source = .ok e ∧ e.toTree = .error fault ∧
      fault.IsUnsupported := by
  rcases (ofSource_eq_error_iff wording source fault).mp h with h | ⟨e, he, htree⟩
  · rcases Source.Expr.ofSource_cases wording source with
      ⟨halves, hstands, hs⟩ | ⟨-, ⟨hnul, hs⟩ | ⟨-, text, htext, ⟨hnone, hs⟩ | ⟨e, -, hs⟩⟩⟩
    · exact .inl ⟨halves, (Except.error.inj (hs.symm.trans h)).symm, hstands⟩
    · exact .inr (.inl ⟨(Except.error.inj (hs.symm.trans h)).symm, hnul⟩)
    · exact .inr (.inr (.inl ⟨text, (Except.error.inj (hs.symm.trans h)).symm, htext, hnone⟩))
    · cases hs.symm.trans h
  · exact .inr (.inr (.inr ⟨e, he, htree, e.isUnsupported_of_toTree fault htree⟩))

-- The tree of a source is the tree of an expression
theorem builds_of_ofSource (t : Tree) (h : ofSource wording source = .ok t) :
    ∃ e b, Source.Expr.ofSource wording source = .ok e ∧ Source.Expr.Builds e b ∧ b.tree = t := by
  obtain ⟨e, he, htree⟩ := (bind_eq_ok_iff _ _ _).mp h
  obtain ⟨b, hbuilds, hb⟩ := e.builds_of_toTree t htree
  exact ⟨e, b, he, hbuilds, hb⟩

theorem wellFormed_of_ofSource (t : Tree) (h : ofSource wording source = .ok t) : t.WellFormed := by
  obtain ⟨e, b, -, hbuilds, rfl⟩ := builds_of_ofSource wording source t h
  exact hbuilds.wellFormed

-- An integer that is too long comes from a constant of the source
theorem exists_long_constant (t : Tree) (h : ofSource wording source = .ok t)
    (hlong : t.postorder.findSome? (fault? .default) = some .longInteger) :
    ∃ e column n, Source.Expr.ofSource wording source = .ok e ∧
      .constant column (.integer n) ∈ e.nodes ∧ hasDecimalText n.natAbs = false := by
  obtain ⟨e, b, he, hbuilds, rfl⟩ := builds_of_ofSource wording source t h
  refine Classical.byContradiction fun hnone => ?_
  have hshort : ∀ column n, .constant column (.integer n) ∈ e.nodes →
      hasDecimalText n.natAbs = true := by
    intro column n hn
    cases hd : hasDecimalText n.natAbs with
    | true => rfl
    | false => exact absurd ⟨e, column, n, he, hn, hd⟩ hnone
  obtain ⟨node, hnode, hfault⟩ := List.exists_of_findSome?_eq_some hlong
  rw [mem_postorder] at hnode
  rcases (fault?_eq_some_iff _ _ _).mp hfault with
    ⟨value, rfl, hrender⟩ | ⟨head, args, n, -, -, -, hfailure⟩
  · obtain ⟨text, htext⟩ := value.render_isOk_iff.mpr (hbuilds.display e b hshort value hnode)
    cases htext.symm.trans hrender
  · cases hfailure

end Tree

namespace Markup

variable (wording : Source.Wording)

theorem ofSource_eq_ok_iff (table : Notation) (source : Text) (m : Markup) :
    ofSource wording table source = .ok m ↔
      ∃ t, Tree.ofSource wording source = .ok t ∧ t.typeset table = .ok m := by
  unfold ofSource
  cases Tree.ofSource wording source with
  | error fault => simp
  | ok t => cases ht : t.typeset table <;> simp [ht]

theorem ofSource_eq_error_iff (table : Notation) (source : Text) (r : Refusal) :
    ofSource wording table source = .error r ↔
      (∃ fault, Tree.ofSource wording source = .error fault ∧ r = .source fault) ∨
      ∃ t failure, Tree.ofSource wording source = .ok t ∧ t.typeset table = .error failure ∧
        r = .setting failure := by
  unfold ofSource
  cases Tree.ofSource wording source with
  | error fault => simp [eq_comm]
  | ok t => cases ht : t.typeset table <;> simp [ht, eq_comm]

-- Under the default notation a refusal is about the source, about a number of arguments, or else about an
-- integer that is the first to be wrong
theorem ofSource_default_error (source : Text) (r : Refusal)
    (h : ofSource wording .default source = .error r) :
    (∃ fault, r = .source fault ∧ Tree.ofSource wording source = .error fault) ∨
    (∃ head expected actual, r = .setting (.arity head expected actual)) ∨
    r = .setting .longInteger ∧ ∃ t, Tree.ofSource wording source = .ok t ∧
      t.postorder.findSome? (Tree.fault? .default) = some .longInteger := by
  rcases (ofSource_eq_error_iff wording _ _ _).mp h with
    ⟨fault, hfault, rfl⟩ | ⟨t, failure, ht, hfailure, rfl⟩
  · exact .inl ⟨fault, rfl, hfault⟩
  · have hw := Tree.wellFormed_of_ofSource wording source t ht
    have hfirst := (t.typeset_default_eq_error_iff hw failure).mp hfailure
    obtain ⟨node, -, hfault⟩ := List.exists_of_findSome?_eq_some hfirst
    rcases (Tree.fault?_eq_some_iff _ _ _).mp hfault with
      ⟨value, -, hrender⟩ | ⟨head, args, n, -, -, -, rfl⟩
    · rw [value.render_error _ hrender] at hfirst ⊢
      exact .inr (.inr ⟨rfl, t, ht, hfirst⟩)
    · exact .inr (.inl ⟨_, _, _, rfl⟩)

-- A refusal is told together with the expression, unless there is a half of a pair or a NUL in the source,
-- or an integer that is too long to be written comes before everything else that is wrong with the tree
theorem ofSource_default_own_iff (source : Text) :
    (∀ r, ofSource wording .default source = .error r → r.isOwn = true) ↔
      source.HasOctets ∧ .char '\x00' ∉ source ∧
      ∀ t, Tree.ofSource wording source = .ok t →
        t.postorder.findSome? (Tree.fault? .default) ≠ some .longInteger := by
  constructor
  · intro hown
    have hsource (fault : Source.Fault) (h : Tree.ofSource wording source = .error fault) :
        (Refusal.source fault).isOwn = true :=
      hown _ ((ofSource_eq_error_iff wording _ _ _).mpr (.inl ⟨fault, h, rfl⟩))
    have hoctets : source.HasOctets := by
      rw [← Text.hasOctets_trim_iff]
      by_contra hhalf
      obtain ⟨halves, hstands⟩ := (Text.exists_standsIn_iff _).mpr hhalf
      cases hsource _ ((Tree.ofSource_eq_unpaired_iff wording source halves).mpr hstands)
    refine ⟨hoctets, fun hnul => ?_, fun t ht hlong => ?_⟩
    · cases hsource _ ((Tree.ofSource_eq_nul_iff wording source).mpr ⟨hoctets, hnul⟩)
    · have hw := Tree.wellFormed_of_ofSource wording source t ht
      have hfailure := (t.typeset_default_eq_error_iff hw _).mpr hlong
      cases hown _ ((ofSource_eq_error_iff wording _ _ _).mpr (.inr ⟨t, _, ht, hfailure, rfl⟩))
  · rintro ⟨hoctets, hnul, hshort⟩ r hr
    rcases ofSource_default_error wording source r hr with
      ⟨fault, rfl, hfault⟩ | ⟨head, expected, actual, rfl⟩ | ⟨-, t, ht, hlong⟩
    · cases fault with
      | unpaired halves =>
          have hstands := (Tree.ofSource_eq_unpaired_iff wording source halves).mp hfault
          exact absurd ((Text.hasOctets_trim_iff source).mpr hoctets) hstands.not_hasOctets
      | nul => exact absurd ((Tree.ofSource_eq_nul_iff wording source).mp hfault).2 hnul
      | _ => rfl
    · rfl
    · exact absurd hlong (hshort t ht)

end Markup

end Formulary
