import Formulary.Proofs.Source.Grammar
import Formulary.Proofs.Source.Token
import Formulary.Proofs.Text.Unpaired
import Formulary.Proofs.Typeset.Characters
import Formulary.Source.Expr.Reading

namespace Formulary

open Markup Notation

namespace Text

theorem isAscii_of_isNumeral (c : Char) (h : isNumeral c = true) : isAscii c = true := by
  rw [isNumeral, Bool.or_eq_true] at h
  rcases h with hdigit | hsign
  · obtain ⟨hlow, hhigh⟩ : 0x30 ≤ c.toNat ∧ c.toNat ≤ 0x39 := Char.isDigit_iff_toNat.mp hdigit
    simp only [isAscii, Bool.and_eq_true, decide_eq_true_eq]
    omega
  · have hsigns : Ascii "+-.aefijn" := by decide
    exact hsigns c (List.contains_iff_mem.mp hsign)

theorem Numeral.ascii (s : String) (h : Numeral s) : Ascii s := fun c hc =>
  isAscii_of_isNumeral c (h c hc)

end Text

namespace Value

theorem ascii_complexText (re im : Binary64) : Text.Ascii (complexText re im) := by
  have hreal (x : Binary64) : Text.Ascii (Layout.realPart.text x) :=
    (Layout.realPart.numeral_text (by decide) x).ascii
  have himaginary : Text.Ascii (Layout.imaginaryPart.text im) :=
    (Layout.imaginaryPart.numeral_text (by decide) im).ascii
  unfold complexText
  split
  · exact Text.ascii_append _ _ (hreal im) (by decide)
  · refine Text.ascii_append _ _ (Text.ascii_append _ _ ?_ himaginary) (by decide)
    exact Text.ascii_append _ _ (by decide) (hreal re)

-- A value that comes with no text of its own is shown in ASCII
theorem exists_ascii_display (v : Value) (h : v.IsPlain) (shown : Text) (hshown : v.display = .ok shown) :
    ∃ s, Text.Ascii s ∧ shown = Text.ofString s := by
  cases v with
  | truth b =>
      cases hshown
      cases b
      · exact ⟨"False", by decide, rfl⟩
      · exact ⟨"True", by decide, rfl⟩
  | integer n => exact ⟨toString n, (Text.numeral_int n).ascii, display_integer n shown hshown⟩
  | real x =>
      rw [display_real] at hshown
      exact ⟨_, (Layout.alone.numeral_text (by decide) x).ascii, (Except.ok.inj hshown).symm⟩
  | complex re im =>
      rw [display_complex] at hshown
      exact ⟨_, ascii_complexText re im, (Except.ok.inj hshown).symm⟩
  | _ => cases h

end Value

-- There are octets for what a node names, if it names anything
def Tree.NameHasOctets : Tree → Prop
  | .identifier (.text name) => name.HasOctets
  | .call (.text head) _ => head.HasOctets
  | _ => True

namespace Source

-- The heads of operators, of brackets and of parentheses
theorem ascii_operatorCalls : ∀ call ∈ operatorCalls, ∀ d ∈ call.1, d.is Text.isAscii = true := by
  decide

namespace Expr

-- A code point stands in a string of the expression
def HoldsInText (c : CodePoint) (e : Expr) : Prop :=
  ∃ column s, .constant column (.text s) ∈ e.nodes ∧ c ∈ s

-- A code point stands in a name of the expression
def HoldsInName (c : CodePoint) (e : Expr) : Prop :=
  ∃ node ∈ e.nodes, ∃ w ∈ node.words, c ∈ Text.ofString w

-- A name is made of characters
theorem not_holdsInName_half (n : Fin 0x800) (e : Expr) : ¬ e.HoldsInName (.half n) := by
  rintro ⟨node, -, w, -, hmem⟩
  exact Text.hasOctets_ofString w n hmem

-- There are octets for whatever an expression names
theorem Builds.throughout_nameHasOctets (e : Expr) (b : Built) (h : Builds e b) :
    b.tree.Throughout Tree.NameHasOctets := by
  refine h.throughout _ ?_ e b ⟨fun _ _ _ _ _ => trivial, fun _ _ name _ => Text.hasOctets_ofString name,
    fun _ _ _ name _ _ _ => Text.hasOctets_ofString name⟩
  rintro node ⟨head, args, rfl, hoperator⟩ n hmem
  cases ascii_operatorCalls _ hoperator _ hmem

section Foreign

variable (c : CodePoint) (hc : c.IsForeign)

include hc

theorem mem_dotted_iff (before member : String) :
    c ∈ Text.ofString (before ++ "." ++ member) ↔
      c ∈ Text.ofString before ∨ c ∈ Text.ofString member := by
  rw [Text.ofString_append, Text.ofString_append, List.mem_append, List.mem_append,
    or_iff_left (hc.notMem_ofString c "." (by decide))]

theorem mem_writtenName?_iff (e : Expr) (name : String) (h : e.writtenName? = some name) :
    c ∈ Text.ofString name ↔ ∃ w ∈ e.words, c ∈ Text.ofString w := by
  induction e using Expr.writtenName?.induct generalizing name with
  | case1 column id =>
      cases h
      simp [words]
  | case2 column base member ih =>
      obtain ⟨before, hbefore, h⟩ := Option.bind_eq_some_iff.mp h
      cases h
      rw [mem_dotted_iff c hc, ih before hbefore]
      simp [words, or_and_right, exists_or]
  | case3 e hname hattribute =>
      rw [writtenName?] at h
      · cases h
      all_goals assumption

-- The name of a module is left out, but that is written in ASCII
theorem mem_knownName?_iff (e : Expr) (name : String) (h : e.knownName? = some name) :
    c ∈ Text.ofString name ↔ ∃ w ∈ e.words, c ∈ Text.ofString w := by
  unfold knownName? at h
  split at h
  · cases h
    simp [words]
  · rename_i column base member
    obtain ⟨before, hbefore, h⟩ := Option.bind_eq_some_iff.mp h
    have hmodules : ∀ m ∈ moduleNames, Text.Ascii m := by decide
    have hwords : (∃ w ∈ (Expr.attribute column base member).words, c ∈ Text.ofString w) ↔
        c ∈ Text.ofString before ∨ c ∈ Text.ofString member := by
      rw [mem_writtenName?_iff c hc base before hbefore]
      simp [words, or_and_right, exists_or]
    rw [hwords, ← Option.some.inj h]
    split
    · exact (or_iff_right (hc.notMem_ofString c before (hmodules before ‹_›))).symm
    · exact mem_dotted_iff c hc before member
  · cases h

-- Whatever an expression writes itself has such a code point from a string or a name
theorem written_foreign (e : Expr) :
    Written (fun node => node.Holds c → e.HoldsInText c ∨ e.HoldsInName c) e.nodes where
  literal column value v hmem hv := by
    rintro ⟨shown, hshown, hholds⟩
    by_cases htext : ∃ s, value = .text s
    · obtain ⟨s, rfl⟩ := htext
      cases hv
      cases hshown
      exact .inl ⟨column, _, hmem, hholds⟩
    · have hplain := isPlain_of_value? value v hv fun s hs => htext ⟨s, hs⟩
      obtain ⟨s, hs, rfl⟩ := v.exists_ascii_display hplain shown hshown
      exact absurd hholds (hc.notMem_ofString c s hs)
  identifier node hnode name hname hholds :=
    .inr ⟨node, hnode, (mem_knownName?_iff c hc node name hname).mp hholds⟩
  call column callee args name ts hmem hname hholds :=
    .inr ⟨_, hmem, (mem_knownName?_iff c hc callee name hname).mp hholds⟩

-- What stands in a name stays there in the tree
theorem Builds.holds_of_words (e : Expr) (b : Built) (h : Builds e b)
    (hwords : ∃ w ∈ e.words, c ∈ Text.ofString w) : b.tree.Holds c := by
  cases h with
  | name column id => simpa [words, Built.atom, Tree.Holds] using hwords
  | member column base member name h => exact (mem_knownName?_iff c hc _ name h).mpr hwords
  | call column callee name args hname hargs => exact (mem_knownName?_iff c hc callee name hname).mpr hwords
  | _ => simp [words] at hwords

theorem Builds.exists_holds_iff (e : Expr) (b : Built) (h : Builds e b) :
    (∃ node ∈ b.tree.preorder, node.Holds c) ↔ e.HoldsInText c ∨ e.HoldsInName c := by
  constructor
  · rintro ⟨node, hnode, hholds⟩
    have hjoins : ∀ node, Joins node → node.Holds c → e.HoldsInText c ∨ e.HoldsInName c := by
      rintro node ⟨head, args, rfl, hoperator⟩ hmem
      exact absurd rfl (hc.ne_of_is c c (ascii_operatorCalls _ hoperator c hmem))
    exact h.throughout _ hjoins e b (written_foreign c hc e) node hnode hholds
  · rintro (⟨column, s, hmem, hholds⟩ | ⟨part, hpart, hwords⟩)
    · obtain ⟨b', hb, hnode⟩ := h.of_mem_nodes e b _ hmem
      cases hb with
      | constant _ _ v hv =>
          cases hv
          exact ⟨_, hnode, s, rfl, hholds⟩
    · obtain ⟨b', hb, hnode⟩ := h.of_mem_nodes e b _ hpart
      exact ⟨_, hnode, Builds.holds_of_words c hc part b' hb hwords⟩

-- The markup of a formula holds such a code point exactly where a string or a name of the formula does
theorem Builds.mem_typeset_iff (e : Expr) (b : Built) (h : Builds e b) (m : Markup)
    (hm : b.tree.typeset .default = .ok m) :
    c ∈ m.text ↔ e.HoldsInText c ∨ e.HoldsInName c := by
  have hw := h.wellFormed
  have hdenote := Tree.denote_of_typeset .default b.tree hw m hm
  rw [Tree.mem_denote_iff c (isInert_of_isForeign c hc) _ (carries_default c hc) b.tree hw m.text hdenote,
    Builds.exists_holds_iff c hc e b h]

end Foreign

-- No name that is read goes on to a second line
theorem not_holdsInName_lineFeed (text : List Char) (e : Expr) (h : ofText? text = some e) :
    ¬ e.HoldsInName (.char '\n') := by
  rintro ⟨node, hnode, w, hw, hbreak⟩
  rw [ofText?] at h
  obtain ⟨tokens, hscan, h⟩ := Option.bind_eq_some_iff.mp h
  obtain ⟨⟨e', rest⟩, hformula, h⟩ := Option.bind_eq_some_iff.mp h
  obtain rfl := Option.some.inj h
  obtain ⟨t, ht, hname⟩ := Grammar.exists_token_of_word _ tokens rest e' hformula node hnode w hw
  rw [Text.char_mem_ofString_iff] at hbreak
  exact Token.lineFeed_notMem_of_scan text tokens hscan t ht w hname hbreak

end Expr

end Source

end Formulary
