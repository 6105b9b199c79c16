import Formulary.Proofs.Source.Parts
import Formulary.Proofs.Source.Typeset
import Formulary.Proofs.Typeset.Enclosure
import Formulary.Text.Identifier

namespace Formulary

open Markup Notation

namespace Text

-- The characters of names and of names with points in them
def Dotted (s : String) : Prop := ∀ c ∈ s.toList, isNameRest c = true ∨ c = '.'

theorem dotted_of_isName (s : String) (h : isName s.toList = true) : Dotted s := by
  intro c hc
  cases hs : s.toList with
  | nil => simp [hs] at hc
  | cons first rest =>
      rw [hs, isName, Bool.and_eq_true_iff, List.all_eq_true] at h
      rw [hs] at hc
      rcases List.mem_cons.mp hc with rfl | hc
      · exact .inl (by rw [isNameRest, h.1, Bool.true_or])
      · exact .inl (h.2 c hc)

theorem dotted_append (s t : String) (hs : Dotted s) (ht : Dotted t) : Dotted (s ++ "." ++ t) := by
  intro c hc
  rw [String.toList_append, String.toList_append, List.mem_append, List.mem_append] at hc
  rcases hc with (hc | hc) | hc
  · exact hs c hc
  · exact .inr (List.mem_singleton.mp hc)
  · exact ht c hc

-- The characters that no name has: the signs of operators, the brackets, and all that are reserved but
-- the underscore
def foreign : List Char :=
  signCharacters ++ ['(', ')', '[', ']'] ++ (reserved.map Prod.fst).erase '_'

theorem not_isNameRest_foreign :
    foreign.any (fun c => isNameRest c || c == '.') = false := by
  decide +kernel

theorem Dotted.notMem (s : String) (h : Dotted s) (c : Char) (hc : c ∈ foreign) : c ∉ s.toList := by
  intro hmem
  refine List.any_eq_false.mp not_isNameRest_foreign c hc ?_
  rw [Bool.or_eq_true, beq_iff_eq]
  exact h c hmem

theorem Dotted.char_notMem_ofString (s : String) (h : Dotted s) (c : Char) (hc : c ∈ foreign) :
    .char c ∉ ofString s := by
  intro hmem
  obtain ⟨d, hd, heq⟩ := List.mem_map.mp hmem
  cases heq
  exact h.notMem s c hc hd

theorem Dotted.notMem_brackets (s : String) (h : Dotted s) :
    ∀ c ∈ ofString s, c ∉ Whole.brackets := by
  have hforeign : ∀ c ∈ Whole.brackets, c ∈ foreign.map .char := by decide
  intro c hmem hc
  obtain ⟨d, hd, rfl⟩ := List.mem_map.mp (hforeign c hc)
  exact h.char_notMem_ofString s d hd hmem

theorem Dotted.notMem_reserved (s : String) (h : Dotted s) :
    ∀ r ∈ reserved, r.1 ≠ '_' → .char r.1 ∉ ofString s := by
  have hforeign : ∀ r ∈ reserved, r.1 ≠ '_' → r.1 ∈ foreign := by decide
  exact fun r hr hne => h.char_notMem_ofString s r.1 (hforeign r hr hne)

end Text

namespace Source

theorem tidy_of_joins (node : Tree) (h : Joins node) : node.Tidy := by
  obtain ⟨head, args, rfl, hoperator⟩ := h
  intro name hupright
  have harity := arity?_default_of_mem_operatorCalls _ hoperator
  rw [← arity_functionFor, hupright] at harity
  cases harity

theorem isPlain_of_value? (value : Constant) (v : Value) (h : value.value? = some v)
    (htext : ∀ s, value ≠ .text s) : v.IsPlain := by
  cases value with
  | text s => exact absurd rfl (htext s)
  | octets _ => cases h
  | none => cases h
  | ellipsis => cases h
  | _ =>
      cases h
      trivial

end Source

namespace Source.Expr

-- The words that an expression writes itself: the parts of its own name, or of the name that it applies
def words : Expr → List String
  | .name _ id => [id]
  | .attribute _ base member => base.words ++ [member]
  | .call _ callee _ _ => callee.words
  | _ => []

theorem isName_of_words (e : Expr) (names : List String)
    (hwords : ∀ w ∈ e.nodes.flatMap words, w ∈ names)
    (hnames : ∀ w ∈ names, Text.isName w.toList = true) :
    ∀ node ∈ e.nodes, ∀ w ∈ node.words, Text.isName w.toList = true := by
  intro node hnode w hw
  exact hnames w (hwords w (List.mem_flatMap.mpr ⟨node, hnode, hw⟩))

theorem dotted_of_writtenName? (e : Expr) (hwords : ∀ w ∈ e.words, Text.isName w.toList = true)
    (name : String) (h : e.writtenName? = some name) : Text.Dotted name := by
  induction e using Expr.writtenName?.induct generalizing name with
  | case1 column id =>
      cases h
      exact Text.dotted_of_isName id (hwords id (List.mem_singleton_self _))
  | case2 column base member ih =>
      rw [words, List.forall_mem_append, List.forall_mem_singleton] at hwords
      obtain ⟨before, hbefore, h⟩ := Option.bind_eq_some_iff.mp h
      cases h
      exact Text.dotted_append _ _ (ih hwords.1 before hbefore) (Text.dotted_of_isName _ hwords.2)
  | case3 e hname hattribute =>
      rw [writtenName?] at h
      · cases h
      all_goals assumption

theorem dotted_of_knownName? (e : Expr) (hwords : ∀ w ∈ e.words, Text.isName w.toList = true)
    (name : String) (h : e.knownName? = some name) : Text.Dotted name := by
  unfold knownName? at h
  split at h
  · rw [← Option.some.inj h]
    exact Text.dotted_of_isName _ (hwords _ (List.mem_singleton_self _))
  · rename_i column base member
    rw [words, List.forall_mem_append, List.forall_mem_singleton] at hwords
    obtain ⟨before, hbefore, h⟩ := Option.bind_eq_some_iff.mp h
    have hmember := Text.dotted_of_isName member hwords.2
    rw [← Option.some.inj h]
    split
    · exact hmember
    · exact Text.dotted_append _ _ (dotted_of_writtenName? base hwords.1 before hbefore) hmember
  · cases h

-- Names bring no bracket with them, and numbers none that they do not close
theorem written_tidy (es : List Expr)
    (hnames : ∀ node ∈ es, ∀ w ∈ node.words, Text.isName w.toList = true)
    (htext : ∀ column s, .constant column (.text s) ∉ es) : Written Tree.Tidy es where
  literal column value v hmem hv :=
    isPlain_of_value? value v hv fun s hs => htext column s (hs ▸ hmem)
  identifier e he name hname := by
    have hdotted := e.dotted_of_knownName? (hnames e he) name hname
    exact ⟨hdotted.notMem_reserved name, hdotted.notMem_brackets name⟩
  call column callee args name ts hmem hname := by
    have hdotted := callee.dotted_of_knownName? (hnames (.call column callee args []) hmem) name hname
    intro other hupright
    rw [eq_of_rendering_functionFor_upright _ _ hupright]
    exact hdotted.notMem_brackets name

-- A call in a formula is set as a unit: its enclosures close, and no operator shows outside of them,
-- unless the name that it applies is an operator itself
theorem call_shelters_operators_iff (e : Expr) (he : e.Supported) (column : Nat) (callee : Expr)
    (args : List Expr) (name : String) (hcall : .call column callee args [] ∈ e.nodes)
    (hname : callee.knownName? = some name)
    (hnames : ∀ node ∈ (Expr.call column callee args []).nodes, ∀ w ∈ node.words,
      Text.isName w.toList = true)
    (htext : ∀ column s, .constant column (.text s) ∉ nodesAll args) :
    ∃ whole t, e.toTree = .ok whole ∧ (Expr.call column callee args []).toTree = .ok t ∧
      t ∈ whole.preorder ∧
      ∀ m, t.typeset .default = .ok m →
        Place.outside.walk (lexemes m.text) = some .outside ∧
        ((∀ x ∈ operatorMarks, x ∉ Place.outside.surface (lexemes m.text)) ↔
          name ∉ wordOperators) := by
  obtain ⟨b, hb, hbuilds⟩ := he.builds
  obtain ⟨b', hbuilds', hpart⟩ := hbuilds.of_mem_nodes e b _ hcall
  have hw := hbuilds'.wellFormed
  have hconstants : ∀ column' s,
      .constant column' (.text s) ∉ (Expr.call column callee args []).nodes := by
    intro column' s hmem
    rcases List.mem_cons.mp hmem with hmem | hmem
    · cases hmem
    · exact htext column' s hmem
  have htidy : b'.tree.Throughout Tree.Tidy :=
    hbuilds'.throughout Tree.Tidy tidy_of_joins _ _ (written_tidy _ hnames hconstants)
  have hsigns : ∀ c ∈ signCharacters, c ∉ name.toList := by
    have hwords := hnames (.call column callee args []) List.mem_cons_self
    have hdotted := callee.dotted_of_knownName? hwords name hname
    intro c hc
    exact hdotted.notMem name c (List.mem_append_left _ (List.mem_append_left _ hc))
  refine ⟨b.tree, b'.tree, e.toTree_of_build b hb, toTree_of_build _ b' hbuilds'.build, hpart,
    fun m hm => ?_⟩
  have hdenote := Tree.denote_of_typeset .default b'.tree hw m hm
  refine ⟨(Tree.whole_denote _ hw htidy m.text hdenote).balanced, ?_⟩
  cases hbuilds' with
  | call _ _ known ps hknown hps =>
      obtain rfl : known = name := Option.some.inj (hknown.symm.trans hname)
      exact Tree.surface_denote_call known _ hw htidy hsigns m.text hdenote

-- In `-f(x + 1)` the sum stays in the parentheses of the call
theorem call_shelters_sum :
    let call : Expr := .call 1 (.name 1 "f")
      [.binary 3 .add (.name 3 "x") (.constant 7 (.integer 1))] []
    let e : Expr := .unary 0 .minus call
    let m : Markup := ⟨"\\mathrm\x7bf\x7d(x + 1)"⟩
    e.Supported ∧ call ∈ e.nodes ∧ ∃ t, call.toTree = .ok t ∧ t.typeset .default = .ok m ∧
      ∀ x ∈ operatorMarks, x ∉ Place.outside.surface (lexemes m.text) := by
  intro call e m
  have he : e.Supported := by
    refine .unary _ _ _ "neg" rfl (.call _ _ _ "f" rfl (List.forall_mem_singleton.mpr ?_))
    exact .binary _ _ _ _ "+" rfl (.name _ _) (.constant _ _ trivial)
  have hcall : call ∈ e.nodes := by simp [e, call, nodes]
  have hnames : ∀ node ∈ call.nodes, ∀ w ∈ node.words, Text.isName w.toList = true := by
    have hwords : ∀ w ∈ ["f", "x"], Text.isName w.toList = true := by decide +kernel
    intro node hnode w hw
    refine hwords w ?_
    simp only [call, nodes, nodesAll, List.append_nil, List.mem_cons, List.not_mem_nil, or_false,
      List.singleton_append] at hnode
    rcases hnode with rfl | rfl | rfl | rfl <;> simp_all [words]
  have htext : ∀ column s, .constant column (.text s) ∉
      nodesAll [.binary 3 .add (.name 3 "x") (.constant 7 (.integer 1))] := by
    simp [nodesAll, nodes]
  obtain ⟨-, t, -, htree, -, hset⟩ :=
    call_shelters_operators_iff e he 1 (.name 1 "f") _ "f" hcall rfl hnames htext
  cases htree
  have htypeset : Tree.typeset .default
      (.call (.text "f") [.call (.text "+") [.identifier (.text "x"), .literal (.integer 1)]]) =
        .ok m := by
    decide +kernel
  exact ⟨he, hcall, _, rfl, htypeset, (hset m htypeset).2.mpr (by decide)⟩

-- A product with the negation of a sum, written as a call, is set like the sum that opens with the product
theorem call_exposes_negation :
    let call : Expr := .call 2 (.name 2 "neg") [.binary 6 .add (.name 6 "x") (.name 10 "y")] []
    let product : Expr := .binary 0 .multiply (.constant 0 (.integer 2)) call
    let sum : Expr := .binary 0 .add
      (.binary 0 .multiply (.constant 0 (.integer 2)) (.unary 2 .minus (.name 3 "x"))) (.name 7 "y")
    ∃ t whole other, call.toTree = .ok t ∧ product.toTree = .ok whole ∧ sum.toTree = .ok other ∧
      t.typeset .default = .ok ⟨"-x + y"⟩ ∧
      (∃ x ∈ operatorMarks, x ∈ Place.outside.surface (lexemes "-x + y")) ∧
      whole.typeset .default = .ok ⟨"2 \\cdot -x + y"⟩ ∧
      other.typeset .default = .ok ⟨"2 \\cdot -x + y"⟩ := by
  refine ⟨_, _, _, rfl, rfl, rfl, ?_⟩
  decide +kernel

end Source.Expr

end Formulary
