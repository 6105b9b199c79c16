import Formulary.Proofs.Binding.Braces
import Formulary.Proofs.Source.Enclosure

namespace Formulary

open Markup Notation

namespace Tree

-- Nothing here brings braces along but the notation: there is no ready markup, and names have no
-- character of markup and no bracket
def Bracketless : Tree → Prop
  | .literal value => ∀ m, value ≠ .markup m
  | .identifier (.text name) => ∀ c ∈ name, c ∉ [.char '\\', .char '{', .char '}', .char ']']
  | _ => True

mutual

-- A closing bracket stands outside of braces in the markup of the tree: a root ends its own index with
-- one, and a text may hold one
def BearsBracket : Tree → Prop
  | .literal value => ∃ text, value.display = .ok text ∧ .char ']' ∈ text
  | .call (.text head) args =>
    head = "root" ∨ (head ∉ bracingNames.map Text.ofString ∧ AnyBearsBracket args)
  | _ => False

def AnyBearsBracket : List Tree → Prop
  | [] => False
  | t :: rest => t.BearsBracket ∨ AnyBearsBracket rest

end

mutual

theorem matched_denote (t : Tree) (hw : t.WellFormed) (hnodes : ∀ node ∈ t.preorder, node.Bracketless)
    (text : Text) (h : t.denote .default = .ok text) :
    Matched text ∧ (.char ']' ∈ Braces.outside.bare text ↔ t.BearsBracket) := by
  match t, hw with
  | .literal value, _ =>
      rw [denote_literal] at h
      have hvalue : ∀ m, value ≠ .markup m := hnodes (.literal value) (self_mem_preorder _)
      obtain ⟨shown, hshown, htext⟩ := value.render_eq_ok_of_ne_markup hvalue text h
      obtain ⟨hmatched, hbears⟩ := Matched.escape shown
      rw [htext, hbears, BearsBracket]
      exact ⟨hmatched, by simp [hshown]⟩
  | .identifier (.text name), _ =>
      cases h
      have hname := hnodes (.identifier (.text name)) (self_mem_preorder _)
      simpa [BearsBracket] using matched_symbolFor_default name hname
  | .call (.text head) args, hw =>
      obtain ⟨parts, hparts, hinvoke⟩ := (bind_eq_ok_iff _ _ _).mp h
      obtain ⟨hmatched, hany⟩ := matched_denoteAll args hw
        (fun node hn => hnodes node (List.mem_cons_of_mem _ hn)) parts hparts
      rw [BearsBracket, ← hany]
      exact matched_invoke head parts hmatched text hinvoke

theorem matched_denoteAll (args : List Tree) (hw : AllWellFormed args)
    (hnodes : ∀ node ∈ preorderAll args, node.Bracketless) (parts : List Text)
    (h : denoteAll .default args = .ok parts) :
    (∀ part ∈ parts, Matched part) ∧
      ((∃ part ∈ parts, .char ']' ∈ Braces.outside.bare part) ↔ AnyBearsBracket args) := by
  match args, hw with
  | [], _ =>
      cases h
      simp [AnyBearsBracket]
  | t :: rest, hw =>
      obtain ⟨part, hpart, h⟩ := (bind_eq_ok_iff _ _ _).mp h
      obtain ⟨parts', hparts, h⟩ := (bind_eq_ok_iff _ _ _).mp h
      cases h
      rw [preorderAll, List.forall_mem_append] at hnodes
      obtain ⟨hfirst, hbears⟩ := matched_denote t hw.1 hnodes.1 part hpart
      obtain ⟨hrest, hany⟩ := matched_denoteAll rest hw.2 hnodes.2 parts' hparts
      refine ⟨List.forall_mem_cons.mpr ⟨hfirst, hrest⟩, ?_⟩
      rw [AnyBearsBracket, ← hbears, ← hany]
      simp

end

mutual

-- What is in a part of a tree is in the tree
theorem preorder_subset_of_mem (t node : Tree) (h : node ∈ t.preorder) :
    node.preorder ⊆ t.preorder := by
  match t with
  | .literal _ => exact List.mem_singleton.mp h ▸ List.Subset.refl _
  | .identifier _ => exact List.mem_singleton.mp h ▸ List.Subset.refl _
  | .stray _ => exact List.mem_singleton.mp h ▸ List.Subset.refl _
  | .call head args =>
      rcases List.mem_cons.mp h with rfl | h
      · exact List.Subset.refl _
      · exact List.subset_cons_of_subset _ (preorder_subset_of_mem_preorderAll args node h)

theorem preorder_subset_of_mem_preorderAll (args : List Tree) (node : Tree)
    (h : node ∈ preorderAll args) : node.preorder ⊆ preorderAll args := by
  match args with
  | [] => cases h
  | t :: rest =>
      rcases List.mem_append.mp h with h | h
      · exact List.subset_append_of_subset_left _ (preorder_subset_of_mem t node h)
      · exact List.subset_append_of_subset_right _ (preorder_subset_of_mem_preorderAll rest node h)

end

-- A part of a tree can be set if the tree can
theorem denote_of_mem_preorder (table : Notation) (t node : Tree) (hw : t.WellFormed) (text : Text)
    (h : t.denote table = .ok text) (hnode : node ∈ t.preorder) (hnodew : node.WellFormed) :
    ∃ text', node.denote table = .ok text' := by
  have hadmitted := (denote_isOk_iff table t hw).mp ⟨text, h⟩
  refine (denote_isOk_iff table node hnodew).mpr fun part hpart => ?_
  exact hadmitted part (preorder_subset_of_mem t node hnode hpart)

theorem typeset_of_denote (table : Notation) (t : Tree) (hw : t.WellFormed) (text : Text)
    (h : t.denote table = .ok text) : t.typeset table = .ok ⟨text⟩ := by
  rw [typeset_eq_denote table t hw, h]
  rfl

theorem denoteAll_pair (table : Notation) (t t' : Tree) (parts : List Text)
    (h : denoteAll table [t, t'] = .ok parts) :
    ∃ part part', t.denote table = .ok part ∧ t'.denote table = .ok part' ∧ parts = [part, part'] := by
  obtain ⟨part, hpart, h⟩ := (bind_eq_ok_iff _ _ _).mp h
  obtain ⟨rest, hrest, h⟩ := (bind_eq_ok_iff _ _ _).mp h
  obtain ⟨part', hpart', hrest⟩ := (bind_eq_ok_iff _ _ _).mp hrest
  cases hrest
  cases h
  exact ⟨part, part', hpart, hpart', rfl⟩

-- The markup of a root is read back, its index and what is under it, exactly if the index bears no bracket
theorem denote_root (base index : Tree) (hbase : base.WellFormed) (hindex : index.WellFormed)
    (hnodes : ∀ node ∈ (Tree.call (.text "root") [base, index]).preorder, node.Bracketless) (text : Text)
    (h : (Tree.call (.text "root") [base, index]).denote .default = .ok text) :
    ∃ m n, base.denote .default = .ok m ∧ index.denote .default = .ok n ∧
      text = "\\sqrt[" ++ n ++ "]\x7b" ++ m ++ "\x7d" ∧
      ∀ after, readRoot? (text ++ after) = some (n, m, after) ↔ ¬ index.BearsBracket := by
  obtain ⟨parts, hparts, hinvoke⟩ := (bind_eq_ok_iff _ _ _).mp h
  obtain ⟨m, n, hm, hn, rfl⟩ := denoteAll_pair _ _ _ _ hparts
  have hargs : ∀ t ∈ [base, index], ∀ node ∈ t.preorder, node.Bracketless := fun t ht node hnode =>
    hnodes node (preorder_subset_call _ _ t ht hnode)
  obtain ⟨hmatched, -⟩ := matched_denote base hbase (hargs base (by simp)) m hm
  obtain ⟨hmatched', hbears⟩ := matched_denote index hindex (hargs index (by simp)) n hn
  have htext := invoke_root m n text hinvoke
  refine ⟨m, n, hm, hn, htext, fun after => ?_⟩
  rw [htext, readRoot?_eq_some_iff n m after hmatched' hmatched, hbears]

end Tree

namespace Source

theorem ne_markup_of_value? (value : Constant) (v : Value) (h : value.value? = some v) :
    ∀ m, v ≠ .markup m := by
  rintro m rfl
  cases value <;> cases h

namespace Expr

theorem written_bracketless (es : List Expr)
    (hnames : ∀ node ∈ es, ∀ w ∈ node.words, Text.isName w.toList = true) :
    Written Tree.Bracketless es where
  literal _ value v _ hv := ne_markup_of_value? value v hv
  identifier e he name hname := by
    have hforeign : ∀ c ∈ [CodePoint.char '\\', .char '{', .char '}', .char ']'],
        c ∈ Text.foreign.map .char := by
      decide
    have hdotted := e.dotted_of_knownName? (hnames e he) name hname
    intro c hc hmem
    obtain ⟨d, hd, rfl⟩ := List.mem_map.mp (hforeign c hmem)
    exact hdotted.char_notMem_ofString name d hd hc
  call _ _ _ _ _ _ _ := trivial

theorem Builds.of_call (column : Nat) (callee : Expr) (args : List Expr) (b : Built)
    (h : Builds (.call column callee args []) b) :
    ∃ (name : String) (ps : List (Expr × Built)), callee.knownName? = some name ∧
      ps.map Prod.fst = args ∧ (∀ p ∈ ps, Builds p.1 p.2) ∧
      b.tree = .call (.text (Text.ofString name)) (ps.map (·.2.tree)) := by
  cases h with
  | call _ _ name ps hname hps => exact ⟨name, ps, hname, rfl, hps, rfl⟩

-- A root in a formula that can be set is read back, its index and what is under it, exactly if no bracket
-- outside of braces ends the index too soon
theorem root_reads_back_iff (e : Expr) (he : e.Supported) (column : Nat) (callee base index : Expr)
    (hcall : .call column callee [base, index] [] ∈ e.nodes)
    (hroot : callee.knownName? = some "root")
    (hnames : ∀ node ∈ (Expr.call column callee [base, index] []).nodes, ∀ w ∈ node.words,
      Text.isName w.toList = true)
    (whole : Tree) (hwhole : e.toTree = .ok whole) (set : Markup)
    (hset : whole.typeset .default = .ok set) :
    ∃ t b i m n text, (Expr.call column callee [base, index] []).toTree = .ok t ∧ t ∈ whole.preorder ∧
      base.toTree = .ok b ∧ index.toTree = .ok i ∧
      b.typeset .default = .ok ⟨m⟩ ∧ i.typeset .default = .ok ⟨n⟩ ∧ t.typeset .default = .ok ⟨text⟩ ∧
      text = "\\sqrt[" ++ n ++ "]\x7b" ++ m ++ "\x7d" ∧
      ∀ after, readRoot? (text ++ after) = some (n, m, after) ↔ ¬ i.BearsBracket := by
  obtain ⟨built, hbuild, hbuilds⟩ := he.builds
  obtain rfl := Except.ok.inj ((e.toTree_of_build built hbuild).symm.trans hwhole)
  obtain ⟨b', hbuilds', hpart⟩ := hbuilds.of_mem_nodes e built _ hcall
  have htree := toTree_of_build _ b' hbuilds'.build
  have hnodes : b'.tree.Throughout Tree.Bracketless := by
    refine hbuilds'.throughout Tree.Bracketless ?_ _ _ (written_bracketless _ hnames)
    rintro node ⟨head, args, rfl, -⟩
    trivial
  have hdenote := Tree.denote_of_typeset .default _ hbuilds.wellFormed set hset
  obtain ⟨text, htext⟩ :=
    Tree.denote_of_mem_preorder .default _ _ hbuilds.wellFormed _ hdenote hpart hbuilds'.wellFormed
  obtain ⟨name, ps, hname, hargs, hps, hb'⟩ := hbuilds'.of_call
  obtain rfl : name = "root" := Option.some.inj (hname.symm.trans hroot)
  obtain ⟨p, rest, rfl, rfl, hrest⟩ := List.map_eq_cons_iff.mp hargs
  obtain ⟨q, more, rfl, rfl, hmore⟩ := List.map_eq_cons_iff.mp hrest
  obtain rfl := List.map_eq_nil_iff.mp hmore
  have hp := hps p (by simp)
  have hq := hps q (by simp)
  have hset' := Tree.typeset_of_denote .default _ hbuilds'.wellFormed text htext
  rw [hb'] at htree hpart hnodes htext hset'
  obtain ⟨m, n, hm, hn, hmarkup, hread⟩ :=
    Tree.denote_root p.2.tree q.2.tree hp.wellFormed hq.wellFormed hnodes text htext
  exact ⟨_, _, _, m, n, text, htree, hpart, toTree_of_build _ _ hp.build, toTree_of_build _ _ hq.build,
    Tree.typeset_of_denote _ _ hp.wellFormed m hm, Tree.typeset_of_denote _ _ hq.wellFormed n hn, hset',
    hmarkup, hread⟩

theorem supported_root (base index : Expr) (hbase : base.Supported) (hindex : index.Supported)
    (column : Nat) : (Expr.call column (.name column "root") [base, index] []).Supported := by
  refine .call _ _ _ "root" rfl ?_
  exact List.forall_mem_cons.mpr ⟨hbase, List.forall_mem_singleton.mpr hindex⟩

-- A subscript keeps the root under the index in braces
theorem root_reads_back_of_subscript :
    let inner : Expr := .call 10 (.name 10 "root") [.name 15 "y", .name 18 "z"] []
    let index : Expr := .subscript 8 (.name 8 "a") inner
    let e : Expr := .call 0 (.name 0 "root") [.name 5 "x", index] []
    let text : Text := "\\sqrt[\x7ba\x7d_\x7b\\sqrt[z]\x7by\x7d\x7d]\x7bx\x7d"
    e.Supported ∧ (∃ t, e.toTree = .ok t ∧ t.typeset .default = .ok ⟨text⟩) ∧
      readRoot? text =
        some (Text.ofString "\x7ba\x7d_\x7b\\sqrt[z]\x7by\x7d\x7d", Text.ofString "x", []) := by
  intro inner index e text
  have he : e.Supported := supported_root _ _ (.name _ _)
    (.subscript _ _ _ (.name _ _) (supported_root _ _ (.name _ _) (.name _ _) _)) _
  have hnames := isName_of_words e ["a", "x", "y", "z", "root"] (by decide) (by decide +kernel)
  let leaf (name : String) : Tree := .identifier (.text name)
  let under : Tree := .call (.text "[]") [leaf "a", .call (.text "root") [leaf "y", leaf "z"]]
  let whole : Tree := .call (.text "root") [leaf "x", under]
  obtain ⟨htext, hbase, hunder⟩ : whole.typeset .default = .ok ⟨text⟩ ∧
      (leaf "x").typeset .default = .ok ⟨"x"⟩ ∧
      under.typeset .default = .ok ⟨"\x7ba\x7d_\x7b\\sqrt[z]\x7by\x7d\x7d"⟩ := by
    decide +kernel
  obtain ⟨t, b, i, m, n, text', ht, -, hb, hi, hm, hn, htext', -, hread⟩ :=
    root_reads_back_iff e he 0 (.name 0 "root") (.name 5 "x") index (self_mem_nodes e) rfl hnames whole rfl
      ⟨text⟩ htext
  cases hb
  cases hi
  obtain rfl : t = whole := Except.ok.inj (ht.symm.trans rfl)
  obtain rfl : text' = text := congrArg Markup.text (Except.ok.inj (htext'.symm.trans htext))
  have hbears : ¬ under.BearsBracket := by
    rintro (hroot | ⟨hbracing, -⟩)
    · exact absurd hroot (by decide)
    · exact hbracing (by decide)
  obtain rfl : m = "x" := congrArg Markup.text (Except.ok.inj (hm.symm.trans hbase))
  obtain rfl : n = "\x7ba\x7d_\x7b\\sqrt[z]\x7by\x7d\x7d" :=
    congrArg Markup.text (Except.ok.inj (hn.symm.trans hunder))
  have hback := (hread []).mpr hbears
  rw [List.append_nil] at hback
  exact ⟨he, ⟨whole, ht, htext⟩, hback⟩

-- The root in the index ends it, and what is left reads as a root of another index under which `y` stands
theorem root_in_index_reads_otherwise :
    let inner : Expr := .call 8 (.name 8 "root") [.name 13 "y", .name 16 "z"] []
    let e : Expr := .call 0 (.name 0 "root") [.name 5 "x", inner] []
    e.Supported ∧ ∃ t i, e.toTree = .ok t ∧ inner.toTree = .ok i ∧
      i.typeset .default = .ok ⟨"\\sqrt[z]\x7by\x7d"⟩ ∧
      t.typeset .default = .ok ⟨"\\sqrt[\\sqrt[z]\x7by\x7d]\x7bx\x7d"⟩ ∧
      readRoot? "\\sqrt[\\sqrt[z]\x7by\x7d]\x7bx\x7d" =
        some (Text.ofString "\\sqrt[z", Text.ofString "y", Text.ofString "]\x7bx\x7d") := by
  intro inner e
  refine ⟨supported_root _ _ (.name _ _) (supported_root _ _ (.name _ _) (.name _ _) _) _,
    _, _, rfl, rfl, ?_⟩
  decide +kernel

end Expr

end Source

end Formulary
