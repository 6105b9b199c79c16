import Formulary.Proofs.Source.Calls

namespace Formulary

namespace Tree

theorem preorder_subset_preorderAll (ts : List Tree) : ∀ t ∈ ts, t.preorder ⊆ preorderAll ts := by
  induction ts with
  | nil => simp
  | cons first rest ih =>
      refine List.forall_mem_cons.mpr ⟨List.subset_append_left _ _, fun t ht => ?_⟩
      exact List.Subset.trans (ih t ht) (List.subset_append_right _ _)

theorem preorder_subset_call (head : Value) (args : List Tree) :
    ∀ t ∈ args, t.preorder ⊆ (Tree.call head args).preorder := fun t ht =>
  List.Subset.trans (preorder_subset_preorderAll args t ht) (List.subset_cons_self _ _)

theorem preorder_subset_joined (head : Text) (first : Tree) (rest : List Tree) :
    ∀ t ∈ first :: rest, t.preorder ⊆ (Tree.joined head first rest).preorder := by
  induction rest generalizing first with
  | nil => exact List.forall_mem_singleton.mpr (List.Subset.refl _)
  | cons next rest ih =>
      have hall := ih (.call (.text head) [first, next])
      rw [List.forall_mem_cons] at hall
      have hargs := preorder_subset_call (.text head) [first, next]
      refine List.forall_mem_cons.mpr ⟨?_, List.forall_mem_cons.mpr ⟨?_, hall.2⟩⟩
      · exact List.Subset.trans (hargs first (by simp)) hall.1
      · exact List.Subset.trans (hargs next (by simp)) hall.1

-- Something holds throughout a tree
def Throughout (P : Tree → Prop) (t : Tree) : Prop := ∀ node ∈ t.preorder, P node

namespace Throughout

variable (P : Tree → Prop)

theorem all (ts : List Tree) (h : ∀ t ∈ ts, Throughout P t) : ∀ node ∈ preorderAll ts, P node := by
  induction ts with
  | nil => simp [preorderAll]
  | cons t rest ih =>
      rw [List.forall_mem_cons] at h
      rw [preorderAll, List.forall_mem_append]
      exact ⟨h.1, ih h.2⟩

theorem call (head : Value) (args : List Tree) (hcall : P (.call head args))
    (h : ∀ t ∈ args, Throughout P t) : Throughout P (.call head args) :=
  List.forall_mem_cons.mpr ⟨hcall, all P args h⟩

theorem joined (head : Text) (hpair : ∀ t t', P (.call (.text head) [t, t'])) (first : Tree)
    (rest : List Tree) (hfirst : Throughout P first) (hrest : ∀ t ∈ rest, Throughout P t) :
    Throughout P (.joined head first rest) := by
  induction rest generalizing first with
  | nil => exact hfirst
  | cons next rest ih =>
      rw [List.forall_mem_cons] at hrest
      refine ih _ (call P _ _ (hpair first next) ?_) hrest.2
      exact List.forall_mem_cons.mpr ⟨hfirst, List.forall_mem_singleton.mpr hrest.1⟩

end Throughout

end Tree

namespace Source

-- A call that stands for an operator, a bracket or parentheses
def Joins (node : Tree) : Prop :=
  ∃ head args, node = .call (.text head) args ∧ (head, args.length) ∈ operatorCalls

namespace Built

theorem preorder_subset_group (b : Built) (k : Nat) : b.tree.preorder ⊆ (b.group k).preorder := by
  rcases b.group_cases k with hk | hk
  · exact hk ▸ List.Subset.refl _
  · exact hk ▸ Tree.preorder_subset_call _ _ b.tree List.mem_cons_self

theorem throughout_group (P : Tree → Prop) (hjoins : ∀ node, Joins node → P node) (b : Built)
    (k : Nat) (h : b.tree.Throughout P) : (b.group k).Throughout P := by
  rcases b.group_cases k with hk | hk
  · exact hk ▸ h
  · have hparen : (Text.ofString "paren", 1) ∈ operatorCalls := by decide
    have hcall : P (.call (.text "paren") [b.tree]) := hjoins _ ⟨_, _, rfl, hparen⟩
    exact hk ▸ Tree.Throughout.call P _ _ hcall (List.forall_mem_singleton.mpr h)

theorem throughout_operands (P : Tree → Prop) (hjoins : ∀ node, Joins node → P node) (head : Text)
    (hhead : (head, 2) ∈ operatorCalls) (left right : Built) (k k' : Nat)
    (hleft : left.tree.Throughout P) (hright : right.tree.Throughout P) :
    (Tree.call (.text head) [left.group k, right.group k']).Throughout P := by
  refine Tree.Throughout.call P _ _ (hjoins _ ⟨head, _, rfl, hhead⟩) ?_
  refine List.forall_mem_cons.mpr ⟨left.throughout_group P hjoins k hleft, ?_⟩
  exact List.forall_mem_singleton.mpr (right.throughout_group P hjoins k' hright)

theorem throughout_links (P : Tree → Prop) (hjoins : ∀ node, Joins node → P node) (left : Built)
    (hleft : left.tree.Throughout P) (ps : List ((ComparisonOp × Expr) × (Operator × Built)))
    (hops : ∀ p ∈ ps, p.1.1.operator = .ok p.2.1)
    (hps : ∀ p ∈ ps, p.2.2.tree.Throughout P) :
    ∀ t ∈ Built.links left (ps.map Prod.snd), t.Throughout P := by
  induction ps generalizing left with
  | nil => simp [Built.links]
  | cons p rest ih =>
      rw [List.forall_mem_cons] at hops hps
      refine List.forall_mem_cons.mpr ⟨?_, ih p.2.2 hps.1 hops.2 hps.2⟩
      exact throughout_operands P hjoins _ (p.1.1.mem_operatorCalls _ hops.1) left p.2.2 _ _ hleft hps.1

-- The tree of each operand of a chain is part of one of its links
theorem exists_link (left : Built) (ps : List ((ComparisonOp × Expr) × (Operator × Built))) :
    ∀ p ∈ ps, ∃ t ∈ Built.links left (ps.map Prod.snd), p.2.2.tree.preorder ⊆ t.preorder := by
  induction ps generalizing left with
  | nil => simp
  | cons p rest ih =>
      refine List.forall_mem_cons.mpr ⟨⟨_, List.mem_cons_self, ?_⟩, fun q hq => ?_⟩
      · refine List.Subset.trans (p.2.2.preorder_subset_group (p.2.1.strength + 1)) ?_
        exact Tree.preorder_subset_call _ _ _ (List.mem_cons_of_mem _ List.mem_cons_self)
      · obtain ⟨t, ht, hsubset⟩ := ih p.2.2 q hq
        exact ⟨t, List.mem_cons_of_mem _ ht, hsubset⟩

end Built

namespace Expr

theorem mem_nodesAll_iff (es : List Expr) (c : Expr) : c ∈ nodesAll es ↔ ∃ e ∈ es, c ∈ e.nodes := by
  induction es with
  | nil => simp [nodesAll]
  | cons e rest ih => simp [nodesAll, ih]

theorem mem_nodesLinks_iff (links : List (ComparisonOp × Expr)) (c : Expr) :
    c ∈ nodesLinks links ↔ ∃ l ∈ links, c ∈ l.2.nodes := by
  induction links with
  | nil => simp [nodesLinks]
  | cons l rest ih => simp [nodesLinks, ih]

-- Something holds of whatever these expressions write themselves: literals, names and calls
structure Written (P : Tree → Prop) (es : List Expr) : Prop where
  literal : ∀ column value v, .constant column value ∈ es → value.value? = some v → P (.literal v)
  identifier : ∀ e ∈ es, ∀ name : String, e.knownName? = some name → P (.identifier (.text name))
  call : ∀ column callee args name ts, .call column callee args [] ∈ es →
    callee.knownName? = some name → P (.call (.text (Text.ofString name)) ts)

theorem Written.mono (P : Tree → Prop) (es part : List Expr) (h : Written P es) (hpart : part ⊆ es) :
    Written P part where
  literal column value v hmem := h.literal column value v (hpart hmem)
  identifier e he := h.identifier e (hpart he)
  call column callee args name ts hmem := h.call column callee args name ts (hpart hmem)

-- What holds of all that an expression writes, and of the calls that join operands, holds throughout
-- its tree
theorem Builds.throughout (P : Tree → Prop) (hjoins : ∀ node, Joins node → P node) (e : Expr)
    (b : Built) (h : Builds e b) (hwritten : Written P e.nodes) : b.tree.Throughout P := by
  induction h with
  | constant column value v h =>
      exact List.forall_mem_singleton.mpr (hwritten.literal column value v (self_mem_nodes _) h)
  | name column id =>
      exact List.forall_mem_singleton.mpr (hwritten.identifier _ (self_mem_nodes _) id rfl)
  | member column base member name h =>
      exact List.forall_mem_singleton.mpr (hwritten.identifier _ (self_mem_nodes _) name h)
  | unary column op operand operator b hop _ ih =>
      have hb := ih (hwritten.mono _ _ _ (List.subset_cons_self _ _))
      refine Tree.Throughout.call P _ _ (hjoins _ ⟨_, _, rfl, op.mem_operatorCalls operator hop⟩) ?_
      exact List.forall_mem_singleton.mpr (b.throughout_group P hjoins _ hb)
  | binary column op left right operator b b' hop _ _ ihl ihr =>
      have hleft := ihl (hwritten.mono _ _ _ (by simp [nodes]))
      have hright := ihr (hwritten.mono _ _ _ (by simp [nodes]))
      obtain ⟨k, k', hbinary⟩ := Built.binary_eq_apply operator b b'
      rw [hbinary]
      exact Built.throughout_operands P hjoins _ (op.mem_operatorCalls operator hop) b b' k k'
        hleft hright
  | boolean column op first b rest _ _ ihf ihr =>
      have hfirst := ihf (hwritten.mono _ _ _ (by simp [nodes]))
      have hrest := hwritten.mono _ _ (nodesAll (rest.map Prod.fst)) (by simp [nodes])
      rw [Built.tree_boolean]
      refine Tree.Throughout.joined P _ (fun t t' => hjoins _ ⟨_, _, rfl, op.mem_operatorCalls⟩) _ _
        (b.throughout_group P hjoins _ hfirst) ?_
      simp only [List.forall_mem_map]
      refine fun p hp => p.2.throughout_group P hjoins _ (ihr p hp (hrest.mono _ _ _ ?_))
      exact nodes_subset_nodesAll _ p.1 (List.mem_map_of_mem hp)
  | comparison column left op right operator b b' links hop _ _ hops _ ihl ihr ihlinks =>
      have hleft := ihl (hwritten.mono _ _ _ (by simp [nodes]))
      have hright := ihr (hwritten.mono _ _ _ (by grind [nodes]))
      have hlinks := hwritten.mono _ _ (nodesLinks (links.map Prod.fst)) (by grind [nodes])
      have hand : ∀ t t', P (.call (.text "and") [t, t']) := fun t t' =>
        hjoins _ ⟨_, _, rfl, BooleanOp.and.mem_operatorCalls⟩
      rw [Built.tree_chain]
      refine Tree.Throughout.joined P _ hand _ _ ?_ ?_
      · exact Built.throughout_operands P hjoins _ (op.mem_operatorCalls operator hop) b b' _ _
          hleft hright
      · refine b'.throughout_links P hjoins hright links hops fun l hl =>
          ihlinks l hl (hlinks.mono _ _ _ ?_)
        exact nodes_subset_nodesLinks _ l.1 (List.mem_map_of_mem hl)
  | call column callee name args hname _ ih =>
      have hcall := hwritten.call column callee _ name (args.map (·.2.tree)) (self_mem_nodes _) hname
      have hargs := hwritten.mono _ _ (nodesAll (args.map Prod.fst)) (List.subset_cons_self _ _)
      refine Tree.Throughout.call P _ _ hcall ?_
      simp only [List.forall_mem_map]
      refine fun p hp => ih p hp (hargs.mono _ _ _ ?_)
      exact nodes_subset_nodesAll _ p.1 (List.mem_map_of_mem hp)
  | subscript column base index b b' _ _ ihb ihi =>
      have hbase := ihb (hwritten.mono _ _ _ (by simp [nodes]))
      have hindex := ihi (hwritten.mono _ _ _ (by simp [nodes]))
      have hsubscript : (Text.ofString "[]", 2) ∈ operatorCalls := by decide
      exact Built.throughout_operands P hjoins _ hsubscript b b' _ 0 hbase hindex

-- Every part of an expression has its tree in the tree of the whole
theorem Builds.of_mem_nodes (e : Expr) (b : Built) (h : Builds e b) (c : Expr) (hc : c ∈ e.nodes) :
    ∃ b', Builds c b' ∧ b'.tree ∈ b.tree.preorder := by
  have hself (e : Expr) (b : Built) (h : Builds e b) :
      ∃ b', Builds e b' ∧ b'.tree ∈ b.tree.preorder :=
    ⟨b, h, Tree.self_mem_preorder _⟩
  -- The part belongs to an operand, whose tree is part of the tree of the whole
  have hpart (operand : Built) (whole : Tree) (hsubset : operand.tree.preorder ⊆ whole.preorder)
      (h : ∃ b', Builds c b' ∧ b'.tree ∈ operand.tree.preorder) :
      ∃ b', Builds c b' ∧ b'.tree ∈ whole.preorder := by
    obtain ⟨b', hb, hmem⟩ := h
    exact ⟨b', hb, hsubset hmem⟩
  have hoperands (head : Text) (left right : Built) (k k' : Nat) :
      left.tree.preorder ⊆ (Tree.call (.text head) [left.group k, right.group k']).preorder ∧
        right.tree.preorder ⊆ (Tree.call (.text head) [left.group k, right.group k']).preorder := by
    have hargs := Tree.preorder_subset_call (.text head) [left.group k, right.group k']
    exact ⟨List.Subset.trans (left.preorder_subset_group k) (hargs _ (by simp)),
      List.Subset.trans (right.preorder_subset_group k') (hargs _ (by simp))⟩
  induction h with
  | constant column value v h =>
      exact List.mem_singleton.mp hc ▸ hself _ _ (.constant column value v h)
  | name column id => exact List.mem_singleton.mp hc ▸ hself _ _ (.name column id)
  | member column base member name h =>
      exact List.mem_singleton.mp hc ▸ hself _ _ (.member column base member name h)
  | unary column op operand operator b hop h ih =>
      rcases List.mem_cons.mp hc with rfl | hc
      · exact hself _ _ (.unary column op operand operator b hop h)
      · refine hpart b _ (List.Subset.trans (b.preorder_subset_group operator.strength) ?_) (ih hc)
        exact Tree.preorder_subset_call _ _ _ List.mem_cons_self
  | binary column op left right operator b b' hop hleft hright ihl ihr =>
      rcases List.mem_cons.mp hc with rfl | hc
      · exact hself _ _ (.binary column op left right operator b b' hop hleft hright)
      obtain ⟨k, k', hbinary⟩ := Built.binary_eq_apply operator b b'
      obtain ⟨hl, hr⟩ := hoperands operator.head b b' k k'
      rw [hbinary]
      rcases List.mem_append.mp hc with hc | hc
      · exact hpart b _ hl (ihl hc)
      · exact hpart b' _ hr (ihr hc)
  | boolean column op first b rest hfirst hrest ihf ihr =>
      rcases List.mem_cons.mp hc with rfl | hc
      · exact hself _ _ (.boolean column op first b rest hfirst hrest)
      have hall := Tree.preorder_subset_joined op.operator.head (b.group op.operator.strength)
        ((rest.map Prod.snd).map (·.group op.operator.strength))
      rw [List.forall_mem_cons] at hall
      rw [Built.tree_boolean]
      rcases List.mem_append.mp hc with hc | hc
      · exact hpart b _ (List.Subset.trans (b.preorder_subset_group _) hall.1) (ihf hc)
      · obtain ⟨e, he, hc⟩ := (mem_nodesAll_iff _ _).mp hc
        obtain ⟨p, hp, rfl⟩ := List.mem_map.mp he
        have hmem := List.mem_map_of_mem (f := (·.group op.operator.strength))
          (List.mem_map_of_mem (f := Prod.snd) hp)
        exact hpart p.2 _ (List.Subset.trans (p.2.preorder_subset_group _) (hall.2 _ hmem)) (ihr p hp hc)
  | comparison column left op right operator b b' links hop hleft hright hops hlinks ihl ihr ihlinks =>
      rcases List.mem_cons.mp hc with rfl | hc
      · exact hself _ _
          (.comparison column left op right operator b b' links hop hleft hright hops hlinks)
      have hall := Tree.preorder_subset_joined "and" (Built.link operator b b')
        (Built.links b' (links.map Prod.snd))
      rw [List.forall_mem_cons] at hall
      obtain ⟨hl, hr⟩ := hoperands operator.head b b' (operator.strength + 1) (operator.strength + 1)
      rw [Built.tree_chain]
      rcases List.mem_append.mp hc with hc | hc
      · exact hpart b _ (List.Subset.trans hl hall.1) (ihl hc)
      rcases List.mem_append.mp hc with hc | hc
      · exact hpart b' _ (List.Subset.trans hr hall.1) (ihr hc)
      · obtain ⟨l, hl, hc⟩ := (mem_nodesLinks_iff _ _).mp hc
        obtain ⟨p, hp, rfl⟩ := List.mem_map.mp hl
        obtain ⟨t, ht, hsubset⟩ := b'.exists_link links p hp
        exact hpart p.2.2 _ (List.Subset.trans hsubset (hall.2 t ht)) (ihlinks p hp hc)
  | call column callee name args hname hargs ih =>
      rcases List.mem_cons.mp hc with rfl | hc
      · exact hself _ _ (.call column callee name args hname hargs)
      · obtain ⟨e, he, hc⟩ := (mem_nodesAll_iff _ _).mp hc
        obtain ⟨p, hp, rfl⟩ := List.mem_map.mp he
        refine hpart p.2 _ ?_ (ih p hp hc)
        exact Tree.preorder_subset_call _ _ _ (List.mem_map_of_mem hp)
  | subscript column base index b b' hbase hindex ihb ihi =>
      rcases List.mem_cons.mp hc with rfl | hc
      · exact hself _ _ (.subscript column base index b b' hbase hindex)
      obtain ⟨hl, hr⟩ := hoperands "[]" b b' Strength.atom 0
      rcases List.mem_append.mp hc with hc | hc
      · exact hpart b _ hl (ihb hc)
      · exact hpart b' _ hr (ihi hc)

end Expr

end Source

end Formulary
