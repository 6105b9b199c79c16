import Formulary.Proofs.Failure
import Formulary.Proofs.Source.Language
import Formulary.Proofs.Tree.Names

namespace Formulary

-- Trees in a row under one head of two arguments, grouped to the left
def Tree.joined (head : Text) (first : Tree) (rest : List Tree) : Tree :=
  rest.foldl (fun t t' => .call (.text head) [t, t']) first

theorem Tree.wellFormed_joined (head : Text) (first : Tree) (rest : List Tree)
    (h : first.WellFormed) (hrest : ∀ t ∈ rest, t.WellFormed) :
    (Tree.joined head first rest).WellFormed := by
  induction rest generalizing first with
  | nil => exact h
  | cons t rest ih =>
      rw [List.forall_mem_cons] at hrest
      exact ih _ ⟨h, hrest.1, trivial⟩ hrest.2

namespace Source

namespace Built

-- The links of a chain after its first one, each from the operand before it
def links (left : Built) : List (Operator × Built) → List Tree
  | [] => []
  | (operator, right) :: rest => Built.link operator left right :: links right rest

theorem group_cases (b : Built) (k : Nat) :
    b.group k = b.tree ∨ b.group k = .call (.text "paren") [b.tree] := by
  unfold group
  split
  · exact .inr rfl
  · exact .inl rfl

-- Every operator is applied to its operands, in parentheses or not
theorem binary_eq_apply (operator : Operator) (left right : Built) :
    ∃ k k', Built.binary operator left right = .apply operator [left.group k, right.group k'] := by
  unfold Built.binary
  split
  · exact ⟨0, 0, rfl⟩
  split
  · exact ⟨_, 0, rfl⟩
  · exact ⟨_, _, rfl⟩

theorem tree_boolean (operator : Operator) (first : Built) (rest : List Built) :
    (Built.boolean operator first rest).tree =
      .joined operator.head (first.group operator.strength)
        (rest.map (·.group operator.strength)) := by
  rw [Tree.joined, List.foldl_map]
  rfl

theorem tree_chain (first : Tree) (links : List Tree) :
    (Built.chain first links).tree = .joined "and" first links := by
  cases links <;> rfl

end Built

namespace Expr

-- A path spells the name out, and a name without a path is refused
theorem path_of_writtenName? (e : Expr) (name : String) (h : e.writtenName? = some name) :
    ∃ parts, parts ≠ [] ∧ e.path = .ok parts ∧ ".".intercalate parts = name := by
  induction e using Expr.writtenName?.induct generalizing name with
  | case1 column id =>
      cases h
      exact ⟨[id], by simp, rfl, by simp⟩
  | case2 column base member ih =>
      rw [writtenName?] at h
      obtain ⟨before, hbefore, h⟩ := Option.bind_eq_some_iff.mp h
      cases h
      obtain ⟨parts, hne, hpath, rfl⟩ := ih before hbefore
      refine ⟨parts ++ [member], by simp, ?_, ?_⟩
      · rw [path, hpath]
        rfl
      · rw [String.intercalate_append_of_ne_nil hne (by simp)]
        simp
  | case3 e hname hattribute =>
      rw [writtenName?] at h
      · cases h
      all_goals assumption

theorem dottedName_append (parts : List String) (member name : String)
    (h : ".".intercalate parts = name) :
    dottedName (parts ++ [member]) =
      if name ∈ moduleNames then member else name ++ "." ++ member := by
  unfold dottedName
  simp [h]

theorem headName_of_knownName? (e : Expr) (name : String) (h : e.knownName? = some name) :
    e.headName = .ok name := by
  unfold knownName? at h
  split at h
  · cases h
    rfl
  · rename_i column base member
    obtain ⟨before, hbefore, h⟩ := Option.bind_eq_some_iff.mp h
    obtain ⟨parts, -, hpath, hparts⟩ := path_of_writtenName? base before hbefore
    rw [headName, path, hpath, ← Option.some.inj h]
    exact congrArg Except.ok (dottedName_append parts member before hparts)
  · cases h

end Expr

theorem UnaryOp.operator_of_symbol? (op : UnaryOp) (symbol : String) (h : op.symbol? = some symbol) :
    ∃ operator, op.operator = .ok operator ∧ operator.head = symbol := by
  cases op <;> cases h <;> exact ⟨_, rfl, rfl⟩

theorem BinaryOp.operator_of_symbol? (op : BinaryOp) (symbol : String)
    (h : op.symbol? = some symbol) :
    ∃ operator, op.operator = .ok operator ∧ operator.head = symbol := by
  cases op <;> cases h <;> exact ⟨_, rfl, rfl⟩

theorem ComparisonOp.operator_of_symbol? (op : ComparisonOp) (symbol : String)
    (h : op.symbol? = some symbol) :
    ∃ operator, op.operator = .ok operator ∧ operator.head = symbol := by
  cases op <;> cases h <;> exact ⟨_, rfl, rfl⟩

namespace Expr

-- What the tree of an expression is, put together from the trees of its operands
inductive Builds : Expr → Built → Prop
  | constant (column : Nat) (value : Constant) (v : Value) (h : value.value? = some v) :
      Builds (.constant column value) (.atom (.literal v))
  | name (column : Nat) (id : String) : Builds (.name column id) (.atom (.identifier (.text id)))
  | member (column : Nat) (base : Expr) (member name : String)
      (h : (Expr.attribute column base member).knownName? = some name) :
      Builds (.attribute column base member) (.atom (.identifier (.text name)))
  | unary (column : Nat) (op : UnaryOp) (operand : Expr) (operator : Operator) (b : Built)
      (hop : op.operator = .ok operator) (h : Builds operand b) :
      Builds (.unary column op operand) (.unary operator b)
  | binary (column : Nat) (op : BinaryOp) (left right : Expr) (operator : Operator) (b b' : Built)
      (hop : op.operator = .ok operator) (hleft : Builds left b) (hright : Builds right b') :
      Builds (.binary column op left right) (.binary operator b b')
  | boolean (column : Nat) (op : BooleanOp) (first : Expr) (b : Built) (rest : List (Expr × Built))
      (hfirst : Builds first b) (hrest : ∀ p ∈ rest, Builds p.1 p.2) :
      Builds (.boolean column op first (rest.map Prod.fst))
        (.boolean op.operator b (rest.map Prod.snd))
  | comparison (column : Nat) (left : Expr) (op : ComparisonOp) (right : Expr) (operator : Operator)
      (b b' : Built) (links : List ((ComparisonOp × Expr) × (Operator × Built)))
      (hop : op.operator = .ok operator) (hleft : Builds left b) (hright : Builds right b')
      (hops : ∀ l ∈ links, l.1.1.operator = .ok l.2.1)
      (hlinks : ∀ l ∈ links, Builds l.1.2 l.2.2) :
      Builds (.comparison column left op right (links.map Prod.fst))
        (.chain (Built.link operator b b') (Built.links b' (links.map Prod.snd)))
  | call (column : Nat) (callee : Expr) (name : String) (args : List (Expr × Built))
      (hname : callee.knownName? = some name) (hargs : ∀ p ∈ args, Builds p.1 p.2) :
      Builds (.call column callee (args.map Prod.fst) [])
        (.atom (.call (.text name) (args.map (·.2.tree))))
  | subscript (column : Nat) (base index : Expr) (b b' : Built) (hbase : Builds base b)
      (hindex : Builds index b') :
      Builds (.subscript column base index)
        (.atom (.call (.text "[]") [b.group Strength.atom, b'.tree]))

theorem knownName?_of_writtenName? (e : Expr) (name : String) (h : e.writtenName? = some name) :
    ∃ known, e.knownName? = some known := by
  unfold writtenName? at h
  split at h
  · exact ⟨_, rfl⟩
  · obtain ⟨before, hbefore, -⟩ := Option.bind_eq_some_iff.mp h
    exact ⟨_, Option.bind_eq_some_iff.mpr ⟨before, hbefore, rfl⟩⟩
  · cases h

theorem buildAll_map (ps : List (Expr × Built)) (h : ∀ p ∈ ps, p.1.build = .ok p.2) :
    buildAll (ps.map Prod.fst) = .ok (ps.map Prod.snd) := by
  induction ps with
  | nil => rfl
  | cons p rest ih =>
      rw [List.forall_mem_cons] at h
      rw [List.map_cons, buildAll, h.1, ih h.2]
      rfl

theorem buildLinks_map (left : Built) (ps : List ((ComparisonOp × Expr) × (Operator × Built)))
    (hops : ∀ p ∈ ps, p.1.1.operator = .ok p.2.1) (h : ∀ p ∈ ps, p.1.2.build = .ok p.2.2) :
    buildLinks left (ps.map Prod.fst) = .ok (Built.links left (ps.map Prod.snd)) := by
  induction ps generalizing left with
  | nil => rfl
  | cons p rest ih =>
      obtain ⟨⟨op, e⟩, operator, right⟩ := p
      rw [List.forall_mem_cons] at hops h
      refine (bind_eq_ok_iff _ _ _).mpr ⟨operator, hops.1, ?_⟩
      refine (bind_eq_ok_iff _ _ _).mpr ⟨right, h.1, ?_⟩
      exact (bind_eq_ok_iff _ _ _).mpr ⟨_, ih right hops.2 h.2, rfl⟩

-- An expression has no other tree than the one that is put together for it
theorem Builds.build (e : Expr) (b : Built) (h : Builds e b) : e.build = .ok b := by
  induction h with
  | constant column value v h => rw [Expr.build, h]
  | name column id => rfl
  | member column base member name h =>
      obtain ⟨parts, hparts, hhead⟩ := (bind_eq_ok_iff _ _ _).mp (headName_of_knownName? _ name h)
      refine (bind_eq_ok_iff _ _ _).mpr ⟨parts, hparts, ?_⟩
      rw [Except.ok.inj hhead]
      rfl
  | unary column op operand operator b hop _ ih =>
      rw [Expr.build, hop, ih]
      rfl
  | binary column op left right operator b b' hop _ _ ihl ihr =>
      rw [Expr.build, hop, ihl, ihr]
      rfl
  | boolean column op first b rest _ _ ihf ihr =>
      rw [Expr.build, ihf, buildAll_map rest ihr]
      rfl
  | comparison column left op right operator b b' links hop _ _ hops _ ihl ihr ihlinks =>
      refine (bind_eq_ok_iff _ _ _).mpr ⟨b, ihl, (bind_eq_ok_iff _ _ _).mpr ⟨operator, hop, ?_⟩⟩
      refine (bind_eq_ok_iff _ _ _).mpr ⟨b', ihr, (bind_eq_ok_iff _ _ _).mpr ⟨_, ?_, rfl⟩⟩
      exact buildLinks_map b' links hops ihlinks
  | call column callee name args hname _ ih =>
      rw [Expr.build, headName_of_knownName? callee name hname, buildAll_map args ih]
      simp [bind, Except.bind, pure, Except.pure, Function.comp_def]
  | subscript column base index b b' _ _ ihb ihi =>
      rw [Expr.build, ihb, ihi]
      rfl

-- Where each item of a list has a partner, the list has a list of partners
theorem exists_pairs {α β : Type} (R : α → β → Prop) (items : List α)
    (h : ∀ a ∈ items, ∃ b, R a b) :
    ∃ ps : List (α × β), ps.map Prod.fst = items ∧ ∀ p ∈ ps, R p.1 p.2 := by
  induction items with
  | nil => exact ⟨[], rfl, by simp⟩
  | cons a rest ih =>
      rw [List.forall_mem_cons] at h
      obtain ⟨⟨b, hb⟩, hrest⟩ := h
      obtain ⟨ps, rfl, hps⟩ := ih hrest
      exact ⟨(a, b) :: ps, rfl, List.forall_mem_cons.mpr ⟨hb, hps⟩⟩

theorem value?_of_inFormulas (value : Constant) (h : value.InFormulas) :
    ∃ v, value.value? = some v := by
  cases value with
  | octets _ => cases h
  | none => cases h
  | ellipsis => cases h
  | _ => exact ⟨_, rfl⟩

theorem toTree_of_build (e : Expr) (b : Built) (h : e.build = .ok b) : e.toTree = .ok b.tree := by
  rw [toTree, h]
  rfl

-- What is a formula has a tree
theorem Supported.exists_builds (e : Expr) (h : e.Supported) : ∃ b, Builds e b := by
  induction h with
  | constant column value h =>
      obtain ⟨v, hv⟩ := value?_of_inFormulas value h
      exact ⟨_, .constant column value v hv⟩
  | name column id => exact ⟨_, .name column id⟩
  | member column base member name h =>
      have hknown : (Expr.attribute column base member).knownName? =
          some (if name ∈ moduleNames then member else name ++ "." ++ member) :=
        Option.bind_eq_some_iff.mpr ⟨name, h, rfl⟩
      exact ⟨_, .member column base member _ hknown⟩
  | unary column op operand symbol hop _ ih =>
      obtain ⟨operator, hoperator, -⟩ := op.operator_of_symbol? symbol hop
      obtain ⟨b, hbuilds⟩ := ih
      exact ⟨_, .unary column op operand operator b hoperator hbuilds⟩
  | binary column op left right symbol hop _ _ ihl ihr =>
      obtain ⟨operator, hoperator, -⟩ := op.operator_of_symbol? symbol hop
      obtain ⟨b, hleft⟩ := ihl
      obtain ⟨b', hright⟩ := ihr
      exact ⟨_, .binary column op left right operator b b' hoperator hleft hright⟩
  | boolean column op first rest _ _ ihf ihr =>
      obtain ⟨b, hfirst⟩ := ihf
      obtain ⟨ps, rfl, hps⟩ := exists_pairs Builds rest ihr
      exact ⟨_, .boolean column op first b ps hfirst hps⟩
  | comparison column left op right links symbol hop _ _ hops _ ihl ihr ihlinks =>
      obtain ⟨operator, hoperator, -⟩ := op.operator_of_symbol? symbol hop
      obtain ⟨b, hleft⟩ := ihl
      obtain ⟨b', hright⟩ := ihr
      have hpairs : ∀ l ∈ links,
          ∃ r : Operator × Built, l.1.operator = .ok r.1 ∧ Builds l.2 r.2 := by
        intro l hl
        obtain ⟨symbol, hsymbol⟩ := hops l hl
        obtain ⟨operator, hoperator, -⟩ := l.1.operator_of_symbol? symbol hsymbol
        obtain ⟨b, hbuilds⟩ := ihlinks l hl
        exact ⟨(operator, b), hoperator, hbuilds⟩
      obtain ⟨ps, rfl, hps⟩ := exists_pairs _ links hpairs
      exact ⟨_, .comparison column left op right operator b b' ps hoperator hleft hright
        (fun p hp => (hps p hp).1) (fun p hp => (hps p hp).2)⟩
  | call column callee args name hname _ ih =>
      obtain ⟨known, hknown⟩ := knownName?_of_writtenName? callee name hname
      obtain ⟨ps, rfl, hps⟩ := exists_pairs Builds args ih
      exact ⟨_, .call column callee known ps hknown hps⟩
  | subscript column base index _ _ ihb ihi =>
      obtain ⟨b, hbase⟩ := ihb
      obtain ⟨b', hindex⟩ := ihi
      exact ⟨_, .subscript column base index b b' hbase hindex⟩

theorem Supported.builds (e : Expr) (h : e.Supported) : ∃ b, e.build = .ok b ∧ Builds e b := by
  obtain ⟨b, hbuilds⟩ := h.exists_builds
  exact ⟨b, hbuilds.build, hbuilds⟩

theorem wellFormed_group (b : Built) (k : Nat) (h : b.tree.WellFormed) :
    (b.group k).WellFormed := by
  rcases b.group_cases k with hk | hk
  · exact hk ▸ h
  · exact hk ▸ ⟨h, trivial⟩

theorem wellFormed_links (left : Built) (links : List (Operator × Built))
    (hleft : left.tree.WellFormed) (h : ∀ l ∈ links, l.2.tree.WellFormed) :
    ∀ t ∈ Built.links left links, t.WellFormed := by
  induction links generalizing left with
  | nil => simp [Built.links]
  | cons l rest ih =>
      rw [List.forall_mem_cons] at h
      refine List.forall_mem_cons.mpr ⟨?_, ih l.2 h.1 h.2⟩
      exact ⟨wellFormed_group _ _ hleft, wellFormed_group _ _ h.1, trivial⟩

theorem Builds.wellFormed (e : Expr) (b : Built) (h : Builds e b) : b.tree.WellFormed := by
  induction h with
  | constant column value v h => trivial
  | name column id => trivial
  | member column base member name h => trivial
  | unary column op operand operator b hop h ih => exact ⟨wellFormed_group b _ ih, trivial⟩
  | binary column op left right operator b b' hop _ _ ihl ihr =>
      obtain ⟨k, k', hbinary⟩ := Built.binary_eq_apply operator b b'
      rw [hbinary]
      exact ⟨wellFormed_group b k ihl, wellFormed_group b' k' ihr, trivial⟩
  | boolean column op first b rest _ _ ihf ihr =>
      rw [Built.tree_boolean]
      refine Tree.wellFormed_joined _ _ _ (wellFormed_group b _ ihf) ?_
      simp only [List.forall_mem_map]
      exact fun p hp => wellFormed_group p.2 _ (ihr p hp)
  | comparison column left op right operator b b' links hop _ _ hops _ ihl ihr ihlinks =>
      rw [Built.tree_chain]
      refine Tree.wellFormed_joined _ _ _ ?_ (wellFormed_links b' _ ihr ?_)
      · exact ⟨wellFormed_group b _ ihl, wellFormed_group b' _ ihr, trivial⟩
      · simpa only [List.forall_mem_map] using ihlinks
  | call column callee name args hname _ ih =>
      refine (Tree.allWellFormed_iff _).mpr ?_
      simpa only [List.forall_mem_map] using ih
  | subscript column base index b b' _ _ ihb ihi =>
      exact ⟨wellFormed_group b _ ihb, ihi, trivial⟩

end Expr

end Source

end Formulary
