import Formulary.Proofs.Meaning
import Formulary.Proofs.Source.Leaves
import Formulary.Source.Expr.Reading

namespace Formulary.Source

variable {V : Type}

def Constant.meaning? (m : Meaning V) : Constant → Option V
  | .truth b => some (m.literal (.truth b))
  | .integer n => some (m.literal (.integer n))
  | .real x => some (m.literal (.real x))
  | .complex re im => some (m.literal (.complex re im))
  | .text s => some (m.literal (.text s))
  | _ => Option.none

theorem UnaryOp.symbol?_of_operator (op : UnaryOp) (operator : Operator)
    (h : op.operator = .ok operator) : op.symbol? = some operator.head := by
  cases op <;> cases h <;> rfl

theorem BinaryOp.symbol?_of_operator (op : BinaryOp) (operator : Operator)
    (h : op.operator = .ok operator) : op.symbol? = some operator.head := by
  cases op <;> cases h <;> rfl

theorem ComparisonOp.symbol?_of_operator (op : ComparisonOp) (operator : Operator)
    (h : op.operator = .ok operator) : op.symbol? = some operator.head := by
  cases op <;> cases h <;> rfl

-- The heads of the other operators are no connectives
theorem UnaryOp.call_operator (m : Meaning V) (op : UnaryOp) (operator : Operator)
    (h : op.operator = .ok operator) (values : List V) :
    m.call operator.head values = m.apply operator.head values := by
  cases op <;> cases h <;> exact m.call_of_ne _ _ (by decide) (by decide)

theorem BinaryOp.call_operator (m : Meaning V) (op : BinaryOp) (operator : Operator)
    (h : op.operator = .ok operator) (values : List V) :
    m.call operator.head values = m.apply operator.head values := by
  cases op <;> cases h <;> exact m.call_of_ne _ _ (by decide) (by decide)

theorem ComparisonOp.call_operator (m : Meaning V) (op : ComparisonOp) (operator : Operator)
    (h : op.operator = .ok operator) (values : List V) :
    m.call operator.head values = m.apply operator.head values := by
  cases op <;> cases h <;> exact m.call_of_ne _ _ (by decide) (by decide)

namespace Expr

mutual

-- What an expression means. Operators and brackets mean what their symbols do, connectives select
-- among all their operands, and a chain is the conjunction of its links. `calls` tells what the calls
-- mean that the expression writes itself
def meaning? (m : Meaning V) (calls : Text → List V → V) : Expr → Option V
  | .constant _ value => value.meaning? m
  | .name _ id => some (m.name id)
  | .attribute column base member => do
    return m.name (← (Expr.attribute column base member).knownName?)
  | .unary _ op operand => do
    let symbol ← op.symbol?
    return m.apply symbol [← operand.meaning? m calls]
  | .binary _ op left right => do
    let symbol ← op.symbol?
    let v ← left.meaning? m calls
    return m.apply symbol [v, ← right.meaning? m calls]
  | .boolean _ op first rest => do
    let v ← first.meaning? m calls
    return m.selectAll op v (← meaningAll? m calls rest)
  | .comparison _ left op right links => do
    let symbol ← op.symbol?
    let v ← left.meaning? m calls
    let w ← right.meaning? m calls
    return m.selectAll .and (m.apply symbol [v, w]) (← meaningLinks? m calls w links)
  | .call _ callee args [] => do
    let name ← callee.knownName?
    return calls name (← meaningAll? m calls args)
  | .subscript _ base index => do
    let v ← base.meaning? m calls
    return m.apply "[]" [v, ← index.meaning? m calls]
  | _ => none

def meaningAll? (m : Meaning V) (calls : Text → List V → V) : List Expr → Option (List V)
  | [] => some []
  | e :: rest => do
    let v ← e.meaning? m calls
    return v :: (← meaningAll? m calls rest)

-- The links after the first one, each from the operand before it
def meaningLinks? (m : Meaning V) (calls : Text → List V → V) (before : V) :
    List (ComparisonOp × Expr) → Option (List V)
  | [] => some []
  | (op, e) :: rest => do
    let symbol ← op.symbol?
    let v ← e.meaning? m calls
    return m.apply symbol [before, v] :: (← meaningLinks? m calls v rest)

end

variable (m : Meaning V) (calls : Text → List V → V)

theorem meaning?_constant (column : Nat) (value : Constant) (v : Value) (h : value.value? = some v) :
    (Expr.constant column value).meaning? m calls = some (m.literal v) := by
  cases value <;> cases h <;> rfl

-- Lists of expressions whose trees mean the same
theorem meaningAll?_of_builds (ps : List (Expr × Built))
    (h : ∀ p ∈ ps, ∃ v, p.1.meaning? m calls = some v ∧ p.2.tree.meaning? m = some v) :
    ∃ values, meaningAll? m calls (ps.map Prod.fst) = some values ∧
      Tree.meaningAll? m (ps.map (·.2.tree)) = some values := by
  induction ps with
  | nil => exact ⟨[], rfl, rfl⟩
  | cons p rest ih =>
      rw [List.forall_mem_cons] at h
      obtain ⟨⟨v, hv, hv'⟩, hrest⟩ := h
      obtain ⟨values, hvalues, hvalues'⟩ := ih hrest
      refine ⟨v :: values, ?_, Tree.meaningAll?_cons m _ _ v values hv' hvalues'⟩
      rw [List.map_cons, meaningAll?, hv, hvalues]
      rfl

theorem meaning?_operands (head : Text) (left right : Built) (k k' : Nat) (v w : V)
    (h : left.tree.meaning? m = some v) (h' : right.tree.meaning? m = some w) :
    (Tree.call (.text head) [left.group k, right.group k']).meaning? m = some (m.call head [v, w]) :=
  Tree.meaning?_call m _ _ _ (Tree.meaningAll?_pair m _ _ v w (Tree.meaning?_group m left k v h)
    (Tree.meaning?_group m right k' w h'))

theorem meaningAll?_group (bs : List Built) (k : Nat) (values : List V)
    (h : Tree.meaningAll? m (bs.map (·.tree)) = some values) :
    Tree.meaningAll? m (bs.map (·.group k)) = some values := by
  induction bs generalizing values with
  | nil => exact h
  | cons b rest ih =>
      obtain ⟨v, hv, h⟩ := Option.bind_eq_some_iff.mp h
      obtain ⟨values, hvalues, h⟩ := Option.bind_eq_some_iff.mp h
      cases h
      exact Tree.meaningAll?_cons m _ _ v values (Tree.meaning?_group m b k v hv) (ih values hvalues)

theorem meaningLinks?_of_builds (left : Built) (v : V) (hleft : left.tree.meaning? m = some v)
    (ps : List ((ComparisonOp × Expr) × (Operator × Built)))
    (hops : ∀ p ∈ ps, p.1.1.operator = .ok p.2.1)
    (h : ∀ p ∈ ps, ∃ v, p.1.2.meaning? m calls = some v ∧ p.2.2.tree.meaning? m = some v) :
    ∃ values, meaningLinks? m calls v (ps.map Prod.fst) = some values ∧
      Tree.meaningAll? m (Built.links left (ps.map Prod.snd)) = some values := by
  induction ps generalizing left v with
  | nil => exact ⟨[], rfl, rfl⟩
  | cons p rest ih =>
      obtain ⟨⟨op, e⟩, operator, right⟩ := p
      rw [List.forall_mem_cons] at hops h
      obtain ⟨hop, hops⟩ := hops
      obtain ⟨⟨w, hw, hw'⟩, hrest⟩ := h
      obtain ⟨values, hvalues, hvalues'⟩ := ih right w hw' hops hrest
      refine ⟨m.apply operator.head [v, w] :: values, ?_, ?_⟩
      · have hsymbol := op.symbol?_of_operator operator hop
        simp [meaningLinks?, hsymbol, hw, hvalues]
      · rw [← op.call_operator m operator hop]
        exact Tree.meaningAll?_cons m _ _ _ _ (meaning?_operands m _ _ _ _ _ v w hleft hw') hvalues'

-- The induction is on how the tree is put together
theorem Builds.meaning? (e : Expr) (b : Built) (h : Builds e b) :
    ∃ v, e.meaning? m m.call = some v ∧ b.tree.meaning? m = some v := by
  induction h with
  | constant column value v h => exact ⟨_, meaning?_constant m m.call column value v h, rfl⟩
  | name column id => exact ⟨_, rfl, rfl⟩
  | member column base member name h =>
      refine ⟨m.name name, ?_, rfl⟩
      rw [Expr.meaning?, h]
      rfl
  | unary column op operand operator b hop _ ih =>
      obtain ⟨v, hv, hv'⟩ := ih
      refine ⟨m.apply operator.head [v], ?_, ?_⟩
      · rw [Expr.meaning?, op.symbol?_of_operator operator hop, hv]
        rfl
      · rw [← op.call_operator m operator hop]
        exact Tree.meaning?_call m _ _ _
          (Tree.meaningAll?_cons m _ _ v [] (Tree.meaning?_group m b _ v hv') rfl)
  | binary column op left right operator b b' hop _ _ ihl ihr =>
      obtain ⟨v, hv, hv'⟩ := ihl
      obtain ⟨w, hw, hw'⟩ := ihr
      obtain ⟨k, k', hbinary⟩ := Built.binary_eq_apply operator b b'
      refine ⟨m.apply operator.head [v, w], ?_, ?_⟩
      · rw [Expr.meaning?, op.symbol?_of_operator operator hop, hv, hw]
        rfl
      · rw [← op.call_operator m operator hop, hbinary]
        exact meaning?_operands m _ b b' k k' v w hv' hw'
  | boolean column op first b rest _ _ ihf ihr =>
      obtain ⟨v, hv, hv'⟩ := ihf
      obtain ⟨values, hvalues, hvalues'⟩ := meaningAll?_of_builds m m.call rest ihr
      refine ⟨m.selectAll op v values, ?_, ?_⟩
      · rw [Expr.meaning?, hv, hvalues]
        rfl
      · rw [Built.tree_boolean]
        refine Tree.meaning?_joined m op _ _ v values (Tree.meaning?_group m b _ v hv') ?_
        refine meaningAll?_group m _ _ values ?_
        rwa [List.map_map]
  | comparison column left op right operator b b' links hop _ _ hops _ ihl ihr ihlinks =>
      obtain ⟨v, hv, hv'⟩ := ihl
      obtain ⟨w, hw, hw'⟩ := ihr
      obtain ⟨values, hvalues, hvalues'⟩ := meaningLinks?_of_builds m m.call b' w hw' links hops ihlinks
      refine ⟨m.selectAll .and (m.apply operator.head [v, w]) values, ?_, ?_⟩
      · have hsymbol := op.symbol?_of_operator operator hop
        simp [Expr.meaning?, hsymbol, hv, hw, hvalues]
      · rw [Built.tree_chain, ← op.call_operator m operator hop]
        exact Tree.meaning?_joined m .and _ _ _ values (meaning?_operands m _ b b' _ _ v w hv' hw') hvalues'
  | call column callee name args hname _ ih =>
      obtain ⟨values, hvalues, hvalues'⟩ := meaningAll?_of_builds m m.call args ih
      refine ⟨m.call name values, ?_, Tree.meaning?_call m _ _ values hvalues'⟩
      rw [Expr.meaning?, hname, hvalues]
      rfl
  | subscript column base index b b' _ _ ihb ihi =>
      obtain ⟨v, hv, hv'⟩ := ihb
      obtain ⟨w, hw, hw'⟩ := ihi
      refine ⟨m.apply "[]" [v, w], ?_, ?_⟩
      · rw [Expr.meaning?, hv, hw]
        rfl
      · rw [← m.call_of_ne "[]" [v, w] (by decide) (by decide)]
        exact meaning?_operands m _ b b' _ 0 v w hv' hw'

-- A call of two arguments that the name of a connective makes one
def NamesConnective : Expr → Prop
  | .call _ callee args _ =>
    args.length = 2 ∧ (callee.knownName? = some "and" ∨ callee.knownName? = some "or")
  | _ => False

theorem meaningAll?_congr (calls' : Text → List V → V) (es : List Expr)
    (h : ∀ e ∈ es, e.meaning? m calls = e.meaning? m calls') :
    meaningAll? m calls es = meaningAll? m calls' es := by
  induction es with
  | nil => rfl
  | cons e rest ih =>
      rw [List.forall_mem_cons] at h
      rw [meaningAll?, meaningAll?, h.1, ih h.2]

theorem meaningLinks?_congr (calls' : Text → List V → V) (links : List (ComparisonOp × Expr))
    (h : ∀ l ∈ links, l.2.meaning? m calls = l.2.meaning? m calls') (before : V) :
    meaningLinks? m calls before links = meaningLinks? m calls' before links := by
  induction links generalizing before with
  | nil => rfl
  | cons l rest ih =>
      rw [List.forall_mem_cons] at h
      simp only [meaningLinks?, h.1, ih h.2]

theorem length_of_meaningAll? (es : List Expr) (values : List V)
    (h : meaningAll? m calls es = some values) : values.length = es.length := by
  induction es generalizing values with
  | nil =>
      cases h
      rfl
  | cons e rest ih =>
      obtain ⟨v, -, h⟩ := Option.bind_eq_some_iff.mp h
      obtain ⟨values, hvalues, h⟩ := Option.bind_eq_some_iff.mp h
      cases h
      rw [List.length_cons, List.length_cons, ih values hvalues]

theorem meaning_apply_of_not_namesConnective (column : Nat) (callee : Expr) (args : List Expr)
    (name : String) (values : List V) (hname : callee.knownName? = some name)
    (hlength : values.length = args.length)
    (hn : ¬ (Expr.call column callee args []).NamesConnective) :
    m.apply name values = m.call name values := by
  by_cases htwo : values.length = 2
  · have hne : ∀ word, name = word → callee.knownName? = some word := by
      rintro word rfl
      exact hname
    refine (m.call_of_ne _ _ (fun hand => hn ⟨by omega, .inl (hne "and" ?_)⟩)
      fun hor => hn ⟨by omega, .inr (hne "or" ?_)⟩).symm
    · exact Text.ofString_injective name "and" hand
    · exact Text.ofString_injective name "or" hor
  · exact (m.call_of_length_ne _ _ htwo).symm

theorem Supported.meaning?_apply (e : Expr) (h : e.Supported)
    (hn : ∀ node ∈ e.nodes, ¬ node.NamesConnective) :
    e.meaning? m m.apply = e.meaning? m m.call := by
  induction h with
  | constant column value h => rfl
  | name column id => rfl
  | member column base member name h => rfl
  | unary column op operand symbol hop _ ih =>
      simp only [nodes, List.forall_mem_cons] at hn
      simp only [Expr.meaning?, ih hn.2]
  | binary column op left right symbol hop _ _ ihl ihr =>
      simp only [nodes, List.forall_mem_cons, List.forall_mem_append] at hn
      simp only [Expr.meaning?, ihl hn.2.1, ihr hn.2.2]
  | boolean column op first rest _ _ ihf ihr =>
      simp only [nodes, List.forall_mem_cons, List.forall_mem_append] at hn
      have hrest := meaningAll?_congr m m.apply m.call rest fun e he =>
        ihr e he fun node hnode => hn.2.2 node (nodes_subset_nodesAll rest e he hnode)
      simp only [Expr.meaning?, ihf hn.2.1, hrest]
  | comparison column left op right links symbol hop _ _ hops _ ihl ihr ihlinks =>
      simp only [nodes, List.forall_mem_cons, List.forall_mem_append] at hn
      have hlinks := meaningLinks?_congr m m.apply m.call links fun l hl =>
        ihlinks l hl fun node hnode => hn.2.2.2 node (nodes_subset_nodesLinks links l hl hnode)
      simp only [Expr.meaning?, ihl hn.2.1, ihr hn.2.2.1, hlinks]
  | call column callee args name hname _ ih =>
      simp only [nodes, List.forall_mem_cons] at hn
      have hargs := meaningAll?_congr m m.apply m.call args fun e he =>
        ih e he fun node hnode => hn.2 node (nodes_subset_nodesAll args e he hnode)
      simp only [Expr.meaning?, hargs]
      cases hknown : callee.knownName? with
      | none => rfl
      | some known =>
          cases hvalues : meaningAll? m m.call args with
          | none => rfl
          | some values =>
              have hlength := length_of_meaningAll? m m.call args values hvalues
              exact congrArg some
                (meaning_apply_of_not_namesConnective m column callee args known values hknown hlength hn.1)
  | subscript column base index _ _ ihb ihi =>
      simp only [nodes, List.forall_mem_cons, List.forall_mem_append] at hn
      simp only [Expr.meaning?, ihb hn.2.1, ihi hn.2.2]

-- Under every meaning the tree of a formula means what the formula does, and its leaves are those of the
-- formula, in the same order. A tree cannot tell a call of two arguments that bears the name of a
-- connective from the connective, so such calls select as well; a formula without them may apply
-- what its calls name
theorem toTree_keeps_meaning_and_leaves (e : Expr) (h : e.Supported) :
    ∃ t, e.toTree = .ok t ∧ t.leaves = e.leaves ∧
      ∀ (V : Type) (m : Meaning V), ∃ v, t.meaning? m = some v ∧ e.meaning? m m.call = some v ∧
        ((∀ node ∈ e.nodes, ¬ node.NamesConnective) → e.meaning? m m.apply = some v) := by
  obtain ⟨b, hb, hbuilds⟩ := h.builds
  refine ⟨b.tree, toTree_of_build e b hb, hbuilds.leaves, fun V m => ?_⟩
  obtain ⟨v, hv, hv'⟩ := hbuilds.meaning? m
  exact ⟨v, hv', hv, fun hn => (h.meaning?_apply m e hn).trans hv⟩

-- The operand between the two links of `a < math.f(x) <= c` is there twice
theorem toTree_keeps_meaning_and_leaves_of_chain :
    let e : Expr := .comparison 0 (.name 0 "a") .less
      (.call 4 (.attribute 4 (.name 4 "math") "f") [.name 11 "x"] []) [(.lessOrEqual, .name 17 "c")]
    e.Supported ∧ (∀ node ∈ e.nodes, ¬ node.NamesConnective) ∧
      ∃ t, e.toTree = .ok t ∧
        t.leaves = ["a", "x", "x", "c"].map (fun name => .identifier (.text (Text.ofString name))) ∧
        ∀ (V : Type) (m : Meaning V),
          let w := m.apply "f" [m.name "x"]
          t.meaning? m = some
            (m.select .and (m.apply "<" [m.name "a", w]) (m.apply "<=" [w, m.name "c"])) := by
  intro e
  have he : e.Supported := by
    refine .comparison _ _ _ _ _ "<" rfl (.name _ _) ?_ ?_ ?_
    · exact .call _ _ _ "math.f" rfl (List.forall_mem_singleton.mpr (.name _ _))
    · exact List.forall_mem_singleton.mpr ⟨"<=", rfl⟩
    · exact List.forall_mem_singleton.mpr (.name _ _)
  have hn : ∀ node ∈ e.nodes, ¬ node.NamesConnective := by
    simp [e, nodes, nodesAll, nodesLinks, NamesConnective]
  obtain ⟨t, htree, hleaves, hmeaning⟩ := toTree_keeps_meaning_and_leaves e he
  refine ⟨he, hn, t, htree, hleaves, fun V m => ?_⟩
  obtain ⟨v, hv, -, happly⟩ := hmeaning V m
  rw [hv, ← happly hn]
  rfl

-- All names are true, and a head that does not group is false
def contrary : Meaning Bool where
  truth := id
  name _ := true
  literal _ := true
  apply
    | "paren", v :: _ => v
    | _, _ => false
  apply_paren _ := rfl

-- The source can only write such a call in letters that are read as compatible ones, as in `ａｎｄ(x, y)`.
-- Its tree is the one of `x and y`
theorem call_of_connective_name_selects :
    let e : Expr := .call 0 (.name 0 "and") [.name 10 "x", .name 13 "y"] []
    e.Supported ∧ ¬ ∀ (V : Type) (m : Meaning V), ∃ t v, e.toTree = .ok t ∧ t.meaning? m = some v ∧
      e.meaning? m m.apply = some v := by
  intro e
  refine ⟨.call _ _ _ "and" rfl ?_, fun hkeeps => ?_⟩
  · simp [Supported.name]
  · obtain ⟨t, v, htree, hselect, happly⟩ := hkeeps Bool contrary
    cases htree
    cases hselect
    exact absurd happly (by decide)

end Expr

end Formulary.Source
