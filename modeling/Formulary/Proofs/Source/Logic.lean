import Formulary.Proofs.Logic
import Formulary.Proofs.Source.Meaning
import Formulary.Proofs.Tree.Row

namespace Formulary.Source

open Logic (Negation Connective Row Sentence rules value)
open Precedence (Reads)

-- The expressions made of names, relations, connectives and negations
inductive Expr.Logical : Expr → Prop
  | name (column : Nat) (id : String) : Logical (.name column id)
  | negation (column : Nat) (operand : Expr) (h : Logical operand) :
      Logical (.unary column .not operand)
  | boolean (column : Nat) (op : BooleanOp) (first : Expr) (rest : List Expr)
      (hfirst : Logical first) (hrest : ∀ e ∈ rest, Logical e) :
      Logical (.boolean column op first rest)
  | comparison (column : Nat) (left : Expr) (op : ComparisonOp) (right : Expr)
      (links : List (ComparisonOp × Expr)) (symbol : String) (hop : op.symbol? = some symbol)
      (hleft : Logical left) (hright : Logical right)
      (hops : ∀ l ∈ links, ∃ symbol, l.1.symbol? = some symbol)
      (hlinks : ∀ l ∈ links, Logical l.2) :
      Logical (.comparison column left op right links)

theorem Expr.Logical.supported (e : Expr) (h : e.Logical) : e.Supported := by
  induction h with
  | name column id => exact .name column id
  | negation column operand _ ih => exact .unary column .not operand "not" rfl ih
  | boolean column op first rest _ _ ihf ihr => exact .boolean column op first rest ihf ihr
  | comparison column left op right links symbol hop _ _ hops _ ihl ihr ihlinks =>
      exact .comparison column left op right links symbol hop ihl ihr hops ihlinks

-- No calls are written in logic, so it does not matter what calls mean
theorem Expr.Logical.meaning?_congr {V : Type} (m : Meaning V) (calls calls' : Text → List V → V)
    (e : Expr) (h : e.Logical) : e.meaning? m calls = e.meaning? m calls' := by
  induction h with
  | name column id => rfl
  | negation column operand _ ih => simp only [Expr.meaning?, ih]
  | boolean column op first rest _ _ ihf ihr =>
      simp only [Expr.meaning?, ihf, Expr.meaningAll?_congr m calls calls' rest ihr]
  | comparison column left op right links symbol hop _ _ hops _ ihl ihr ihlinks =>
      simp only [Expr.meaning?, ihl, ihr, Expr.meaningLinks?_congr m calls calls' links ihlinks]

def atomOf? : Tree → Option Text
  | .identifier (.text name) => some name
  | _ => none

def negationOf? (head : Text) : Option Negation := if head = "not" then some .not else none

def connectiveOf? (head : Text) : Option Connective :=
  if head = "and" then some (.junction .and)
  else if head = "or" then some (.junction .or)
  else if head ∈ ["==", "!=", "<", "<=", ">", ">=", "in"].map Text.ofString then some (.relation head)
  else none

-- The row that a tree of logic shows when it is set
def logicRow? (t : Tree) : Option Row := t.row? atomOf? negationOf? connectiveOf?

theorem connectiveOf?_operator (op : BooleanOp) :
    connectiveOf? op.operator.head = some (.junction op) := by
  cases op <;> decide

theorem strength_operator (op : BooleanOp) :
    op.operator.strength = rules.binary (.junction op) := by
  cases op <;> rfl

theorem ComparisonOp.connectiveOf?_operator (op : ComparisonOp) (operator : Operator)
    (h : op.operator = .ok operator) :
    connectiveOf? operator.head = some (.relation operator.head) := by
  cases op <;> cases h <;> decide

theorem ComparisonOp.strength_operator (op : ComparisonOp) (operator : Operator)
    (h : op.operator = .ok operator) : operator.strength = Strength.comparison := by
  cases op <;> cases h <;> rfl

-- The tree shows a row that can be read in a place of the strength, as what the tree means
def Shows (k : Nat) (t : Tree) : Prop :=
  ∃ row f, logicRow? t = some row ∧ Reads rules k row f ∧
    ∀ (V : Type) (m : Meaning V), t.meaning? m = some (value m f)

namespace Shows

theorem mono (k j : Nat) (t : Tree) (h : Shows k t) (hj : j ≤ k) : Shows j t := by
  obtain ⟨row, f, hrow, hreads, hmeaning⟩ := h
  exact ⟨row, f, hrow, hreads.mono hj, hmeaning⟩

theorem group (b : Built) (k : Nat) (h : Shows b.strength b.tree) : Shows k (b.group k) := by
  unfold Built.group
  split
  · obtain ⟨row, f, hrow, hreads, hmeaning⟩ := h
    refine ⟨.opening :: (row ++ [.closing]), f, ?_, .group k (hreads.mono (Nat.zero_le _)), ?_⟩
    · exact Tree.row?_paren atomOf? negationOf? connectiveOf? b.tree row hrow
    · exact fun V m => Tree.meaning?_paren m b.tree _ (hmeaning V m)
  · exact h.mono _ _ _ (by omega)

theorem name (k : Nat) (id : Text) : Shows k (.identifier (.text id)) :=
  ⟨[.atom id], .atom id, rfl, .atom k id, fun _ _ => rfl⟩

theorem negation (t : Tree) (h : Shows Strength.not t) :
    Shows Strength.not (.call (.text "not") [t]) := by
  obtain ⟨row, f, hrow, hreads, hmeaning⟩ := h
  refine ⟨.unary .not :: row, .unary .not f, ?_, .unary _ Negation.not (Nat.le_refl _) hreads, ?_⟩
  · exact Tree.row?_unary atomOf? negationOf? connectiveOf? "not" .not t row (by decide) (by decide) hrow
  · intro V m
    rw [Tree.meaning?_call m _ [t] _ (Tree.meaningAll?_cons m t [] _ [] (hmeaning V m) rfl),
      m.call_of_ne _ _ (by decide) (by decide)]
    rfl

-- Both operands of a relation bind more tightly than any relation
theorem link (op : ComparisonOp) (operator : Operator) (hop : op.operator = .ok operator)
    (left right : Built) (h : Shows left.strength left.tree) (h' : Shows right.strength right.tree) :
    Shows Strength.comparison (Built.link operator left right) := by
  obtain ⟨row, f, hrow, hreads, hmeaning⟩ := group left (operator.strength + 1) h
  obtain ⟨row', g, hrow', hreads', hmeaning'⟩ := group right (operator.strength + 1) h'
  have hstrength := op.strength_operator operator hop
  rw [hstrength] at hreads hreads'
  refine ⟨row ++ .binary (.relation operator.head) :: row', .binary (.relation operator.head) f g,
    ?_, .binary _ (Connective.relation operator.head) (Nat.le_refl _) hreads hreads', ?_⟩
  · exact Tree.row?_binary atomOf? negationOf? connectiveOf? _ _ _ _ row row'
      (op.connectiveOf?_operator operator hop) hrow hrow'
  · intro V m
    rw [Built.link, Tree.meaning?_call m _ _ _
      (Tree.meaningAll?_pair m _ _ _ _ (hmeaning V m) (hmeaning' V m)), op.call_operator m operator hop]
    rfl

theorem junction (op : BooleanOp) (t t' : Tree) (h : Shows op.operator.strength t)
    (h' : Shows op.operator.strength t') :
    Shows op.operator.strength (.call (.text op.operator.head) [t, t']) := by
  obtain ⟨row, f, hrow, hreads, hmeaning⟩ := h
  obtain ⟨row', g, hrow', hreads', hmeaning'⟩ := h'
  rw [strength_operator] at hreads hreads'
  obtain ⟨s, hs, hvalue⟩ := Logic.reads_junction op row row' f g hreads hreads'
  refine ⟨row ++ .binary (.junction op) :: row', s, ?_, strength_operator op ▸ hs, ?_⟩
  · exact Tree.row?_binary atomOf? negationOf? connectiveOf? _ _ _ _ row row'
      (connectiveOf?_operator op) hrow hrow'
  · intro V m
    rw [Tree.meaning?_call m _ _ _
      (Tree.meaningAll?_pair m _ _ _ _ (hmeaning V m) (hmeaning' V m)), m.call_operator, hvalue V m]

theorem joined (op : BooleanOp) (first : Tree) (rest : List Tree) (h : Shows op.operator.strength first)
    (hrest : ∀ t ∈ rest, Shows op.operator.strength t) :
    Shows op.operator.strength (.joined op.operator.head first rest) := by
  induction rest generalizing first with
  | nil => exact h
  | cons t rest ih =>
      rw [List.forall_mem_cons] at hrest
      exact ih _ (junction op first t h hrest.1) hrest.2

theorem links (left : Built) (ps : List ((ComparisonOp × Expr) × (Operator × Built)))
    (hops : ∀ p ∈ ps, p.1.1.operator = .ok p.2.1) (h : Shows left.strength left.tree)
    (hps : ∀ p ∈ ps, Shows p.2.2.strength p.2.2.tree) :
    ∀ t ∈ Built.links left (ps.map Prod.snd), Shows Strength.comparison t := by
  induction ps generalizing left with
  | nil => simp [Built.links]
  | cons p rest ih =>
      rw [List.forall_mem_cons] at hops hps
      exact List.forall_mem_cons.mpr
        ⟨link p.1.1 p.2.1 hops.1 left p.2.2 h hps.1, ih p.2.2 hops.2 hps.1 hps.2⟩

-- A chain of one link binds as a relation, a longer one as the conjunction that it is
theorem chain (first : Tree) (rest : List Tree) (h : Shows Strength.comparison first)
    (hrest : ∀ t ∈ rest, Shows Strength.comparison t) :
    Shows (Built.chain first rest).strength (Built.chain first rest).tree := by
  rw [Built.tree_chain]
  cases rest with
  | nil => exact h
  | cons t rest =>
      refine joined .and first (t :: rest) (h.mono _ _ _ (by decide)) fun t ht => ?_
      exact (hrest t ht).mono _ _ _ (by decide)

end Shows

-- The induction is on how the tree is put together
theorem Expr.Builds.shows (e : Expr) (b : Built) (h : Builds e b) (hl : e.Logical) :
    Shows b.strength b.tree := by
  induction h with
  | name column id => exact .name _ _
  | unary column op operand operator b hop _ ih =>
      cases hl with
      | negation _ _ hl =>
          cases hop
          exact Shows.negation _ (.group b _ (ih hl))
  | boolean column op first b rest _ _ ihf ihr =>
      cases hl with
      | boolean _ _ _ _ hfirst hrest =>
          rw [List.forall_mem_map] at hrest
          rw [Built.tree_boolean]
          refine Shows.joined op _ _ (.group b _ (ihf hfirst)) ?_
          simp only [List.forall_mem_map]
          exact fun p hp => .group p.2 _ (ihr p hp (hrest p hp))
  | comparison column left op right operator b b' links hop _ _ hops _ ihl ihr ihlinks =>
      cases hl with
      | comparison _ _ _ _ _ _ _ hleft hright _ hlinks =>
          rw [List.forall_mem_map] at hlinks
          have hb' := ihr hright
          refine Shows.chain _ _ (.link op operator hop b b' (ihl hleft) hb') ?_
          exact Shows.links b' links hops hb' fun p hp => ihlinks p hp (hlinks p hp)
  | _ => cases hl

-- The row that the tree of a logical expression shows has exactly one reading, and it means what the
-- expression does
theorem rereading_keeps_logic (e : Expr) (h : e.Logical) :
    ∃ t row f, e.toTree = .ok t ∧ logicRow? t = some row ∧ (∀ g, Reads rules 0 row g ↔ g = f) ∧
      ∀ (V : Type) (m : Meaning V), e.meaning? m m.apply = some (value m f) := by
  obtain ⟨b, hb, hbuilds⟩ := Expr.Supported.builds e h.supported
  obtain ⟨row, f, hrow, hreads, hmeaning⟩ := hbuilds.shows _ _ h
  have hreads := hreads.mono (Nat.zero_le _)
  refine ⟨b.tree, row, f, e.toTree_of_build b hb, hrow, fun g => ⟨fun hg => hg.unique hreads, ?_⟩, ?_⟩
  · rintro rfl
    exact hreads
  · intro V m
    obtain ⟨v, hv, hv'⟩ := hbuilds.meaning? m
    rw [h.meaning?_congr m m.apply m.call, hv, ← hv', hmeaning V m]

-- In `a or (b or (not c) < d <= a)` the disjunction on the right loses its parentheses, and the negation
-- within the link keeps its own
theorem rereading_keeps_logic_of_nested_disjunction :
    let e : Expr := .boolean 0 .or (.name 0 "a")
      [.boolean 6 .or (.name 6 "b")
        [.comparison 11 (.unary 12 .not (.name 16 "c")) .less (.name 21 "d")
          [(.lessOrEqual, .name 26 "a")]]]
    let row : Logic.Row :=
      [.atom "a", .binary (.junction .or), .atom "b", .binary (.junction .or),
        .opening, .unary .not, .atom "c", .closing, .binary (.relation "<"), .atom "d",
        .binary (.junction .and), .atom "d", .binary (.relation "<="), .atom "a"]
    e.Logical ∧ ∃ t f, e.toTree = .ok t ∧ logicRow? t = some row ∧ Reads rules 0 row f ∧
      ∀ (V : Type) (m : Meaning V), e.meaning? m m.apply = some (value m f) := by
  intro e row
  have he : e.Logical := by
    refine .boolean _ _ _ _ (.name _ _) (List.forall_mem_singleton.mpr ?_)
    refine .boolean _ _ _ _ (.name _ _) (List.forall_mem_singleton.mpr ?_)
    refine .comparison _ _ _ _ _ "<" rfl (.negation _ _ (.name _ _)) (.name _ _) ?_ ?_
    · exact List.forall_mem_singleton.mpr ⟨"<=", rfl⟩
    · exact List.forall_mem_singleton.mpr (.name _ _)
  obtain ⟨t, row', f, htree, hrow, hreads, hmeaning⟩ := rereading_keeps_logic e he
  cases htree
  have hrow' : row = row' := Option.some.inj (Eq.trans rfl hrow)
  exact ⟨he, _, f, rfl, rfl, hrow' ▸ (hreads f).mpr rfl, hmeaning⟩

end Formulary.Source
