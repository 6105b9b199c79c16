import Formulary.Proofs.Source.Enclosure

namespace Formulary

open Notation (wordOperators)

namespace Source

-- How tightly the heads of operators bind. All other trees are atoms
def headStrengths : List (String × Nat) :=
  [("or", Strength.or), ("and", Strength.and), ("not", Strength.not),
   ("==", Strength.comparison), ("!=", Strength.comparison), ("<", Strength.comparison),
   ("<=", Strength.comparison), (">", Strength.comparison), (">=", Strength.comparison),
   ("in", Strength.comparison), ("+", Strength.sum), ("-", Strength.sum),
   ("*", Strength.product), ("%", Strength.product), ("neg", Strength.sign),
   ("pos", Strength.sign), ("**", Strength.power), ("/", Strength.atom), ("//", Strength.atom)]

-- How tightly the operands of a head must bind, place by place. Both places of a fraction, exponents,
-- indices and the arguments of all other calls ask for nothing
def operandStrengths : List (String × List Nat) :=
  [("or", [Strength.or, Strength.or]), ("and", [Strength.and, Strength.and]),
   ("not", [Strength.not]),
   ("==", [Strength.comparison + 1, Strength.comparison + 1]),
   ("!=", [Strength.comparison + 1, Strength.comparison + 1]),
   ("<", [Strength.comparison + 1, Strength.comparison + 1]),
   ("<=", [Strength.comparison + 1, Strength.comparison + 1]),
   (">", [Strength.comparison + 1, Strength.comparison + 1]),
   (">=", [Strength.comparison + 1, Strength.comparison + 1]),
   ("in", [Strength.comparison + 1, Strength.comparison + 1]),
   ("+", [Strength.sum, Strength.sum + 1]), ("-", [Strength.sum, Strength.sum + 1]),
   ("*", [Strength.product, Strength.product + 1]),
   ("%", [Strength.product, Strength.product + 1]),
   ("neg", [Strength.sign]), ("pos", [Strength.sign]),
   ("**", [Strength.atom]), ("[]", [Strength.atom])]

-- The heads that leave an operand of their own kind on the right as it is
def regrouping : List String := ["+", "*"]

def headStrength (head : Text) : Nat :=
  ((headStrengths.map fun e => (Text.ofString e.1, e.2)).lookup head).getD Strength.atom

def operandStrength (head : Text) (place : Nat) : Nat :=
  (((operandStrengths.map fun e => (Text.ofString e.1, e.2)).lookup head).getD [])[place]?.getD 0

end Source

namespace Tree

def strength : Tree → Nat
  | .call (.text head) _ => Source.headStrength head
  | _ => Source.Strength.atom

def isCallOf (head : Text) : Tree → Bool
  | .call (.text h) _ => h == head
  | _ => false

def paren (content : Tree) : Tree := .call (.text "paren") [content]

-- How tightly a tree must bind to stand in a place of a call without parentheses
def least (head : Text) (place : Nat) (t : Tree) : Nat :=
  if place = 1 ∧ head ∈ Source.regrouping.map Text.ofString ∧ t.isCallOf head then
    Source.headStrength head
  else Source.operandStrength head place

-- What stands in a place of a call binds as tightly as it must, and it is between parentheses only if it
-- would not do so without them
structure FitsPlace (head : Text) (place : Nat) (t : Tree) : Prop where
  tight : t.least head place ≤ t.strength
  needed : ∀ content : Tree, t = content.paren → content.strength < content.least head place

def Grouped : Tree → Prop
  | .call (.text head) args => ∀ (place : Nat) (t : Tree), args[place]? = some t → t.FitsPlace head place
  | _ => True

theorem grouped_singleton (head : Text) (operand : Tree) (hfits : operand.FitsPlace head 0)
    (h : operand.Throughout Grouped) : (Tree.call (.text head) [operand]).Throughout Grouped := by
  refine Throughout.call _ _ _ (fun place t ht => ?_) (List.forall_mem_singleton.mpr h)
  match place, ht with
  | 0, ht => exact Option.some.inj ht ▸ hfits

theorem grouped_pair (head : Text) (left right : Tree) (hleft : left.FitsPlace head 0)
    (hright : right.FitsPlace head 1) (h : left.Throughout Grouped) (h' : right.Throughout Grouped) :
    (Tree.call (.text head) [left, right]).Throughout Grouped := by
  refine Throughout.call _ _ _ (fun place t ht => ?_)
    (List.forall_mem_cons.mpr ⟨h, List.forall_mem_singleton.mpr h'⟩)
  match place, ht with
  | 0, ht => exact Option.some.inj ht ▸ hleft
  | 1, ht => exact Option.some.inj ht ▸ hright

end Tree

namespace Source

theorem mem_of_lookup_map {α : Type} (table : List (String × α)) (head : Text) (value : α)
    (h : (table.map fun e => (Text.ofString e.1, e.2)).lookup head = some value) :
    ∃ e ∈ table, Text.ofString e.1 = head ∧ e.2 = value := by
  obtain ⟨before, after, heq, -⟩ := List.lookup_eq_some_iff.mp h
  have hmem : (head, value) ∈ table.map fun e => (Text.ofString e.1, e.2) := by simp [heq]
  obtain ⟨e, he, heq⟩ := List.mem_map.mp hmem
  cases heq
  exact ⟨e, he, rfl, rfl⟩

-- Between a power and an atom there is nothing
theorem headStrength_cases (head : Text) :
    headStrength head ≤ Strength.power ∨ headStrength head = Strength.atom := by
  have hall : ∀ e ∈ headStrengths, e.2 ≤ Strength.power ∨ e.2 = Strength.atom := by decide
  rw [headStrength]
  cases h : (headStrengths.map fun e => (Text.ofString e.1, e.2)).lookup head with
  | none => exact .inr rfl
  | some value =>
      obtain ⟨e, he, -, rfl⟩ := mem_of_lookup_map _ _ _ h
      exact hall e he

theorem operandStrength_le_atom (head : Text) (place : Nat) :
    operandStrength head place ≤ Strength.atom := by
  have hall : ∀ e ∈ operandStrengths, ∀ k ∈ e.2, k ≤ Strength.atom := by decide
  rw [operandStrength]
  cases h : (operandStrengths.map fun e => (Text.ofString e.1, e.2)).lookup head with
  | none => simp
  | some ks =>
      obtain ⟨e, he, -, rfl⟩ := mem_of_lookup_map _ _ _ h
      cases hk : e.2[place]? with
      | none => simp [hk]
      | some k => simpa [hk] using hall e he k (List.mem_of_getElem? hk)

end Source

namespace Tree

theorem strength_cases (t : Tree) :
    t.strength ≤ Source.Strength.power ∨ t.strength = Source.Strength.atom := by
  unfold strength
  split
  · exact Source.headStrength_cases _
  · exact .inr rfl

theorem least_le_atom (head : Text) (place : Nat) (t : Tree) :
    t.least head place ≤ Source.Strength.atom := by
  rw [least]
  split
  · rcases Source.headStrength_cases head with h | h
    · exact Nat.le_trans h (by decide)
    · exact Nat.le_of_eq h
  · exact Source.operandStrength_le_atom head place

theorem least_of_operandStrength (head : Text) (place : Nat) (t : Tree)
    (h : Source.operandStrength head place = 0) : t.least head place = 0 := by
  have hall : ∀ head ∈ Source.regrouping.map Text.ofString, Source.operandStrength head 1 ≠ 0 := by
    decide
  rw [least, if_neg, h]
  rintro ⟨rfl, hregroups, -⟩
  exact hall head hregroups h

theorem head_of_wellFormed (head : Value) (args : List Tree) (h : (Tree.call head args).WellFormed) :
    ∃ name, head = .text name := by
  cases head with
  | text name => exact ⟨name, rfl⟩
  | _ => cases h

theorem call_ne_paren (head : Text) (args : List Tree) (h : head ≠ "paren") (content : Tree) :
    Tree.call (.text head) args ≠ content.paren := by
  intro heq
  exact h (Value.text.inj (Tree.call.inj heq).1)

mutual

-- What stands in a tree is the tree itself or an argument of a call in it
theorem eq_or_exists_call (t node : Tree) (h : node ∈ t.preorder) :
    node = t ∨ ∃ head args, Tree.call head args ∈ t.preorder ∧ node ∈ args := by
  match t, h with
  | .call head args, h =>
      rcases List.mem_cons.mp h with rfl | h
      · exact .inl rfl
      · rcases mem_or_exists_call args node h with hmem | ⟨head', args', hcall, hmem⟩
        · exact .inr ⟨head, args, List.mem_cons_self, hmem⟩
        · exact .inr ⟨head', args', List.mem_cons_of_mem _ hcall, hmem⟩
  | .literal _, h => exact .inl (List.mem_singleton.mp h)
  | .identifier _, h => exact .inl (List.mem_singleton.mp h)
  | .stray _, h => exact .inl (List.mem_singleton.mp h)

theorem mem_or_exists_call (ts : List Tree) (node : Tree) (h : node ∈ preorderAll ts) :
    node ∈ ts ∨ ∃ head args, Tree.call head args ∈ preorderAll ts ∧ node ∈ args := by
  match ts, h with
  | t :: rest, h =>
      rcases List.mem_append.mp h with h | h
      · rcases eq_or_exists_call t node h with rfl | ⟨head, args, hcall, hmem⟩
        · exact .inl List.mem_cons_self
        · exact .inr ⟨head, args, List.mem_append_left _ hcall, hmem⟩
      · rcases mem_or_exists_call rest node h with hmem | ⟨head, args, hcall, hmem⟩
        · exact .inl (List.mem_cons_of_mem t hmem)
        · exact .inr ⟨head, args, List.mem_append_right _ hcall, hmem⟩

end

theorem exists_joined_eq_call (head : Text) (first : Tree) (rest : List Tree) (h : rest ≠ []) :
    ∃ args, Tree.joined head first rest = .call (.text head) args := by
  induction rest generalizing first with
  | nil => exact absurd rfl h
  | cons next rest ih =>
      cases rest with
      | nil => exact ⟨_, rfl⟩
      | cons t rest => exact ih _ (List.cons_ne_nil _ _)

end Tree

namespace Source

-- The strength that goes with a tree is that of its head, parentheses stand only within it, and they stand
-- where they must
structure Built.Settled (b : Built) : Prop where
  strength : b.tree.strength = b.strength
  bare : ∀ content : Tree, b.tree ≠ content.paren
  grouped : b.tree.Throughout Tree.Grouped

namespace Built

theorem group_zero (b : Built) : b.group 0 = b.tree := if_neg (Nat.not_lt_zero _)

theorem hasHead_eq (b : Built) (head : String) : b.hasHead head = b.tree.isCallOf head := rfl

-- An operand of the same head on the right may stay as it is where the operator regroups
theorem least_right (head : String) (least : Nat) (right : Built)
    (hhead : headStrength head = least)
    (hoperand : operandStrength head 1 = least + 1)
    (hregroups : isAssociative head = true ↔ Text.ofString head ∈ regrouping.map Text.ofString) :
    right.tree.least head 1 =
      if isAssociative head && right.hasHead head then least else least + 1 := by
  simp only [hasHead_eq, Tree.least, hhead, hoperand, ← hregroups, true_and, Bool.and_eq_true]

namespace Settled

variable (b : Built) (h : b.Settled)

include h

theorem fitsPlace_group (head : Text) (place : Nat) :
    (b.group (b.tree.least head place)).FitsPlace head place := by
  unfold Built.group
  split
  · rename_i hless
    refine ⟨Tree.least_le_atom _ _ _, fun content hcontent => ?_⟩
    cases hcontent
    rwa [h.strength]
  · rename_i hless
    refine ⟨?_, fun content hcontent => absurd hcontent (h.bare content)⟩
    rw [h.strength]
    exact Nat.le_of_not_lt hless

theorem fitsPlace (head : Text) (place : Nat) (hfree : b.tree.least head place = 0) :
    b.tree.FitsPlace head place := by
  have hfits := h.fitsPlace_group b head place
  rwa [hfree, b.group_zero] at hfits

theorem throughout_group (k : Nat) : (b.group k).Throughout Tree.Grouped := by
  rcases b.group_cases k with hk | hk
  · exact hk ▸ h.grouped
  · rw [hk]
    exact Tree.grouped_singleton _ _ (h.fitsPlace b "paren" 0 rfl) h.grouped

-- A power asks its base for more than it has itself, and only an atom has that
theorem group_power : b.group (Strength.power + 1) = b.group Strength.atom := by
  have hcases := b.tree.strength_cases
  rw [h.strength] at hcases
  have hiff : b.strength < Strength.power + 1 ↔ b.strength < Strength.atom := by
    rcases hcases with hle | heq
    · exact iff_of_true (Nat.lt_succ_of_le hle) (Nat.lt_of_le_of_lt hle (by decide))
    · rw [heq]
      decide
  simp only [Built.group, hiff]

end Settled

-- Every operator groups its operands as their places ask
theorem binary_eq_apply_least (op : BinaryOp) (operator : Operator) (hop : op.operator = .ok operator)
    (left right : Built) (hleft : left.Settled) :
    Built.binary operator left right = .apply operator
      [left.group (left.tree.least operator.head 0), right.group (right.tree.least operator.head 1)] := by
  cases op <;> cases hop
  case divide | floorDivide => rw [← left.group_zero, ← right.group_zero]; rfl
  case power =>
    rw [← right.group_zero]
    exact congrArg (fun base => Built.apply _ [base, right.group 0]) (hleft.group_power left)
  case add =>
    rw [least_right "+" Strength.sum right rfl rfl (by decide)]
    rfl
  case subtract =>
    rw [least_right "-" Strength.sum right rfl rfl (by decide)]
    rfl
  case multiply =>
    rw [least_right "*" Strength.product right rfl rfl (by decide)]
    rfl
  case modulo =>
    rw [least_right "%" Strength.product right rfl rfl (by decide)]
    rfl

namespace Settled

-- A call of two operands in their places, each grouped as its place asks
theorem throughout_operands (head : Text) (left right : Built) (hleft : left.Settled)
    (hright : right.Settled) :
    (Tree.call (.text head) [left.group (left.tree.least head 0),
      right.group (right.tree.least head 1)]).Throughout Tree.Grouped :=
  Tree.grouped_pair head _ _ (hleft.fitsPlace_group left head 0) (hright.fitsPlace_group right head 1)
    (hleft.throughout_group left _) (hright.throughout_group right _)

-- An operator of the table, applied to operands in their places
theorem apply (operator : Operator) (args : List Tree)
    (hstrength : headStrength operator.head = operator.strength)
    (hparen : Text.ofString operator.head ≠ "paren")
    (hgrouped : (Tree.call (.text operator.head) args).Throughout Tree.Grouped) :
    (Built.apply operator args).Settled :=
  ⟨hstrength, Tree.call_ne_paren _ args hparen, hgrouped⟩

theorem unary (op : UnaryOp) (operator : Operator) (hop : op.operator = .ok operator) (b : Built)
    (h : b.Settled) : (Built.unary operator b).Settled := by
  have hleast : b.tree.least operator.head 0 = operator.strength := by
    cases op <;> cases hop <;> rfl
  refine apply operator _ (by cases op <;> cases hop <;> rfl) (by cases op <;> cases hop <;> decide) ?_
  rw [← hleast]
  exact Tree.grouped_singleton _ _ (h.fitsPlace_group b operator.head 0) (h.throughout_group b _)

theorem binary (op : BinaryOp) (operator : Operator) (hop : op.operator = .ok operator)
    (left right : Built) (hleft : left.Settled) (hright : right.Settled) :
    (Built.binary operator left right).Settled := by
  rw [binary_eq_apply_least op operator hop left right hleft]
  refine apply operator _ (by cases op <;> cases hop <;> rfl) (by cases op <;> cases hop <;> decide) ?_
  exact throughout_operands operator.head left right hleft hright

-- A row of operands keeps to the left, where what is joined already binds as tightly as it must
theorem throughout_joined (op : BooleanOp) (first : Tree) (rest : List Tree)
    (hfits : first.FitsPlace op.operator.head 0) (hfirst : first.Throughout Tree.Grouped)
    (hrest : ∀ t ∈ rest, t.FitsPlace op.operator.head 1 ∧ t.Throughout Tree.Grouped) :
    (Tree.joined op.operator.head first rest).Throughout Tree.Grouped := by
  induction rest generalizing first with
  | nil => exact hfirst
  | cons next rest ih =>
      rw [List.forall_mem_cons] at hrest
      refine ih _ ⟨?_, fun content hcontent => ?_⟩ ?_ hrest.2
      · exact Nat.le_of_eq (by cases op <;> rfl)
      · refine absurd hcontent (Tree.call_ne_paren _ _ ?_ content)
        cases op <;> decide
      · exact Tree.grouped_pair _ first next hfits hrest.1.1 hfirst hrest.1.2

theorem joined (op : BooleanOp) (first : Tree) (rest : List Tree) (hsome : rest ≠ [])
    (hfits : first.FitsPlace op.operator.head 0) (hfirst : first.Throughout Tree.Grouped)
    (hrest : ∀ t ∈ rest, t.FitsPlace op.operator.head 1 ∧ t.Throughout Tree.Grouped) :
    (⟨.joined op.operator.head first rest, op.operator.strength⟩ : Built).Settled := by
  have hgrouped := throughout_joined op first rest hfits hfirst hrest
  obtain ⟨args, hargs⟩ := Tree.exists_joined_eq_call op.operator.head first rest hsome
  rw [hargs] at hgrouped ⊢
  exact apply op.operator args (by cases op <;> rfl) (by cases op <;> decide) hgrouped

theorem boolean (op : BooleanOp) (first : Built) (rest : List Built) (hsome : rest ≠ [])
    (hfirst : first.Settled) (hrest : ∀ b ∈ rest, b.Settled) :
    (Built.boolean op.operator first rest).Settled := by
  have hleast (b : Built) (place : Nat) (hplace : place < 2) :
      b.tree.least op.operator.head place = op.operator.strength := by
    match place, hplace with
    | 0, _ => cases op <;> rfl
    | 1, _ => cases op <;> rfl
  have hfits (b : Built) (hb : b.Settled) (place : Nat) (hplace : place < 2) :
      (b.group op.operator.strength).FitsPlace op.operator.head place :=
    hleast b place hplace ▸ hb.fitsPlace_group b op.operator.head place
  have hboolean : Built.boolean op.operator first rest =
      ⟨.joined op.operator.head (first.group op.operator.strength)
        (rest.map (·.group op.operator.strength)), op.operator.strength⟩ := by
    rw [← Built.tree_boolean]
    rfl
  rw [hboolean]
  refine joined op _ _ (by simpa using hsome) (hfits first hfirst 0 (by decide))
    (hfirst.throughout_group first _) ?_
  rw [List.forall_mem_map]
  exact fun b hb => ⟨hfits b (hrest b hb) 1 (by decide), (hrest b hb).throughout_group b _⟩

theorem link (op : ComparisonOp) (operator : Operator) (hop : op.operator = .ok operator)
    (left right : Built) (hleft : left.Settled) (hright : right.Settled) :
    (⟨Built.link operator left right, Strength.comparison⟩ : Built).Settled := by
  have hstrength : operator.strength = Strength.comparison := by cases op <;> cases hop <;> rfl
  have hl : left.tree.least operator.head 0 = operator.strength + 1 := by
    cases op <;> cases hop <;> rfl
  have hr : right.tree.least operator.head 1 = operator.strength + 1 := by
    cases op <;> cases hop <;> rfl
  have hgrouped := throughout_operands operator.head left right hleft hright
  rw [hl, hr] at hgrouped
  rw [← hstrength]
  exact apply operator _ (by cases op <;> cases hop <;> rfl) (by cases op <;> cases hop <;> decide) hgrouped

theorem links (left : Built) (hleft : left.Settled)
    (ps : List ((ComparisonOp × Expr) × (Operator × Built)))
    (hops : ∀ p ∈ ps, p.1.1.operator = .ok p.2.1) (hps : ∀ p ∈ ps, p.2.2.Settled) :
    ∀ t ∈ Built.links left (ps.map Prod.snd), (⟨t, Strength.comparison⟩ : Built).Settled := by
  induction ps generalizing left with
  | nil => simp [Built.links]
  | cons p rest ih =>
      rw [List.forall_mem_cons] at hops hps
      exact List.forall_mem_cons.mpr
        ⟨link p.1.1 p.2.1 hops.1 left p.2.2 hleft hps.1, ih p.2.2 hps.1 hops.2 hps.2⟩

-- A chain of one link is that link, and a longer one the conjunction of links that need no parentheses
theorem chain (first : Tree) (links : List Tree)
    (hfirst : (⟨first, Strength.comparison⟩ : Built).Settled)
    (hlinks : ∀ t ∈ links, (⟨t, Strength.comparison⟩ : Built).Settled) :
    (Built.chain first links).Settled := by
  have hfits (t : Tree) (ht : (⟨t, Strength.comparison⟩ : Built).Settled) (place : Nat)
      (hplace : place < 2) : t.FitsPlace "and" place := by
    have hleast : t.least "and" place = Strength.and := by
      match place, hplace with
      | 0, _ => rfl
      | 1, _ => rfl
    have hgroup := ht.fitsPlace_group _ "and" place
    rwa [hleast] at hgroup
  cases links with
  | nil => exact hfirst
  | cons next rest =>
      refine joined .and first (next :: rest) (List.cons_ne_nil _ _)
        (hfits first hfirst 0 (by decide)) hfirst.grouped ?_
      exact fun t ht => ⟨hfits t (hlinks t ht) 1 (by decide), (hlinks t ht).grouped⟩

-- A call of another name takes its arguments as they are
theorem call (name : Text) (args : List Tree) (hatom : headStrength name = Strength.atom)
    (hparen : name ≠ "paren") (hfree : ∀ (place : Nat) (t : Tree), t.least name place = 0)
    (hargs : ∀ t ∈ args, (∀ content : Tree, t ≠ content.paren) ∧ t.Throughout Tree.Grouped) :
    (Built.atom (.call (.text name) args)).Settled := by
  refine ⟨hatom, Tree.call_ne_paren _ _ hparen, Tree.Throughout.call _ _ _ (fun place t ht => ?_) ?_⟩
  · obtain ⟨hbare, -⟩ := hargs t (List.mem_of_getElem? ht)
    exact ⟨hfree place t ▸ Nat.zero_le _, fun content hcontent => absurd hcontent (hbare content)⟩
  · exact fun t ht => (hargs t ht).2

theorem subscript (base index : Built) (hbase : base.Settled) (hindex : index.Settled) :
    (Built.atom (.call (.text "[]") [base.group Strength.atom, index.tree])).Settled := by
  have hgrouped := throughout_operands "[]" base index hbase hindex
  exact ⟨rfl, Tree.call_ne_paren _ _ (by decide), index.group_zero ▸ hgrouped⟩

end Settled

end Built

-- No operator and no parentheses come from a call that is written, and every connective joins something
def Expr.Ordinary : Expr → Prop
  | .boolean _ _ _ rest => rest ≠ []
  | .call _ callee _ [] => ∀ name, callee.knownName? = some name →
    name ∉ "paren" :: wordOperators ∧ Text.Dotted name
  | _ => True

-- The heads in the tables are names of operators that are words, or they are no names
theorem mem_wordOperators_of_dotted (name : String) (h : Text.Dotted name)
    (hmem : name ∈ headStrengths.map Prod.fst ∨ name ∈ operandStrengths.map Prod.fst) :
    name ∈ wordOperators := by
  have hall : ∀ head ∈ headStrengths.map Prod.fst ++ operandStrengths.map Prod.fst,
      head ∈ wordOperators ∨ '/' ∈ head.toList ∨ Text.foreign.any head.toList.contains = true := by
    decide +kernel
  rcases hall name (List.mem_append.mpr hmem) with hword | hslash | hsign
  · exact hword
  · exact absurd (h '/' hslash) (by decide +kernel)
  · obtain ⟨c, hc, hsign⟩ := List.any_eq_true.mp hsign
    exact absurd (List.contains_iff_mem.mp hsign) (h.notMem name c hc)

theorem strengths_of_dotted (name : String) (h : Text.Dotted name) (hword : name ∉ wordOperators) :
    headStrength name = Strength.atom ∧ ∀ (place : Nat) (t : Tree), t.least name place = 0 := by
  have hnone {α : Type} (table : List (String × α)) (hmem : name ∉ table.map Prod.fst) :
      (table.map fun e => (Text.ofString e.1, e.2)).lookup (Text.ofString name) = none := by
    cases hlookup : (table.map fun e => (Text.ofString e.1, e.2)).lookup (Text.ofString name) with
    | none => rfl
    | some value =>
        obtain ⟨e, he, heq, -⟩ := mem_of_lookup_map _ _ _ hlookup
        rw [← Text.ofString_injective _ _ heq] at hmem
        exact absurd (List.mem_map_of_mem he) hmem
  have hhead := hnone headStrengths fun hmem => hword (mem_wordOperators_of_dotted name h (.inl hmem))
  have hoperand := hnone operandStrengths fun hmem =>
    hword (mem_wordOperators_of_dotted name h (.inr hmem))
  have hregroups : Text.ofString name ∉ regrouping.map Text.ofString := by
    intro hmem
    obtain ⟨head, hregroup, heq⟩ := List.mem_map.mp hmem
    obtain rfl := Text.ofString_injective _ _ heq
    have hall : ∀ head ∈ regrouping, head ∈ headStrengths.map Prod.fst := by decide
    exact hword (mem_wordOperators_of_dotted head h (.inl (hall head hregroup)))
  refine ⟨by rw [headStrength, hhead]; rfl, fun place t => ?_⟩
  rw [Tree.least, if_neg fun hright => hregroups hright.2.1, operandStrength, hoperand]
  rfl

-- The induction is on how the tree is put together
theorem Expr.Builds.settled (e : Expr) (b : Built) (h : Builds e b) (hn : ∀ node ∈ e.nodes, node.Ordinary) :
    b.Settled := by
  induction h with
  | constant column value v h => exact ⟨rfl, nofun, List.forall_mem_singleton.mpr trivial⟩
  | name column id => exact ⟨rfl, nofun, List.forall_mem_singleton.mpr trivial⟩
  | member column base member name h => exact ⟨rfl, nofun, List.forall_mem_singleton.mpr trivial⟩
  | unary column op operand operator b hop _ ih =>
      simp only [nodes, List.forall_mem_cons] at hn
      exact .unary op operator hop b (ih hn.2)
  | binary column op left right operator b b' hop _ _ ihl ihr =>
      simp only [nodes, List.forall_mem_cons, List.forall_mem_append] at hn
      exact .binary op operator hop b b' (ihl hn.2.1) (ihr hn.2.2)
  | boolean column op first b rest _ _ ihf ihr =>
      simp only [nodes, List.forall_mem_cons, List.forall_mem_append] at hn
      obtain ⟨hsome, hfirst, hrest⟩ := hn
      refine .boolean op b _ (by simpa [Ordinary] using hsome) (ihf hfirst) ?_
      rw [List.forall_mem_map]
      refine fun p hp => ihr p hp fun node hnode => hrest node ?_
      exact nodes_subset_nodesAll _ p.1 (List.mem_map_of_mem hp) hnode
  | comparison column left op right operator b b' links hop _ _ hops _ ihl ihr ihlinks =>
      simp only [nodes, List.forall_mem_cons, List.forall_mem_append] at hn
      obtain ⟨-, hleft, hright, hlinks⟩ := hn
      have hb' := ihr hright
      refine .chain _ _ (.link op operator hop b b' (ihl hleft) hb') ?_
      refine Built.Settled.links b' hb' links hops fun p hp => ihlinks p hp fun node hnode => ?_
      exact hlinks node (nodes_subset_nodesLinks _ p.1 (List.mem_map_of_mem hp) hnode)
  | call column callee name args hname _ ih =>
      simp only [nodes, List.forall_mem_cons] at hn
      obtain ⟨hword, hdotted⟩ := hn.1 name hname
      rw [List.mem_cons, not_or] at hword
      obtain ⟨hatom, hfree⟩ := strengths_of_dotted name hdotted hword.2
      have hparen : Text.ofString name ≠ "paren" := fun heq =>
        hword.1 (Text.ofString_injective name "paren" heq)
      have hargs : ∀ p ∈ args, p.2.Settled := fun p hp => ih p hp fun node hnode =>
        hn.2 node (nodes_subset_nodesAll _ p.1 (List.mem_map_of_mem hp) hnode)
      refine .call name _ hatom hparen hfree ?_
      rw [List.forall_mem_map]
      exact fun p hp => ⟨(hargs p hp).bare, (hargs p hp).grouped⟩
  | subscript column base index b b' _ _ ihb ihi =>
      simp only [nodes, List.forall_mem_cons, List.forall_mem_append] at hn
      exact .subscript b b' (ihb hn.2.1) (ihi hn.2.2)

namespace Expr

theorem ordinary_of_nodes (e : Expr)
    (hnames : ∀ node ∈ e.nodes, ∀ w ∈ node.words, Text.isName w.toList = true)
    (hjoins : ∀ column op first rest, .boolean column op first rest ∈ e.nodes → rest ≠ [])
    (hcalls : ∀ column callee args name, .call column callee args [] ∈ e.nodes →
      callee.knownName? = some name → name ∉ "paren" :: wordOperators) :
    ∀ node ∈ e.nodes, node.Ordinary := by
  intro node hnode
  unfold Ordinary
  split
  · exact hjoins _ _ _ _ hnode
  · rename_i column callee args
    refine fun name hname => ⟨hcalls column callee args name hnode hname, ?_⟩
    exact callee.dotted_of_knownName? (hnames (.call column callee args []) hnode) name hname
  · trivial

-- Where no call that is written bears the name of an operator or of the parentheses, each operand in the tree
-- of a formula binds as tightly as its place asks, and parentheses stand just where they are needed for that:
-- never around the whole, around an atom or around each other, nor in a place that asks for nothing
theorem toTree_groups_just_as_needed (e : Expr) (he : e.Supported)
    (hnames : ∀ node ∈ e.nodes, ∀ w ∈ node.words, Text.isName w.toList = true)
    (hjoins : ∀ column op first rest, .boolean column op first rest ∈ e.nodes → rest ≠ [])
    (hcalls : ∀ column callee args name, .call column callee args [] ∈ e.nodes →
      callee.knownName? = some name → name ∉ "paren" :: wordOperators) :
    ∃ t, e.toTree = .ok t ∧ t.Throughout Tree.Grouped ∧
      (∀ head ∈ ["**", "[]"], ∀ base args,
        .call (.text (Text.ofString head)) (base :: args) ∈ t.preorder →
        base.strength = Strength.atom) ∧
      (∀ content : Tree, t ≠ content.paren) ∧
      (∀ content : Tree, content.paren ∈ t.preorder →
        content.strength < Strength.atom ∧ ∀ inner : Tree, content ≠ inner.paren) ∧
      ∀ (head : Text) (args : List Tree) (place : Nat) (content : Tree),
        .call (.text head) args ∈ t.preorder → args[place]? = some content.paren →
        operandStrength head place ≠ 0 := by
  obtain ⟨b, hb, hbuilds⟩ := he.builds
  have hsettled := hbuilds.settled e b (ordinary_of_nodes e hnames hjoins hcalls)
  have hgrouped := hsettled.grouped
  refine ⟨b.tree, e.toTree_of_build b hb, hgrouped, fun head hhead base args hcall => ?_, hsettled.bare,
    fun content hparen => ?_, fun head args place content hcall hplace => ?_⟩
  · have htight := (hgrouped _ hcall 0 base rfl).tight
    have hatom : base.least (Text.ofString head) 0 = Strength.atom := by
      rcases List.mem_cons.mp hhead with rfl | hhead
      · rfl
      · obtain rfl := List.mem_singleton.mp hhead
        rfl
    rw [hatom] at htight
    exact base.strength_cases.resolve_left fun hle => absurd (Nat.le_trans htight hle) (by decide)
  · rcases b.tree.eq_or_exists_call _ hparen with heq | ⟨head, args, hcall, hmem⟩
    · exact absurd heq.symm (hsettled.bare content)
    · obtain ⟨name, rfl⟩ := Tree.head_of_wellFormed head args
        (Tree.wellFormed_of_mem_preorder _ _ hbuilds.wellFormed hcall)
      obtain ⟨place, hplace⟩ := List.mem_iff_getElem?.mp hmem
      have hless := (hgrouped _ hcall place _ hplace).needed content rfl
      have hatom := Nat.lt_of_lt_of_le hless (content.least_le_atom name place)
      refine ⟨hatom, ?_⟩
      rintro inner rfl
      exact absurd hatom (Nat.lt_irrefl Strength.atom)
  · have hless := (hgrouped _ hcall place _ hplace).needed content rfl
    intro hfree
    rw [content.least_of_operandStrength head place hfree] at hless
    exact absurd hless (Nat.not_lt_zero _)

-- In `(a + b) ** c * (a + (b + c))` the sum on the right of a sum needs no parentheses, and the power none of
-- its own
theorem toTree_groups_just_as_needed_of_power :
    let sum (left right : Expr) : Expr := .binary 0 .add left right
    let e : Expr := .binary 0 .multiply (.binary 0 .power (sum (.name 1 "a") (.name 5 "b")) (.name 11 "c"))
      (sum (.name 16 "a") (sum (.name 21 "b") (.name 25 "c")))
    let leaf (name : String) : Tree := .identifier (.text name)
    let plus (left right : Tree) : Tree := .call (.text "+") [left, right]
    let t : Tree := .call (.text "*")
      [.call (.text "**") [(plus (leaf "a") (leaf "b")).paren, leaf "c"],
        (plus (leaf "a") (plus (leaf "b") (leaf "c"))).paren]
    e.Supported ∧ e.toTree = .ok t ∧ t.Throughout Tree.Grouped := by
  intro sum e leaf plus t
  have hsum (left right : Expr) (hleft : left.Supported) (hright : right.Supported) :
      (sum left right).Supported := .binary _ _ _ _ "+" rfl hleft hright
  have he : e.Supported := by
    refine .binary _ _ _ _ "*" rfl (.binary _ _ _ _ "**" rfl ?_ (.name _ _)) ?_
    · exact hsum _ _ (.name _ _) (.name _ _)
    · exact hsum _ _ (.name _ _) (hsum _ _ (.name _ _) (.name _ _))
  have hnames := isName_of_words e ["a", "b", "c"] (by decide) (by decide +kernel)
  obtain ⟨t', htree, hgrouped, -⟩ := toTree_groups_just_as_needed e he hnames (by simp [e, sum, nodes])
    (by simp [e, sum, nodes])
  obtain rfl : t = t' := Except.ok.inj (Eq.trans rfl htree)
  exact ⟨he, rfl, hgrouped⟩

-- The source `ａｎｄ(x, y) * z` applies a name that is read as the connective. Its tree is a product with a
-- conjunction on the left that nothing groups
theorem call_of_connective_name_goes_ungrouped :
    let e : Expr := .binary 0 .multiply (.call 0 (.name 0 "and") [.name 10 "x", .name 13 "y"] [])
      (.name 18 "z")
    e.Supported ∧
      (∀ node ∈ e.nodes, ∀ w ∈ node.words, Text.isName w.toList = true) ∧
      (∀ column callee args name, .call column callee args [] ∈ e.nodes →
        callee.knownName? = some name → name ∉ ["neg", "pos", "paren"]) ∧
      ∃ t, e.toTree = .ok t ∧ ¬ t.Throughout Tree.Grouped := by
  intro e
  have he : e.Supported := by
    refine .binary _ _ _ _ "*" rfl (.call _ _ _ "and" rfl ?_) (.name _ _)
    simp [Supported.name]
  have hnames := isName_of_words e ["and", "x", "y", "z"] (by decide) (by decide +kernel)
  refine ⟨he, hnames, fun column callee args name hcall hname => ?_, _, rfl, fun hgrouped => ?_⟩
  · obtain rfl : callee = .name 0 "and" := by
      simp only [e, nodes, nodesAll, List.mem_cons, List.mem_append, List.not_mem_nil, or_false,
        reduceCtorEq, false_or, call.injEq] at hcall
      exact hcall.2.1
    cases hname
    decide
  · have hplace := hgrouped _ (Tree.self_mem_preorder _) 0 _ rfl
    exact absurd hplace.tight (by decide)

end Expr

end Source

end Formulary
