import Formulary.Proofs.Source.Builds

namespace Formulary

open Source (BooleanOp)

-- What heads, names and literals mean, and which values count as true. Parentheses only group
structure Meaning (V : Type) where
  truth : V → Bool
  name : Text → V
  literal : Value → V
  apply : Text → List V → V
  apply_paren (v : V) : apply "paren" [v] = v

namespace Meaning

variable {V : Type}

-- Whether a value is the outcome already, whatever comes after it
def settles (m : Meaning V) : BooleanOp → V → Bool
  | .and, v => !m.truth v
  | .or, v => m.truth v

def select (m : Meaning V) (op : BooleanOp) (v w : V) : V := if m.settles op v then v else w

-- Of many operands the first that settles the outcome is selected, or else the last
def selectAll (m : Meaning V) (op : BooleanOp) : V → List V → V
  | v, [] => v
  | v, w :: rest => if m.settles op v then v else m.selectAll op w rest

-- What a call means: between two operands the connectives select, and any other head is applied
def call (m : Meaning V) (head : Text) : List V → V
  | [v, w] =>
    if head = "and" then m.select .and v w
    else if head = "or" then m.select .or v w
    else m.apply head [v, w]
  | values => m.apply head values

theorem call_of_ne (m : Meaning V) (head : Text) (values : List V) (hand : head ≠ "and")
    (hor : head ≠ "or") : m.call head values = m.apply head values := by
  unfold call
  split
  · rw [if_neg hand, if_neg hor]
  · rfl

theorem call_of_length_ne (m : Meaning V) (head : Text) (values : List V) (h : values.length ≠ 2) :
    m.call head values = m.apply head values := by
  unfold call
  split
  · exact absurd rfl h
  · rfl

theorem call_operator (m : Meaning V) (op : BooleanOp) (v w : V) :
    m.call op.operator.head [v, w] = m.select op v w := by
  cases op <;> rfl

theorem selectAll_of_settles (m : Meaning V) (op : BooleanOp) (v : V) (rest : List V)
    (h : m.settles op v = true) : m.selectAll op v rest = v := by
  cases rest with
  | nil => rfl
  | cons w rest => rw [selectAll, if_pos h]

-- Two by two from the left, the operands select what all of them do at once
theorem foldl_select (m : Meaning V) (op : BooleanOp) (v : V) (rest : List V) :
    rest.foldl (m.select op) v = m.selectAll op v rest := by
  induction rest generalizing v with
  | nil => rfl
  | cons w rest ih =>
      rw [List.foldl_cons, ih, selectAll, select]
      by_cases h : m.settles op v = true
      · rw [if_pos h, if_pos h, m.selectAll_of_settles op v rest h]
      · rw [if_neg h, if_neg h]

end Meaning

namespace Tree

variable {V : Type}

mutual

-- What a tree means
def meaning? (m : Meaning V) : Tree → Option V
  | .literal value => some (m.literal value)
  | .identifier (.text name) => some (m.name name)
  | .call (.text head) args => do return m.call head (← meaningAll? m args)
  | _ => none

def meaningAll? (m : Meaning V) : List Tree → Option (List V)
  | [] => some []
  | t :: rest => do
    let v ← t.meaning? m
    return v :: (← meaningAll? m rest)

end

theorem meaningAll?_cons (m : Meaning V) (t : Tree) (rest : List Tree) (v : V) (values : List V)
    (h : t.meaning? m = some v) (hrest : meaningAll? m rest = some values) :
    meaningAll? m (t :: rest) = some (v :: values) := by
  rw [meaningAll?, h, hrest]
  rfl

theorem meaning?_call (m : Meaning V) (head : Text) (args : List Tree) (values : List V)
    (h : meaningAll? m args = some values) :
    (Tree.call (.text head) args).meaning? m = some (m.call head values) := by
  rw [meaning?, h]
  rfl

theorem meaning?_paren (m : Meaning V) (t : Tree) (v : V) (h : t.meaning? m = some v) :
    (Tree.call (.text "paren") [t]).meaning? m = some v := by
  rw [meaning?_call m _ [t] [v] (meaningAll?_cons m t [] v [] h rfl),
    m.call_of_ne _ _ (by decide) (by decide), m.apply_paren]

theorem meaning?_group (m : Meaning V) (b : Source.Built) (k : Nat) (v : V)
    (h : b.tree.meaning? m = some v) : (b.group k).meaning? m = some v := by
  rcases b.group_cases k with hk | hk
  · rw [hk, h]
  · rw [hk, meaning?_paren m b.tree v h]

theorem meaningAll?_pair (m : Meaning V) (t t' : Tree) (v v' : V) (h : t.meaning? m = some v)
    (h' : t'.meaning? m = some v') : meaningAll? m [t, t'] = some [v, v'] :=
  meaningAll?_cons m t [t'] v [v'] h (meaningAll?_cons m t' [] v' [] h' rfl)

theorem meaning?_joined (m : Meaning V) (op : BooleanOp) (first : Tree) (rest : List Tree) (v : V)
    (values : List V) (h : first.meaning? m = some v) (hrest : meaningAll? m rest = some values) :
    (Tree.joined op.operator.head first rest).meaning? m = some (m.selectAll op v values) := by
  rw [← m.foldl_select]
  induction rest generalizing first v values with
  | nil =>
      cases hrest
      exact h
  | cons t rest ih =>
      obtain ⟨w, ht, hrest⟩ := Option.bind_eq_some_iff.mp hrest
      obtain ⟨values, hvalues, hrest⟩ := Option.bind_eq_some_iff.mp hrest
      cases hrest
      refine ih _ (m.select op v w) values ?_ hvalues
      rw [meaning?_call m _ _ _ (meaningAll?_pair m first t v w h ht), m.call_operator]

end Tree

end Formulary
