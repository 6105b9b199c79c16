import Formulary.Proofs.Source.Builds

namespace Formulary

-- A list and the same with further elements of a kind strewn in
inductive Strewn {α : Type} (kind : α → Prop) : List α → List α → Prop
  | nil : Strewn kind [] []
  | keep (a : α) (own all : List α) (h : Strewn kind own all) : Strewn kind (a :: own) (a :: all)
  | extra (a : α) (own all : List α) (ha : kind a) (h : Strewn kind own all) :
      Strewn kind own (a :: all)

namespace Strewn

variable {α : Type} (kind : α → Prop)

theorem append (own all own' all' : List α) (h : Strewn kind own all) (h' : Strewn kind own' all') :
    Strewn kind (own ++ own') (all ++ all') := by
  induction h with
  | nil => exact h'
  | keep a own all _ ih => exact .keep a _ _ ih
  | extra a own all ha _ ih => exact .extra a _ _ ha ih

theorem extras (extras own all : List α) (hextras : ∀ a ∈ extras, kind a) (h : Strewn kind own all) :
    Strewn kind own (extras ++ all) := by
  induction extras with
  | nil => exact h
  | cons a rest ih =>
      rw [List.forall_mem_cons] at hextras
      exact .extra a _ _ hextras.1 (ih hextras.2)

theorem of_kind (kind' : α → Prop) (hkind : ∀ a, kind a → kind' a) (own all : List α)
    (h : Strewn kind own all) : Strewn kind' own all := by
  induction h with
  | nil => exact .nil
  | keep a own all _ ih => exact .keep a _ _ ih
  | extra a own all ha _ ih => exact .extra a _ _ (hkind a ha) ih

theorem mem_or (own all : List α) (h : Strewn kind own all) : ∀ a ∈ all, a ∈ own ∨ kind a := by
  induction h with
  | nil => simp
  | keep a own all _ ih =>
      refine List.forall_mem_cons.mpr ⟨.inl List.mem_cons_self, fun b hb => ?_⟩
      exact (ih b hb).imp (List.mem_cons_of_mem a) id
  | extra a own all ha _ ih => exact List.forall_mem_cons.mpr ⟨.inr ha, ih⟩

theorem subset (own all : List α) (h : Strewn kind own all) : own ⊆ all := by
  induction h with
  | nil => exact List.Subset.refl []
  | keep a own all _ ih => exact List.cons_subset_cons a ih
  | extra a own all _ _ ih => exact List.subset_cons_of_subset a ih

end Strewn

namespace Tree

def call? : Tree → Option (Text × Nat)
  | .call (.text head) args => some (head, args.length)
  | _ => none

-- The calls of a tree by head and number of arguments, each before its arguments
def calls (t : Tree) : List (Text × Nat) := t.preorder.filterMap call?

def callsAll (ts : List Tree) : List (Text × Nat) := (preorderAll ts).filterMap call?

theorem mem_calls_iff (t : Tree) (call : Text × Nat) :
    call ∈ t.calls ↔ ∃ args, .call (.text call.1) args ∈ t.preorder ∧ args.length = call.2 := by
  simp only [calls, List.mem_filterMap]
  constructor
  · rintro ⟨node, hnode, hcall⟩
    match node, hcall with
    | .call (.text head) args, rfl => exact ⟨args, hnode, rfl⟩
  · rintro ⟨args, hnode, hlength⟩
    exact ⟨_, hnode, by rw [call?, hlength]⟩

theorem calls_call (head : Text) (args : List Tree) :
    (Tree.call (.text head) args).calls = (head, args.length) :: callsAll args := by
  rw [calls, preorder]
  rfl

theorem callsAll_cons (t : Tree) (rest : List Tree) :
    callsAll (t :: rest) = t.calls ++ callsAll rest := by
  rw [callsAll, preorderAll, List.filterMap_append]
  rfl

theorem calls_pair (head : Text) (t t' : Tree) :
    (Tree.call (.text head) [t, t']).calls = (head, 2) :: (t.calls ++ t'.calls) := by
  rw [calls_call, callsAll_cons, callsAll_cons]
  exact congrArg (fun rest => (head, 2) :: (t.calls ++ rest)) (List.append_nil _)

theorem calls_joined (head : Text) (first : Tree) (rest : List Tree) :
    (Tree.joined head first rest).calls =
      List.replicate rest.length (head, 2) ++ (first.calls ++ callsAll rest) := by
  induction rest generalizing first with
  | nil => exact (List.append_nil _).symm
  | cons t rest ih =>
      change (Tree.joined head (.call (.text head) [first, t]) rest).calls = _
      rw [ih, calls_pair, callsAll_cons, List.length_cons, List.replicate_succ']
      simp

end Tree

namespace Source

-- The calls that stand for operators, brackets and parentheses
def operatorCalls : List (Text × Nat) :=
  ["neg", "pos", "not", "paren"].map (fun head => (Text.ofString head, 1)) ++
  ["+", "-", "*", "/", "//", "%", "**", "==", "!=", "<", "<=", ">", ">=", "in", "and", "or",
    "[]"].map (fun head => (Text.ofString head, 2))

theorem UnaryOp.mem_operatorCalls (op : UnaryOp) (operator : Operator)
    (h : op.operator = .ok operator) : (Text.ofString operator.head, 1) ∈ operatorCalls := by
  cases op <;> cases h <;> decide

theorem BinaryOp.mem_operatorCalls (op : BinaryOp) (operator : Operator)
    (h : op.operator = .ok operator) : (Text.ofString operator.head, 2) ∈ operatorCalls := by
  cases op <;> cases h <;> decide

theorem BooleanOp.mem_operatorCalls (op : BooleanOp) :
    (Text.ofString op.operator.head, 2) ∈ operatorCalls := by
  cases op <;> decide

theorem ComparisonOp.mem_operatorCalls (op : ComparisonOp) (operator : Operator)
    (h : op.operator = .ok operator) : (Text.ofString operator.head, 2) ∈ operatorCalls := by
  cases op <;> cases h <;> decide

namespace Expr

mutual

-- The calls that an expression writes itself, by name and number of arguments, each before its
-- arguments. An operand between two links of a chain belongs to both
def calls : Expr → List (Text × Nat)
  | .unary _ _ operand => operand.calls
  | .binary _ _ left right => left.calls ++ right.calls
  | .boolean _ _ first rest => first.calls ++ callsAll rest
  | .comparison _ left _ right links => left.calls ++ right.calls ++ callsLinks right.calls links
  | .call _ callee args _ =>
    (callee.knownName?.map fun name => (Text.ofString name, args.length)).toList ++ callsAll args
  | .subscript _ base index => base.calls ++ index.calls
  | _ => []

def callsAll : List Expr → List (Text × Nat)
  | [] => []
  | e :: rest => e.calls ++ callsAll rest

-- The links after the first one, each with the calls of the operand before it
def callsLinks (before : List (Text × Nat)) : List (ComparisonOp × Expr) → List (Text × Nat)
  | [] => []
  | (_, e) :: rest => before ++ e.calls ++ callsLinks e.calls rest

end

end Expr

-- The calls of trees are these ones, with calls that stand for operators strewn in
def Calls (own : List (Text × Nat)) (t : Tree) : Prop := Strewn (· ∈ operatorCalls) own t.calls

def CallsAll (own : List (Text × Nat)) (ts : List Tree) : Prop :=
  Strewn (· ∈ operatorCalls) own (Tree.callsAll ts)

namespace CallsAll

theorem cons (own owns : List (Text × Nat)) (t : Tree) (rest : List Tree) (h : Calls own t)
    (hrest : CallsAll owns rest) : CallsAll (own ++ owns) (t :: rest) := by
  rw [CallsAll, Tree.callsAll_cons]
  exact h.append _ _ _ _ _ hrest

theorem single (own : List (Text × Nat)) (t : Tree) (h : Calls own t) : CallsAll own [t] :=
  List.append_nil own ▸ cons own [] t [] h .nil

theorem pair (own own' : List (Text × Nat)) (t t' : Tree) (h : Calls own t) (h' : Calls own' t') :
    CallsAll (own ++ own') [t, t'] :=
  cons own own' t [t'] h (single own' t' h')

theorem map (ps : List (Expr × Built)) (f : Built → Tree)
    (h : ∀ p ∈ ps, Calls p.1.calls (f p.2)) :
    CallsAll (Expr.callsAll (ps.map Prod.fst)) (ps.map fun p => f p.2) := by
  induction ps with
  | nil => exact .nil
  | cons p rest ih =>
      rw [List.forall_mem_cons] at h
      exact cons _ _ _ _ h.1 (ih h.2)

end CallsAll

namespace Calls

theorem operator (head : Text) (args : List Tree) (own : List (Text × Nat))
    (hhead : (head, args.length) ∈ operatorCalls) (h : CallsAll own args) :
    Calls own (.call (.text head) args) := by
  rw [Calls, Tree.calls_call]
  exact .extra _ _ _ hhead h

theorem group (own : List (Text × Nat)) (b : Built) (k : Nat) (h : Calls own b.tree) :
    Calls own (b.group k) := by
  have hparen : (Text.ofString "paren", 1) ∈ operatorCalls := by decide
  rcases b.group_cases k with hk | hk
  · exact hk ▸ h
  · exact hk ▸ operator "paren" [b.tree] own hparen (.single own b.tree h)

theorem operands (head : Text) (hhead : (head, 2) ∈ operatorCalls) (own own' : List (Text × Nat))
    (left right : Built) (k k' : Nat) (h : Calls own left.tree) (h' : Calls own' right.tree) :
    Calls (own ++ own') (.call (.text head) [left.group k, right.group k']) :=
  operator head _ _ hhead (.pair _ _ _ _ (group own left k h) (group own' right k' h'))

theorem joined (op : BooleanOp) (own owns : List (Text × Nat)) (first : Tree) (rest : List Tree)
    (h : Calls own first) (hrest : CallsAll owns rest) :
    Calls (own ++ owns) (.joined op.operator.head first rest) := by
  rw [Calls, Tree.calls_joined]
  refine .extras _ _ _ _ (fun call hcall => ?_) (h.append _ _ _ _ _ hrest)
  rw [List.eq_of_mem_replicate hcall]
  exact op.mem_operatorCalls

-- Each link has the calls of both of its operands
theorem links (left : Built) (own : List (Text × Nat)) (h : Calls own left.tree)
    (ps : List ((ComparisonOp × Expr) × (Operator × Built)))
    (hops : ∀ p ∈ ps, p.1.1.operator = .ok p.2.1) (hps : ∀ p ∈ ps, Calls p.1.2.calls p.2.2.tree) :
    CallsAll (Expr.callsLinks own (ps.map Prod.fst)) (Built.links left (ps.map Prod.snd)) := by
  induction ps generalizing left own with
  | nil => exact .nil
  | cons p rest ih =>
      rw [List.forall_mem_cons] at hops hps
      refine .cons _ _ _ _ ?_ (ih p.2.2 p.1.2.calls hps.1 hops.2 hps.2)
      exact operands _ (p.1.1.mem_operatorCalls _ hops.1) _ _ left p.2.2 _ _ h hps.1

end Calls

-- The induction is on how the tree is put together
theorem Expr.Builds.calls (e : Expr) (b : Built) (h : Builds e b) : Calls e.calls b.tree := by
  induction h with
  | constant column value v h => exact .nil
  | name column id => exact .nil
  | member column base member name h => exact .nil
  | unary column op operand operator b hop _ ih =>
      exact .operator _ _ _ (op.mem_operatorCalls operator hop) (.single _ _ (.group _ b _ ih))
  | binary column op left right operator b b' hop _ _ ihl ihr =>
      obtain ⟨k, k', hbinary⟩ := Built.binary_eq_apply operator b b'
      rw [hbinary]
      exact .operands _ (op.mem_operatorCalls operator hop) _ _ b b' k k' ihl ihr
  | boolean column op first b rest _ _ ihf ihr =>
      rw [Built.tree_boolean, List.map_map]
      refine .joined op _ _ _ _ (.group _ b _ ihf) ?_
      exact .map rest (·.group op.operator.strength) fun p hp => .group _ p.2 _ (ihr p hp)
  | comparison column left op right operator b b' links hop _ _ hops _ ihl ihr ihlinks =>
      rw [Built.tree_chain]
      refine .joined .and _ _ _ _ ?_ (Calls.links b' _ ihr links hops ihlinks)
      exact .operands _ (op.mem_operatorCalls operator hop) _ _ b b' _ _ ihl ihr
  | call column callee name args hname _ ih =>
      have hargs : CallsAll _ _ := .map args (·.tree) ih
      rw [Expr.calls, hname, Built.atom, Calls, Tree.calls_call, List.length_map, List.length_map]
      exact .keep _ _ _ hargs
  | subscript column base index b b' _ _ ihb ihi =>
      have hsubscript : (Text.ofString "[]", 2) ∈ operatorCalls := by decide
      exact .operands _ hsubscript _ _ b b' _ 0 ihb ihi

end Source

end Formulary
