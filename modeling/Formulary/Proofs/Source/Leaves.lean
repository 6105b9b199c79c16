import Formulary.Proofs.Source.Builds

namespace Formulary

namespace Tree

mutual

-- The nodes without arguments, from left to right
def leaves : Tree → List Tree
  | .call _ (t :: rest) => t.leaves ++ leavesAll rest
  | t => [t]

def leavesAll : List Tree → List Tree
  | [] => []
  | t :: rest => t.leaves ++ leavesAll rest

end

theorem leavesAll_eq_flatMap (ts : List Tree) : leavesAll ts = ts.flatMap leaves := by
  induction ts with
  | nil => rfl
  | cons t rest ih => rw [leavesAll, ih, List.flatMap_cons]

theorem leaves_operands (head : Value) (t t' : Tree) :
    (Tree.call head [t, t']).leaves = t.leaves ++ t'.leaves := by
  simp [leaves, leavesAll]

theorem leaves_group (b : Source.Built) (k : Nat) : (b.group k).leaves = b.tree.leaves := by
  rcases b.group_cases k with hk | hk <;> simp [hk, leaves, leavesAll]

theorem leaves_joined (head : Text) (first : Tree) (rest : List Tree) :
    (Tree.joined head first rest).leaves = first.leaves ++ leavesAll rest := by
  induction rest generalizing first with
  | nil => simp [joined, leavesAll]
  | cons t rest ih =>
      change (Tree.joined head (.call (.text head) [first, t]) rest).leaves = _
      rw [ih, leaves_operands, leavesAll, List.append_assoc]

end Tree

namespace Source.Expr

mutual

-- The names, literals and calls without arguments of an expression, from left to right. An operand
-- between two links of a chain belongs to both
def leaves : Expr → List Tree
  | .constant _ value => (value.value?.map Tree.literal).toList
  | .name _ id => [.identifier (.text id)]
  | .attribute column base member =>
    ((Expr.attribute column base member).knownName?.map fun name =>
      Tree.identifier (.text name)).toList
  | .unary _ _ operand => operand.leaves
  | .binary _ _ left right => left.leaves ++ right.leaves
  | .boolean _ _ first rest => first.leaves ++ leavesAll rest
  | .comparison _ left _ right links =>
    left.leaves ++ right.leaves ++ leavesLinks right.leaves links
  | .call _ callee [] _ =>
    (callee.knownName?.map fun name => Tree.call (.text name) []).toList
  | .call _ _ (e :: rest) _ => e.leaves ++ leavesAll rest
  | .subscript _ base index => base.leaves ++ index.leaves
  | .other _ _ _ => []

def leavesAll : List Expr → List Tree
  | [] => []
  | e :: rest => e.leaves ++ leavesAll rest

-- The links after the first one, each with the leaves of the operand before it
def leavesLinks (before : List Tree) : List (ComparisonOp × Expr) → List Tree
  | [] => []
  | (_, e) :: rest => before ++ e.leaves ++ leavesLinks e.leaves rest

end

theorem leavesAll_of_builds (ps : List (Expr × Built))
    (h : ∀ p ∈ ps, p.2.tree.leaves = p.1.leaves) :
    Tree.leavesAll (ps.map (·.2.tree)) = leavesAll (ps.map Prod.fst) := by
  induction ps with
  | nil => rfl
  | cons p rest ih =>
      rw [List.forall_mem_cons] at h
      rw [List.map_cons, List.map_cons, Tree.leavesAll, leavesAll, h.1, ih h.2]

theorem leavesAll_group (bs : List Built) (k : Nat) :
    Tree.leavesAll (bs.map (·.group k)) = Tree.leavesAll (bs.map (·.tree)) := by
  simp only [Tree.leavesAll_eq_flatMap, List.flatMap_map, Tree.leaves_group]

theorem leavesLinks_of_builds (left : Built) (ps : List ((ComparisonOp × Expr) × (Operator × Built)))
    (h : ∀ p ∈ ps, p.2.2.tree.leaves = p.1.2.leaves) :
    Tree.leavesAll (Built.links left (ps.map Prod.snd)) =
      leavesLinks left.tree.leaves (ps.map Prod.fst) := by
  induction ps generalizing left with
  | nil => rfl
  | cons p rest ih =>
      obtain ⟨⟨op, e⟩, operator, right⟩ := p
      rw [List.forall_mem_cons] at h
      simp only at h
      simp only [List.map_cons, Built.links, Tree.leavesAll, leavesLinks, ih right h.2, Built.link,
        Tree.leaves_operands, Tree.leaves_group, h.1]

-- No operand is lost or moved, and none but those between two links is there twice
theorem Builds.leaves (e : Expr) (b : Built) (h : Builds e b) : b.tree.leaves = e.leaves := by
  induction h with
  | constant column value v h =>
      rw [Expr.leaves, h]
      rfl
  | name column id => rfl
  | member column base member name h =>
      rw [Expr.leaves, h]
      rfl
  | unary column op operand operator b hop _ ih =>
      rw [Expr.leaves, ← ih, ← Tree.leaves_group b operator.strength]
      exact List.append_nil _
  | binary column op left right operator b b' hop _ _ ihl ihr =>
      obtain ⟨k, k', hbinary⟩ := Built.binary_eq_apply operator b b'
      rw [hbinary, Expr.leaves, ← ihl, ← ihr, ← Tree.leaves_group b k, ← Tree.leaves_group b' k']
      exact Tree.leaves_operands _ _ _
  | boolean column op first b rest _ _ ihf ihr =>
      rw [Built.tree_boolean, Tree.leaves_joined, Tree.leaves_group, ihf, leavesAll_group,
        List.map_map, Expr.leaves, ← leavesAll_of_builds rest ihr]
      rfl
  | comparison column left op right operator b b' links hop _ _ hops _ ihl ihr ihlinks =>
      rw [Built.tree_chain, Tree.leaves_joined, leavesLinks_of_builds b' links ihlinks, Built.link,
        Tree.leaves_operands, Tree.leaves_group, Tree.leaves_group, ihl, ihr, Expr.leaves]
  | call column callee name args hname _ ih =>
      cases args with
      | nil =>
          simp only [List.map_nil, Expr.leaves, hname]
          rfl
      | cons p rest => exact leavesAll_of_builds (p :: rest) ih
  | subscript column base index b b' _ _ ihb ihi =>
      rw [Expr.leaves, ← ihb, ← ihi, ← Tree.leaves_group b Strength.atom]
      exact Tree.leaves_operands _ _ _

end Source.Expr

end Formulary
