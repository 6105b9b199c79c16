import Formulary.Proofs.Failure
import Formulary.Proofs.Tree.Names

namespace Formulary.Tree

-- The node itself has no known shape, whatever stands below it
def isMalformed : Tree → Bool
  | .literal _ => false
  | .identifier (.text _) => false
  | .call (.text _) _ => false
  | _ => true

theorem classify_of_isMalformed (t : Tree) (h : t.isMalformed = true) :
    t.classify = t.unclassifiable := by
  unfold isMalformed at h
  split at h
  · cases h
  · cases h
  · cases h
  · rw [classify]
    all_goals assumption

theorem exists_classify (t : Tree) (h : t.isMalformed = false) :
    ∃ kind, t.classify = .ok kind := by
  unfold isMalformed at h
  split at h
  · exact ⟨.literal, rfl⟩
  · exact ⟨.identifier, rfl⟩
  · exact ⟨.call, rfl⟩
  · cases h

-- A failure to tell the shape of a node ends whatever was to come after
theorem unclassifiable_bind {α β : Type} (t : Tree) (f : α → Except Failure β) :
    ((t.unclassifiable : Except Failure α) >>= f) = t.unclassifiable := by
  unfold unclassifiable
  cases t.describe <;> rfl

theorem unclassifiable_of_describe {α : Type} (t : Tree) (shape : Text)
    (h : t.describe = .ok shape) :
    (t.unclassifiable : Except Failure α) = .error (.unclassifiable shape) := by
  rw [unclassifiable, h]
  rfl

-- Going through the nodes of a row one by one, the first malformed one is met before all others
theorem mapM_classify_of_find? (nodes : List Tree) (node : Tree)
    (h : nodes.find? isMalformed = some node) : nodes.mapM classify = node.unclassifiable := by
  induction nodes with
  | nil => cases h
  | cons first rest ih =>
      rw [List.mapM_cons]
      cases hfirst : first.isMalformed with
      | true =>
          rw [List.find?_cons_of_pos hfirst] at h
          cases h
          rw [classify_of_isMalformed _ hfirst, unclassifiable_bind]
      | false =>
          obtain ⟨kind, hkind⟩ := exists_classify first hfirst
          rw [List.find?_cons_of_neg (by simp [hfirst])] at h
          rw [hkind, ih h]
          exact unclassifiable_bind node _

mutual

theorem wellFormed_of_find? (t : Tree) (h : t.preorder.find? isMalformed = none) :
    t.WellFormed := by
  match t, h with
  | .literal value, _ => trivial
  | .identifier (.text name), _ => trivial
  | .call (.text head) args, h => exact allWellFormed_of_find? args h

theorem allWellFormed_of_find? (args : List Tree)
    (h : (preorderAll args).find? isMalformed = none) : AllWellFormed args := by
  match args, h with
  | [], _ => trivial
  | t :: rest, h =>
      rw [preorderAll, List.find?_append, Option.or_eq_none_iff] at h
      exact ⟨wellFormed_of_find? t h.1, allWellFormed_of_find? rest h.2⟩

end

theorem namesOf_of_find? (kind : Kind) (t node : Tree)
    (h : t.preorder.find? isMalformed = some node) : t.namesOf kind = node.unclassifiable := by
  rw [namesOf, kinds, mapM_classify_of_find? _ node h, unclassifiable_bind]

mutual

-- The tree and all below it, each node after its arguments
def postorder : Tree → List Tree
  | .call head args => postorderAll args ++ [.call head args]
  | t => [t]

def postorderAll : List Tree → List Tree
  | [] => []
  | t :: rest => t.postorder ++ postorderAll rest

end

mutual

theorem mem_postorder (t node : Tree) : node ∈ t.postorder ↔ node ∈ t.preorder := by
  match t with
  | .literal value => rfl
  | .identifier name => rfl
  | .stray value => rfl
  | .call head args =>
      rw [postorder, preorder, List.mem_append, List.mem_singleton, List.mem_cons,
        mem_postorderAll args node, or_comm]

theorem mem_postorderAll (args : List Tree) (node : Tree) :
    node ∈ postorderAll args ↔ node ∈ preorderAll args := by
  match args with
  | [] => rfl
  | t :: rest =>
      rw [postorderAll, preorderAll, List.mem_append, List.mem_append, mem_postorder t node,
        mem_postorderAll rest node]

end

end Formulary.Tree
