import Formulary.Proofs.Tree.Position

namespace Formulary.Tree

mutual

-- The names that a tree uses in one way, put together from those of its parts. The name of a node
-- comes before the names of its arguments, and of equal names the first one stays
def gathered (kind : Kind) : Tree → List Text
  | .identifier (.text name) => if kind = .identifier then [name] else []
  | .call (.text head) args =>
    firstOccurrences ((if kind = .call then [head] else []) ++ gatheredAll kind args)
  | _ => []

def gatheredAll (kind : Kind) : List Tree → List Text
  | [] => []
  | t :: rest => t.gathered kind ++ gatheredAll kind rest

end

theorem nodup_gathered (kind : Kind) (t : Tree) : (t.gathered kind).Nodup := by
  unfold gathered
  split
  · split <;> simp
  · exact nodup_firstOccurrences _
  · exact .nil

theorem occurrences_call (kind : Kind) (head : Text) (args : List Tree) :
    (call (.text head) args).occurrences kind =
      (if kind = .call then [head] else []) ++ (preorderAll args).filterMap (nameOf? kind) := by
  by_cases h : kind = .call <;> simp [occurrences, preorder, nameOf?, h]

mutual

-- What is left out within an argument would be left out in the end, so it does not matter whether
-- repeats go at every node or once for the whole row
theorem firstOccurrences_occurrences (kind : Kind) (t : Tree) (h : t.WellFormed) :
    firstOccurrences (t.occurrences kind) = t.gathered kind := by
  match t, h with
  | .literal value, _ => rfl
  | .identifier (.text name), _ =>
      by_cases h : kind = .identifier <;>
        simp [occurrences, preorder, nameOf?, gathered, firstOccurrences, h]
  | .call (.text head) args, h =>
      rw [occurrences_call, gathered]
      exact firstOccurrences_append_congr _ _ _ _ rfl (firstOccurrences_occurrencesAll kind args h)

theorem firstOccurrences_occurrencesAll (kind : Kind) (args : List Tree) (h : AllWellFormed args) :
    firstOccurrences ((preorderAll args).filterMap (nameOf? kind)) =
      firstOccurrences (gatheredAll kind args) := by
  match args, h with
  | [], _ => rfl
  | t :: rest, h =>
      have ht : firstOccurrences (t.occurrences kind) = firstOccurrences (t.gathered kind) := by
        rw [firstOccurrences_of_nodup _ (nodup_gathered kind t)]
        exact firstOccurrences_occurrences kind t h.1
      rw [preorderAll, gatheredAll, List.filterMap_append]
      exact firstOccurrences_append_congr _ _ _ _ ht (firstOccurrences_occurrencesAll kind rest h.2)

end

theorem namesOf_eq_gathered (kind : Kind) (t : Tree) (h : t.WellFormed) :
    t.namesOf kind = .ok (t.gathered kind) := by
  rw [namesOf_of_wellFormed kind t h, firstOccurrences_occurrences kind t h]

theorem mem_gathered (kind : Kind) (t : Tree) (h : t.WellFormed) (name : Text) :
    name ∈ t.gathered kind ↔ name ∈ t.occurrences kind := by
  rw [← firstOccurrences_occurrences kind t h, mem_firstOccurrences]

-- The two walks over a tree collect what recursion gathers from its parts: each name once, all the names
-- that some node of the tree uses in that way and no others, in the order in which a walk comes upon them.
-- A name that is used in both ways is in both rows
theorem names_eq_gathered (t : Tree) (h : t.WellFormed) :
    t.freeIdentifiers = .ok (t.gathered .identifier) ∧ t.callHeads = .ok (t.gathered .call) ∧
    (∀ kind, (t.gathered kind).Nodup ∧ (t.gathered kind).Pairwise fun a b =>
      (t.occurrences kind).idxOf a < (t.occurrences kind).idxOf b) ∧
    (∀ name, name ∈ t.gathered .identifier ↔ ∃ p, t.subtree? p = some (.identifier (.text name))) ∧
    (∀ head, head ∈ t.gathered .call ↔ ∃ p args, t.subtree? p = some (.call (.text head) args)) ∧
    ∀ name p q args, t.subtree? p = some (.identifier (.text name)) →
      t.subtree? q = some (.call (.text name) args) →
      name ∈ t.gathered .identifier ∧ name ∈ t.gathered .call := by
  have hnames : ∀ name, name ∈ t.gathered .identifier ↔
      ∃ p, t.subtree? p = some (.identifier (.text name)) := by
    intro name
    rw [mem_gathered _ t h, mem_occurrences_identifier, mem_preorder_iff_subtree?]
  have hheads : ∀ head, head ∈ t.gathered .call ↔
      ∃ p args, t.subtree? p = some (.call (.text head) args) := by
    intro head
    rw [mem_gathered _ t h, mem_occurrences_call, exists_comm]
    simp only [mem_preorder_iff_subtree?]
  refine ⟨namesOf_eq_gathered _ t h, namesOf_eq_gathered _ t h, fun kind => ⟨nodup_gathered kind t, ?_⟩,
    hnames, hheads, fun name p q args hp hq => ⟨(hnames name).mpr ⟨p, hp⟩, (hheads name).mpr ⟨q, args, hq⟩⟩⟩
  rw [← firstOccurrences_occurrences kind t h]
  exact pairwise_firstOccurrences _

-- Names that come again within an argument, in the next one and in the other role
theorem names_eq_gathered_of_repeats :
    let t : Tree := .call (.text "f") [.identifier (.text "y"),
      .call (.text "g") [.identifier (.text "x"), .identifier (.text "y"), .call (.text "f") []],
      .call (.text "g") [.identifier (.text "f"), .identifier (.text "x")]]
    t.WellFormed ∧ t.freeIdentifiers = .ok ["y", "x", "f"] ∧ t.callHeads = .ok ["f", "g"] := by
  intro t
  have hw : t.WellFormed := by simp [t, WellFormed, AllWellFormed]
  obtain ⟨hnames, hheads, -⟩ := names_eq_gathered t hw
  refine ⟨hw, hnames.trans (congrArg Except.ok ?_), hheads.trans (congrArg Except.ok ?_)⟩
  · decide
  · decide

end Formulary.Tree
