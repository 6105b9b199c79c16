import Formulary.Tree.Names

namespace Formulary.Tree

theorem allWellFormed_iff (ts : List Tree) : AllWellFormed ts ↔ ∀ t ∈ ts, t.WellFormed := by
  induction ts with
  | nil => simp [AllWellFormed]
  | cons t rest ih => rw [AllWellFormed, ih, List.forall_mem_cons]

theorem self_mem_preorder (t : Tree) : t ∈ t.preorder := by
  cases t <;> simp [preorder]

mutual

theorem wellFormed_of_mem_preorder (t node : Tree) (h : t.WellFormed) (hn : node ∈ t.preorder) :
    node.WellFormed := by
  match t, h, hn with
  | .literal value, _, hn =>
      rw [List.mem_singleton.mp hn]
      trivial
  | .identifier (.text name), _, hn =>
      rw [List.mem_singleton.mp hn]
      trivial
  | .call (.text head) args, h, hn =>
      rcases List.mem_cons.mp hn with rfl | hn
      · exact h
      · exact wellFormed_of_mem_preorderAll args node h hn

theorem wellFormed_of_mem_preorderAll (args : List Tree) (node : Tree) (h : AllWellFormed args)
    (hn : node ∈ preorderAll args) : node.WellFormed := by
  match args, h, hn with
  | t :: rest, h, hn =>
      rcases List.mem_append.mp hn with hn | hn
      · exact wellFormed_of_mem_preorder t node h.1 hn
      · exact wellFormed_of_mem_preorderAll rest node h.2 hn

end

theorem classify_of_wellFormed (t : Tree) (h : t.WellFormed) : ∃ kind, t.classify = .ok kind := by
  match t, h with
  | .literal _, _ => exact ⟨.literal, rfl⟩
  | .identifier (.text _), _ => exact ⟨.identifier, rfl⟩
  | .call (.text _) _, _ => exact ⟨.call, rfl⟩

theorem mapM_classify_of_wellFormed (nodes : List Tree) (h : ∀ node ∈ nodes, node.WellFormed) :
    ∃ kinds, nodes.mapM classify = .ok kinds := by
  induction nodes with
  | nil => exact ⟨[], rfl⟩
  | cons node rest ih =>
      obtain ⟨kind, hkind⟩ := classify_of_wellFormed node (h node List.mem_cons_self)
      obtain ⟨kinds, hkinds⟩ := ih fun n hn => h n (List.mem_cons_of_mem node hn)
      refine ⟨kind :: kinds, ?_⟩
      rw [List.mapM_cons, hkind, hkinds]
      rfl

-- The names that a tree uses in one way, in the order in which one comes upon them, repeats included
def occurrences (kind : Kind) (t : Tree) : List Text := t.preorder.filterMap (nameOf? kind)

theorem mem_occurrences_identifier (t : Tree) (name : Text) :
    name ∈ t.occurrences .identifier ↔ .identifier (.text name) ∈ t.preorder := by
  constructor
  · intro h
    obtain ⟨node, hnode, hname⟩ := List.mem_filterMap.mp h
    unfold nameOf? at hname
    split at hname
    · cases hname
      exact hnode
    · cases hname
    · cases hname
  · exact fun h => List.mem_filterMap.mpr ⟨_, h, rfl⟩

theorem mem_occurrences_call (t : Tree) (head : Text) :
    head ∈ t.occurrences .call ↔ ∃ args, .call (.text head) args ∈ t.preorder := by
  constructor
  · intro h
    obtain ⟨node, hnode, hname⟩ := List.mem_filterMap.mp h
    unfold nameOf? at hname
    split at hname
    · cases hname
    · cases hname
      exact ⟨_, hnode⟩
    · cases hname
  · rintro ⟨args, h⟩
    exact List.mem_filterMap.mpr ⟨_, h, rfl⟩

theorem namesOf_of_wellFormed (kind : Kind) (t : Tree) (h : t.WellFormed) :
    t.namesOf kind = .ok (firstOccurrences (t.occurrences kind)) := by
  obtain ⟨kinds, hkinds⟩ := mapM_classify_of_wellFormed t.preorder
    fun node hn => wellFormed_of_mem_preorder t node h hn
  simp only [namesOf, Tree.kinds, hkinds]
  rfl

theorem mem_firstOccurrences (names : List Text) (name : Text) :
    name ∈ firstOccurrences names ↔ name ∈ names := by
  induction names with
  | nil => rfl
  | cons first rest ih =>
      by_cases h : name = first
      · simp [firstOccurrences, h]
      · simp [firstOccurrences, ih, h]

theorem nodup_firstOccurrences (names : List Text) : (firstOccurrences names).Nodup := by
  induction names with
  | nil => exact .nil
  | cons first rest ih =>
      refine List.nodup_cons.mpr ⟨?_, ih.filter _⟩
      simp

theorem pairwise_firstOccurrences (names : List Text) :
    (firstOccurrences names).Pairwise fun a b => names.idxOf a < names.idxOf b := by
  induction names with
  | nil => exact .nil
  | cons first rest ih =>
      have hidx : ∀ name ∈ (firstOccurrences rest).filter (· ≠ first),
          (first :: rest).idxOf name = rest.idxOf name + 1 := by
        intro name h
        have hne : name ≠ first := of_decide_eq_true (List.mem_filter.mp h).2
        rw [List.idxOf_cons, beq_false_of_ne hne.symm, cond_false]
      refine List.pairwise_cons.mpr ⟨fun b hb => ?_, ?_⟩
      · rw [List.idxOf_cons_self, hidx b hb]
        omega
      · refine (ih.filter _).imp_of_mem fun {a b} ha hb hab => ?_
        rw [hidx a ha, hidx b hb]
        omega

-- Names that have been there before add nothing
theorem firstOccurrences_append (names more : List Text) :
    firstOccurrences (names ++ more) =
      firstOccurrences names ++ (firstOccurrences more).filter fun name => name ∉ names := by
  induction names with
  | nil => exact (List.filter_eq_self.mpr fun _ _ => rfl).symm
  | cons first rest ih =>
      rw [List.cons_append, firstOccurrences, ih, firstOccurrences, List.filter_append,
        List.cons_append, List.filter_filter]
      congr 2
      apply List.filter_congr
      intro name _
      simp [not_or]

theorem firstOccurrences_of_nodup (names : List Text) (h : names.Nodup) :
    firstOccurrences names = names := by
  induction names with
  | nil => rfl
  | cons first rest ih =>
      obtain ⟨hfirst, hrest⟩ := List.nodup_cons.mp h
      rw [firstOccurrences, ih hrest, List.filter_eq_self.mpr]
      intro name hname
      exact decide_eq_true (ne_of_mem_of_not_mem hname hfirst)

-- Only the first occurrences in two rows bear on those in the row of both
theorem firstOccurrences_append_congr (names names' more more' : List Text)
    (h : firstOccurrences names = firstOccurrences names')
    (hmore : firstOccurrences more = firstOccurrences more') :
    firstOccurrences (names ++ more) = firstOccurrences (names' ++ more') := by
  have hmem : ∀ name, name ∈ names ↔ name ∈ names' := fun name => by
    rw [← mem_firstOccurrences, h, mem_firstOccurrences]
  simp only [firstOccurrences_append, h, hmore, hmem]

end Formulary.Tree
