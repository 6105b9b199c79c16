import Formulary.Proofs.Tree.Names

namespace Formulary.Tree

-- The way from a tree down to one below it: which argument to enter, call by call
abbrev Position := List Nat

def subtree? : Position → Tree → Option Tree
  | [], t => some t
  | i :: p, .call _ args => args[i]?.bind (subtree? p)
  | _ :: _, _ => none

-- The tree with another in the place of the one at the position
def replaceAt : Position → Tree → Tree → Tree
  | [], _, new => new
  | i :: p, .call head args, new => .call head (args.modify i fun t => replaceAt p t new)
  | _ :: _, t, _ => t

mutual

-- What one comes upon in preorder is what stands at some position
theorem mem_preorder_iff_subtree? (t node : Tree) :
    node ∈ t.preorder ↔ ∃ p, t.subtree? p = some node := by
  have hleaf : ∀ leaf : Tree, leaf.preorder = [leaf] → (∀ i p, leaf.subtree? (i :: p) = none) →
      (node ∈ leaf.preorder ↔ ∃ p, leaf.subtree? p = some node) := by
    intro leaf hpreorder hnone
    rw [hpreorder, List.mem_singleton]
    constructor
    · rintro rfl
      exact ⟨[], rfl⟩
    · rintro ⟨_ | ⟨i, p⟩, hp⟩
      · exact (Option.some.inj hp).symm
      · rw [hnone] at hp
        cases hp
  match t with
  | .literal value => exact hleaf _ rfl fun _ _ => rfl
  | .identifier name => exact hleaf _ rfl fun _ _ => rfl
  | .stray value => exact hleaf _ rfl fun _ _ => rfl
  | .call head args =>
      rw [preorder, List.mem_cons, mem_preorderAll_iff_subtree? args node]
      constructor
      · rintro (rfl | ⟨i, p, hp⟩)
        · exact ⟨[], rfl⟩
        · exact ⟨i :: p, hp⟩
      · rintro ⟨_ | ⟨i, p⟩, hp⟩
        · exact .inl (Option.some.inj hp).symm
        · exact .inr ⟨i, p, hp⟩

theorem mem_preorderAll_iff_subtree? (args : List Tree) (node : Tree) :
    node ∈ preorderAll args ↔ ∃ (i : Nat) (p : Position), args[i]?.bind (subtree? p) = some node := by
  match args with
  | [] => simp [preorderAll]
  | t :: rest =>
      rw [preorderAll, List.mem_append, mem_preorder_iff_subtree? t node,
        mem_preorderAll_iff_subtree? rest node]
      constructor
      · rintro (⟨p, hp⟩ | ⟨i, p, hp⟩)
        · exact ⟨0, p, hp⟩
        · exact ⟨i + 1, p, hp⟩
      · rintro ⟨_ | i, p, hp⟩
        · exact .inl ⟨p, hp⟩
        · exact .inr ⟨i, p, hp⟩

end

-- Neither of two positions lies below the other
def Position.Apart (p q : Position) : Prop := ¬ p <+: q ∧ ¬ q <+: p

theorem Position.Apart.symm (p q : Position) (h : p.Apart q) : q.Apart p := And.symm h

theorem subtree?_replaceAt_self (p : Position) (t s new : Tree) (h : t.subtree? p = some s) :
    (t.replaceAt p new).subtree? p = some new := by
  induction p generalizing t with
  | nil => rfl
  | cons i p ih =>
      cases t with
      | call head args =>
          obtain ⟨arg, harg, hs⟩ := Option.bind_eq_some_iff.mp h
          simp only [replaceAt, subtree?, List.getElem?_modify_eq, harg]
          exact ih arg hs
      | _ => cases h

-- A change at one position does not reach what lies apart from it
theorem subtree?_replaceAt_of_apart (p q : Position) (t new : Tree) (h : p.Apart q) :
    (t.replaceAt p new).subtree? q = t.subtree? q := by
  induction p generalizing q t with
  | nil => exact absurd List.nil_prefix h.1
  | cons i p ih =>
      cases q with
      | nil => exact absurd List.nil_prefix h.2
      | cons j q =>
          cases t with
          | call head args =>
              simp only [replaceAt, subtree?]
              by_cases hij : i = j
              · subst hij
                have hpq : Position.Apart p q := by
                  simpa only [Position.Apart, List.prefix_cons_inj] using h
                rw [List.getElem?_modify_eq]
                cases args[i]? with
                | none => rfl
                | some arg => exact ih q arg hpq
              · rw [List.getElem?_modify_ne _ _ hij]
          | _ => rfl

-- A tree with a hole in it
inductive Context
  | hole
  | call (head : Text) (before : List Tree) (inside : Context) (after : List Tree)

namespace Context

def fill : Context → Tree → Tree
  | .hole, t => t
  | .call head before inside after, t => .call (.text head) (before ++ inside.fill t :: after)

-- No node around the hole is malformed
def WellFormed : Context → Prop
  | .hole => True
  | .call _ before inside after =>
    AllWellFormed before ∧ inside.WellFormed ∧ AllWellFormed after

theorem wellFormed_fill (C : Context) (t : Tree) (hC : C.WellFormed) (ht : t.WellFormed) :
    (C.fill t).WellFormed := by
  induction C with
  | hole => exact ht
  | call head before inside after ih =>
      obtain ⟨hbefore, hinside, hafter⟩ := hC
      rw [allWellFormed_iff] at hbefore hafter
      refine (allWellFormed_iff _).mpr ?_
      rw [List.forall_mem_append, List.forall_mem_cons]
      exact ⟨hbefore, ih hinside, hafter⟩

end Context

-- What stands at a position fills a hole there, and replacing it is filling the hole anew
theorem exists_context (p : Position) (t s : Tree) (hw : t.WellFormed)
    (h : t.subtree? p = some s) :
    ∃ C : Context, C.WellFormed ∧ s.WellFormed ∧ C.fill s = t ∧
      ∀ new, t.replaceAt p new = C.fill new := by
  induction p generalizing t with
  | nil =>
      cases h
      exact ⟨.hole, trivial, hw, rfl, fun new => rfl⟩
  | cons i p ih =>
      match t, hw, h with
      | .call (.text head) args, hw, h =>
          obtain ⟨arg, harg, hs⟩ := Option.bind_eq_some_iff.mp h
          obtain ⟨hi, rfl⟩ := List.getElem?_eq_some_iff.mp harg
          have hargs : ∀ arg ∈ args, arg.WellFormed := (allWellFormed_iff args).mp hw
          obtain ⟨C, hC, hsw, hfill, hreplace⟩ := ih args[i] (hargs _ (List.getElem_mem hi)) hs
          refine ⟨.call head (args.take i) C (args.drop (i + 1)), ⟨?_, hC, ?_⟩, hsw, ?_, ?_⟩
          · exact (allWellFormed_iff _).mpr fun arg harg => hargs arg (List.mem_of_mem_take harg)
          · exact (allWellFormed_iff _).mpr fun arg harg => hargs arg (List.mem_of_mem_drop harg)
          · rw [Context.fill, hfill, List.getElem_cons_drop, List.take_append_drop]
          · intro new
            rw [replaceAt, Context.fill, List.modify_eq_take_cons_drop hi, hreplace]

end Formulary.Tree
