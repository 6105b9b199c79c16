import Formulary.Proofs.Arithmetic

namespace Formulary.Arithmetic

-- A meaning that tells regrouped terms apart: the number of leaves, and how many leaves stand in the
-- left operands of the remainders, each counted for every remainder around it
def reach : Interpretation (Nat × Nat) where
  leaf _ := (1, 0)
  sign _ x := x
  apply
    | .modulo, x, y => (x.1 + y.1, x.2 + y.2 + x.1)
    | _, x, y => (x.1 + y.1, x.2 + y.2)

theorem reach_regroups : reach.Regroups where
  add x y z := by simp [reach, Nat.add_assoc]
  subtract x y z := by simp [reach, Nat.add_assoc]
  multiply x y z := by simp [reach, Nat.add_assoc]

theorem reach_binary_fst (o : Operation) (f g : Term) :
    (value reach (.binary o f g)).1 = (value reach f).1 + (value reach g).1 := by
  cases o <;> rfl

theorem reach_binary_snd (o : Operation) (f g : Term) :
    (value reach (.binary o f g)).2 =
      (value reach f).2 + (value reach g).2 + if o = .modulo then (value reach f).1 else 0 := by
  cases o <;> rfl

theorem one_le_reach_fst (f : Term) : 1 ≤ (value reach f).1 := by
  induction f with
  | atom a => exact Nat.le_refl 1
  | unary s f ih => exact ih
  | binary o f g ihf ihg =>
      rw [reach_binary_fst]
      omega

theorem reach_attach_fst (o : Operation) (f g : Term) :
    (value reach (attach o f g)).1 = (value reach f).1 + (value reach g).1 := by
  induction g with
  | atom a => exact reach_binary_fst o f _
  | unary s g _ => exact reach_binary_fst o f _
  | binary o' g h ih _ =>
      by_cases heq : rules.binary o' = rules.binary o
      · rw [attach_binary o o' f g h heq, reach_binary_fst, reach_binary_fst, ih]
        omega
      · rw [attach_of_ne o f (.binary o' g h) heq, reach_binary_fst]

theorem reach_regroup_fst (f : Term) : (value reach (regroup f)).1 = (value reach f).1 := by
  induction f with
  | atom a => rfl
  | unary s f ih => exact ih
  | binary o f g ihf ihg =>
      unfold regroup
      split
      · rw [reach_attach_fst, ihf, ihg, reach_binary_fst]
      · rw [reach_binary_fst, reach_binary_fst, ihf, ihg]

-- What goes to the front of a row is counted again for each remainder that it comes to stand in
theorem reach_attach_snd (o : Operation) (f g : Term) (ho : o ≠ .modulo) :
    (value reach f).2 + (value reach g).2 ≤ (value reach (attach o f g)).2 ∧
      (o = .multiply → opensWithRemainder g = true →
        (value reach f).2 + (value reach g).2 < (value reach (attach o f g)).2) := by
  induction g with
  | atom a =>
      rw [attach_atom, reach_binary_snd, if_neg ho]
      exact ⟨Nat.le_refl _, fun _ hopen => nomatch hopen⟩
  | unary s g _ =>
      rw [attach_unary, reach_binary_snd, if_neg ho]
      exact ⟨Nat.le_refl _, fun _ hopen => nomatch hopen⟩
  | binary o' g h ih _ =>
      by_cases heq : rules.binary o' = rules.binary o
      · have hfst := reach_attach_fst o f g
        have hone := one_le_reach_fst f
        rw [attach_binary o o' f g h heq, reach_binary_snd, reach_binary_snd]
        refine ⟨by split <;> omega, fun hmul hopen => ?_⟩
        cases o' with
        | multiply =>
            have hlt := ih.2 hmul hopen
            simp only [reduceCtorEq, if_false]
            omega
        | modulo =>
            simp only [if_true]
            omega
        | _ => cases hopen
      · rw [attach_of_ne o f (.binary o' g h) heq, reach_binary_snd o f, if_neg ho]
        refine ⟨Nat.le_refl _, fun hmul hopen => ?_⟩
        rw [opensWithRemainder_of_strength _ (hmul ▸ heq)] at hopen
        cases hopen

theorem opensWithRemainder_regroup_of_opens (f : Term) (h : opensWithRemainder f = true) :
    opensWithRemainder (regroup f) = true := by
  induction f with
  | atom a => cases h
  | unary s f _ => cases h
  | binary o f g ihf _ =>
      cases o with
      | multiply =>
          unfold regroup
          split
          · rw [opensWithRemainder_attach, ihf h, Bool.true_or]
          · exact ihf h
      | modulo => rfl
      | _ => cases h

-- The count stays the same only where no product takes a remainder from its right
theorem reach_regroup_snd (f : Term) :
    (value reach f).2 ≤ (value reach (regroup f)).2 ∧
      ((value reach (regroup f)).2 = (value reach f).2 → Regroupable f) := by
  induction f with
  | atom a => exact ⟨Nat.le_refl _, fun _ => trivial⟩
  | unary s f ih => exact ih
  | binary o f g ihf ihg =>
      have hfst := reach_regroup_fst f
      by_cases hs : shares o g = true
      · have ho : o ≠ .modulo := by
          rcases shares_cases o g hs with rfl | ⟨rfl, -⟩ <;> decide
        have hattach := reach_attach_snd o (regroup f) (regroup g) ho
        rw [regroup, if_pos hs, reach_binary_snd, if_neg ho]
        refine ⟨by omega, fun hcount => ⟨ihf.2 (by omega), ihg.2 (by omega), ?_⟩⟩
        cases htakes : takesRemainder o g with
        | false => rfl
        | true =>
            obtain ⟨hmul, -, hopen⟩ := takesRemainder_cases o g htakes
            have hlt := hattach.2 hmul (opensWithRemainder_regroup_of_opens g hopen)
            omega
      · rw [regroup, if_neg hs, reach_binary_snd, reach_binary_snd, hfst]
        refine ⟨by omega, fun hcount => ⟨ihf.2 (by omega), ihg.2 (by omega), ?_⟩⟩
        cases htakes : takesRemainder o g with
        | false => rfl
        | true => exact absurd (takesRemainder_cases o g htakes).2.1 hs

-- Regrouping keeps every meaning for which sums and products may regroup, exactly when no product
-- takes a remainder from its right
theorem value_regroup_iff (f : Term) :
    (∀ (V : Type) (i : Interpretation V), i.Regroups → value i (regroup f) = value i f) ↔
      Regroupable f := by
  constructor
  · intro h
    exact (reach_regroup_snd f).2 (congrArg Prod.snd (h _ reach reach_regroups))
  · intro hf V i hi
    exact value_regroup i hi f hf

end Formulary.Arithmetic
