import Formulary.Source.Parser

namespace Formulary.Source

-- A token that holds no name but one of a kind
def Token.Named (R : String → Prop) (t : Token) : Prop := ∀ id, t.lexeme = .name id → R id

namespace Parser

variable {α β : Type} {R : String → Prop} {P : α → Prop} {Q : β → Prop}

-- From tokens with names of a kind alone, whatever is read is as it should be, and the rest is such tokens
def Gives (R : String → Prop) (p : Parser α) (P : α → Prop) : Prop :=
  ∀ tokens : List Token, (∀ t ∈ tokens, t.Named R) → ∀ a rest, p tokens = some (a, rest) →
    P a ∧ ∀ t ∈ rest, t.Named R

namespace Gives

theorem bind {p : Parser α} {f : α → Parser β} (hp : Gives R p P) (hf : ∀ a, P a → Gives R (f a) Q) :
    Gives R (p >>= f) Q := by
  intro tokens htokens b rest h
  obtain ⟨⟨a, between⟩, ha, hb⟩ := Option.bind_eq_some_iff.mp h
  obtain ⟨hP, hbetween⟩ := hp tokens htokens a between ha
  exact hf a hP between hbetween b rest hb

-- What is read first does not matter
theorem next {p : Parser α} {f : α → Parser β} (hp : Gives R p P) (hf : ∀ a, Gives R (f a) Q) :
    Gives R (p >>= f) Q := hp.bind fun a _ => hf a

theorem pure {a : α} (h : P a) : Gives R (Pure.pure a) P := by
  rintro tokens htokens b rest ⟨⟩
  exact ⟨h, htokens⟩

theorem failure : Gives R (failure : Parser α) P := by
  rintro tokens htokens b rest ⟨⟩

theorem ite {c : Prop} [Decidable c] {p q : Parser α} (hp : Gives R p P) (hq : Gives R q P) :
    Gives R (if c then p else q) P := by
  split
  · exact hp
  · exact hq

end Gives

theorem gives_peek : Gives R peek fun lexeme => ∀ id, lexeme = some (.name id) → R id := by
  rintro tokens htokens lexeme rest ⟨⟩
  refine ⟨fun id hid => ?_, htokens⟩
  obtain ⟨t, ht, hlexeme⟩ := Option.map_eq_some_iff.mp hid
  exact htokens t (List.mem_of_head? ht) id hlexeme

theorem gives_column : Gives R column fun _ => True := by
  rintro tokens htokens n rest ⟨⟩
  exact ⟨trivial, htokens⟩

theorem gives_token : Gives R token (Token.Named R) := by
  rintro (_ | ⟨t, rest⟩) htokens a after h
  · cases h
  · cases h
    rwa [List.forall_mem_cons] at htokens

theorem gives_atMark (m : String) : Gives R (atMark m) fun _ => True :=
  gives_peek.next fun _ => .pure trivial

theorem gives_atKeyword (word : String) : Gives R (atKeyword word) fun _ => True :=
  gives_peek.next fun _ => .pure trivial

theorem gives_atNameBefore (m : String) : Gives R (atNameBefore m) fun _ => True := by
  rintro tokens htokens found rest ⟨⟩
  exact ⟨trivial, htokens⟩

theorem gives_expect (lexeme : Lexeme) : Gives R (expect lexeme) fun _ => True :=
  gives_token.next fun _ => .ite (.pure trivial) .failure

theorem gives_mark (m : String) : Gives R (mark m) fun _ => True := gives_expect _

theorem gives_keyword (word : String) : Gives R (keyword word) fun _ => True := gives_expect _

theorem gives_name : Gives R name R := by
  refine gives_token.bind fun t ht => ?_
  split
  · exact .pure (ht _ ‹_›)
  · exact .failure

theorem gives_maybe {p : Parser α} (hp : Gives R p P) :
    Gives R (maybe p) fun found => ∀ a, found = some a → P a := by
  intro tokens htokens found rest h
  unfold maybe at h
  split at h
  · rename_i a after ha
    cases h
    obtain ⟨hP, hrest⟩ := hp tokens htokens a rest ha
    refine ⟨?_, hrest⟩
    rintro _ ⟨⟩
    exact hP
  · cases h
    exact ⟨by simp, htokens⟩

theorem manyFrom_of_gives {p : Parser α} (hp : Gives R p P) (tokens : List Token)
    (htokens : ∀ t ∈ tokens, t.Named R) :
    (∀ a ∈ (manyFrom p tokens).1, P a) ∧ ∀ t ∈ (manyFrom p tokens).2, t.Named R := by
  induction tokens using manyFrom.induct p with
  | case1 tokens hnone =>
      rw [manyFrom, hnone]
      exact ⟨by simp, htokens⟩
  | case2 tokens a rest ha hshorter as after _ ih =>
      obtain ⟨hP, hrest⟩ := hp tokens htokens a rest ha
      obtain ⟨hmore, hafter⟩ := ih hrest
      rw [manyFrom, ha]
      simp only [hshorter, if_true]
      exact ⟨List.forall_mem_cons.mpr ⟨hP, hmore⟩, hafter⟩
  | case3 tokens a rest ha hsame =>
      rw [manyFrom, ha]
      simp only [hsame, if_false]
      exact ⟨by simp, htokens⟩

theorem gives_many {p : Parser α} (hp : Gives R p P) :
    Gives R (many p) fun as => ∀ a ∈ as, P a := by
  intro tokens htokens as rest h
  have hmany := manyFrom_of_gives hp tokens htokens
  rwa [Option.some.inj h] at hmany

theorem gives_afterCommas {p : Parser α} (hp : Gives R p P) :
    Gives R (afterCommas p) fun as => ∀ a ∈ as, P a :=
  gives_many ((gives_mark ",").next fun _ => hp)

theorem gives_commaSeparated {p : Parser α} (hp : Gives R p P) :
    Gives R (commaSeparated p) fun as => ∀ a ∈ as, P a := by
  refine hp.bind fun first hfirst => (gives_afterCommas hp).bind fun rest hrest => ?_
  refine (gives_maybe (gives_mark ",")).next fun _ => .pure ?_
  exact List.forall_mem_cons.mpr ⟨hfirst, hrest⟩

end Parser

end Formulary.Source
