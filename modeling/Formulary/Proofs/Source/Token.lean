import Formulary.Proofs.Source.Parser
import Formulary.Proofs.Text.Normal
import Formulary.Source.Token.Scan

namespace Formulary.Source.Token

-- No word goes on past the end of its line, and its compatibility form does not either
theorem lineFeed_notMem_of_word? (text : List Char) (lexeme : Lexeme) (rest : List Char)
    (h : word? text = some (lexeme, rest)) (id : String) (hid : lexeme = .name id) :
    '\n' ∉ id.toList := by
  have hword : '\n' ∉ text.takeWhile continuesWord := fun hmem => by
    have hnone : continuesWord '\n' = false := by decide
    exact Bool.false_ne_true (hnone.symm.trans (List.all_eq_true.mp List.all_takeWhile _ hmem))
  subst hid
  unfold word? at h
  dsimp only at h
  split at h
  · cases h
  split at h
  · cases h
    rwa [String.toList_ofList]
  split at h
  · cases h
    rw [String.toList_ofList]
    exact Text.Normal.lineFeed_notMem_form _ hword
  · cases h

theorem lineFeed_notMem_of_lexeme? (text : List Char) (lexeme : Lexeme) (rest : List Char)
    (h : lexeme? text = some (lexeme, rest)) (id : String) (hid : lexeme = .name id) :
    '\n' ∉ id.toList := by
  unfold lexeme? at h
  split at h
  · obtain ⟨r, -, hr⟩ := Option.map_eq_some_iff.mp h
    cases hr
    cases hid
  split at h
  · exact lineFeed_notMem_of_word? text lexeme rest h id hid
  split at h
  · obtain ⟨r, -, hr⟩ := Option.map_eq_some_iff.mp h
    cases hr
    cases hid
  · obtain ⟨r, -, hr⟩ := Option.map_eq_some_iff.mp h
    cases hr
    cases hid

theorem lineFeed_notMem_of_scanFrom (indent : Option Indent) (brackets : List Char) (column : Nat)
    (text : List Char) (tokens : List Token)
    (h : scanFrom indent brackets column text = some tokens) :
    ∀ t ∈ tokens, t.Named fun id => '\n' ∉ id.toList := by
  fun_induction scanFrom indent brackets column text generalizing tokens
  case case1 =>
    cases h
    simp
  case case2 => cases h
  case case3 ih => exact ih tokens h
  case case4 ih => exact ih tokens h
  case case5 => cases h
  case case6 ih => exact ih tokens h
  case case7 ih => exact ih tokens h
  case case8 ih =>
    obtain ⟨more, hmore, rfl⟩ := Option.map_eq_some_iff.mp h
    refine List.forall_mem_cons.mpr ⟨?_, ih more hmore⟩
    rintro id ⟨⟩
  case case9 => cases h
  case case10 ih =>
    obtain ⟨⟨lexeme, after⟩, hlexeme, h⟩ := Option.bind_eq_some_iff.mp h
    obtain ⟨nested, -, h⟩ := Option.bind_eq_some_iff.mp h
    dsimp only at h
    split at h
    · obtain ⟨more, hmore, h⟩ := Option.bind_eq_some_iff.mp h
      cases h
      refine List.forall_mem_cons.mpr ⟨?_, ih after nested ‹_› more hmore⟩
      exact lineFeed_notMem_of_lexeme? _ lexeme after hlexeme
    · cases h

theorem lineFeed_notMem_of_scan (text : List Char) (tokens : List Token) (h : scan text = some tokens) :
    ∀ t ∈ tokens, t.Named fun id => '\n' ∉ id.toList :=
  lineFeed_notMem_of_scanFrom _ _ _ text tokens h

end Formulary.Source.Token
