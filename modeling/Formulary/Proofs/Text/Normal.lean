import Formulary.Proofs.Text.Utf8
import Formulary.Text.Normal
import Mathlib.Data.List.SplitBy

namespace Formulary.Text

theorem ofNat_ne_lineFeed (n : Nat) (h : n ≠ 10) : Char.ofNat n ≠ '\n' := by
  by_cases hvalid : n.isValidChar
  · intro heq
    have hval : (Char.ofNat n).val.toNat = '\n'.val.toNat := by rw [heq]
    rw [Utf8.val_ofNat n hvalid] at hval
    exact h hval
  · rw [Char.ofNat, dif_neg hvalid]
    decide

namespace Normal

-- Blanks and line feeds part the entries of a table, so none stands in an entry
theorem lineFeed_notMem_of_mem_entries (table : String) (entry : List Char)
    (h : entry ∈ entries table) : '\n' ∉ entry := by
  obtain ⟨hsplit, hhead⟩ := List.mem_filter.mp h
  have hchain := List.isChain_of_mem_splitBy hsplit
  have hall : ∀ c ∈ entry, (c == ' ' || c == '\n') = false := by
    clear hsplit h
    induction entry with
    | nil => simp
    | cons c rest ih =>
        have hc : (c == ' ' || c == '\n') = false := by simpa using hhead
        refine List.forall_mem_cons.mpr ⟨hc, ?_⟩
        cases rest with
        | nil => simp
        | cons d rest =>
            obtain ⟨hcd, hrest⟩ := List.isChain_cons_cons.mp hchain
            rw [hc, beq_iff_eq] at hcd
            exact ih (by simpa using hcd.symm) hrest
  intro hmem
  exact absurd (hall '\n' hmem) (by decide)

theorem lineFeed_notMem_of_mem_decompositions (d : Char × List Char) (h : d ∈ decompositions) :
    '\n' ∉ d.2 := by
  obtain ⟨entry, hentry, hd⟩ := List.mem_filterMap.mp h
  have hfree := lineFeed_notMem_of_mem_entries _ entry hentry
  cases entry with
  | nil => cases hd
  | cons c parts =>
      cases hd
      exact fun hmem => hfree (List.mem_cons_of_mem _ hmem)

theorem ne_lineFeed_of_mem_compositions (e : (Char × Char) × Char) (h : e ∈ compositions) :
    e.2 ≠ '\n' := by
  obtain ⟨entry, hentry, he⟩ := List.mem_filterMap.mp h
  have hfree := lineFeed_notMem_of_mem_entries _ entry hentry
  split at he
  · cases he
    rintro rfl
    exact hfree List.mem_cons_self
  · cases he

theorem lineFeed_notMem_decompose (c : Char) (h : c ≠ '\n') : '\n' ∉ decompose c := by
  have hlead (n : Nat) := ofNat_ne_lineFeed (firstLead + n) (by unfold firstLead; omega)
  have hvowel (n : Nat) := ofNat_ne_lineFeed (firstVowel + n) (by unfold firstVowel; omega)
  have htrail (n : Nat) := ofNat_ne_lineFeed (beforeTrail + n) (by unfold beforeTrail; omega)
  unfold decompose
  dsimp only
  split
  · simpa using h.symm
  split
  · split
    · simp [(hlead _).symm, (hvowel _).symm]
    · simp [(hlead _).symm, (hvowel _).symm, (htrail _).symm]
  · cases hfind : decompositions.find? (·.1 == c) with
    | none => simpa using h.symm
    | some d => exact lineFeed_notMem_of_mem_decompositions d (List.mem_of_find?_eq_some hfind)

theorem mem_insertMark_iff (c mark : Char) (text : List Char) :
    c ∈ insertMark mark text ↔ c = mark ∨ c ∈ text := by
  induction text with
  | nil => simp [insertMark]
  | cons d rest ih =>
      rw [insertMark]
      split
      · rw [List.mem_cons, ih, List.mem_cons, or_left_comm]
      · exact List.mem_cons

theorem mem_reorder_iff (c : Char) (text : List Char) : c ∈ reorder text ↔ c ∈ text := by
  induction text with
  | nil => exact Iff.rfl
  | cons d rest ih => rw [reorder, List.foldr_cons, mem_insertMark_iff, ← reorder, ih, List.mem_cons]

theorem ne_lineFeed_of_composePair? (a b c : Char) (h : composePair? a b = some c) : c ≠ '\n' := by
  unfold composePair? at h
  dsimp only at h
  split at h
  · rw [← Option.some.inj h]
    exact ofNat_ne_lineFeed _ (by unfold firstSyllable; omega)
  · split at h
    · rename_i hsyllable
      simp only [Bool.and_eq_true, decide_eq_true_eq] at hsyllable
      have hfirst := hsyllable.1.1.1.1
      unfold firstSyllable at hfirst
      rw [← Option.some.inj h]
      exact ofNat_ne_lineFeed _ (by omega)
    · obtain ⟨e, hfind, rfl⟩ := Option.map_eq_some_iff.mp h
      exact ne_lineFeed_of_mem_compositions e (List.mem_of_find?_eq_some hfind)

theorem lineFeed_notMem_composeFrom (base : Char) (held text : List Char) (hbase : base ≠ '\n')
    (hheld : '\n' ∉ held) (htext : '\n' ∉ text) : '\n' ∉ composeFrom base held text := by
  induction text generalizing base held with
  | nil => simpa [composeFrom, hheld] using hbase.symm
  | cons d rest ih =>
      obtain ⟨hd, hrest⟩ := not_or.mp (List.mem_cons.not.mp htext)
      unfold composeFrom
      dsimp only
      split
      · rename_i composed hpair
        have hcomposed := (Option.ite_none_left_eq_some.mp hpair).2
        exact ih composed held (ne_lineFeed_of_composePair? base d composed hcomposed) hheld hrest
      split
      · have hmore := ih d [] (Ne.symm hd) (by simp) hrest
        simp [hbase.symm, hheld, hmore]
      · exact ih base (d :: held) hbase (by simp [hd, hheld]) hrest

theorem lineFeed_notMem_compose (text : List Char) (h : '\n' ∉ text) : '\n' ∉ compose text := by
  cases text with
  | nil => simp [compose]
  | cons c rest =>
      rw [List.mem_cons, not_or] at h
      exact lineFeed_notMem_composeFrom c [] rest (Ne.symm h.1) (by simp) h.2

-- The compatibility form of a text on one line is on one line
theorem lineFeed_notMem_form (text : List Char) (h : '\n' ∉ text) : '\n' ∉ form text := by
  rw [form]
  split
  · exact h
  · refine lineFeed_notMem_compose _ ?_
    rw [mem_reorder_iff, List.mem_flatMap]
    rintro ⟨c, hc, hmem⟩
    exact lineFeed_notMem_decompose c (ne_of_mem_of_not_mem hc h) hmem

end Normal

end Formulary.Text
