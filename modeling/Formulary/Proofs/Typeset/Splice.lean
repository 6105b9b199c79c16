import Formulary.Proofs.Tree.Position
import Formulary.Proofs.Typeset.Denotation

namespace Formulary.Tree

theorem denoteAll_congr (table : Notation) (before after : List Tree) (s t : Tree)
    (h : s.denote table = t.denote table) :
    denoteAll table (before ++ s :: after) = denoteAll table (before ++ t :: after) := by
  induction before with
  | nil => rw [List.nil_append, List.nil_append, denoteAll, denoteAll, h]
  | cons first rest ih => rw [List.cons_append, List.cons_append, denoteAll, denoteAll, ih]

-- What a tree means depends on what stands in a hole of it only through the meaning of that
theorem denote_fill_congr (table : Notation) (C : Context) (s t : Tree)
    (h : s.denote table = t.denote table) :
    (C.fill s).denote table = (C.fill t).denote table := by
  induction C with
  | hole => exact h
  | call head before inside after ih =>
      rw [Context.fill, Context.fill, denote, denote, denoteAll_congr table before after _ _ ih]

theorem typeset_fill_markup (table : Notation) (C : Context) (t : Tree) (m : Markup)
    (hC : C.WellFormed) (ht : t.WellFormed) (hm : t.typeset table = .ok m) :
    (C.fill t).typeset table = (C.fill (.literal (.markup m))).typeset table := by
  rw [typeset_eq_denote _ _ (C.wellFormed_fill t hC ht),
    typeset_eq_denote _ _ (C.wellFormed_fill (.literal (.markup m)) hC trivial)]
  congr 1
  apply denote_fill_congr
  exact denote_of_typeset table t ht m hm

-- The tree with what stands at the position set, and put back as finished markup
def splice (table : Notation) (t : Tree) (p : Position) : Option Tree := do
  let s ← t.subtree? p
  let m ← (s.typeset table).toOption
  return t.replaceAt p (.literal (.markup m))

theorem splice_eq_some (table : Notation) (t s : Tree) (p : Position) (m : Markup)
    (h : t.subtree? p = some s) (hm : s.typeset table = .ok m) :
    t.splice table p = some (t.replaceAt p (.literal (.markup m))) := by
  simp [splice, h, hm, Except.toOption]

theorem typeset_replaceAt_markup (table : Notation) (t s : Tree) (p : Position) (m : Markup)
    (hw : t.WellFormed) (h : t.subtree? p = some s) (hm : s.typeset table = .ok m) :
    (t.replaceAt p (.literal (.markup m))).WellFormed ∧
      (t.replaceAt p (.literal (.markup m))).typeset table = t.typeset table := by
  obtain ⟨C, hC, hs, rfl, hreplace⟩ := exists_context p t s hw h
  rw [hreplace]
  exact ⟨C.wellFormed_fill _ hC trivial, (typeset_fill_markup table C s m hC hs hm).symm⟩

-- One splice after the other, at positions that lie apart. What lies apart from all of them stays,
-- so that each position still holds what it held at first when its turn comes
theorem exists_splices (table : Notation) (positions : List Position) (t : Tree)
    (hw : t.WellFormed) (hapart : positions.Pairwise Position.Apart)
    (hset : ∀ p ∈ positions, ∃ s m, t.subtree? p = some s ∧ s.typeset table = .ok m) :
    ∃ t', positions.foldlM (splice table) t = some t' ∧ t'.typeset table = t.typeset table ∧
      (∀ q, (∀ p ∈ positions, p.Apart q) → t'.subtree? q = t.subtree? q) ∧
      ∀ p ∈ positions, ∃ s m, t.subtree? p = some s ∧ s.typeset table = .ok m ∧
        t'.subtree? p = some (.literal (.markup m)) := by
  induction positions generalizing t with
  | nil => exact ⟨t, rfl, rfl, fun q _ => rfl, by simp⟩
  | cons p rest ih =>
      obtain ⟨hp, hrest⟩ := List.pairwise_cons.mp hapart
      obtain ⟨s, m, hs, hm⟩ := hset p List.mem_cons_self
      obtain ⟨hw', htypeset⟩ := typeset_replaceAt_markup table t s p m hw hs hm
      have hkeep : ∀ q, p.Apart q →
          (t.replaceAt p (.literal (.markup m))).subtree? q = t.subtree? q :=
        fun q hq => subtree?_replaceAt_of_apart p q t _ hq
      obtain ⟨t', hsplices, hsame, hframe, hall⟩ := ih _ hw' hrest fun q hq => by
        rw [hkeep q (hp q hq)]
        exact hset q (List.mem_cons_of_mem p hq)
      refine ⟨t', ?_, hsame.trans htypeset, fun q hq => ?_, fun q hq => ?_⟩
      · rw [List.foldlM_cons, splice_eq_some table t s p m hs hm]
        exact hsplices
      · rw [List.forall_mem_cons] at hq
        rw [hframe q hq.2, hkeep q hq.1]
      · rcases List.mem_cons.mp hq with rfl | hq
        · refine ⟨s, m, hs, hm, ?_⟩
          rw [hframe q fun q' hq' => (hp q' hq').symm _ _]
          exact subtree?_replaceAt_self q t s _ hs
        · obtain ⟨s', m', hs', hm', hdone⟩ := hall q hq
          rw [hkeep q (hp q hq)] at hs'
          exact ⟨s', m', hs', hm', hdone⟩

-- A subtree that can be set may give way to its own markup, wherever it stands: the whole has the
-- same markup then, or fails as it did. The same goes for any number of subtrees that lie apart, one
-- after the other in whatever order
theorem splicing_markup_keeps_typeset (table : Notation) :
    (∀ (C : Context) (t : Tree) (m : Markup), C.WellFormed → t.WellFormed →
      t.typeset table = .ok m →
      (C.fill t).typeset table = (C.fill (.literal (.markup m))).typeset table) ∧
    ∀ (t : Tree) (positions : List Position), t.WellFormed → positions.Pairwise Position.Apart →
      (∀ p ∈ positions, ∃ s m, t.subtree? p = some s ∧ s.typeset table = .ok m) →
      ∃ t', positions.foldlM (splice table) t = some t' ∧
        (∀ p ∈ positions, ∃ s m, t.subtree? p = some s ∧ s.typeset table = .ok m ∧
          t'.subtree? p = some (.literal (.markup m))) ∧
        t'.typeset table = t.typeset table := by
  refine ⟨typeset_fill_markup table, fun t positions hw hapart hset => ?_⟩
  obtain ⟨t', hsplices, hsame, -, hall⟩ := exists_splices table positions t hw hapart hset
  exact ⟨t', hsplices, hall, hsame⟩

-- A call with a known name and a literal that is escaped: in the place of one of two arguments of a
-- head that takes one only, and twice below a head that takes any number, the last one first
theorem splicing_markup_keeps_typeset_of_failing_call :
    let table : Notation := ⟨.ofList [("pi", ⟨"pi", "\\pi"⟩)],
      .ofList [("sqrt", ⟨"sqrt", .wrap "\\sqrt\x7b" "\x7d"⟩)]⟩
    let t : Tree := .call (.text "f") [.identifier (.text "pi"), .literal (.text "5%")]
    let m : Markup := ⟨"\\mathrm\x7bf\x7d(\\pi, 5\\%)"⟩
    let C : Context := .call "sqrt" [] .hole [.identifier (.text "y")]
    let whole : Tree := .call (.text "g") [t, .call (.text "sqrt") [t]]
    C.WellFormed ∧ t.WellFormed ∧ t.typeset table = .ok m ∧
      (C.fill (.literal (.markup m))).typeset table = .error (.arity "sqrt" 1 2) ∧
      ∃ t', [[1, 0], [0]].foldlM (splice table) whole = some t' ∧
        t'.typeset table = whole.typeset table := by
  intro table t m C whole
  have hC : C.WellFormed := by simp [C, Context.WellFormed, AllWellFormed, WellFormed]
  have ht : t.WellFormed := by simp [t, AllWellFormed, WellFormed]
  have hwhole : whole.WellFormed := by simp [whole, t, AllWellFormed, WellFormed]
  have hm : t.typeset table = .ok m := by
    rw [typeset_eq_denote table t ht]
    rfl
  obtain ⟨hfill, hsplices⟩ := splicing_markup_keeps_typeset table
  refine ⟨hC, ht, hm, ?_, ?_⟩
  · have htold : Failure.miscounted "sqrt" 1 2 = .arity "sqrt" 1 2 := if_pos (by decide +kernel)
    rw [← hfill C t m hC ht hm, typeset_eq_denote table _ (C.wellFormed_fill t hC ht), ← htold]
    rfl
  · obtain ⟨t', ht', -, hsame⟩ := hsplices whole [[1, 0], [0]] hwhole
      (by simp [Position.Apart]) (by simpa using ⟨⟨t, rfl, m, hm⟩, t, rfl, m, hm⟩)
    exact ⟨t', ht', hsame⟩

end Formulary.Tree
