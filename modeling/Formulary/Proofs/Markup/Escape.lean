import Formulary.Value.Text

namespace Formulary.Markup

theorem replace_append (c : Char) (code s t : Text) :
    replace c code (s ++ t) = replace c code s ++ replace c code t := List.flatMap_append

theorem replace_singleton_of_ne (c : Char) (code : Text) (d : CodePoint) (h : d ≠ .char c) :
    replace c code [d] = [d] := by
  simp [replace, h]

-- One replacement after the other treats the two parts of a text apart
theorem foldl_replace_append (table : List (Char × Text)) (s t : Text) :
    table.foldl (fun text r => replace r.1 r.2 text) (s ++ t) =
      table.foldl (fun text r => replace r.1 r.2 text) s ++
        table.foldl (fun text r => replace r.1 r.2 text) t := by
  induction table generalizing s t with
  | nil => rfl
  | cons r table ih =>
      simp only [List.foldl_cons]
      rw [replace_append, ih]

theorem foldl_replace_singleton_of_ne (table : List (Char × Text)) (d : CodePoint)
    (h : ∀ r ∈ table, d ≠ .char r.1) :
    table.foldl (fun text r => replace r.1 r.2 text) [d] = [d] := by
  induction table with
  | nil => rfl
  | cons r table ih =>
      rw [List.foldl_cons, replace_singleton_of_ne _ _ _ (h r List.mem_cons_self)]
      exact ih fun r' hr' => h r' (List.mem_cons_of_mem _ hr')

theorem escape_nil : (escape []).text = [] := by decide

theorem escape_append (s t : Text) :
    (escape (s ++ t)).text = (escape s).text ++ (escape t).text := by
  simp only [escape, foldl_replace_append]

-- The order of the table matters here: no later step rewrites what an earlier one brought in
theorem escape_reserved : ∀ r ∈ reserved, (escape [.char r.1]).text = r.2 := by decide

theorem escape_unreserved (d : CodePoint) (h : ∀ r ∈ reserved, d ≠ .char r.1) :
    (escape [d]).text = [d] := by
  simp only [escape]
  rw [foldl_replace_singleton_of_ne reserved d h]

theorem escape_cons (d : CodePoint) (s : Text) :
    (escape (d :: s)).text = (escape [d]).text ++ (escape s).text :=
  escape_append [d] s

theorem escape_eq_flatMap (s : Text) : (escape s).text = s.flatMap fun d => (escape [d]).text := by
  induction s with
  | nil => exact escape_nil
  | cons d s ih => rw [escape_cons, ih, List.flatMap_cons]

-- No code opens another one, so a text opens with one code at most
theorem eq_of_code_prefix_code :
    ∀ r ∈ reserved, ∀ r' ∈ reserved, r'.2.isPrefixOf r.2 → r' = r := by decide

theorem eq_of_code_prefix (r r' : Char × Text) (hr : r ∈ reserved) (hr' : r' ∈ reserved)
    (t : Text) (h : r'.2 <+: r.2 ++ t) : r' = r := by
  rcases List.prefix_or_prefix_of_prefix h (List.prefix_append r.2 t) with hp | hp
  · exact eq_of_code_prefix_code r hr r' hr' (List.isPrefixOf_iff_prefix.mpr hp)
  · exact (eq_of_code_prefix_code r' hr' r hr (List.isPrefixOf_iff_prefix.mpr hp)).symm

theorem codeAt?_append (r : Char × Text) (hr : r ∈ reserved) (t : Text) :
    codeAt? (r.2 ++ t) = some r := by
  have hsome : (codeAt? (r.2 ++ t)).isSome :=
    List.find?_isSome.mpr ⟨r, hr, List.isPrefixOf_iff_prefix.mpr (List.prefix_append r.2 t)⟩
  obtain ⟨r', hr'⟩ := Option.isSome_iff_exists.mp hsome
  have hprefix : r'.2 <+: r.2 ++ t := List.isPrefixOf_iff_prefix.mp
    (List.find?_some (p := fun r' : Char × Text => r'.2.isPrefixOf (r.2 ++ t)) hr')
  rw [hr', eq_of_code_prefix r r' hr (List.mem_of_find?_eq_some hr') t hprefix]

theorem head?_code : ∀ r ∈ reserved, r.2.head? = some (.char '\\') := by decide

theorem codeAt?_cons_of_ne (d : CodePoint) (t : Text) (h : d ≠ .char '\\') :
    codeAt? (d :: t) = none := by
  refine List.find?_eq_none.mpr fun r hr hp => h ?_
  have hhead := head?_code r hr
  obtain ⟨rest, hrest⟩ := List.isPrefixOf_iff_prefix.mp hp
  cases hcode : r.2 with
  | nil => simp [hcode] at hhead
  | cons c code =>
      simp only [hcode, List.head?_cons, Option.some.injEq] at hhead
      simp only [hcode, List.cons_append, List.cons.injEq] at hrest
      exact hrest.1.symm.trans hhead

theorem unescape_code_append (r : Char × Text) (hr : r ∈ reserved) (t : Text) :
    unescape (r.2 ++ t) = .char r.1 :: unescape t := by
  have hcode := codeAt?_append r hr t
  have hhead := head?_code r hr
  cases hr2 : r.2 with
  | nil => simp [hr2] at hhead
  | cons c code =>
      rw [hr2, List.cons_append] at hcode
      simp [unescape, hcode, hr2]

theorem unescape_cons_of_ne (d : CodePoint) (t : Text) (h : d ≠ .char '\\') :
    unescape (d :: t) = d :: unescape t := by
  simp [unescape, codeAt?_cons_of_ne d t h]

theorem unescape_escape_singleton_append (d : CodePoint) (t : Text) :
    unescape ((escape [d]).text ++ t) = d :: unescape t := by
  by_cases h : ∃ r ∈ reserved, d = .char r.1
  · obtain ⟨r, hr, rfl⟩ := h
    rw [escape_reserved r hr, unescape_code_append r hr]
  · have hfree : ∀ r ∈ reserved, d ≠ .char r.1 := fun r hr hd => h ⟨r, hr, hd⟩
    rw [escape_unreserved d hfree]
    exact unescape_cons_of_ne d t (hfree ('\\', "\\backslash ") (by decide))

theorem unescape_escape_append (s t : Text) :
    unescape ((escape s).text ++ t) = s ++ unescape t := by
  induction s with
  | nil => simp [escape_nil]
  | cons d s ih =>
      rw [escape_cons, List.append_assoc, unescape_escape_singleton_append, ih, List.cons_append]

theorem unescape_escape (s : Text) : unescape (escape s).text = s := by
  have h := unescape_escape_append s []
  rwa [List.append_nil, unescape, List.append_nil] at h

-- Escaping is undone in front of any further text, also when the text holds codes itself
theorem unescape_undoes_escape :
    (∀ s t : Text, unescape ((escape s).text ++ t) = s ++ unescape t) ∧
    (∀ s : Text, unescape (escape s).text = s) ∧
    (∀ s : Text, ((Value.text s).escape >>= fun m => (Value.markup m).unescape) = .ok s) ∧
    Function.Injective escape := by
  refine ⟨unescape_escape_append, unescape_escape, fun s => ?_, fun s t h => ?_⟩
  · change Except.ok (unescape (escape s).text) = Except.ok s
    rw [unescape_escape]
  · rw [← unescape_escape s, ← unescape_escape t, h]

example : (escape "\\hat\x7b\x7d").text = Text.ofString "\\backslash hat\\\x7b\\\x7d" := by decide

end Formulary.Markup
