import Formulary.Proofs.Notation.File
import Formulary.Proofs.Typeset.Agreement

namespace Formulary

namespace OrderedMap

variable {ε α β : Type}

theorem keys_insert (map : OrderedMap α) (key : Text) (value : α) :
    (map.insert key value).keys = Tree.firstOccurrences (map.keys ++ [key]) := by
  have hkey : Tree.firstOccurrences [key] = [key] := rfl
  rw [Tree.firstOccurrences_append, Tree.firstOccurrences_of_nodup _ map.nodup_keys, hkey]
  change (put key value map.entries).map Prod.fst = _
  by_cases h : key ∈ map.keys
  · rw [keys_put_of_mem key value map.entries h, List.filter_cons_of_neg (by simpa using h)]
    exact (List.append_nil _).symm
  · rw [put_of_notMem key value map.entries h, List.filter_cons_of_pos (by simpa using h), List.map_append]
    rfl

-- A key stands where it came first, however often it comes again
theorem keys_overlay (map : OrderedMap α) (extra : List (Text × α)) :
    (map.overlay extra).keys = Tree.firstOccurrences (map.keys ++ extra.map Prod.fst) := by
  induction extra generalizing map with
  | nil =>
      rw [List.map_nil, List.append_nil, Tree.firstOccurrences_of_nodup _ map.nodup_keys]
      rfl
  | cons e rest ih =>
      change ((map.insert e.1 e.2).overlay rest).keys = _
      have hinsert : Tree.firstOccurrences (map.insert e.1 e.2).keys =
          Tree.firstOccurrences (map.keys ++ [e.1]) := by
        rw [Tree.firstOccurrences_of_nodup _ (map.insert e.1 e.2).nodup_keys, keys_insert]
      rw [ih, Tree.firstOccurrences_append_congr _ _ _ _ hinsert rfl, List.append_assoc]
      rfl

theorem get?_overlay_entries (map extra : OrderedMap α) (key : Text) :
    (map.overlay extra.entries).get? key = (extra.get? key).or (map.get? key) := by
  rw [get?_overlay, ← get?_ofList, ofList_entries]

theorem get?_overlay_comm (map map' : OrderedMap α) (h : ∀ key ∈ map.keys, key ∉ map'.keys)
    (key : Text) : (map.overlay map'.entries).get? key = (map'.overlay map.entries).get? key := by
  rw [get?_overlay_entries, get?_overlay_entries]
  cases hvalue : map.get? key with
  | none => rw [Option.or_none, Option.none_or]
  | some value =>
      have hkey := h key (List.mem_map_of_mem (map.mem_entries_of_get? key value hvalue))
      rw [(map'.get?_eq_none_iff key).mpr hkey]
      rfl

-- A map with data laid over it, where `entry` makes the entries of the data. Names that only the data has
-- come after all others
structure LaidOver (entry : Text → α → Except ε β) (map : OrderedMap β) (data : OrderedMap α)
    (map' : OrderedMap β) : Prop where
  keys : map'.keys = Tree.firstOccurrences (map.keys ++ data.keys)
  made : ∀ name value, data.get? name = some value →
    ∃ e, entry name value = .ok e ∧ map'.get? name = some e
  kept : ∀ name, data.get? name = none → map'.get? name = map.get? name

namespace LaidOver

variable {entry : Text → α → Except ε β} {map map₁ map₂ : OrderedMap β} {data data' : OrderedMap α}

-- What a name stands for comes from what the data has for it, and not from where the data has it
theorem get?_congr (h : LaidOver entry map data map₁) (h' : LaidOver entry map data' map₂)
    (hdata : ∀ name, data.get? name = data'.get? name) (name : Text) :
    map₁.get? name = map₂.get? name := by
  cases hvalue : data.get? name with
  | none => rw [h.kept name hvalue, h'.kept name ((hdata name).symm.trans hvalue)]
  | some value =>
      obtain ⟨e, he, hget⟩ := h.made name value hvalue
      obtain ⟨e', he', hget'⟩ := h'.made name value ((hdata name).symm.trans hvalue)
      rw [hget, hget', Except.ok.inj (he.symm.trans he')]

theorem unique (h : LaidOver entry map data map₁) (h' : LaidOver entry map data map₂) : map₁ = map₂ :=
  ext_keys_get? map₁ map₂ (h.keys.trans h'.keys.symm) (h.get?_congr h' fun _ => rfl)

theorem keys_trans (h : LaidOver entry map data map₁) (h' : LaidOver entry map₁ data' map₂) :
    map₂.keys = Tree.firstOccurrences (map.keys ++ data.keys ++ data'.keys) := by
  have hkeys : Tree.firstOccurrences map₁.keys = Tree.firstOccurrences (map.keys ++ data.keys) := by
    rw [Tree.firstOccurrences_of_nodup _ map₁.nodup_keys, h.keys]
  rw [h'.keys]
  exact Tree.firstOccurrences_append_congr _ _ _ _ hkeys rfl

-- To lay one after the other over a map is to lay the second over the first and both over the map
theorem trans (h : LaidOver entry map data map₁) (h' : LaidOver entry map₁ data' map₂) :
    LaidOver entry map (data.overlay data'.entries) map₂ where
  keys := by
    have hdata : Tree.firstOccurrences (data.overlay data'.entries).keys =
        Tree.firstOccurrences (data.keys ++ data'.keys) := by
      rw [Tree.firstOccurrences_of_nodup _ (nodup_keys _), keys_overlay]
      rfl
    rw [h.keys_trans h', List.append_assoc]
    exact (Tree.firstOccurrences_append_congr _ _ _ _ rfl hdata).symm
  made name value hvalue := by
    rw [get?_overlay_entries, Option.or_eq_some_iff] at hvalue
    obtain hvalue | ⟨hnone, hvalue⟩ := hvalue
    · exact h'.made name value hvalue
    · rw [h'.kept name hnone]
      exact h.made name value hvalue
  kept name hnone := by
    rw [get?_overlay_entries, Option.or_eq_none_iff] at hnone
    rw [h'.kept name hnone.1, h.kept name hnone.2]

-- Where the data have no name in common, either may come first
theorem comm {map₁' map₂' : OrderedMap β} (h : LaidOver entry map data map₁)
    (h' : LaidOver entry map₁ data' map₂) (k : LaidOver entry map data' map₁')
    (k' : LaidOver entry map₁' data map₂') (hdisjoint : ∀ name ∈ data.keys, name ∉ data'.keys) :
    ∀ name, map₂'.get? name = map₂.get? name :=
  (k.trans k').get?_congr (h.trans h') fun name => (get?_overlay_comm data data' hdisjoint name).symm

end LaidOver

theorem laidOver_overlay (entry : Text → α → Except ε β) (map : OrderedMap β) (data : OrderedMap α)
    (made : OrderedMap β) (hkeys : made.keys = data.keys)
    (hmade : ∀ name value, data.get? name = some value →
      ∃ e, entry name value = .ok e ∧ made.get? name = some e) :
    LaidOver entry map data (map.overlay made.entries) where
  keys := by
    rw [keys_overlay, ← hkeys]
    rfl
  made name value hvalue := by
    obtain ⟨e, he, hget⟩ := hmade name value hvalue
    exact ⟨e, he, by rw [get?_overlay_entries, hget, Option.some_or]⟩
  kept name hnone := by
    rw [get?_eq_none_iff, ← hkeys, ← get?_eq_none_iff] at hnone
    rw [get?_overlay_entries, hnone, Option.none_or]

end OrderedMap

-- Steps that keep the name and make an entry of the rest. What is found under a name is made of what was
theorem lookup_of_mapM {ε ε' α β : Type} (step : Text × α → Except ε (Text × β))
    (entry : Text → α → Except ε' β)
    (hstep : ∀ e r, step e = .ok r → r.1 = e.1 ∧ entry e.1 e.2 = .ok r.2)
    (items : List (Text × α)) (results : List (Text × β)) (h : items.mapM step = .ok results)
    (name : Text) (value : α) (hvalue : items.lookup name = some value) :
    ∃ e, entry name value = .ok e ∧ results.lookup name = some e := by
  induction items generalizing results with
  | nil => cases hvalue
  | cons e rest ih =>
      rw [List.mapM_cons] at h
      obtain ⟨r, hr, h⟩ := (bind_eq_ok_iff _ _ _).mp h
      obtain ⟨results', hrest, h⟩ := (bind_eq_ok_iff _ _ _).mp h
      cases h
      obtain ⟨hkey, hentry⟩ := hstep e r hr
      rw [List.lookup_cons] at hvalue
      rw [List.lookup_cons, hkey]
      by_cases hname : name = e.1
      · rw [hname, beq_self_eq_true] at hvalue ⊢
        cases hvalue
        exact ⟨r.2, hentry, rfl⟩
      · rw [beq_false_of_ne hname] at hvalue ⊢
        exact ih results' hrest hvalue

namespace Notation

-- What an extension does to each of the two tables
theorem laidOver_of_extend (table table' : Notation) (symbols : OrderedMap Value)
    (functions : OrderedMap Spec) (h : table.extend symbols functions = .ok table') :
    OrderedMap.LaidOver symbol table.symbols symbols table'.symbols ∧
      OrderedMap.LaidOver FunctionBinding.ofSpec table.functions functions table'.functions := by
  obtain ⟨newSymbols, hsymbols, h⟩ := (bind_eq_ok_iff _ _ _).mp h
  obtain ⟨newFunctions, hfunctions, h⟩ := (bind_eq_ok_iff _ _ _).mp h
  cases h
  have hkeys := (symbolEntries_eq_ok _ _ hsymbols).1
  have hkeys' := (functionEntries_eq_ok _ _ hfunctions).1
  constructor
  · refine OrderedMap.laidOver_overlay symbol table.symbols symbols
      ⟨newSymbols, hkeys ▸ symbols.nodup⟩ hkeys (lookup_of_mapM _ symbol (fun e r hr => ?_) _ _ hsymbols)
    obtain ⟨s, hs, hr⟩ := (bind_eq_ok_iff _ _ _).mp hr
    cases hr
    exact ⟨rfl, hs⟩
  · refine OrderedMap.laidOver_overlay FunctionBinding.ofSpec table.functions functions
      ⟨newFunctions, hkeys' ▸ functions.nodup⟩ hkeys'
      (lookup_of_mapM _ FunctionBinding.ofSpec (fun e r hr => ?_) _ _ hfunctions)
    split at hr
    · rename_i f hf
      cases hr
      exact ⟨rfl, hf⟩
    · cases hr

end Notation

namespace Tree

-- Only what the tables have for names bears on how a tree is set, and not the order of the names
theorem typeset_congr_of_get? (table table' : Notation) (t : Tree)
    (hsymbol : ∀ name, table.symbols.get? name = table'.symbols.get? name)
    (hfunction : ∀ name, table.functions.get? name = table'.functions.get? name) :
    t.typeset table = t.typeset table' := by
  cases hfind : t.preorder.find? isMalformed with
  | none =>
      refine typeset_congr table table' t (wellFormed_of_find? t hfind) (fun name _ => ?_) fun head _ => ?_
      · rw [Notation.symbolFor, Notation.symbolFor, hsymbol]
      · rw [Notation.functionFor, Notation.functionFor, hfunction]
  | some node =>
      have hmalformed : ∀ table, t.typeset table = node.unclassifiable := fun table => by
        rw [typeset, Scope.ofTree, freeIdentifiers, namesOf_of_find? _ t node hfind, unclassifiable_bind,
          unclassifiable_bind]
      rw [hmalformed, hmalformed]

end Tree

namespace Notation

variable (table table₁ table₂ : Notation) (symbols symbols' : OrderedMap Value)
  (functions functions' : OrderedMap Spec)

theorem extend_overlay_isOk (h : table.extend symbols functions = .ok table₁)
    (h' : table₁.extend symbols' functions' = .ok table₂) :
    ∃ table₃, table.extend (symbols.overlay symbols'.entries) (functions.overlay functions'.entries) =
      .ok table₃ := by
  obtain ⟨htexts, hspecs⟩ := (extend_isOk_iff table symbols functions).mp ⟨_, h⟩
  obtain ⟨htexts', hspecs'⟩ := (extend_isOk_iff table₁ symbols' functions').mp ⟨_, h'⟩
  refine (extend_isOk_iff table _ _).mpr ⟨fun e he => ?_, fun e he => ?_⟩
  · exact (OrderedMap.mem_of_mem_entries_overlay _ _ e he).elim (htexts e) (htexts' e)
  · exact (OrderedMap.mem_of_mem_entries_overlay _ _ e he).elim (hspecs e) (hspecs' e)

theorem extend_overlay (h : table.extend symbols functions = .ok table₁)
    (h' : table₁.extend symbols' functions' = .ok table₂) :
    table.extend (symbols.overlay symbols'.entries) (functions.overlay functions'.entries) =
      .ok table₂ := by
  obtain ⟨table₃, h₃⟩ := extend_overlay_isOk _ _ _ _ _ _ _ h h'
  obtain ⟨hsymbols, hfunctions⟩ := laidOver_of_extend _ _ _ _ h
  obtain ⟨hsymbols', hfunctions'⟩ := laidOver_of_extend _ _ _ _ h'
  obtain ⟨hsymbols₃, hfunctions₃⟩ := laidOver_of_extend _ _ _ _ h₃
  have hs := hsymbols₃.unique (hsymbols.trans hsymbols')
  have hf := hfunctions₃.unique (hfunctions.trans hfunctions')
  cases table₃
  cases table₂
  cases hs
  cases hf
  exact h₃

-- Data without a common name may be laid over a table in either order
theorem extend_comm (h : table.extend symbols functions = .ok table₁)
    (h' : table₁.extend symbols' functions' = .ok table₂)
    (hsymbols : ∀ name ∈ symbols.keys, name ∉ symbols'.keys)
    (hfunctions : ∀ name ∈ functions.keys, name ∉ functions'.keys) :
    ∃ table₁' table₂', table.extend symbols' functions' = .ok table₁' ∧
      table₁'.extend symbols functions = .ok table₂' ∧
      (∀ name, table₂'.symbols.get? name = table₂.symbols.get? name) ∧
      ∀ name, table₂'.functions.get? name = table₂.functions.get? name := by
  obtain ⟨table₁', k⟩ := (extend_isOk_iff table _ _).mpr ((extend_isOk_iff table₁ _ _).mp ⟨_, h'⟩)
  obtain ⟨table₂', k'⟩ := (extend_isOk_iff table₁' _ _).mpr ((extend_isOk_iff table _ _).mp ⟨_, h⟩)
  obtain ⟨hlaid, hlaid'⟩ := laidOver_of_extend _ _ _ _ h
  obtain ⟨hover, hover'⟩ := laidOver_of_extend _ _ _ _ h'
  obtain ⟨hother, hother'⟩ := laidOver_of_extend _ _ _ _ k
  obtain ⟨hlast, hlast'⟩ := laidOver_of_extend _ _ _ _ k'
  exact ⟨table₁', table₂', k, k', hlaid.comm hover hother hlast hsymbols,
    hlaid'.comm hover' hother' hlast' hfunctions⟩

-- Two extensions come to one by data of which the second is laid over the first: they are the same table.
-- There each name stands where it came first, and for what it has in the last of the three that has it.
-- Nothing laid over a table is the table, and data without a common name may come in either order, which
-- shows in the order of the names only
theorem extend_assoc (h : table.extend symbols functions = .ok table₁)
    (h' : table₁.extend symbols' functions' = .ok table₂) :
    table.extend (symbols.overlay symbols'.entries) (functions.overlay functions'.entries) =
      .ok table₂ ∧
    table.extend .empty .empty = .ok table ∧
    table₂.symbols.keys =
      Tree.firstOccurrences (table.symbols.keys ++ symbols.keys ++ symbols'.keys) ∧
    table₂.functions.keys =
      Tree.firstOccurrences (table.functions.keys ++ functions.keys ++ functions'.keys) ∧
    (∀ name, match (symbols'.get? name).or (symbols.get? name) with
      | some v => ∃ s, symbol name v = .ok s ∧ table₂.symbols.get? name = some s
      | none => table₂.symbols.get? name = table.symbols.get? name) ∧
    (∀ name, match (functions'.get? name).or (functions.get? name) with
      | some spec => ∃ f, FunctionBinding.ofSpec name spec = .ok f ∧ table₂.functions.get? name = some f
      | none => table₂.functions.get? name = table.functions.get? name) ∧
    ((∀ name ∈ symbols.keys, name ∉ symbols'.keys) → (∀ name ∈ functions.keys, name ∉ functions'.keys) →
      ∃ table₁' table₂', table.extend symbols' functions' = .ok table₁' ∧
        table₁'.extend symbols functions = .ok table₂' ∧
        table₂'.symbols.entries.Perm table₂.symbols.entries ∧
        table₂'.functions.entries.Perm table₂.functions.entries ∧
        ∀ t : Tree, t.typeset table₂' = t.typeset table₂) := by
  obtain ⟨hsymbols, hfunctions⟩ := laidOver_of_extend _ _ _ _ h
  obtain ⟨hsymbols', hfunctions'⟩ := laidOver_of_extend _ _ _ _ h'
  have hs := hsymbols.trans hsymbols'
  have hf := hfunctions.trans hfunctions'
  refine ⟨extend_overlay _ _ _ _ _ _ _ h h', rfl, hsymbols.keys_trans hsymbols',
    hfunctions.keys_trans hfunctions', fun name => ?_, fun name => ?_, fun hdisjoint hdisjoint' => ?_⟩
  · rw [← OrderedMap.get?_overlay_entries]
    cases hv : (symbols.overlay symbols'.entries).get? name with
    | none => exact hs.kept name hv
    | some v => exact hs.made name v hv
  · rw [← OrderedMap.get?_overlay_entries]
    cases hspec : (functions.overlay functions'.entries).get? name with
    | none => exact hf.kept name hspec
    | some spec => exact hf.made name spec hspec
  · obtain ⟨table₁', table₂', k, k', hsymbol, hfunction⟩ :=
      extend_comm _ _ _ _ _ _ _ h h' hdisjoint hdisjoint'
    exact ⟨table₁', table₂', k, k', OrderedMap.perm_entries_of_get? _ _ hsymbol,
      OrderedMap.perm_entries_of_get? _ _ hfunction, fun t => t.typeset_congr_of_get? _ _ hsymbol hfunction⟩

-- The second data have a name of the first one's symbols and one of their functions, and the first data
-- have a symbol of the table
theorem extend_assoc_of_overlap :
    let table : Notation := ⟨.ofList [("x", ⟨"x", "1"⟩)], .empty⟩
    let symbols : OrderedMap Value := .ofList [("y", .text "2"), ("x", .text "3")]
    let symbols' : OrderedMap Value := .ofList [("z", .text "4"), ("y", .text "5")]
    let functions : OrderedMap Spec := .ofList [("f", .ofList [("kind", .text "wrap"), ("prefix", .text "-")])]
    let functions' : OrderedMap Spec :=
      .ofList [("f", .ofList [("kind", .text "infix"), ("separator", .text " + ")])]
    ∃ table₁ table₂, table.extend symbols functions = .ok table₁ ∧
      table₁.extend symbols' functions' = .ok table₂ ∧
      table.extend (symbols.overlay symbols'.entries) (functions.overlay functions'.entries) =
        .ok table₂ ∧
      table₂.symbols.keys = (["x", "y", "z"] : List Text) ∧ table₂.symbols.get? "x" = some ⟨"x", "3"⟩ ∧
      table₂.symbols.get? "y" = some ⟨"y", "5"⟩ ∧
      table₂.functions.get? "f" = some ⟨"f", .between " + "⟩ := by
  intro table symbols symbols' functions functions'
  obtain ⟨table₁, h⟩ : ∃ table₁, table.extend symbols functions = .ok table₁ := ⟨_, rfl⟩
  obtain ⟨table₂, h'⟩ : ∃ table₂, table₁.extend symbols' functions' = .ok table₂ :=
    (extend_isOk_iff table₁ _ _).mpr ((extend_isOk_iff table _ _).mp ⟨_, rfl⟩)
  obtain ⟨hboth, -, hkeys, -, hsymbol, hfunction, -⟩ := extend_assoc _ _ _ _ _ _ _ h h'
  refine ⟨table₁, table₂, h, h', hboth, hkeys.trans rfl, ?_, ?_, ?_⟩
  · obtain ⟨_, hs, hget⟩ := hsymbol "x"
    rw [hget, ← Except.ok.inj hs]
  · obtain ⟨_, hs, hget⟩ := hsymbol "y"
    rw [hget, ← Except.ok.inj hs]
  · obtain ⟨_, hf, hget⟩ := hfunction "f"
    rw [hget, ← Except.ok.inj hf]

end Notation

end Formulary
