import Formulary.Proofs.Scope.Resolution

namespace Formulary.Scope

-- The names of a row that are not known yet, each once, in the order in which they first come up
structure NewNames (row : List Text) (known : Text → Bool) (names : List Text) : Prop where
  mem_iff : ∀ name, name ∈ names ↔ name ∈ row ∧ known name = false
  nodup : names.Nodup
  ordered : names.Pairwise fun a b => row.idxOf a < row.idxOf b

theorem newNames_filter (row : List Text) (known : Text → Bool) :
    NewNames row known ((Tree.firstOccurrences row).filter fun name => !known name) where
  mem_iff name := by simp [List.mem_filter, Tree.mem_firstOccurrences]
  nodup := (Tree.nodup_firstOccurrences row).filter _
  ordered := (Tree.pairwise_firstOccurrences row).filter _

theorem map_entries_chain (table : Notation) (heads names : List Text) (hheads : heads.Nodup)
    (hnames : names.Nodup) :
    (chain table heads names).map (fun layer => layer.bindings.entries) =
      [(heads.filter fun head => !table.hasFunction head).map
          fun head => (head, some (.function (.unknown head))),
       table.functions.entries.map fun e => (e.1, some (.function e.2)),
       (names.filter fun name => !table.hasSymbol name).map
          fun name => (name, some (.symbol ⟨name, name⟩)),
       table.symbols.entries.map fun e => (e.1, some (.symbol e.2))] := by
  simp only [chain, List.map_cons, List.map_nil]
  rw [Layer.entries_ofBindings _ _ (nodup_keys_unknownFunctions table heads hheads),
    Layer.entries_ofBindings _ _ (nodup_keys_unknownSymbols table names hnames),
    Layer.entries_ofBindings _ _ (nodup_keys_entries table.functions .function),
    Layer.entries_ofBindings _ _ (nodup_keys_entries table.symbols .symbol)]
  simp only [unknownFunctions, unknownSymbols, List.map_map, Function.comp_def]

-- The chain of a tree answers for any name whatever. In the role asked for the entry of the notation
-- comes first, then the name itself where the tree uses it so. A name that has the other role only is
-- bound wrongly, and a name of neither is not bound. Its outer layers are the tables of the notation,
-- its fallbacks the names that only the tree knows
theorem ofTree_resolves_every_name (table : Notation) (t : Tree) (h : t.WellFormed) :
    ∃ scope, ofTree table t = .ok scope ∧
      (∀ name, scope.resolveSymbol name =
        match table.symbols.get? name with
        | some s => .ok s
        | none =>
          if name ∈ t.occurrences .identifier then .ok ⟨name, name⟩
          else .error (if table.hasFunction name ∨ name ∈ t.occurrences .call
            then .misbound name .symbol else .unbound name .symbol)) ∧
      (∀ name, scope.resolveFunction name =
        match table.functions.get? name with
        | some f => .ok f
        | none =>
          if name ∈ t.occurrences .call then .ok (.unknown name)
          else .error (if table.hasSymbol name ∨ name ∈ t.occurrences .identifier
            then .misbound name .function else .unbound name .function)) ∧
      (∀ name, scope.lookup name =
        [if name ∈ t.occurrences .call ∧ table.hasFunction name = false then
            some (.function (.unknown name)) else none,
         (table.functions.get? name).map .function,
         if name ∈ t.occurrences .identifier ∧ table.hasSymbol name = false then
            some (.symbol ⟨name, name⟩) else none,
         (table.symbols.get? name).map .symbol].findSome? id) ∧
      ∃ heads names,
        scope.map (fun layer => layer.bindings.entries) =
          [heads.map fun head => (head, some (.function (.unknown head))),
           table.functions.entries.map fun e => (e.1, some (.function e.2)),
           names.map fun name => (name, some (.symbol ⟨name, name⟩)),
           table.symbols.entries.map fun e => (e.1, some (.symbol e.2))] ∧
        NewNames (t.occurrences .call) table.hasFunction heads ∧
        NewNames (t.occurrences .identifier) table.hasSymbol names := by
  have hheads := Tree.nodup_firstOccurrences (t.occurrences .call)
  have hnames := Tree.nodup_firstOccurrences (t.occurrences .identifier)
  refine ⟨_, ofTree_of_wellFormed table t h, fun name => ?_, fun name => ?_, fun name => ?_, _, _,
    map_entries_chain table _ _ hheads hnames, newNames_filter _ _, newNames_filter _ _⟩
  · rw [resolveSymbol_chain table _ _ hheads hnames, Notation.symbolAmong?]
    simp only [Notation.isSome_functionAmong?, List.contains_iff_mem, Tree.mem_firstOccurrences]
    cases table.symbols.get? name with
    | some s => rfl
    | none =>
        by_cases hname : name ∈ t.occurrences .identifier
        · simp [hname]
        · simp only [hname, if_false]
          rfl
  · rw [resolveFunction_chain table _ _ hheads hnames, Notation.functionAmong?]
    simp only [Notation.isSome_symbolAmong?, List.contains_iff_mem, Tree.mem_firstOccurrences]
    cases table.functions.get? name with
    | some f => rfl
    | none =>
        by_cases hhead : name ∈ t.occurrences .call
        · simp [hhead]
        · simp only [hhead, if_false]
          rfl
  · rw [lookup_chain table _ _ hheads hnames, Notation.functionAmong?, Notation.symbolAmong?]
    cases hf : table.functions.get? name with
    | some f => simp [Notation.hasFunction, OrderedMap.contains, hf]
    | none =>
        by_cases hhead : name ∈ t.occurrences .call
        · simp [Notation.hasFunction, OrderedMap.contains, Tree.mem_firstOccurrences, hf, hhead]
        · cases hs : table.symbols.get? name with
          | some s =>
              simp [Notation.hasSymbol, OrderedMap.contains, Tree.mem_firstOccurrences, hs, hhead]
          | none =>
              by_cases hname : name ∈ t.occurrences .identifier <;>
                simp [Notation.hasSymbol, OrderedMap.contains, Tree.mem_firstOccurrences, hs, hhead,
                  hname]

-- A known symbol that is applied, a known function as a value, and a name of each role alone
theorem ofTree_resolves_every_name_of_crossed_roles :
    let table : Notation := ⟨.ofList [("pi", ⟨"pi", "\\pi"⟩)],
      .ofList [("sqrt", ⟨"sqrt", .wrap "\\sqrt\x7b" "\x7d"⟩)]⟩
    let t : Tree := .call (.text "pi") [.identifier (.text "sqrt"),
      .call (.text "f") [.identifier (.text "x"), .identifier (.text "f")]]
    t.WellFormed ∧ ∃ scope, ofTree table t = .ok scope ∧
      scope.resolveSymbol "sqrt" = .ok ⟨"sqrt", "sqrt"⟩ ∧
      scope.resolveFunction "pi" = .ok (.unknown "pi") ∧
      scope.resolveFunction "x" = .error (.misbound "x" .function) ∧
      scope.resolveSymbol "y" = .error (.unbound "y" .symbol) ∧
      scope.lookup "f" = some (.function (.unknown "f")) := by
  intro table t
  have hw : t.WellFormed := by simp [t, Tree.WellFormed, Tree.AllWellFormed]
  obtain ⟨scope, hscope, hsymbol, hfunction, hlookup, -⟩ := ofTree_resolves_every_name table t hw
  refine ⟨hw, scope, hscope, ?_, ?_, ?_, ?_, ?_⟩
  · rw [hsymbol]
    rfl
  · rw [hfunction]
    rfl
  · rw [hfunction]
    rfl
  · rw [hsymbol]
    rfl
  · rw [hlookup]
    rfl

end Formulary.Scope
