import Formulary.Notation.Default
import Formulary.Notation.File
import Formulary.Proofs.Failure
import Formulary.Proofs.Scope.Resolution

namespace Formulary.Notation

-- The notations that there can be: none at all or the one known by default to start with, and more and
-- more data or files laid over it
inductive Reachable : Notation → Prop
  | empty : Reachable .empty
  | default : Reachable .default
  | extend (table table' : Notation) (symbols : OrderedMap Value) (functions : OrderedMap Spec)
      (start : Reachable table) (step : table.extend symbols functions = .ok table') :
      Reachable table'
  | load (base : Option Notation) (path : Text) (octets : List UInt8) (loaded : Loaded)
      (start : Reachable (base.getD .default)) (step : load path octets base = .ok loaded) :
      Reachable loaded.table

-- Each entry bears the name that it is found under
structure Keyed (table : Notation) : Prop where
  symbol : ∀ e ∈ table.symbols.entries, e.2.name = e.1
  function : ∀ e ∈ table.functions.entries, e.2.name = e.1

theorem symbolEntries_eq_ok (symbols : List (Text × Value)) (entries : List (Text × SymbolBinding))
    (h : symbolEntries symbols = .ok entries) :
    entries.map Prod.fst = symbols.map Prod.fst ∧ ∀ e ∈ entries, e.2.name = e.1 := by
  refine mapM_eq_ok _ Prod.fst Prod.fst _ (fun e entry hentry => ?_) symbols entries h
  obtain ⟨s, hs, hentry⟩ := (bind_eq_ok_iff _ _ _).mp hentry
  cases hentry
  unfold symbol at hs
  split at hs
  · cases hs
    exact ⟨rfl, rfl⟩
  · cases hs

theorem name_ofSpec (name : Text) (spec : Spec) (f : FunctionBinding)
    (h : FunctionBinding.ofSpec name spec = .ok f) : f.name = name := by
  unfold FunctionBinding.ofSpec at h
  split at h
  · cases h
  · cases h
  · cases h
    rfl

theorem functionEntries_eq_ok (functions : List (Text × Spec))
    (entries : List (Text × FunctionBinding)) (h : functionEntries functions = .ok entries) :
    entries.map Prod.fst = functions.map Prod.fst ∧ ∀ e ∈ entries, e.2.name = e.1 := by
  refine mapM_eq_ok _ Prod.fst Prod.fst _ (fun e entry hentry => ?_) functions entries h
  split at hentry
  · rename_i f hf
    cases hentry
    exact ⟨rfl, name_ofSpec e.1 e.2 f hf⟩
  · cases hentry

theorem extend_of_entries (table : Notation) (symbols : OrderedMap Value)
    (functions : OrderedMap Spec) (newSymbols : List (Text × SymbolBinding))
    (newFunctions : List (Text × FunctionBinding))
    (hsymbols : symbolEntries symbols.entries = .ok newSymbols)
    (hfunctions : functionEntries functions.entries = .ok newFunctions) :
    table.extend symbols functions =
      .ok ⟨table.symbols.overlay newSymbols, table.functions.overlay newFunctions⟩ := by
  rw [extend, hsymbols]
  refine (bind_eq_ok_iff _ _ _).mpr ⟨newSymbols, rfl, ?_⟩
  exact (bind_eq_ok_iff _ _ _).mpr ⟨newFunctions, hfunctions, rfl⟩

-- What an extension lays over a notation, in full
theorem extend_eq_ok (table table' : Notation) (symbols : OrderedMap Value)
    (functions : OrderedMap Spec) (h : table.extend symbols functions = .ok table') :
    ∃ newSymbols newFunctions,
      table' = ⟨table.symbols.overlay newSymbols, table.functions.overlay newFunctions⟩ ∧
      newSymbols.map Prod.fst = symbols.keys ∧ (∀ e ∈ newSymbols, e.2.name = e.1) ∧
      newFunctions.map Prod.fst = functions.keys ∧ ∀ e ∈ newFunctions, e.2.name = e.1 := by
  obtain ⟨newSymbols, hsymbols, h⟩ := (bind_eq_ok_iff _ _ _).mp h
  obtain ⟨newFunctions, hfunctions, h⟩ := (bind_eq_ok_iff _ _ _).mp h
  cases h
  obtain ⟨hkeys, hnames⟩ := symbolEntries_eq_ok _ _ hsymbols
  obtain ⟨hkeys', hnames'⟩ := functionEntries_eq_ok _ _ hfunctions
  exact ⟨newSymbols, newFunctions, rfl, hkeys, hnames, hkeys', hnames'⟩

-- Loading a file is extending by what the file says
theorem load_eq_ok (path : Text) (octets : List UInt8) (base : Option Notation) (loaded : Loaded)
    (h : load path octets base = .ok loaded) :
    ∃ symbols functions, (base.getD .default).extend symbols functions = .ok loaded.table := by
  obtain ⟨v, -, h⟩ := (bind_eq_ok_iff _ _ _).mp h
  split at h
  · cases h
  · split at h
    · cases h
    · cases h
    · rename_i symbols functions _ _
      obtain ⟨specs, -, h⟩ := (bind_eq_ok_iff _ _ _).mp h
      split at h
      · cases h
      · rename_i table' hextend
        cases h
        exact ⟨symbols, _, hextend⟩

theorem keyed_default : Keyed default where
  symbol e he := by
    rcases OrderedMap.mem_of_mem_entries_overlay .empty _ e he with he | he
    · cases he
    · obtain ⟨known, -, rfl⟩ := List.mem_map.mp he
      rfl
  function e he := by
    rcases OrderedMap.mem_of_mem_entries_overlay .empty _ e he with he | he
    · cases he
    · obtain ⟨known, -, rfl⟩ := List.mem_map.mp he
      rfl

theorem Keyed.extend (table table' : Notation) (symbols : OrderedMap Value)
    (functions : OrderedMap Spec) (hkeyed : table.Keyed)
    (h : table.extend symbols functions = .ok table') : table'.Keyed := by
  obtain ⟨newSymbols, newFunctions, rfl, -, hsymbols, -, hfunctions⟩ := extend_eq_ok _ _ _ _ h
  constructor
  · intro e he
    rcases OrderedMap.mem_of_mem_entries_overlay _ _ e he with he | he
    · exact hkeyed.symbol e he
    · exact hsymbols e he
  · intro e he
    rcases OrderedMap.mem_of_mem_entries_overlay _ _ e he with he | he
    · exact hkeyed.function e he
    · exact hfunctions e he

-- The names are right at the start, and every extension keeps them so
theorem Reachable.keyed (table : Notation) (h : table.Reachable) : table.Keyed := by
  induction h with
  | empty => exact ⟨fun e he => (nomatch he), fun e he => (nomatch he)⟩
  | default => exact keyed_default
  | extend table table' symbols functions _ step ih => exact ih.extend _ _ _ _ step
  | load base path octets loaded _ step ih =>
      obtain ⟨symbols, functions, hextend⟩ := load_eq_ok path octets base loaded step
      exact ih.extend _ _ _ _ hextend

theorem Keyed.name_functionFor (table : Notation) (h : table.Keyed) (head : Text) :
    (table.functionFor head).name = head := by
  rw [functionFor]
  cases hget : table.functions.get? head with
  | none => rfl
  | some f => exact h.function (head, f) (OrderedMap.mem_entries_of_get? _ _ _ hget)

end Formulary.Notation
