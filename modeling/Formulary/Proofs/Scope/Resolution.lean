import Formulary.Scope
import Formulary.Proofs.OrderedMap
import Formulary.Proofs.Tree.Names

namespace Formulary

namespace Notation

-- What a name stands for as a value, and as a head: the entry of the notation, or else itself
def symbolFor (table : Notation) (name : Text) : SymbolBinding :=
  (table.symbols.get? name).getD ⟨name, name⟩

def functionFor (table : Notation) (head : Text) : FunctionBinding :=
  (table.functions.get? head).getD (.unknown head)

-- The same where only the names of a tree stand for themselves
def symbolAmong? (table : Notation) (names : List Text) (name : Text) : Option SymbolBinding :=
  (table.symbols.get? name).or (if names.contains name then some ⟨name, name⟩ else none)

def functionAmong? (table : Notation) (heads : List Text) (head : Text) : Option FunctionBinding :=
  (table.functions.get? head).or (if heads.contains head then some (.unknown head) else none)

theorem symbolAmong?_of_mem (table : Notation) (names : List Text) (name : Text)
    (h : name ∈ names) : table.symbolAmong? names name = some (table.symbolFor name) := by
  rw [symbolAmong?, symbolFor, if_pos (List.contains_iff_mem.mpr h)]
  cases table.symbols.get? name <;> rfl

theorem functionAmong?_of_mem (table : Notation) (heads : List Text) (head : Text)
    (h : head ∈ heads) : table.functionAmong? heads head = some (table.functionFor head) := by
  rw [functionAmong?, functionFor, if_pos (List.contains_iff_mem.mpr h)]
  cases table.functions.get? head <;> rfl

theorem isSome_symbolAmong? (table : Notation) (names : List Text) (name : Text) :
    (table.symbolAmong? names name).isSome ↔ table.hasSymbol name ∨ name ∈ names := by
  by_cases h : name ∈ names <;> simp [symbolAmong?, hasSymbol, OrderedMap.contains, h]

theorem isSome_functionAmong? (table : Notation) (heads : List Text) (head : Text) :
    (table.functionAmong? heads head).isSome ↔ table.hasFunction head ∨ head ∈ heads := by
  by_cases h : head ∈ heads <;> simp [functionAmong?, hasFunction, OrderedMap.contains, h]

end Notation

theorem Layer.entries_ofBindings (label : Text) (entries : List (Text × Binding))
    (h : (entries.map Prod.fst).Nodup) :
    (Layer.ofBindings label entries).bindings.entries = entries.map fun e => (e.1, some e.2) := by
  apply OrderedMap.entries_ofList
  simpa [Function.comp_def] using h

theorem Layer.find?_ofBindings (label : Text) (entries : List (Text × Binding)) (name : Text)
    (h : (entries.map Prod.fst).Nodup) :
    (Layer.ofBindings label entries).find? name = entries.lookup name := by
  rw [Layer.find?, OrderedMap.get?, Layer.entries_ofBindings label entries h,
    OrderedMap.lookup_map_values]
  cases entries.lookup name <;> rfl

namespace Scope

@[simp] theorem candidates_nil (name : Text) : candidates [] name = [] := rfl

theorem candidates_cons (layer : Layer) (rest : Scope) (name : Text) :
    candidates (layer :: rest) name = (layer.find? name).toList ++ candidates rest name := by
  cases h : layer.find? name <;> simp [candidates, h]

theorem lookup_eq_head?_candidates (scope : Scope) (name : Text) :
    scope.lookup name = (scope.candidates name).head? :=
  List.head?_filterMap.symm

-- The walk ends at the first binding of the role asked for. Where there is none, any binding of the
-- name is one of the other role, and `mismatch` stands for those that the walk has passed before
theorem resolveFrom_eq {α : Type} (select : Binding → Option α) (role : Role) (name : Text)
    (mismatch : Bool) (scope : Scope) :
    resolveFrom select role name mismatch scope =
      match (scope.candidates name).findSome? select with
      | some found => .ok found
      | none =>
        .error (if mismatch || !(scope.candidates name).isEmpty then .misbound name role
          else .unbound name role) := by
  induction scope generalizing mismatch with
  | nil => cases mismatch <;> rfl
  | cons layer rest ih =>
      rw [candidates_cons]
      cases hfind : layer.find? name with
      | none => simp [resolveFrom, hfind, ih]
      | some binding =>
          cases hselect : select binding with
          | none => simp [resolveFrom, hfind, hselect, ih]
          | some found => simp [resolveFrom, hfind, hselect]

-- The chain of a notation for the heads and the names that a tree uses
def chain (table : Notation) (heads names : List Text) : Scope :=
  [.ofBindings "fallback functions" (unknownFunctions table heads),
   .ofBindings "known functions" (table.functions.entries.map fun e => (e.1, .function e.2)),
   .ofBindings "fallback symbols" (unknownSymbols table names),
   .ofBindings "known symbols" (table.symbols.entries.map fun e => (e.1, .symbol e.2))]

theorem ofTree_of_wellFormed (table : Notation) (t : Tree) (h : t.WellFormed) :
    ofTree table t = .ok (chain table (Tree.firstOccurrences (t.occurrences .call))
      (Tree.firstOccurrences (t.occurrences .identifier))) := by
  rw [ofTree, Tree.freeIdentifiers, Tree.callHeads, Tree.namesOf_of_wellFormed _ t h,
    Tree.namesOf_of_wellFormed _ t h]
  rfl

theorem nodup_keys_unknownFunctions (table : Notation) (heads : List Text) (h : heads.Nodup) :
    ((unknownFunctions table heads).map Prod.fst).Nodup := by
  simpa [unknownFunctions, Function.comp_def, List.Nodup] using h.filter _

theorem nodup_keys_unknownSymbols (table : Notation) (names : List Text) (h : names.Nodup) :
    ((unknownSymbols table names).map Prod.fst).Nodup := by
  simpa [unknownSymbols, Function.comp_def, List.Nodup] using h.filter _

theorem nodup_keys_entries {α : Type} (map : OrderedMap α) (role : α → Binding) :
    ((map.entries.map fun e => (e.1, role e.2)).map Prod.fst).Nodup := by
  simpa [Function.comp_def] using map.nodup

theorem find?_unknownFunctions (table : Notation) (heads : List Text) (hn : heads.Nodup)
    (label head : Text) :
    (Layer.ofBindings label (unknownFunctions table heads)).find? head =
      if head ∈ heads ∧ table.functions.get? head = none then some (.function (.unknown head))
      else none := by
  rw [Layer.find?_ofBindings _ _ _ (nodup_keys_unknownFunctions table heads hn)]
  simp [unknownFunctions, OrderedMap.lookup_map_keys, Notation.hasFunction, OrderedMap.contains]

theorem find?_unknownSymbols (table : Notation) (names : List Text) (hn : names.Nodup)
    (label name : Text) :
    (Layer.ofBindings label (unknownSymbols table names)).find? name =
      if name ∈ names ∧ table.symbols.get? name = none then some (.symbol ⟨name, name⟩)
      else none := by
  rw [Layer.find?_ofBindings _ _ _ (nodup_keys_unknownSymbols table names hn)]
  simp [unknownSymbols, OrderedMap.lookup_map_keys, Notation.hasSymbol, OrderedMap.contains]

theorem find?_entries {α : Type} (map : OrderedMap α) (role : α → Binding) (label name : Text) :
    (Layer.ofBindings label (map.entries.map fun e => (e.1, role e.2))).find? name =
      (map.get? name).map role := by
  rw [Layer.find?_ofBindings _ _ _ (nodup_keys_entries map role)]
  exact OrderedMap.lookup_map_values role name map.entries

-- A fallback stands only where the notation has no entry, so that the two layers of one role hold at
-- most one binding of a name
theorem toList_fallback_append {α : Type} (role : α → Binding) (entry : Option α) (used : Prop)
    [Decidable used] (unknown : α) :
    (if used ∧ entry = none then some (role unknown) else none).toList ++ (entry.map role).toList =
      ((entry.or (if used then some unknown else none)).map role).toList := by
  cases entry with
  | none => by_cases h : used <;> simp [h]
  | some found => simp

theorem candidates_chain (table : Notation) (heads names : List Text) (hheads : heads.Nodup)
    (hnames : names.Nodup) (name : Text) :
    (chain table heads names).candidates name =
      ((table.functionAmong? heads name).map .function).toList ++
        ((table.symbolAmong? names name).map .symbol).toList := by
  simp only [chain, candidates_cons, candidates_nil, List.append_nil]
  rw [find?_unknownFunctions table heads hheads, find?_unknownSymbols table names hnames,
    find?_entries, find?_entries, ← List.append_assoc, toList_fallback_append,
    toList_fallback_append]
  simp only [Notation.functionAmong?, Notation.symbolAmong?, List.contains_iff_mem]

-- The layers of functions in front hide no symbol, also where they hold its name
theorem resolveSymbol_chain (table : Notation) (heads names : List Text) (hheads : heads.Nodup)
    (hnames : names.Nodup) (name : Text) :
    (chain table heads names).resolveSymbol name =
      match table.symbolAmong? names name with
      | some s => .ok s
      | none =>
        .error (if (table.functionAmong? heads name).isSome then .misbound name .symbol
          else .unbound name .symbol) := by
  rw [resolveSymbol, resolveFrom_eq, candidates_chain table heads names hheads hnames]
  cases table.functionAmong? heads name <;> cases table.symbolAmong? names name <;> rfl

theorem resolveFunction_chain (table : Notation) (heads names : List Text) (hheads : heads.Nodup)
    (hnames : names.Nodup) (head : Text) :
    (chain table heads names).resolveFunction head =
      match table.functionAmong? heads head with
      | some f => .ok f
      | none =>
        .error (if (table.symbolAmong? names head).isSome then .misbound head .function
          else .unbound head .function) := by
  rw [resolveFunction, resolveFrom_eq, candidates_chain table heads names hheads hnames]
  cases table.functionAmong? heads head <;> cases table.symbolAmong? names head <;> rfl

theorem lookup_chain (table : Notation) (heads names : List Text) (hheads : heads.Nodup)
    (hnames : names.Nodup) (name : Text) :
    (chain table heads names).lookup name =
      ((table.functionAmong? heads name).map .function).or
        ((table.symbolAmong? names name).map .symbol) := by
  rw [lookup_eq_head?_candidates, candidates_chain table heads names hheads hnames]
  cases table.functionAmong? heads name <;> cases table.symbolAmong? names name <;> rfl

end Scope

end Formulary
