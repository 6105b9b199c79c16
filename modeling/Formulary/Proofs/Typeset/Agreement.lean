import Formulary.Proofs.Notation.Reachable
import Formulary.Proofs.Typeset.Denotation

namespace Formulary

namespace Rendering

-- Two ways to set arguments that no row of arguments tells apart
def SameOutput (r r' : Rendering) : Prop :=
  r.arity = r'.arity ∧ ∀ args text, r.apply args = .ok text ↔ r'.apply args = .ok text

theorem SameOutput.apply_eq (r r' : Rendering) (h : r.SameOutput r') (args : List Text) :
    r.apply args = r'.apply args := by
  cases hr : r.apply args with
  | ok text => exact ((h.2 args text).mp hr).symm
  | error n =>
      obtain ⟨harity, hne⟩ := (r.apply_eq_error_iff args n).mp hr
      rw [h.1] at harity
      exact ((r'.apply_eq_error_iff args n).mpr ⟨harity, hne⟩).symm

end Rendering

namespace Notation

-- Two notations agree on a name as a value: neither knows it, or both by the same markup
def SameSymbol (table table' : Notation) (name : Text) : Prop :=
  (table.symbols.get? name).map (·.text) = (table'.symbols.get? name).map (·.text)

-- They agree on it as a head: neither knows it, or both set arguments alike
def SameFunction (table table' : Notation) (head : Text) : Prop :=
  match table.functions.get? head, table'.functions.get? head with
  | none, none => True
  | some f, some f' => f.rendering.SameOutput f'.rendering
  | _, _ => False

theorem SameSymbol.text_eq (table table' : Notation) (name : Text)
    (h : table.SameSymbol table' name) :
    (table.symbolFor name).text = (table'.symbolFor name).text := by
  unfold SameSymbol at h
  rw [symbolFor, symbolFor]
  cases hs : table.symbols.get? name <;> cases hs' : table'.symbols.get? name <;>
    simp_all

-- Where the names of the entries are right, agreement goes as far as the failure that is told
theorem SameFunction.invoke_eq (table table' : Notation) (head : Text) (hkeyed : table.Keyed)
    (hkeyed' : table'.Keyed) (h : table.SameFunction table' head) (args : List Text) :
    (table.functionFor head).invoke args = (table'.functionFor head).invoke args := by
  have hname := hkeyed.name_functionFor table head
  have hname' := hkeyed'.name_functionFor table' head
  have happly : (table.functionFor head).rendering.apply args =
      (table'.functionFor head).rendering.apply args := by
    unfold SameFunction at h
    rw [functionFor, functionFor]
    split at h
    · rename_i hf hf'
      rw [hf, hf']
    · rename_i f f' hf hf'
      rw [hf, hf']
      exact h.apply_eq _ _ args
    · exact h.elim
  rw [FunctionBinding.invoke, FunctionBinding.invoke, hname, hname', happly]

end Notation

namespace Tree

mutual

-- The meaning of a tree takes from the notation what its names are set as, each in its own role
theorem denote_congr (table table' : Notation) (t : Tree) (hw : t.WellFormed)
    (hsymbol : ∀ name, .identifier (.text name) ∈ t.preorder →
      (table.symbolFor name).text = (table'.symbolFor name).text)
    (hfunction : ∀ head args, .call (.text head) args ∈ t.preorder →
      (table.functionFor head).invoke = (table'.functionFor head).invoke) :
    t.denote table = t.denote table' := by
  match t, hw with
  | .literal value, _ => rw [denote_literal, denote_literal]
  | .identifier (.text name), _ =>
      rw [denote, denote, hsymbol name (self_mem_preorder _)]
  | .call (.text head) args, hw =>
      have hargs : denoteAll table args = denoteAll table' args :=
        denoteAll_congr_notation table table' args hw
          (fun name h => hsymbol name (List.mem_cons_of_mem _ h))
          (fun head args h => hfunction head args (List.mem_cons_of_mem _ h))
      rw [denote, denote, hargs, hfunction head args (self_mem_preorder _)]

theorem denoteAll_congr_notation (table table' : Notation) (args : List Tree)
    (hw : AllWellFormed args)
    (hsymbol : ∀ name, .identifier (.text name) ∈ preorderAll args →
      (table.symbolFor name).text = (table'.symbolFor name).text)
    (hfunction : ∀ head parts, .call (.text head) parts ∈ preorderAll args →
      (table.functionFor head).invoke = (table'.functionFor head).invoke) :
    denoteAll table args = denoteAll table' args := by
  match args, hw with
  | [], _ => rfl
  | t :: rest, hw =>
      have ht : t.denote table = t.denote table' :=
        denote_congr table table' t hw.1
          (fun name h => hsymbol name (List.mem_append_left _ h))
          (fun head parts h => hfunction head parts (List.mem_append_left _ h))
      have hrest : denoteAll table rest = denoteAll table' rest :=
        denoteAll_congr_notation table table' rest hw.2
          (fun name h => hsymbol name (List.mem_append_right _ h))
          (fun head parts h => hfunction head parts (List.mem_append_right _ h))
      rw [denoteAll, denoteAll, ht, hrest]

end

theorem typeset_congr (table table' : Notation) (t : Tree) (h : t.WellFormed)
    (hsymbol : ∀ name ∈ t.occurrences .identifier,
      (table.symbolFor name).text = (table'.symbolFor name).text)
    (hfunction : ∀ head ∈ t.occurrences .call,
      (table.functionFor head).invoke = (table'.functionFor head).invoke) :
    t.typeset table = t.typeset table' := by
  rw [typeset_eq_denote table t h, typeset_eq_denote table' t h]
  congr 1
  apply denote_congr table table' t h
  · exact fun name hname => hsymbol name ((mem_occurrences_identifier t name).mpr hname)
  · exact fun head args hhead => hfunction head ((mem_occurrences_call t head).mpr ⟨args, hhead⟩)

-- Only the symbols that a tree names and the functions that it applies bear on how it is set. An
-- extension that names no such symbol and no such function changes nothing, also where it has a name
-- of the tree in the other role
theorem typeset_depends_on_used_entries (t : Tree) (h : t.WellFormed) :
    ∃ names heads, t.freeIdentifiers = .ok names ∧ t.callHeads = .ok heads ∧
      (∀ table table' : Notation, table.Reachable → table'.Reachable →
        (∀ name ∈ names, table.SameSymbol table' name) →
        (∀ head ∈ heads, table.SameFunction table' head) →
        t.typeset table = t.typeset table') ∧
      ∀ (table table' : Notation) (symbols : OrderedMap Value) (functions : OrderedMap Spec),
        table.extend symbols functions = .ok table' →
        (∀ name ∈ names, name ∉ symbols.keys) → (∀ head ∈ heads, head ∉ functions.keys) →
        t.typeset table' = t.typeset table := by
  refine ⟨_, _, namesOf_of_wellFormed .identifier t h, namesOf_of_wellFormed .call t h, ?_, ?_⟩
  · intro table table' hreach hreach' hsymbol hfunction
    apply typeset_congr table table' t h
    · intro name hname
      exact (hsymbol name ((mem_firstOccurrences _ _).mpr hname)).text_eq
    · intro head hhead
      funext args
      have hsame := hfunction head ((mem_firstOccurrences _ _).mpr hhead)
      exact hsame.invoke_eq _ _ _ hreach.keyed hreach'.keyed args
  · intro table table' symbols functions hextend hsymbol hfunction
    obtain ⟨newSymbols, newFunctions, rfl, hkeys, -, hkeys', -⟩ :=
      Notation.extend_eq_ok table table' symbols functions hextend
    apply typeset_congr _ table t h
    · intro name hname
      have hnew : name ∉ newSymbols.map Prod.fst := by
        rw [hkeys]
        exact hsymbol name ((mem_firstOccurrences _ _).mpr hname)
      rw [Notation.symbolFor, Notation.symbolFor, OrderedMap.get?_overlay_of_notMem _ _ _ hnew]
    · intro head hhead
      have hnew : head ∉ newFunctions.map Prod.fst := by
        rw [hkeys']
        exact hfunction head ((mem_firstOccurrences _ _).mpr hhead)
      rw [Notation.functionFor, Notation.functionFor, OrderedMap.get?_overlay_of_notMem _ _ _ hnew]

-- A head that one notation wraps and another fills into a template, where the second has a symbol of
-- its name and a function of the name that the tree has as a value
theorem typeset_depends_on_used_entries_of_two_styles :
    let t : Tree := .call (.text "g") [.identifier (.text "x")]
    let wrapped : Spec := .ofList [("kind", .text "wrap"), ("prefix", .text "<"), ("suffix", .text ">")]
    let filled : Spec := .ofList [("kind", .text "template"), ("pattern", .text "<#1>")]
    t.WellFormed ∧ ∃ table table' table'' : Notation,
      Notation.empty.extend .empty (.ofList [("g", wrapped)]) = .ok table ∧
      Notation.empty.extend .empty (.ofList [("g", filled)]) = .ok table' ∧
      table'.extend (.ofList [("g", .text "\\gamma")]) (.ofList [("x", wrapped)]) = .ok table'' ∧
      t.typeset table = t.typeset table' ∧ t.typeset table'' = t.typeset table' := by
  intro t wrapped filled
  have hw : t.WellFormed := by simp [t, WellFormed, AllWellFormed]
  obtain ⟨names, heads, hnames, hheads, hagree, hextend⟩ := typeset_depends_on_used_entries t hw
  cases hnames
  cases hheads
  refine ⟨hw, _, _, _, rfl, rfl, rfl, ?_, ?_⟩
  · refine hagree _ _ (.extend .empty _ .empty (.ofList [("g", wrapped)]) .empty rfl)
      (.extend .empty _ .empty (.ofList [("g", filled)]) .empty rfl) ?_ ?_
    · intro name _
      rfl
    · intro head hhead
      cases List.mem_singleton.mp hhead
      refine ⟨rfl, fun args text => ?_⟩
      rw [Rendering.apply_wrap_eq_ok_iff, Rendering.apply_template_eq_ok_iff]
      constructor
      · rintro ⟨arg, rfl, rfl⟩
        exact ⟨rfl, rfl⟩
      · rintro ⟨hlength, rfl⟩
        obtain ⟨arg, rfl⟩ := List.length_eq_one_iff.mp hlength
        exact ⟨arg, rfl, rfl⟩
  · refine hextend _ _ (.ofList [("g", .text "\\gamma")]) (.ofList [("x", wrapped)]) rfl ?_ ?_
    · decide
    · decide

end Tree

end Formulary
