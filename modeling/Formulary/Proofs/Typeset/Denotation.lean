import Formulary.Typeset
import Formulary.Proofs.Binding
import Formulary.Proofs.Scope.Resolution
import Formulary.Proofs.Tree.Walk
import Formulary.Proofs.Value.Written

namespace Formulary.Tree

mutual

-- The markup of a tree by recursion alone. A literal that is markup already stays as it is, any other is
-- escaped as it is shown, and a name that the notation does not know stands for itself
def denote (table : Notation) : Tree → Except Failure Text
  | .literal (.markup m) => .ok m.text
  | .literal value => do return (Markup.escape (← value.display)).text
  | .identifier (.text name) => .ok (table.symbolFor name).text
  | .call (.text head) args => do
    let parts ← denoteAll table args
    (table.functionFor head).invoke parts
  | t => t.unclassifiable

def denoteAll (table : Notation) : List Tree → Except Failure (List Text)
  | [] => .ok []
  | t :: rest => do
    let part ← t.denote table
    return part :: (← denoteAll table rest)

end

theorem denote_literal (table : Notation) (value : Value) :
    (literal value).denote table = value.render := by
  cases value <;> rfl

-- The chain answers for every name of the nodes, in the role in which it is used
structure Covered (table : Notation) (scope : Scope) (nodes : List Tree) : Prop where
  symbol : ∀ name, .identifier (.text name) ∈ nodes →
    scope.resolveSymbol name = .ok (table.symbolFor name)
  function : ∀ head args, .call (.text head) args ∈ nodes →
    scope.resolveFunction head = .ok (table.functionFor head)

theorem Covered.mono (table : Notation) (scope : Scope) (nodes part : List Tree)
    (hc : Covered table scope nodes) (h : part ⊆ nodes) : Covered table scope part where
  symbol name hn := hc.symbol name (h hn)
  function head args hn := hc.function head args (h hn)

theorem covered_chain (table : Notation) (t : Tree) :
    Covered table (Scope.chain table (firstOccurrences (t.occurrences .call))
        (firstOccurrences (t.occurrences .identifier))) t.preorder where
  symbol name h := by
    have hname := (mem_firstOccurrences _ _).mpr ((mem_occurrences_identifier t name).mpr h)
    rw [Scope.resolveSymbol_chain table _ _ (nodup_firstOccurrences _) (nodup_firstOccurrences _),
      table.symbolAmong?_of_mem _ name hname]
  function head args h := by
    have hhead := (mem_firstOccurrences _ _).mpr ((mem_occurrences_call t head).mpr ⟨args, h⟩)
    rw [Scope.resolveFunction_chain table _ _ (nodup_firstOccurrences _) (nodup_firstOccurrences _),
      table.functionAmong?_of_mem _ head hhead]

mutual

theorem evaluate_eq_denote (table : Notation) (scope : Scope) (t : Tree) (hw : t.WellFormed)
    (h : Covered table scope t.preorder) : t.evaluate scope = t.denote table := by
  match t, hw with
  | .literal value, _ => rw [evaluate, denote_literal]
  | .identifier (.text name), _ =>
      rw [evaluate, denote, h.symbol name (self_mem_preorder _)]
      rfl
  | .call (.text head) args, hw =>
      have hargs : Covered table scope (preorderAll args) :=
        h.mono _ _ _ _ (List.subset_cons_self _ _)
      rw [evaluate, denote, evaluateAll_eq_denoteAll table scope args hw hargs,
        h.function head args (self_mem_preorder _)]
      rfl

theorem evaluateAll_eq_denoteAll (table : Notation) (scope : Scope) (args : List Tree)
    (hw : AllWellFormed args) (h : Covered table scope (preorderAll args)) :
    evaluateAll scope args = denoteAll table args := by
  match args, hw with
  | [], _ => rfl
  | t :: rest, hw =>
      have ht : Covered table scope t.preorder := h.mono _ _ _ _ (List.subset_append_left _ _)
      have hrest : Covered table scope (preorderAll rest) :=
        h.mono _ _ _ _ (List.subset_append_right _ _)
      rw [evaluateAll, denoteAll, evaluate_eq_denote table scope t hw.1 ht,
        evaluateAll_eq_denoteAll table scope rest hw.2 hrest]

end

theorem typeset_eq_denote (table : Notation) (t : Tree) (h : t.WellFormed) :
    t.typeset table = (t.denote table).map Markup.mk := by
  rw [typeset, Scope.ofTree_of_wellFormed table t h, ← evaluate_eq_denote table _ t h (covered_chain table t)]
  rfl

-- What a single node needs: a literal a value that can be shown, and a call of a known function
-- with a fixed number of arguments that many of them
def Admitted (table : Notation) : Tree → Prop
  | .literal value => ∃ text, value.display = .ok text
  | .call (.text head) args =>
    ∀ f, table.functions.get? head = some f → ∀ n, f.rendering.arity = some n → args.length = n
  | _ => True

theorem length_of_denoteAll (table : Notation) (args : List Tree) (parts : List Text)
    (h : denoteAll table args = .ok parts) : parts.length = args.length := by
  induction args generalizing parts with
  | nil =>
      cases h
      rfl
  | cons t rest ih =>
      obtain ⟨part, -, h⟩ := (bind_eq_ok_iff _ _ _).mp h
      obtain ⟨parts', hrest, h⟩ := (bind_eq_ok_iff _ _ _).mp h
      cases h
      rw [List.length_cons, List.length_cons, ih parts' hrest]

-- A name that the notation does not know takes any number of arguments
theorem admitted_call_iff (table : Notation) (head : Text) (args : List Tree) :
    Admitted table (.call (.text head) args) ↔
      ∀ n, (table.functionFor head).rendering.arity = some n → args.length = n := by
  simp only [Admitted, Notation.functionFor]
  cases table.functions.get? head with
  | none => simp [FunctionBinding.unknown, Rendering.arity]
  | some f => simp

-- What is wrong with a single node, whether or not that can be told
def fault? (table : Notation) : Tree → Option Failure
  | .literal value =>
    match value.render with
    | .ok _ => none
    | .error e => some e
  | .call (.text head) args => do
    let n ← (table.functionFor head).rendering.arity
    if args.length = n then none else some (.arity (table.functionFor head).name n args.length)
  | _ => none

theorem fault?_eq_some_iff (table : Notation) (t : Tree) (failure : Failure) :
    t.fault? table = some failure ↔
      (∃ value, t = .literal value ∧ value.render = .error failure) ∨
      ∃ head args n, t = .call (.text head) args ∧
        (table.functionFor head).rendering.arity = some n ∧ args.length ≠ n ∧
        failure = .arity (table.functionFor head).name n args.length := by
  constructor
  · intro h
    unfold fault? at h
    split at h
    · split at h
      · cases h
      · cases h
        exact .inl ⟨_, rfl, ‹_›⟩
    · obtain ⟨n, hn, h⟩ := Option.bind_eq_some_iff.mp h
      split at h
      · cases h
      · cases h
        exact .inr ⟨_, _, n, rfl, hn, ‹_›, rfl⟩
    · cases h
  · rintro (⟨value, rfl, h⟩ | ⟨head, args, n, rfl, hn, hne, rfl⟩)
    · simp [fault?, h]
    · simp [fault?, hn, hne]

theorem admitted_iff_fault? (table : Notation) (t : Tree) :
    t.Admitted table ↔ t.fault? table = none := by
  unfold fault?
  split
  · rename_i value
    rw [Admitted, ← value.render_isOk_iff]
    cases value.render <;> simp
  · rename_i head args
    rw [admitted_call_iff]
    cases (table.functionFor head).rendering.arity <;> simp
  · rw [Admitted]
    · simp
    all_goals assumption

-- The faults of the nodes as they are reported
def reported (table : Notation) (nodes : List Tree) : List Failure :=
  (nodes.filterMap (fault? table)).map Failure.told

theorem reported_append (table : Notation) (nodes nodes' : List Tree) :
    reported table (nodes ++ nodes') = reported table nodes ++ reported table nodes' := by
  rw [reported, List.filterMap_append, List.map_append, reported, reported]

theorem exists_fault_of_head? (table : Notation) (nodes : List Tree) (e : Failure)
    (h : (reported table nodes).head? = some e) :
    ∃ node ∈ nodes, ∃ failure, node.fault? table = some failure ∧ failure.told = e := by
  obtain ⟨failure, hfailure, htold⟩ := List.mem_map.mp (List.mem_of_head? h)
  obtain ⟨node, hnode, hfault⟩ := List.mem_filterMap.mp hfailure
  exact ⟨node, hnode, failure, hfault, htold⟩

theorem reports_render (table : Notation) (value : Value) :
    Reports value.render (reported table [.literal value]) := by
  cases h : value.render with
  | ok text => simpa [reported, fault?, h] using Reports.ok text
  | error e =>
      rw [value.render_error e h]
      simpa [reported, fault?, h, value.render_error e h, Failure.told] using Reports.error _

-- The arguments are set by then, so that their number is all that can be wrong
theorem reports_invoke (table : Notation) (head : Text) (args : List Tree) (parts : List Text)
    (hlength : parts.length = args.length) :
    Reports ((table.functionFor head).invoke parts)
      (reported table [.call (.text head) args]) := by
  intro e
  rw [FunctionBinding.invoke_eq_error_iff, hlength, reported]
  cases hn : (table.functionFor head).rendering.arity with
  | none => simp [fault?, hn]
  | some n =>
      by_cases hcount : args.length = n <;>
        simp [fault?, hn, hcount, Failure.told, @eq_comm _ e]

mutual

-- A tree fails as the first node does that has a fault, where arguments come before their head
theorem reports_denote (table : Notation) (t : Tree) (hw : t.WellFormed) :
    Reports (t.denote table) (reported table t.postorder) := by
  match t, hw with
  | .literal value, _ =>
      rw [denote_literal]
      exact reports_render table value
  | .identifier (.text name), _ => exact .ok _
  | .call (.text head) args, hw =>
      rw [postorder, reported_append]
      refine (reports_denoteAll table args hw).bind _ _ _ _ fun parts hparts => ?_
      exact reports_invoke table head args parts (length_of_denoteAll table args parts hparts)

theorem reports_denoteAll (table : Notation) (args : List Tree) (hw : AllWellFormed args) :
    Reports (denoteAll table args) (reported table (postorderAll args)) := by
  match args, hw with
  | [], _ => exact .ok _
  | t :: rest, hw =>
      rw [postorderAll, reported_append]
      refine (reports_denote table t hw.1).bind _ _ _ _ fun part _ => ?_
      exact (reports_denoteAll table rest hw.2).map _ _ _

end

theorem denote_isOk_iff (table : Notation) (t : Tree) (hw : t.WellFormed) :
    (∃ text, t.denote table = .ok text) ↔ ∀ node ∈ t.preorder, node.Admitted table := by
  rw [(reports_denote table t hw).isOk_iff, reported, List.map_eq_nil_iff,
    List.filterMap_eq_nil_iff]
  simp only [mem_postorder, admitted_iff_fault?]

theorem denote_error (table : Notation) (t : Tree) (hw : t.WellFormed) (e : Failure)
    (h : t.denote table = .error e) :
    e = .longInteger ∨ ∃ name expected actual, e = .arity name expected actual := by
  obtain ⟨node, -, failure, hfault, rfl⟩ :=
    exists_fault_of_head? table _ e ((reports_denote table t hw e).mp h)
  rcases (fault?_eq_some_iff table node failure).mp hfault with
    ⟨value, -, hrender⟩ | ⟨head, args, n, -, -, -, rfl⟩
  · rw [value.render_error _ hrender]
    exact .inl rfl
  · rcases Failure.miscounted_cases (table.functionFor head).name n args.length with hm | hm
    · exact .inr ⟨_, _, _, hm⟩
    · exact .inl hm

theorem reports_typeset (table : Notation) (t : Tree) (h : t.WellFormed) :
    Reports (t.typeset table) (reported table t.postorder) := by
  have hmap : (t.denote table).map Markup.mk = t.denote table >>= fun text => pure ⟨text⟩ := by
    cases t.denote table <;> rfl
  rw [typeset_eq_denote table t h, hmap]
  exact (reports_denote table t h).map _ _ _

theorem typeset_isOk_iff (table : Notation) (t : Tree) (h : t.WellFormed) :
    (∃ m, t.typeset table = .ok m) ↔ ∀ node ∈ t.preorder, node.Admitted table := by
  rw [typeset_eq_denote table t h, ← denote_isOk_iff table t h]
  cases t.denote table <;> simp [Except.map]

theorem denote_of_typeset (table : Notation) (t : Tree) (hw : t.WellFormed) (m : Markup)
    (h : t.typeset table = .ok m) : t.denote table = .ok m.text := by
  rw [typeset_eq_denote table t hw] at h
  cases hdenote : t.denote table with
  | error failure =>
      rw [hdenote] at h
      cases h
  | ok text =>
      rw [hdenote] at h
      cases h
      rfl

theorem exists_fault_of_typeset (table : Notation) (t : Tree) (h : t.WellFormed) (e : Failure)
    (he : t.typeset table = .error e) :
    ∃ node ∈ t.preorder, ∃ failure, node.fault? table = some failure ∧ failure.told = e := by
  obtain ⟨node, hnode, hfault⟩ :=
    exists_fault_of_head? table _ e ((reports_typeset table t h e).mp he)
  exact ⟨node, (mem_postorder t node).mp hnode, hfault⟩

-- A tree can be set exactly when each of its nodes can, and its markup is then the one that plain
-- recursion gives. The chain never fails to find a name that the tree uses
theorem typeset_iff_admitted_and_eq_denote (table : Notation) (t : Tree) (h : t.WellFormed) :
    ((∃ m, t.typeset table = .ok m) ↔ ∀ node ∈ t.preorder, node.Admitted table) ∧
    t.typeset table = (t.denote table).map Markup.mk ∧
    ∀ name role, t.typeset table ≠ .error (.misbound name role) ∧
      t.typeset table ≠ .error (.unbound name role) := by
  rw [typeset_eq_denote table t h, ← denote_isOk_iff table t h]
  cases hd : t.denote table with
  | ok text => simp [Except.map]
  | error e =>
      refine ⟨by simp [Except.map], rfl, fun name role => ?_⟩
      rcases denote_error table t h e hd with rfl | ⟨name', expected, actual, rfl⟩
      · simp [Except.map]
      · simp [Except.map]

-- A value and a head of one name, and a known symbol that is applied
theorem typeset_of_shared_names :
    let table : Notation := ⟨.ofList [("pi", ⟨"pi", "\\pi"⟩)], .empty⟩
    let t : Tree :=
      .call (.text "f") [.identifier (.text "f"), .call (.text "pi") [.identifier (.text "pi")]]
    t.WellFormed ∧
      t.typeset table = .ok ⟨"\\mathrm\x7bf\x7d(f, \\mathrm\x7bpi\x7d(\\pi))"⟩ := by
  intro table t
  have hw : t.WellFormed := by simp [t, WellFormed, AllWellFormed]
  refine ⟨hw, ?_⟩
  rw [(typeset_iff_admitted_and_eq_denote table t hw).2.1]
  rfl

end Formulary.Tree
