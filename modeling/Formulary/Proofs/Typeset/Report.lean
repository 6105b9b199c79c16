import Formulary.Proofs.Notation.Arity
import Formulary.Proofs.Notation.Entries
import Formulary.Proofs.Notation.Reachable
import Formulary.Proofs.Typeset.Denotation

namespace Formulary.Tree

theorem unclassifiable_of_find? (table : Notation) (t node : Tree) (shape : Text)
    (h : t.preorder.find? isMalformed = some node) (hshape : node.describe = .ok shape) :
    t.freeIdentifiers = .error (.unclassifiable shape) ∧
      t.callHeads = .error (.unclassifiable shape) ∧
      Scope.ofTree table t = .error (.unclassifiable shape) ∧
      t.typeset table = .error (.unclassifiable shape) := by
  have hnames : ∀ kind, t.namesOf kind = .error (.unclassifiable shape) := by
    intro kind
    rw [namesOf_of_find? kind t node h, node.unclassifiable_of_describe shape hshape]
  have hscope : Scope.ofTree table t = .error (.unclassifiable shape) := by
    rw [Scope.ofTree, freeIdentifiers, hnames]
    rfl
  refine ⟨hnames .identifier, hnames .call, hscope, ?_⟩
  rw [typeset, hscope]
  rfl

theorem head?_reported (table : Notation) (nodes : List Tree) :
    (reported table nodes).head? = (nodes.findSome? (fault? table)).map Failure.told := by
  rw [reported, List.head?_map, List.head?_filterMap]

theorem typeset_of_fault? (table : Notation) (t : Tree) (h : t.WellFormed) (failure : Failure)
    (hfault : t.postorder.findSome? (fault? table) = some failure) :
    t.typeset table = .error failure.told := by
  refine (reports_typeset table t h _).mpr ?_
  rw [head?_reported, hfault]
  rfl

-- Every number of arguments that the default notation asks for can be written
theorem told_of_fault?_default (node : Tree) (failure : Failure)
    (h : node.fault? .default = some failure) : failure.told = failure := by
  rcases (fault?_eq_some_iff _ _ _).mp h with
    ⟨value, -, hrender⟩ | ⟨head, args, n, -, hn, -, rfl⟩
  · rw [value.render_error _ hrender]
    rfl
  · rw [Notation.arity_functionFor] at hn
    rw [Failure.told, Notation.miscounted_default head n args.length hn,
      Notation.keyed_default.name_functionFor]

theorem typeset_default_eq_error_iff (t : Tree) (h : t.WellFormed) (failure : Failure) :
    t.typeset .default = .error failure ↔
      t.postorder.findSome? (fault? .default) = some failure := by
  have htold : ∀ first, t.postorder.findSome? (fault? .default) = some first →
      first.told = first := by
    intro first hfirst
    obtain ⟨node, -, hfault⟩ := List.exists_of_findSome?_eq_some hfirst
    exact told_of_fault?_default node first hfault
  rw [reports_typeset .default t h failure, head?_reported, Option.map_eq_some_iff]
  constructor
  · rintro ⟨first, hfirst, rfl⟩
    rw [htold first hfirst]
    exact hfirst
  · exact fun hfirst => ⟨failure, hfirst, htold failure hfirst⟩

-- The first malformed node ends everything that goes through the tree, and no fault of another kind
-- comes before it. Where there is none, the first node with a fault is told, arguments before their
-- head: a value that cannot be shown, or the head, the number of arguments that it takes and the
-- number that it has. If the number that it takes is too long to be written, that is told instead
theorem typeset_reports_first_fault (table : Notation) (t : Tree) :
    (¬ t.WellFormed → ∃ node, t.preorder.find? isMalformed = some node ∧
      ∀ shape, node.describe = .ok shape →
        t.freeIdentifiers = .error (.unclassifiable shape) ∧
        t.callHeads = .error (.unclassifiable shape) ∧
        Scope.ofTree table t = .error (.unclassifiable shape) ∧
        t.typeset table = .error (.unclassifiable shape)) ∧
    (t.WellFormed →
      (t.postorder.findSome? (fault? table) = none → ∃ m, t.typeset table = .ok m) ∧
      ∀ failure, t.postorder.findSome? (fault? table) = some failure →
        (t.typeset table = .error failure ↔ failure.Tellable) ∧
        (¬ failure.Tellable → t.typeset table = .error .longInteger)) ∧
    (table.Reachable → ∀ (node : Tree) (failure : Failure),
      node.fault? table = some failure ↔
        (∃ value, node = .literal value ∧ value.render = .error failure) ∨
        ∃ head args n, node = .call (.text head) args ∧ table.arity? head = some n ∧
          args.length ≠ n ∧ failure = .arity head n args.length) := by
  refine ⟨fun hmalformed => ?_, fun hw => ⟨fun hnone => ?_, fun failure hfault => ⟨?_, ?_⟩⟩,
    fun hreachable node failure => ?_⟩
  · cases hfind : t.preorder.find? isMalformed with
    | none => exact absurd (wellFormed_of_find? t hfind) hmalformed
    | some node =>
        refine ⟨node, rfl, fun shape hshape => ?_⟩
        exact unclassifiable_of_find? table t node shape hfind hshape
  · refine ((reports_typeset table t hw).isOk_iff _ _).mpr (List.head?_eq_none_iff.mp ?_)
    rw [head?_reported, hnone]
    rfl
  · rw [typeset_of_fault? table t hw failure hfault, Except.error.injEq]
    exact failure.told_eq_self_iff
  · intro huntold
    rw [typeset_of_fault? table t hw failure hfault, failure.told_of_not_tellable huntold]
  · rw [fault?_eq_some_iff]
    simp only [hreachable.keyed.name_functionFor, Notation.arity_functionFor]

-- Two calls with a wrong number of arguments, one above the other. A name that is no text hides
-- both, and without it the lower one is met first
theorem typeset_reports_first_fault_of_nested_calls :
    let lower : Tree := .call (.text "abs") []
    let upper (name : Value) : Tree := .call (.text "sqrt") [lower, .identifier name]
    (upper .none).typeset .default = .error (.unclassifiable "identifier None") ∧
      (upper (.text "x")).typeset .default = .error (.arity "abs" 1 0) ∧
      Notation.default.arity? "abs" = some 1 := by
  intro lower upper
  have hlower : lower.fault? .default = some (.arity "abs" 1 0) := by decide +kernel
  refine ⟨?_, ?_, ?_⟩
  · have hmalformed : ¬ (upper .none).WellFormed := by
      simp [upper, lower, WellFormed, AllWellFormed]
    obtain ⟨node, hfind, hreport⟩ :=
      (typeset_reports_first_fault .default (upper .none)).1 hmalformed
    cases hfind
    exact (hreport _ rfl).2.2.2
  · have hw : (upper (.text "x")).WellFormed := by
      simp [upper, lower, WellFormed, AllWellFormed]
    have htellable : (Failure.arity "abs" 1 0).Tellable := by
      rw [Failure.Tellable]
      decide +kernel
    have hfirst : (upper (.text "x")).postorder.findSome? (fault? .default) =
        some (.arity "abs" 1 0) := by
      decide +kernel
    exact (((typeset_reports_first_fault .default _).2.1 hw).2 _ hfirst).1.mpr htellable
  · rcases ((typeset_reports_first_fault .default lower).2.2 .default _ _).mp hlower with
      ⟨value, hliteral, -⟩ | ⟨head, args, n, hnode, hn, -, hfailure⟩
    · simp [lower] at hliteral
    · obtain ⟨rfl, rfl, -⟩ := Failure.arity.inj hfailure
      exact hn

theorem exists_ofSpecs_fault (n : Nat) (hn : 0 < n) :
    let spec : Spec :=
      .ofList [("kind", .text "template"), ("pattern", .text "x"), ("arity", .integer n)]
    ∃ table, Notation.ofSpecs .empty (.ofList [("f", spec)]) = .ok table ∧
      (call (.text "f") []).fault? table = some (.arity "f" n 0) := by
  intro spec
  obtain ⟨t, harity, htable⟩ := Notation.ofSpecs_of_constant_template n
  refine ⟨_, htable, (fault?_eq_some_iff _ _ _).mpr (.inr ⟨"f", [], n, rfl, ?_, ?_, rfl⟩)⟩
  · exact congrArg some harity
  · exact Nat.ne_of_lt hn

-- An arity of 4301 digits cannot be written, and the call that does not meet it fails with that
theorem typeset_hides_arity_of_long_number :
    let spec : Spec :=
      .ofList [("kind", .text "template"), ("pattern", .text "x"),
        ("arity", .integer (Nat.pow 10 4300))]
    let t : Tree := .call (.text "f") []
    ∃ table, Notation.ofSpecs .empty (.ofList [("f", spec)]) = .ok table ∧ t.WellFormed ∧
      t.postorder.findSome? (fault? table) = some (.arity "f" (Nat.pow 10 4300) 0) ∧
      t.typeset table = .error .longInteger := by
  intro spec t
  obtain ⟨table, htable, hfault⟩ := exists_ofSpecs_fault (Nat.pow 10 4300) (by decide +kernel)
  have hw : t.WellFormed := trivial
  have hfirst : t.postorder.findSome? (fault? table) = some (.arity "f" (Nat.pow 10 4300) 0) := by
    rw [← hfault]
    exact List.findSome?_singleton
  have hlong : ¬ (Failure.arity "f" (Nat.pow 10 4300) 0).Tellable := by
    rw [Failure.Tellable]
    decide +kernel
  refine ⟨table, htable, hw, hfirst, ?_⟩
  rw [typeset_of_fault? table t hw _ hfirst, Failure.told_of_not_tellable _ hlong]

end Formulary.Tree
