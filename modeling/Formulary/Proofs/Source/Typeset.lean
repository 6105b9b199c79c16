import Formulary.Proofs.Notation.Arity
import Formulary.Proofs.Source.Parts
import Formulary.Proofs.Typeset.Denotation

namespace Formulary

namespace Tree

-- What a node holds itself can be shown
def Displayed : Tree → Prop
  | .literal v => ∃ text, v.display = .ok text
  | _ => True

-- Where all literals can be shown, a tree can be set exactly if its calls have the arguments asked of them
theorem forall_admitted_iff (table : Notation) (t : Tree)
    (hliterals : ∀ v, .literal v ∈ t.preorder → ∃ text, v.display = .ok text) :
    (∀ node ∈ t.preorder, node.Admitted table) ↔
      ∀ call ∈ t.calls, ∀ n, table.arity? call.1 = some n → call.2 = n := by
  constructor
  · intro h call hcall n hn
    obtain ⟨args, hnode, hlength⟩ := (mem_calls_iff t call).mp hcall
    rw [← hlength]
    refine (admitted_call_iff table call.1 args).mp (h _ hnode) n ?_
    rw [Notation.arity_functionFor, hn]
  · intro h node hnode
    unfold Admitted
    split
    · exact hliterals _ hnode
    · rename_i head args
      refine (admitted_call_iff table head args).mpr fun n hn => ?_
      rw [Notation.arity_functionFor] at hn
      exact h (head, args.length) ((mem_calls_iff t _).mpr ⟨args, hnode, rfl⟩) n hn
    · trivial

-- Where all literals can be shown, only a call with a wrong number of arguments fails
theorem miscounted_of_typeset_default (t : Tree) (h : t.WellFormed)
    (hliterals : ∀ v, .literal v ∈ t.preorder → ∃ text, v.display = .ok text) (failure : Failure)
    (hfailure : t.typeset .default = .error failure) :
    ∃ call ∈ t.calls, ∃ n, Notation.default.arity? call.1 = some n ∧ call.2 ≠ n ∧
      failure = .arity call.1 n call.2 := by
  obtain ⟨node, hnode, fault, hfault, rfl⟩ := exists_fault_of_typeset _ t h failure hfailure
  rcases (fault?_eq_some_iff _ node fault).mp hfault with
    ⟨v, rfl, hrender⟩ | ⟨head, args, n, rfl, hn, hne, rfl⟩
  · obtain ⟨text, htext⟩ := v.render_isOk_iff.mpr (hliterals v hnode)
    cases htext.symm.trans hrender
  · rw [Notation.arity_functionFor] at hn
    refine ⟨(head, args.length), (mem_calls_iff t _).mpr ⟨args, hnode, rfl⟩, n, hn, hne, ?_⟩
    exact Notation.miscounted_default head n args.length hn

end Tree

namespace Source

theorem display_of_value? (value : Constant) (v : Value) (h : value.value? = some v)
    (hint : ∀ n, value = .integer n → hasDecimalText n.natAbs = true) :
    ∃ text, v.display = .ok text := by
  cases value with
  | integer n =>
      cases h
      refine ⟨Text.ofString (toString n), ?_⟩
      rw [Value.display, Value.quoted, integerText, if_pos (hint n rfl)]
      · rfl
      · simp
      · simp
  | octets _ => cases h
  | none => cases h
  | ellipsis => cases h
  | _ =>
      cases h
      exact ⟨_, rfl⟩

theorem Expr.Builds.display (e : Expr) (b : Built) (h : Builds e b)
    (hint : ∀ column n, .constant column (.integer n) ∈ e.nodes → hasDecimalText n.natAbs = true) :
    ∀ v, .literal v ∈ b.tree.preorder → ∃ text, v.display = .ok text := by
  have hjoins : ∀ node, Joins node → node.Displayed := by
    rintro node ⟨head, args, rfl, -⟩
    trivial
  have hwritten : Written Tree.Displayed e.nodes := {
    literal := fun column value v hmem hv =>
      display_of_value? value v hv fun n hn => hint column n (hn ▸ hmem)
    identifier := fun _ _ _ _ => trivial
    call := fun _ _ _ _ _ _ _ => trivial }
  exact fun v hv => h.throughout _ hjoins e b hwritten (.literal v) hv

-- The notation asks every head of an operator for the arguments that it has
theorem arity?_default_of_mem_operatorCalls :
    ∀ call ∈ operatorCalls, Notation.default.arity? call.1 = some call.2 := by
  decide +kernel

-- Under the default notation a formula whose integers can be written can be set exactly when each call
-- that it writes has as many arguments as its name asks for. What fails is such a call, and all other
-- calls of its tree are known with just the arguments that they have
theorem Expr.typeset_default_isOk_iff_calls_fit (e : Expr) (h : e.Supported)
    (hint : ∀ column n, .constant column (.integer n) ∈ e.nodes → hasDecimalText n.natAbs = true) :
    ∃ t, e.toTree = .ok t ∧
      ((∃ m, t.typeset .default = .ok m) ↔
        ∀ call ∈ e.calls, ∀ n, Notation.default.arity? call.1 = some n → call.2 = n) ∧
      (∀ failure, t.typeset .default = .error failure →
        ∃ call ∈ e.calls, ∃ n, Notation.default.arity? call.1 = some n ∧ call.2 ≠ n ∧
          failure = .arity call.1 n call.2) ∧
      Strewn (fun call => Notation.default.arity? call.1 = some call.2) e.calls t.calls := by
  obtain ⟨b, hb, hbuilds⟩ := h.builds
  have hw := hbuilds.wellFormed
  have hliterals := hbuilds.display e b hint
  have hstrewn := hbuilds.calls.of_kind _ _ arity?_default_of_mem_operatorCalls
  refine ⟨b.tree, e.toTree_of_build b hb, ?_, fun failure hfailure => ?_, hstrewn⟩
  · rw [Tree.typeset_isOk_iff _ _ hw, Tree.forall_admitted_iff _ _ hliterals]
    refine ⟨fun hall call hcall => hall call (hstrewn.subset _ _ _ hcall), fun hown call hcall => ?_⟩
    rcases hstrewn.mem_or _ _ _ call hcall with hcall | harity
    · exact hown call hcall
    · exact fun n hn => Option.some.inj (harity.symm.trans hn)
  · obtain ⟨call, hcall, n, hn, hne, heq⟩ :=
      b.tree.miscounted_of_typeset_default hw hliterals failure hfailure
    rcases hstrewn.mem_or _ _ _ call hcall with hcall | hknown
    · exact ⟨call, hcall, n, hn, hne, heq⟩
    · exact absurd (Option.some.inj (hknown.symm.trans hn)) hne

-- In `y[0] < math.sqrt(x, 2)` only the root has a wrong number of arguments
theorem Expr.typeset_default_refuses_root :
    let e : Expr := .comparison 0 (.subscript 0 (.name 0 "y") (.constant 2 (.integer 0))) .less
      (.call 7 (.attribute 7 (.name 7 "math") "sqrt") [.name 17 "x", .constant 20 (.integer 2)] []) []
    e.Supported ∧
      (∀ column n, .constant column (.integer n) ∈ e.nodes → hasDecimalText n.natAbs = true) ∧
      ∃ t, e.toTree = .ok t ∧ t.typeset .default = .error (.arity "sqrt" 1 2) ∧
        t.calls = ["<", "[]", "sqrt"].map (fun head => (Text.ofString head, 2)) := by
  intro e
  have he : e.Supported := by
    refine .comparison _ _ _ _ _ "<" rfl ?_ ?_ (by simp) (by simp)
    · exact .subscript _ _ _ (.name _ _) (.constant _ _ trivial)
    · refine .call _ _ _ "math.sqrt" rfl (List.forall_mem_cons.mpr ⟨.name _ _, ?_⟩)
      exact List.forall_mem_singleton.mpr (.constant _ _ trivial)
  have hint : ∀ column n, .constant column (.integer n) ∈ e.nodes →
      hasDecimalText n.natAbs = true := by
    intro column n hn
    have hcases : n = 0 ∨ n = 2 := by
      simp [e, nodes, nodesAll, nodesLinks] at hn
      omega
    rcases hcases with rfl | rfl <;> decide +kernel
  have harity : Notation.default.arity? "sqrt" = some 1 := by decide +kernel
  obtain ⟨t, htree, hiff, herror, -⟩ := e.typeset_default_isOk_iff_calls_fit he hint
  cases htree
  refine ⟨he, hint, _, rfl, ?_, rfl⟩
  cases htypeset : Tree.typeset .default _ with
  | ok m => exact absurd (hiff.mp ⟨m, htypeset⟩ ("sqrt", 2) List.mem_cons_self 1 harity) (by decide)
  | error failure =>
      obtain ⟨call, hcall, n, hn, -, rfl⟩ := herror failure htypeset
      cases List.mem_singleton.mp hcall
      cases harity.symm.trans hn
      rfl

end Source

end Formulary
