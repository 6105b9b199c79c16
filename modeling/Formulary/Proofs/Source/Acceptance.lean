import Formulary.Proofs.Source.Builds
import Formulary.Proofs.Tree.Names

namespace Formulary.Source

theorem UnaryOp.reports_operator (op : UnaryOp) : Reports op.operator op.offences := by
  cases op <;> first | exact .ok _ | exact .error _

theorem BinaryOp.reports_operator (op : BinaryOp) : Reports op.operator op.offences := by
  cases op <;> first | exact .ok _ | exact .error _

theorem ComparisonOp.reports_operator (op : ComparisonOp) : Reports op.operator op.offences := by
  cases op <;> first | exact .ok _ | exact .error _

-- The faults of an expression that could be read
def Fault.IsUnsupported : Fault → Prop
  | .construct _ _ => True
  | .operator _ => True
  | .keywordArgument _ => True
  | _ => False

theorem UnaryOp.isUnsupported_of_mem_offences (op : UnaryOp) :
    ∀ fault ∈ op.offences, fault.IsUnsupported := by
  cases op <;> simp [offences, Fault.IsUnsupported]

theorem BinaryOp.isUnsupported_of_mem_offences (op : BinaryOp) :
    ∀ fault ∈ op.offences, fault.IsUnsupported := by
  cases op <;> simp [offences, Fault.IsUnsupported]

theorem ComparisonOp.isUnsupported_of_mem_offences (op : ComparisonOp) :
    ∀ fault ∈ op.offences, fault.IsUnsupported := by
  cases op <;> simp [offences, Fault.IsUnsupported]

theorem UnaryOp.symbol?_of_offences (op : UnaryOp) (h : op.offences = []) :
    ∃ symbol, op.symbol? = some symbol := by
  cases op <;> first | exact ⟨_, rfl⟩ | cases h

theorem BinaryOp.symbol?_of_offences (op : BinaryOp) (h : op.offences = []) :
    ∃ symbol, op.symbol? = some symbol := by
  cases op <;> first | exact ⟨_, rfl⟩ | cases h

theorem ComparisonOp.symbol?_of_offences (op : ComparisonOp) (h : op.offences = []) :
    ∃ symbol, op.symbol? = some symbol := by
  cases op <;> first | exact ⟨_, rfl⟩ | cases h

namespace Expr

theorem reports_path (e : Expr) : Reports e.path e.rootOffences := by
  induction e using path.induct with
  | case1 column id => exact .ok _
  | case2 column base member ih =>
      rw [path, rootOffences]
      exact ih.map _ _ _
  | case3 e hname hattribute =>
      rw [path, rootOffences]
      · exact .error _
      all_goals assumption

theorem reports_headName (e : Expr) : Reports e.headName e.rootOffences := by
  unfold headName
  split
  · exact .ok _
  · exact (reports_path _).map _ _ _
  · rename_i e hname hattribute
    rw [rootOffences]
    · exact .error _
    all_goals assumption

mutual

theorem reports_build (e : Expr) : Reports e.build e.offences := by
  match e with
  | .constant column value => cases value <;> first | exact .ok _ | exact .error _
  | .name column id => exact .ok _
  | .attribute column base member => exact (reports_path (.attribute column base member)).map _ _ _
  | .unary column op operand =>
      refine op.reports_operator.bind _ _ _ _ fun operator _ => ?_
      exact (reports_build operand).map _ _ _
  | .binary column op left right =>
      refine op.reports_operator.bind _ _ _ _ fun operator _ => ?_
      refine (reports_build left).bind _ _ _ _ fun b _ => ?_
      exact (reports_build right).map _ _ _
  | .boolean column op first rest =>
      refine (reports_build first).bind _ _ _ _ fun b _ => ?_
      exact (reports_buildAll rest).map _ _ _
  | .comparison column left op right links =>
      refine (reports_build left).bind _ _ _ _ fun b _ => ?_
      refine op.reports_operator.bind _ _ _ _ fun operator _ => ?_
      refine (reports_build right).bind _ _ _ _ fun b' _ => ?_
      exact (reports_buildLinks b' links).map _ _ _
  | .call column callee args (keyword :: keywords) =>
      intro fault
      simp [build, offences, throw, throwThe, MonadExceptOf.throw]
  | .call column callee args [] =>
      refine (reports_headName callee).bind _ _ _ _ fun name _ => ?_
      exact (reports_buildAll args).map _ _ _
  | .subscript column base index =>
      refine (reports_build base).bind _ _ _ _ fun b _ => ?_
      exact (reports_build index).map _ _ _
  | .other column construct parts => exact .error _

theorem reports_buildAll (es : List Expr) : Reports (buildAll es) (offencesAll es) := by
  match es with
  | [] => exact .ok _
  | e :: rest =>
      refine (reports_build e).bind _ _ _ _ fun b _ => ?_
      exact (reports_buildAll rest).map _ _ _

theorem reports_buildLinks (left : Built) (links : List (ComparisonOp × Expr)) :
    Reports (buildLinks left links) (offencesLinks links) := by
  match links with
  | [] => exact .ok _
  | (op, e) :: rest =>
      refine op.reports_operator.bind _ _ _ _ fun operator _ => ?_
      refine (reports_build e).bind _ _ _ _ fun b _ => ?_
      exact (reports_buildLinks b rest).map _ _ _

end

theorem writtenName?_of_rootOffences (e : Expr) (h : e.rootOffences = []) :
    ∃ name, e.writtenName? = some name := by
  induction e using rootOffences.induct with
  | case1 column id => exact ⟨id, rfl⟩
  | case2 column base member ih =>
      rw [rootOffences] at h
      obtain ⟨name, hname⟩ := ih h
      exact ⟨_, Option.bind_eq_some_iff.mpr ⟨name, hname, rfl⟩⟩
  | case3 e hname hattribute =>
      rw [rootOffences] at h
      · cases h
      all_goals assumption

theorem isUnsupported_of_mem_rootOffences (e : Expr) :
    ∀ fault ∈ e.rootOffences, fault.IsUnsupported := by
  induction e using rootOffences.induct with
  | case1 column id => simp [rootOffences]
  | case2 column base member ih => exact ih
  | case3 e hname hattribute =>
      rw [rootOffences]
      · simp [Fault.IsUnsupported]
      all_goals assumption

mutual

theorem isUnsupported_of_mem_offences (e : Expr) : ∀ fault ∈ e.offences, fault.IsUnsupported := by
  match e with
  | .constant column value => cases value <;> simp [offences, Fault.IsUnsupported]
  | .name column id => simp [offences]
  | .attribute column base member => exact isUnsupported_of_mem_rootOffences base
  | .unary column op operand =>
      exact List.forall_mem_append.mpr
        ⟨op.isUnsupported_of_mem_offences, isUnsupported_of_mem_offences operand⟩
  | .binary column op left right =>
      simp only [offences, List.forall_mem_append]
      exact ⟨op.isUnsupported_of_mem_offences, isUnsupported_of_mem_offences left,
        isUnsupported_of_mem_offences right⟩
  | .boolean column op first rest =>
      exact List.forall_mem_append.mpr
        ⟨isUnsupported_of_mem_offences first, isUnsupported_of_mem_offencesAll rest⟩
  | .comparison column left op right links =>
      simp only [offences, List.forall_mem_append]
      exact ⟨isUnsupported_of_mem_offences left, op.isUnsupported_of_mem_offences,
        isUnsupported_of_mem_offences right, isUnsupported_of_mem_offencesLinks links⟩
  | .call column callee args keywords =>
      simp only [offences, List.forall_mem_append, List.forall_mem_map]
      exact ⟨fun _ _ => trivial, isUnsupported_of_mem_rootOffences callee,
        isUnsupported_of_mem_offencesAll args⟩
  | .subscript column base index =>
      exact List.forall_mem_append.mpr
        ⟨isUnsupported_of_mem_offences base, isUnsupported_of_mem_offences index⟩
  | .other column construct parts => simp [offences, Fault.IsUnsupported]

theorem isUnsupported_of_mem_offencesAll (es : List Expr) :
    ∀ fault ∈ offencesAll es, fault.IsUnsupported := by
  match es with
  | [] => simp [offencesAll]
  | e :: rest =>
      exact List.forall_mem_append.mpr
        ⟨isUnsupported_of_mem_offences e, isUnsupported_of_mem_offencesAll rest⟩

theorem isUnsupported_of_mem_offencesLinks (links : List (ComparisonOp × Expr)) :
    ∀ fault ∈ offencesLinks links, fault.IsUnsupported := by
  match links with
  | [] => simp [offencesLinks]
  | (op, e) :: rest =>
      simp only [offencesLinks, List.forall_mem_append]
      exact ⟨op.isUnsupported_of_mem_offences, isUnsupported_of_mem_offences e,
        isUnsupported_of_mem_offencesLinks rest⟩

end

mutual

theorem supported_of_offences (e : Expr) (h : e.offences = []) : e.Supported := by
  match e with
  | .constant column value =>
      refine .constant column value ?_
      cases value with
      | octets _ => cases h
      | none => cases h
      | ellipsis => cases h
      | _ => trivial
  | .name column id => exact .name column id
  | .attribute column base member =>
      obtain ⟨name, hname⟩ := writtenName?_of_rootOffences base h
      exact .member column base member name hname
  | .unary column op operand =>
      obtain ⟨hop, h⟩ := List.append_eq_nil_iff.mp h
      obtain ⟨symbol, hsymbol⟩ := op.symbol?_of_offences hop
      exact .unary column op operand symbol hsymbol (supported_of_offences operand h)
  | .binary column op left right =>
      obtain ⟨hop, h⟩ := List.append_eq_nil_iff.mp h
      obtain ⟨hleft, hright⟩ := List.append_eq_nil_iff.mp h
      obtain ⟨symbol, hsymbol⟩ := op.symbol?_of_offences hop
      exact .binary column op left right symbol hsymbol (supported_of_offences left hleft)
        (supported_of_offences right hright)
  | .boolean column op first rest =>
      obtain ⟨hfirst, hrest⟩ := List.append_eq_nil_iff.mp h
      exact .boolean column op first rest (supported_of_offences first hfirst)
        (supported_of_offencesAll rest hrest)
  | .comparison column left op right links =>
      obtain ⟨hleft, h⟩ := List.append_eq_nil_iff.mp h
      obtain ⟨hop, h⟩ := List.append_eq_nil_iff.mp h
      obtain ⟨hright, hlinks⟩ := List.append_eq_nil_iff.mp h
      obtain ⟨symbol, hsymbol⟩ := op.symbol?_of_offences hop
      obtain ⟨hops, hlinks⟩ := supported_of_offencesLinks links hlinks
      exact .comparison column left op right links symbol hsymbol
        (supported_of_offences left hleft) (supported_of_offences right hright) hops hlinks
  | .call column callee args (keyword :: keywords) => cases h
  | .call column callee args [] =>
      obtain ⟨-, h⟩ := List.append_eq_nil_iff.mp h
      obtain ⟨hcallee, hargs⟩ := List.append_eq_nil_iff.mp h
      obtain ⟨name, hname⟩ := writtenName?_of_rootOffences callee hcallee
      exact .call column callee args name hname (supported_of_offencesAll args hargs)
  | .subscript column base index =>
      obtain ⟨hbase, hindex⟩ := List.append_eq_nil_iff.mp h
      exact .subscript column base index (supported_of_offences base hbase)
        (supported_of_offences index hindex)
  | .other column construct parts => cases h

theorem supported_of_offencesAll (es : List Expr) (h : offencesAll es = []) :
    ∀ e ∈ es, e.Supported := by
  match es with
  | [] => simp
  | e :: rest =>
      obtain ⟨hfirst, hrest⟩ := List.append_eq_nil_iff.mp h
      exact List.forall_mem_cons.mpr
        ⟨supported_of_offences e hfirst, supported_of_offencesAll rest hrest⟩

theorem supported_of_offencesLinks (links : List (ComparisonOp × Expr))
    (h : offencesLinks links = []) :
    (∀ l ∈ links, ∃ symbol, l.1.symbol? = some symbol) ∧ ∀ l ∈ links, l.2.Supported := by
  match links with
  | [] => simp
  | (op, e) :: rest =>
      obtain ⟨hop, h⟩ := List.append_eq_nil_iff.mp h
      obtain ⟨hfirst, hrest⟩ := List.append_eq_nil_iff.mp h
      obtain ⟨hops, hlinks⟩ := supported_of_offencesLinks rest hrest
      exact ⟨List.forall_mem_cons.mpr ⟨op.symbol?_of_offences hop, hops⟩,
        List.forall_mem_cons.mpr ⟨supported_of_offences e hfirst, hlinks⟩⟩

end

theorem reports_toTree (e : Expr) : Reports e.toTree e.offences := (reports_build e).map _ _ _

theorem supported_iff_offences (e : Expr) : e.Supported ↔ e.offences = [] := by
  refine ⟨fun h => ?_, supported_of_offences e⟩
  obtain ⟨b, hb, -⟩ := h.builds
  exact ((reports_build e).isOk_iff _ _).mp ⟨b, hb⟩

theorem isUnsupported_of_toTree (e : Expr) (fault : Fault) (h : e.toTree = .error fault) :
    fault.IsUnsupported :=
  isUnsupported_of_mem_offences e fault (List.mem_of_head? ((reports_toTree e fault).mp h))

theorem builds_of_toTree (e : Expr) (t : Tree) (h : e.toTree = .ok t) :
    ∃ b, Builds e b ∧ b.tree = t := by
  have hsupported : e.Supported :=
    (supported_iff_offences e).mpr (((reports_toTree e).isOk_iff _ _).mp ⟨t, h⟩)
  obtain ⟨b, hb, hbuilds⟩ := hsupported.builds
  rw [toTree_of_build e b hb] at h
  exact ⟨b, hbuilds, Except.ok.inj h⟩

-- An expression has a tree exactly when it is a formula, and any other is refused for the first of its
-- offences. A tree has no malformed node
theorem toTree_accepts_iff_and_reports_first (e : Expr) :
    ((∃ t, e.toTree = .ok t) ↔ e.Supported) ∧
    (∀ fault, e.toTree = .error fault ↔ e.offences.head? = some fault) ∧
    (∀ fault, e.toTree = .error fault → fault.IsUnsupported) ∧
    ∀ t, e.toTree = .ok t →
      t.WellFormed ∧ ∀ node ∈ t.preorder, ∃ kind, node.classify = .ok kind := by
  have hreports := reports_toTree e
  refine ⟨?_, hreports, fun fault hfault => ?_, fun t ht => ?_⟩
  · rw [supported_iff_offences]
    exact hreports.isOk_iff _ _
  · have hhead := (hreports fault).mp hfault
    exact isUnsupported_of_mem_offences e fault (List.mem_of_head? hhead)
  · have hsupported : e.Supported :=
      (supported_iff_offences e).mpr ((hreports.isOk_iff _ _).mp ⟨t, ht⟩)
    obtain ⟨b, hb, hbuilds⟩ := hsupported.builds
    rw [toTree_of_build e b hb] at ht
    cases ht
    refine ⟨hbuilds.wellFormed, fun node hn => ?_⟩
    exact Tree.classify_of_wellFormed node
      (Tree.wellFormed_of_mem_preorder b.tree node hbuilds.wellFormed hn)

-- In `a < (b @ [c]) is f(None)` the product comes before the comparison that follows it
example :
    let product : Expr := .binary 5 .matrixMultiply (.name 5 "b") (.other 9 .list [.name 10 "c"])
    let call : Expr := .call 17 (.name 17 "f") [.constant 19 .none] []
    (Expr.comparison 0 (.name 0 "a") .less product [(.is, call)]).offences =
      [.operator "MatMult", .construct "List" 9, .operator "Is", .construct "Constant" 19] := rfl

end Expr

end Formulary.Source
