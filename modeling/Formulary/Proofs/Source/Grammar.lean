import Formulary.Proofs.Source.Enclosure
import Formulary.Proofs.Source.Parser
import Formulary.Source.Grammar

namespace Formulary.Source

namespace Expr

variable {R : String → Prop}

-- The words that an expression writes are all of a kind
def Named (R : String → Prop) (e : Expr) : Prop := ∀ node ∈ e.nodes, ∀ w ∈ node.words, R w

theorem Named.words {e : Expr} (h : e.Named R) : ∀ w ∈ e.words, R w := h e (self_mem_nodes e)

theorem Named.all {es : List Expr} (h : ∀ e ∈ es, e.Named R) :
    ∀ node ∈ nodesAll es, ∀ w ∈ node.words, R w := by
  intro node hnode
  obtain ⟨e, he, hnode⟩ := (mem_nodesAll_iff es node).mp hnode
  exact h e he node hnode

theorem named_constant (column : Nat) (value : Constant) : (Expr.constant column value).Named R := by
  simp [Named, nodes, Expr.words]

theorem named_other (column : Nat) (construct : Construct) (parts : List Expr) :
    (Expr.other column construct parts).Named R := by
  simp [Named, nodes, Expr.words]

theorem named_name (column : Nat) {id : String} (h : R id) : (Expr.name column id).Named R := by
  simpa [Named, nodes, Expr.words] using h

theorem named_attribute (column : Nat) {base : Expr} {member : String} (hbase : base.Named R)
    (hmember : R member) : (Expr.attribute column base member).Named R := by
  rw [Named, nodes, List.forall_mem_singleton, Expr.words, List.forall_mem_append,
    List.forall_mem_singleton]
  · exact ⟨hbase.words, hmember⟩
  all_goals simp

theorem named_unary (column : Nat) (op : UnaryOp) {operand : Expr} (h : operand.Named R) :
    (Expr.unary column op operand).Named R := by
  rw [Named, nodes, List.forall_mem_cons]
  exact ⟨by simp [Expr.words], h⟩

theorem named_binary (column : Nat) (op : BinaryOp) {left right : Expr} (hleft : left.Named R)
    (hright : right.Named R) : (Expr.binary column op left right).Named R := by
  rw [Named, nodes, List.forall_mem_cons, List.forall_mem_append]
  exact ⟨by simp [Expr.words], hleft, hright⟩

theorem named_boolean (column : Nat) (op : BooleanOp) {first : Expr} {rest : List Expr}
    (hfirst : first.Named R) (hrest : ∀ e ∈ rest, e.Named R) :
    (Expr.boolean column op first rest).Named R := by
  rw [Named, nodes, List.forall_mem_cons, List.forall_mem_append]
  exact ⟨by simp [Expr.words], hfirst, Named.all hrest⟩

theorem named_comparison (column : Nat) (op : ComparisonOp) {left right : Expr}
    {links : List (ComparisonOp × Expr)} (hleft : left.Named R) (hright : right.Named R)
    (hlinks : ∀ l ∈ links, l.2.Named R) : (Expr.comparison column left op right links).Named R := by
  rw [Named, nodes, List.forall_mem_cons, List.forall_mem_append, List.forall_mem_append]
  refine ⟨by simp [Expr.words], hleft, hright, fun node hnode => ?_⟩
  obtain ⟨l, hl, hnode⟩ := (mem_nodesLinks_iff links node).mp hnode
  exact hlinks l hl node hnode

theorem named_call (column : Nat) (keywords : List Nat) {callee : Expr} {args : List Expr}
    (hcallee : callee.Named R) (hargs : ∀ e ∈ args, e.Named R) :
    (Expr.call column callee args keywords).Named R := by
  rw [Named, nodes, List.forall_mem_cons, Expr.words]
  exact ⟨hcallee.words, Named.all hargs⟩

theorem named_subscript (column : Nat) {base index : Expr} (hbase : base.Named R)
    (hindex : index.Named R) : (Expr.subscript column base index).Named R := by
  rw [Named, nodes, List.forall_mem_cons, List.forall_mem_append]
  exact ⟨by simp [Expr.words], hbase, hindex⟩

end Expr

namespace Grammar

open Formulary.Source.Parser Formulary.Source.Expr

variable {R : String → Prop}

theorem gives_quotation : Gives R quotation fun _ => True := by
  refine gives_token.next fun t => ?_
  split
  · exact .pure trivial
  · exact .failure

theorem gives_joined (column : Nat) (nested : Nested) (quotations : List Quotation) :
    Gives R (joined column nested quotations) (Expr.Named R) := by
  refine .ite .failure (.ite (.pure (named_constant _ _)) (.ite .failure ?_))
  exact .ite (.pure (named_other _ _ _)) (.pure (named_constant _ _))

theorem gives_starred {rule : Parser Expr} (h : Gives R rule (Expr.Named R)) :
    Gives R (starred rule) (Expr.Named R) :=
  gives_column.next fun _ => (gives_mark _).next fun _ => h.next fun _ => .pure (named_other _ _ _)

theorem gives_atClause : Gives R atClause fun _ => True :=
  (gives_atKeyword _).next fun _ => (gives_atKeyword _).next fun _ => .pure trivial

theorem gives_sign : Gives R sign fun _ => True := by
  refine gives_token.next fun t => ?_
  split
  all_goals first | exact .pure trivial | exact .failure

theorem gives_operatorIn (ops : List (String × BinaryOp)) : Gives R (operatorIn ops) fun _ => True := by
  refine gives_token.next fun t => ?_
  split
  · split
    · exact .pure trivial
    · exact .failure
  · exact .failure

theorem gives_comparisonOp : Gives R comparisonOp fun _ => True := by
  refine gives_token.next fun t => ?_
  split
  case h_8 => exact (gives_keyword _).next fun _ => .pure trivial
  case h_9 =>
    refine (gives_atKeyword _).next fun _ => .ite ?_ (.pure trivial)
    exact (gives_keyword _).next fun _ => .pure trivial
  all_goals first | exact .pure trivial | exact .failure

theorem gives_negation : Gives R negation fun _ => True :=
  gives_column.next fun _ => (gives_keyword _).next fun _ => .pure trivial

theorem gives_parameterEnd : Gives R parameterEnd fun _ => True :=
  (gives_atMark _).next fun _ => .ite (.pure trivial) (gives_mark _)

theorem named_withSigns (signs : List (Nat × UnaryOp)) (e : Expr) (h : e.Named R) :
    (withSigns signs e).Named R := by
  induction signs with
  | nil => exact h
  | cons s rest ih => exact named_unary s.1 s.2 ih

theorem named_powers (first : Operand) (rest : List Operand) (hfirst : first.base.Named R)
    (hrest : ∀ o ∈ rest, o.base.Named R) : (powers first rest).Named R := by
  induction rest generalizing first with
  | nil => exact named_withSigns _ _ hfirst
  | cons second rest ih =>
      rw [List.forall_mem_cons] at hrest
      exact named_withSigns _ _ (named_binary _ _ hfirst (ih second hrest.1 hrest.2))

theorem gives_leftToRight (ops : List (String × BinaryOp)) {rule : Parser Expr}
    (h : Gives R rule (Expr.Named R)) : Gives R (leftToRight ops rule) (Expr.Named R) := by
  have hlink : Gives R (do return (← operatorIn ops, ← rule)) fun link => link.2.Named R :=
    (gives_operatorIn ops).next fun _ => h.bind fun _ hright => .pure hright
  refine gives_column.next fun start => h.bind fun first hfirst => ?_
  refine (gives_many hlink).bind fun rest hrest => .pure ?_
  induction rest generalizing first with
  | nil => exact hfirst
  | cons link rest ih =>
      rw [List.forall_mem_cons] at hrest
      exact ih _ (named_binary start link.1 hfirst hrest.1) hrest.2

theorem gives_boolean (op : BooleanOp) (word : String) {rule : Parser Expr}
    (h : Gives R rule (Expr.Named R)) : Gives R (boolean op word rule) (Expr.Named R) := by
  refine gives_column.next fun start => h.bind fun first hfirst => ?_
  refine (gives_many ((gives_keyword word).next fun _ => h)).bind fun rest hrest => ?_
  split
  · exact .pure hfirst
  · exact .pure (named_boolean start op hfirst hrest)

section Nested

variable {nested : Nested} (hnested : ∀ r, Gives R (nested.rule r) (Expr.Named R))

include hnested

theorem gives_assignment : Gives R (assignment nested) (Expr.Named R) := by
  refine gives_column.next fun _ => gives_name.next fun _ => (gives_mark _).next fun _ => ?_
  exact (hnested _).next fun _ => .pure (named_other _ _ _)

theorem gives_named : Gives R (named nested) (Expr.Named R) :=
  (gives_atNameBefore _).next fun _ => .ite (gives_assignment hnested) (hnested _)

theorem gives_element : Gives R (element nested) (Expr.Named R) :=
  (gives_atMark _).next fun _ => .ite (gives_starred (hnested _)) (gives_named hnested)

theorem gives_target : Gives R (target nested) (Expr.Named R) := by
  have hfound : ∀ e : Expr, e.Named R →
      Gives R (if areTargets [e] then pure e else failure) (Expr.Named R) := fun e he =>
    .ite (.pure he) .failure
  refine (gives_atMark _).next fun _ => .ite ?_ ?_
  · exact (gives_starred (hnested _)).bind hfound
  · exact (hnested _).bind hfound

-- A comprehension has no place in a formula, so that nothing is asked of what is read in its clauses
theorem gives_clause : Gives R (clause nested) fun _ => True := by
  refine (gives_atKeyword _).next fun _ => .ite ((gives_keyword _).next fun _ => ?_) ?_
  all_goals
    refine (gives_keyword _).next fun _ => ?_
    refine (gives_commaSeparated (gives_target hnested)).next fun _ => (gives_keyword _).next fun _ => ?_
    refine (hnested _).next fun _ => ?_
    exact (gives_many ((gives_keyword _).next fun _ => hnested _)).next fun _ => .pure trivial

theorem gives_clauses : Gives R (clauses nested) fun _ => True :=
  (gives_clause hnested).next fun _ => (gives_many (gives_clause hnested)).next fun _ => .pure trivial

theorem gives_elements (closing : String) : Gives R (elements nested closing) fun _ => True := by
  refine (gives_afterCommas (gives_element hnested)).next fun _ => ?_
  exact (gives_maybe (gives_mark _)).next fun _ => (gives_mark _).next fun _ => .pure trivial

theorem gives_yielded : Gives R (yielded nested) (Expr.Named R) := by
  have hspread : Gives R (do
      if ← atMark "*" then starred (nested.rule .bitOr) else nested.rule .expression)
      (Expr.Named R) :=
    (gives_atMark _).next fun _ => .ite (gives_starred (hnested _)) (hnested _)
  refine gives_column.next fun _ => (gives_keyword _).next fun _ => ?_
  refine (gives_atKeyword _).next fun _ => .ite ?_ ?_
  · exact (gives_keyword _).next fun _ => (hnested _).next fun _ => .pure (named_other _ _ _)
  · refine (gives_maybe hspread).next fun first => ?_
    cases first with
    | none => exact .pure (named_other _ _ _)
    | some first =>
        refine (gives_afterCommas hspread).next fun _ => ?_
        exact (gives_maybe (gives_mark _)).next fun _ => .pure (named_other _ _ _)

theorem gives_parenthesized : Gives R (parenthesized nested) (Expr.Named R) := by
  refine gives_column.next fun _ => (gives_mark _).next fun _ => ?_
  refine (gives_atMark _).next fun _ => .ite ?_ ?_
  · exact (gives_mark _).next fun _ => .pure (named_other _ _ _)
  refine (gives_atKeyword _).next fun _ => .ite ?_ ?_
  · exact (gives_yielded hnested).bind fun e he => (gives_mark _).next fun _ => .pure he
  refine (gives_element hnested).bind fun first hfirst => ?_
  refine (gives_atMark _).next fun _ => .ite ?_ (.ite .failure ?_)
  · exact (gives_elements hnested _).next fun _ => .pure (named_other _ _ _)
  refine gives_atClause.next fun _ => .ite ?_ ?_
  · exact (gives_clauses hnested).next fun _ => (gives_mark _).next fun _ => .pure (named_other _ _ _)
  · exact (gives_mark _).next fun _ => .pure hfirst

theorem gives_bracketed : Gives R (bracketed nested) (Expr.Named R) := by
  refine gives_column.next fun _ => (gives_mark _).next fun _ => ?_
  refine (gives_atMark _).next fun _ => .ite ?_ ?_
  · exact (gives_mark _).next fun _ => .pure (named_other _ _ _)
  refine (gives_element hnested).next fun _ => gives_atClause.next fun _ => .ite ?_ ?_
  · exact (gives_clauses hnested).next fun _ => (gives_mark _).next fun _ => .pure (named_other _ _ _)
  · exact (gives_elements hnested _).next fun _ => .pure (named_other _ _ _)

theorem gives_item : Gives R (item nested) fun _ => True := by
  refine (gives_atMark _).next fun _ => .ite ?_ ?_
  · exact (gives_mark _).next fun _ => (hnested _).next fun _ => .pure trivial
  · refine (hnested _).next fun _ => (gives_mark _).next fun _ => ?_
    exact (hnested _).next fun _ => .pure trivial

theorem gives_items (start : Nat) (first : List Expr) :
    Gives R (items nested start first) (Expr.Named R) := by
  refine (gives_afterCommas (gives_item hnested)).next fun _ => ?_
  refine (gives_maybe (gives_mark _)).next fun _ => (gives_mark _).next fun _ => ?_
  exact .pure (named_other _ _ _)

theorem gives_braced : Gives R (braced nested) (Expr.Named R) := by
  refine gives_column.next fun start => (gives_mark _).next fun _ => ?_
  refine (gives_atMark _).next fun _ => .ite ?_ ?_
  · exact (gives_mark _).next fun _ => .pure (named_other _ _ _)
  refine (gives_atMark _).next fun _ => .ite ?_ ?_
  · exact (gives_item hnested).next fun first => gives_items hnested start first
  refine (gives_atNameBefore _).next fun _ => (gives_element hnested).next fun first => ?_
  refine (gives_atMark _).next fun _ => .ite ?_ ?_
  · refine (gives_mark _).next fun _ => (hnested _).next fun value => ?_
    refine gives_atClause.next fun _ => .ite ?_ (gives_items hnested start _)
    exact (gives_clauses hnested).next fun _ => (gives_mark _).next fun _ => .pure (named_other _ _ _)
  refine gives_atClause.next fun _ => .ite ?_ ?_
  · exact (gives_clauses hnested).next fun _ => (gives_mark _).next fun _ => .pure (named_other _ _ _)
  · exact (gives_elements hnested _).next fun _ => .pure (named_other _ _ _)

theorem gives_atom : Gives R (atom nested) (Expr.Named R) := by
  refine gives_column.next fun start => gives_peek.bind fun lexeme hlexeme => ?_
  split
  case h_1 id => exact gives_token.next fun _ => .pure (named_name start (hlexeme id rfl))
  case h_6 => exact (gives_many gives_quotation).next fun _ => gives_joined _ _ _
  case h_8 => exact gives_parenthesized hnested
  case h_9 => exact gives_bracketed hnested
  case h_10 => exact gives_braced hnested
  case h_11 => exact .failure
  all_goals exact gives_token.next fun _ => .pure (named_constant _ _)

theorem gives_argument (stage : Stage) :
    Gives R (argument nested stage) fun a => ∀ e ∈ a.2.values, e.Named R := by
  refine gives_column.next fun _ => (gives_atMark _).next fun _ => .ite ?_ ?_
  · exact (gives_mark _).next fun _ => (hnested _).next fun _ => .pure (by simp)
  refine (gives_atMark _).next fun _ => .ite (.ite .failure ?_) ?_
  · refine (gives_starred (hnested _)).bind fun e he => .pure ?_
    exact List.forall_mem_singleton.mpr he
  refine (gives_atNameBefore _).next fun _ => .ite ?_ (.ite ?_ .failure)
  · refine gives_name.next fun _ => (gives_mark _).next fun _ => ?_
    exact (hnested _).next fun _ => .pure (by simp)
  · refine (gives_named hnested).bind fun e he => (gives_atMark _).next fun _ => .ite .failure ?_
    exact .pure (List.forall_mem_singleton.mpr he)

theorem named_argumentsFrom (stage : Stage) (tokens : List Token) (htokens : ∀ t ∈ tokens, t.Named R) :
    (∀ e ∈ (argumentsFrom nested stage tokens).1.values, e.Named R) ∧
      ∀ t ∈ (argumentsFrom nested stage tokens).2, t.Named R := by
  have hnext (stage : Stage) := (gives_mark ",").next fun _ => gives_argument hnested stage
  induction stage, tokens using argumentsFrom.induct nested with
  | case1 stage tokens hnone =>
      rw [argumentsFrom, hnone]
      exact ⟨by simp, htokens⟩
  | case2 stage tokens stage' first rest hfirst hshorter more after _ ih =>
      obtain ⟨hvalues, hrest⟩ := hnext stage tokens htokens _ _ hfirst
      obtain ⟨hmore, hafter⟩ := ih hrest
      rw [argumentsFrom, hfirst]
      simp only [hshorter, if_true]
      exact ⟨List.forall_mem_append.mpr ⟨hvalues, hmore⟩, hafter⟩
  | case3 stage tokens stage' first rest hfirst hsame =>
      rw [argumentsFrom, hfirst]
      simp only [hsame, if_false]
      exact ⟨by simp, htokens⟩

theorem gives_argumentsFrom (stage : Stage) :
    Gives R (fun tokens => some (argumentsFrom nested stage tokens))
      fun a => ∀ e ∈ a.values, e.Named R := by
  intro tokens htokens a rest h
  have hnamed := named_argumentsFrom hnested stage tokens htokens
  rwa [Option.some.inj h] at hnamed

theorem gives_arguments : Gives R (arguments nested) fun a => ∀ e ∈ a.values, e.Named R := by
  refine gives_column.next fun _ => (gives_mark _).next fun _ => ?_
  refine (gives_atMark _).next fun _ => .ite ?_ ?_
  · exact (gives_mark _).next fun _ => .pure (by simp)
  refine (gives_atMark _).next fun _ => (gives_argument hnested _).bind fun (stage, first) hfirst => ?_
  refine gives_atClause.next fun _ => .ite ?_ ?_
  · refine (gives_clauses hnested).next fun _ => (gives_mark _).next fun _ => .pure ?_
    exact List.forall_mem_singleton.mpr (named_other _ _ _)
  · refine (gives_argumentsFrom hnested stage).bind fun rest hrest => ?_
    refine (gives_maybe (gives_mark _)).next fun _ => (gives_mark _).next fun _ => .pure ?_
    exact List.forall_mem_append.mpr ⟨hfirst, hrest⟩

theorem gives_slicePart : Gives R (slicePart nested) fun es => ∀ e ∈ es, e.Named R := by
  have hends : Gives R endsSlicePart fun _ => True :=
    (gives_atMark _).next fun _ => (gives_atMark _).next fun _ => (gives_atMark _).next fun _ =>
      .pure trivial
  refine hends.next fun _ => .ite (.pure (by simp)) ?_
  exact (hnested _).bind fun e he => .pure (List.forall_mem_singleton.mpr he)

theorem gives_slice : Gives R (slice nested) (Expr.Named R) := by
  refine (gives_atNameBefore _).next fun _ => .ite (gives_assignment hnested) ?_
  refine gives_column.next fun _ => (gives_slicePart hnested).bind fun low hlow => ?_
  refine (gives_atMark _).next fun _ => .ite ?_ ?_
  · refine (gives_mark _).next fun _ => (gives_slicePart hnested).next fun high => ?_
    refine (gives_atMark _).next fun _ => .ite ?_ (.pure (named_other _ _ _))
    refine (gives_mark _).next fun _ => ?_
    exact (gives_slicePart hnested).next fun _ => .pure (named_other _ _ _)
  · split
    · exact .pure (List.forall_mem_singleton.mp hlow)
    · exact .failure

theorem gives_index : Gives R (index nested) (Expr.Named R) := by
  have hone : Gives R (do
      if ← atMark "*" then starred (nested.rule .expression) else slice nested) (Expr.Named R) :=
    (gives_atMark _).next fun _ => .ite (gives_starred (hnested _)) (gives_slice hnested)
  refine gives_column.next fun _ => hone.bind fun first hfirst => ?_
  refine (gives_atMark _).next fun _ => .ite ?_ (.pure hfirst)
  refine (gives_afterCommas hone).next fun _ => (gives_maybe (gives_mark _)).next fun _ => ?_
  exact .pure (named_other _ _ _)

theorem gives_trailer : Gives R (trailer nested) fun trailer =>
    ∀ (start : Nat) (e : Expr), e.Named R → (trailer start e).Named R := by
  refine (gives_atMark _).next fun _ => .ite ?_ ?_
  · refine (gives_mark _).next fun _ => gives_name.bind fun member hmember => .pure ?_
    exact fun start base hbase => named_attribute start hbase hmember
  refine (gives_atMark _).next fun _ => .ite ?_ ?_
  · refine (gives_arguments hnested).bind fun a ha => .pure ?_
    exact fun start callee hcallee => named_call start a.keywords hcallee ha
  · refine (gives_mark _).next fun _ => (gives_index hnested).bind fun i hi => ?_
    refine (gives_mark _).next fun _ => .pure ?_
    exact fun start base hbase => named_subscript start hbase hi

theorem gives_primary : Gives R (primary nested) (Expr.Named R) := by
  refine gives_column.next fun start => (gives_atom hnested).bind fun base hbase => ?_
  refine (gives_many (gives_trailer hnested)).bind fun trailers htrailers => .pure ?_
  induction trailers generalizing base with
  | nil => exact hbase
  | cons trailer rest ih =>
      rw [List.forall_mem_cons] at htrailers
      exact ih _ (htrailers.1 start base hbase) htrailers.2

theorem gives_awaited : Gives R (awaited nested) (Expr.Named R) := by
  refine (gives_atKeyword _).next fun _ => .ite ?_ (gives_primary hnested)
  refine gives_column.next fun _ => (gives_keyword _).next fun _ => ?_
  exact (gives_primary hnested).next fun _ => .pure (named_other _ _ _)

theorem gives_operand : Gives R (operand nested) fun o => o.base.Named R := by
  refine (gives_many gives_sign).next fun _ => gives_column.next fun _ => ?_
  exact (gives_awaited hnested).bind fun _ hbase => .pure hbase

theorem gives_factor : Gives R (factor nested) (Expr.Named R) := by
  have hoperand := gives_operand hnested
  refine hoperand.bind fun first hfirst => ?_
  refine (gives_many ((gives_mark _).next fun _ => hoperand)).bind fun rest hrest => ?_
  exact .pure (named_powers first rest hfirst hrest)

-- Six levels of operators, each over the one before it
theorem gives_bitOr : Gives R (bitOr nested) (Expr.Named R) := by
  refine gives_leftToRight _ (gives_leftToRight _ (gives_leftToRight _ ?_))
  exact gives_leftToRight _ (gives_leftToRight _ (gives_leftToRight _ (gives_factor hnested)))

theorem gives_comparison : Gives R (comparison nested) (Expr.Named R) := by
  have hbitOr := gives_bitOr hnested
  have hlink : Gives R (do return (← comparisonOp, ← bitOr nested)) fun l => l.2.Named R :=
    gives_comparisonOp.next fun _ => hbitOr.bind fun _ hright => .pure hright
  refine gives_column.next fun start => hbitOr.bind fun left hleft => ?_
  refine (gives_many hlink).bind fun links hlinks => ?_
  split
  · exact .pure hleft
  · rw [List.forall_mem_cons] at hlinks
    exact .pure (named_comparison start _ hleft hlinks.1 hlinks.2)

theorem gives_inversion : Gives R (inversion nested) (Expr.Named R) := by
  refine (gives_many gives_negation).next fun _ => ?_
  exact (gives_comparison hnested).bind fun e he => .pure (named_withSigns _ e he)

theorem gives_disjunction : Gives R (disjunction nested) (Expr.Named R) :=
  gives_boolean _ _ (gives_boolean _ _ (gives_inversion hnested))

theorem gives_parameter (place : Parameters) (slash : Bool) :
    Gives R (parameter nested place slash) fun _ => True := by
  refine .ite .failure ((gives_atMark _).next fun _ => .ite (.ite .failure ?_) ?_)
  · refine (gives_mark _).next fun _ => gives_name.next fun _ => ?_
    exact gives_parameterEnd.next fun _ => .pure trivial
  refine (gives_atMark _).next fun _ => .ite (.ite .failure ?_) ?_
  · refine (gives_mark _).next fun _ => (gives_atMark _).next fun _ => .ite ?_ ?_
    · exact (gives_mark _).next fun _ => .pure trivial
    · exact gives_name.next fun _ => gives_parameterEnd.next fun _ => .pure trivial
  refine (gives_atMark _).next fun _ => .ite (.ite .failure ?_) ?_
  · exact (gives_mark _).next fun _ => gives_parameterEnd.next fun _ => .pure trivial
  refine gives_name.next fun _ => (gives_atMark _).next fun _ => .ite ?_ (.ite .failure ?_)
  · refine (gives_mark _).next fun _ => (hnested _).next fun _ => ?_
    exact gives_parameterEnd.next fun _ => .pure trivial
  · exact gives_parameterEnd.next fun _ => .pure trivial

theorem gives_parametersFrom (place : Parameters) (slash : Bool) :
    Gives R (parametersFrom nested place slash) fun _ => True := by
  intro tokens htokens values rest h
  induction place, slash, tokens using parametersFrom.induct generalizing values rest with
  | case1 place slash =>
      rw [parametersFrom] at h
      cases h
  | case2 slash t others hcolon =>
      rw [parametersFrom, if_pos hcolon] at h
      cases h
  | case3 place slash t others hcolon hplace =>
      rw [parametersFrom, if_pos hcolon, if_neg hplace] at h
      cases h
      exact ⟨trivial, htokens⟩
  | case4 place slash t others hcolon ih =>
      rw [parametersFrom, if_neg hcolon] at h
      obtain ⟨⟨⟨place', slash', first⟩, between⟩, hfirst, h⟩ := Option.bind_eq_some_iff.mp h
      obtain ⟨-, hbetween⟩ := gives_parameter hnested place slash _ htokens _ _ hfirst
      dsimp only at h
      split at h
      · obtain ⟨⟨more, after⟩, hmore, h⟩ := Option.bind_eq_some_iff.mp h
        cases h
        exact ih place' slash' between ‹_› hbetween more _ hmore
      · cases h

theorem gives_lambda : Gives R (lambda nested) (Expr.Named R) := by
  refine gives_column.next fun _ => (gives_keyword _).next fun _ => ?_
  refine (gives_parametersFrom hnested _ _).next fun _ => (gives_mark _).next fun _ => ?_
  exact (hnested _).next fun _ => .pure (named_other _ _ _)

theorem gives_expression : Gives R (expression nested) (Expr.Named R) := by
  have hdisjunction := gives_disjunction hnested
  refine (gives_atKeyword _).next fun _ => .ite (gives_lambda hnested) ?_
  refine gives_column.next fun start => hdisjunction.bind fun value hvalue => ?_
  refine (gives_atKeyword _).next fun _ => .ite ?_ (.pure hvalue)
  have hconditional : Gives R (do
      keyword "if"
      let condition ← disjunction nested
      keyword "else"
      return .other start .conditional [condition, value, ← nested.rule .expression])
      (Expr.Named R) := by
    refine (gives_keyword _).next fun _ => hdisjunction.next fun _ => (gives_keyword _).next fun _ => ?_
    exact (hnested _).next fun _ => .pure (named_other _ _ _)
  refine (gives_maybe hconditional).bind fun found hfound => .pure ?_
  cases found with
  | none => exact hvalue
  | some e => exact hfound e rfl

theorem gives_rule (r : Rule) : Gives R (rule nested r) (Expr.Named R) := by
  cases r with
  | expression => exact gives_expression hnested
  | disjunction => exact gives_disjunction hnested
  | bitOr => exact gives_bitOr hnested
  | primary => exact gives_primary hnested

end Nested

-- The induction is on the number of tokens, since what is nested is read from fewer of them
theorem gives_read (field : List Char → Bool) (r : Rule) : Gives R (read field r) (Expr.Named R) := by
  intro tokens
  induction r, tokens using read.induct with
  | case1 r tokens ih =>
      rw [read]
      refine gives_rule (fun r inner hinner e rest h => ?_) r tokens
      dsimp only at h
      split at h
      · exact ih r inner ‹_› hinner e rest h
      · cases h

theorem gives_formula (field : List Char → Bool) : Gives R (formula field) (Expr.Named R) := by
  have hread := gives_read (R := R) field .expression
  refine gives_column.next fun start => hread.bind fun first hfirst => ?_
  refine (gives_atMark _).next fun _ => (gives_afterCommas hread).next fun rest => ?_
  refine (gives_maybe (gives_mark _)).next fun _ => (gives_many (gives_expect _)).next fun _ => ?_
  refine gives_peek.next fun _ => .ite .failure (.ite ?_ (.pure hfirst))
  exact .pure (named_other _ _ _)

-- An expression has its words from the names among its tokens
theorem exists_token_of_word (field : List Char → Bool) (tokens rest : List Token) (e : Expr)
    (h : formula field tokens = some (e, rest)) :
    ∀ node ∈ e.nodes, ∀ w ∈ node.words, ∃ t ∈ tokens, t.lexeme = .name w :=
  (gives_formula field tokens (fun t ht _ hid => ⟨t, ht, hid⟩) e rest h).1

end Grammar

end Formulary.Source
