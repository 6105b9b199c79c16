import Formulary.CommandLine.Run
import Formulary.Proofs.Formula
import Formulary.Proofs.Scope.Description
import Formulary.Proofs.Source.Characters

namespace Formulary

open CommandLine

namespace Refusal

-- What the refusal is where it is not told together with the expression
def breakdown : Refusal → Breakdown
  | .source fault => .source fault
  | .setting failure => .setting failure
  | .printing halves => .printing halves

-- How a run ends on an expression that is refused
def ending (expression : Text) (r : Refusal) : Ending :=
  if r.isOwn then .stopped ("error: " ++ expression ++ ": " ++ r.message) else .broken r.breakdown

theorem ending_ne_done (expression : Text) (r : Refusal) : r.ending expression ≠ .done := by
  unfold ending
  split <;> simp

end Refusal

-- A tree without a chain is not set
theorem Tree.typeset_of_ofTree_error (table : Notation) (t : Tree) (failure : Failure)
    (h : Scope.ofTree table t = .error failure) : t.typeset table = .error failure := by
  rw [typeset, h]
  rfl

-- There are octets for every name in the chain of a formula
theorem Scope.fromTree_default_of_builds (e : Source.Expr) (b : Source.Built)
    (h : Source.Expr.Builds e b) : FromTree Binding.HasOctets .default b.tree where
  head args name hmem := h.throughout_nameHasOctets e b _ hmem
  function name f hf := by
    obtain ⟨known, -, heq⟩ := List.mem_map.mp (OrderedMap.mem_of_get?_ofList _ name f hf)
    cases heq
    exact Text.hasOctets_ofString known.1
  name name hmem := h.throughout_nameHasOctets e b _ hmem
  symbol name s hs := by
    obtain ⟨known, -, heq⟩ := List.mem_map.mp (OrderedMap.mem_of_get?_ofList _ name s hs)
    cases heq
    exact Text.hasOctets_ofString known.1

namespace CommandLine

-- A text, if it can be printed
def printable (text : Text) : Except Refusal Text :=
  match text.characters with
  | .ok _ => .ok text
  | .error halves => .error (.printing halves)

theorem printable_of_hasOctets (text : Text) (h : text.HasOctets) : printable text = .ok text := by
  obtain ⟨characters, hcharacters⟩ := (Text.hasOctets_iff text).mp h
  rw [printable, hcharacters]

theorem printable_error (text : Text) (r : Refusal) (h : printable text = .error r) :
    ∃ halves, r = .printing halves := by
  rw [printable] at h
  split at h
  · cases h
  · exact ⟨_, (Except.error.inj h).symm⟩

theorem printable_of_standsIn (text : Text) (halves : Text.Unpaired) (h : halves.StandsIn text) :
    printable text = .error (.printing halves) := by
  rw [printable, (Text.characters_eq_error_iff text halves).mpr h]

section Answered

variable (wording : Source.Wording) (table : Notation) (source : Text)

-- The markup of a formula in source form, if it can be printed
def lineOf : Except Refusal Text := do
  printable (← Markup.ofSource wording table source).text

theorem lineOf_of_markup (m : Markup) (hm : Markup.ofSource wording table source = .ok m)
    (hoctets : m.text.HasOctets) : lineOf wording table source = .ok m.text := by
  rw [lineOf, hm]
  exact printable_of_hasOctets m.text hoctets

theorem lineOf_of_refusal (r : Refusal) (hr : Markup.ofSource wording table source = .error r) :
    lineOf wording table source = .error r := by
  rw [lineOf, hr]
  rfl

theorem lineOf_of_standsIn (m : Markup) (hm : Markup.ofSource wording table source = .ok m)
    (halves : Text.Unpaired) (h : halves.StandsIn m.text) :
    lineOf wording table source = .error (.printing halves) := by
  rw [lineOf, hm]
  exact printable_of_standsIn m.text halves h

-- The chain of a formula in source form, if it can be printed
def chainOf : Except Refusal Text :=
  match Tree.ofSource wording source with
  | .error fault => .error (.source fault)
  | .ok t =>
    match Scope.ofTree table t >>= Scope.describe with
    | .error failure => .error (.setting failure)
    | .ok text => printable text

section Tree

variable (t : Tree) (ht : Tree.ofSource wording source = .ok t)

include ht

theorem chainOf_of_tree (scope : Scope) (hscope : Scope.ofTree table t = .ok scope) :
    chainOf wording table source =
      match scope.describe with
      | .error failure => .error (.setting failure)
      | .ok text => printable text := by
  rw [chainOf, ht]
  simp only [hscope]
  rfl

theorem lineOf_of_tree :
    lineOf wording table source =
      match t.typeset table with
      | .error failure => .error (.setting failure)
      | .ok m => printable m.text := by
  rw [lineOf, Markup.ofSource, ht]
  cases h : t.typeset table <;> simp only [h] <;> rfl

end Tree

-- The chain, if it is asked for
def Options.shownOf (o : Options) : Except Refusal (List Text) :=
  if o.showScope then (chainOf wording table source).map ([·]) else .ok []

-- What is printed for an expression, its chain before its markup
def Options.linesOf (o : Options) : Except Refusal (List Text) := do
  return (← o.shownOf wording table source) ++ [← lineOf wording table source]

end Answered

-- How a run goes on after an expression, by what becomes of the expression
def endingOf {α : Type} (expression : Text) : Except Refusal α → Ending
  | .ok _ => .done
  | .error r => r.ending expression

theorem endingOf_map {α β : Type} (expression : Text) (x : Except Refusal α) (f : α → β) :
    endingOf expression (x.map f) = endingOf expression x := by
  cases x <;> rfl

theorem failed_eq_ending (expression : Text) (failure : Failure) :
    failed expression failure = (Refusal.setting failure).ending expression := by
  cases failure <;> rfl

namespace Report

theorem ending_andThen (r : Report) (next : Unit → Report) :
    (r.andThen next).ending = if r.ending = .done then (next ()).ending else r.ending := by
  unfold andThen
  cases h : r.ending <;> simp [h]

theorem printed_andThen (r : Report) (next : Unit → Report) :
    (r.andThen next).printed = r.printed ++ if r.ending = .done then (next ()).printed else [] := by
  unfold andThen
  cases h : r.ending <;> simp

-- A log line never keeps a run from going on
theorem ending_logging_andThen (lines : List Text) (next : Unit → Report) :
    ((logging lines).andThen next).ending = (next ()).ending := rfl

theorem ending_print (expression text : Text) :
    (print text).ending = endingOf expression (printable text) := by
  rw [print, printable]
  cases text.characters <;> rfl

theorem printed_print (text : Text) : (print text).printed = (printable text).toOption.toList := by
  rw [print, printable]
  cases text.characters <;> rfl

end Report

namespace Options

section Answered

variable (o : Options) (wording : Source.Wording) (table : Notation) (expression : Text)

theorem answer_of_fault (fault : Source.Fault) (h : Tree.ofSource wording expression = .error fault) :
    o.answer wording table expression = ⟨[], [], (Refusal.source fault).ending expression⟩ := by
  rw [answer, h]
  cases fault <;> rfl

section Tree

variable (t : Tree) (ht : Tree.ofSource wording expression = .ok t)

include ht

theorem ending_shown (scope : Scope) (hscope : Scope.ofTree table t = .ok scope) :
    (o.shown expression t scope).ending = endingOf expression (o.shownOf wording table expression) := by
  rw [shown, shownOf]
  cases o.showScope with
  | false => rfl
  | true =>
      have hchain := chainOf_of_tree wording table expression t ht scope hscope
      rw [if_pos rfl, endingOf_map, hchain, Bool.not_true, if_neg Bool.false_ne_true,
        Report.ending_logging_andThen]
      cases scope.describe with
      | error failure => exact failed_eq_ending expression failure
      | ok text => exact Report.ending_print expression text

theorem ending_set (scope : Scope) :
    (o.set table expression t scope).ending = endingOf expression (lineOf wording table expression) := by
  rw [set, lineOf_of_tree wording table expression t ht]
  cases t.typeset table with
  | error failure => exact failed_eq_ending expression failure
  | ok m => exact Report.ending_print expression m.text

theorem printed_set (scope : Scope) :
    (o.set table expression t scope).printed =
      (lineOf wording table expression).toOption.toList := by
  rw [set, lineOf_of_tree wording table expression t ht]
  cases t.typeset table with
  | error failure => rfl
  | ok m => exact Report.printed_print m.text

end Tree

theorem endingOf_linesOf :
    endingOf expression (o.linesOf wording table expression) =
      if endingOf expression (o.shownOf wording table expression) = .done then
        endingOf expression (lineOf wording table expression)
      else endingOf expression (o.shownOf wording table expression) := by
  rw [linesOf]
  cases o.shownOf wording table expression with
  | error r => exact (if_neg (r.ending_ne_done expression)).symm
  | ok shown => cases lineOf wording table expression <;> rfl

-- An expression is answered by what can be printed for it, or else the run ends as the refusal says
theorem ending_answer :
    (o.answer wording table expression).ending =
      endingOf expression (o.linesOf wording table expression) := by
  cases ht : Tree.ofSource wording expression with
  | error fault =>
      rw [o.answer_of_fault wording table expression fault ht, linesOf, shownOf, chainOf, lineOf,
        Markup.ofSource, ht]
      cases o.showScope <;> rfl
  | ok t =>
      cases hscope : Scope.ofTree table t with
      | error failure =>
          have hline := lineOf_of_tree wording table expression t ht
          rw [t.typeset_of_ofTree_error table failure hscope] at hline
          rw [linesOf, shownOf, chainOf, hline, ht]
          simp only [answer, ht, hscope, failed_eq_ending]
          cases o.showScope <;> rfl
      | ok scope =>
          have hanswer : o.answer wording table expression =
              (o.shown expression t scope).andThen fun _ => o.set table expression t scope := by
            rw [answer, ht]
            simp only [hscope]
          rw [hanswer, Report.ending_andThen, o.ending_shown wording table expression t ht scope hscope,
            o.ending_set wording table expression t ht scope, endingOf_linesOf]

-- Where no chains are shown, the markup is all there is to print
theorem linesOf_quiet (h : o.showScope = false) :
    o.linesOf wording table expression = (lineOf wording table expression).map ([·]) := by
  rw [linesOf, shownOf, if_neg (by simp [h])]
  cases lineOf wording table expression <;> rfl

theorem ending_answer_quiet (h : o.showScope = false) :
    (o.answer wording table expression).ending =
      endingOf expression (lineOf wording table expression) := by
  rw [o.ending_answer, o.linesOf_quiet wording table expression h]
  cases lineOf wording table expression <;> rfl

theorem printed_answer_quiet (h : o.showScope = false) :
    (o.answer wording table expression).printed =
      (lineOf wording table expression).toOption.toList := by
  cases ht : Tree.ofSource wording expression with
  | error fault =>
      rw [o.answer_of_fault wording table expression fault ht, lineOf, Markup.ofSource, ht]
      rfl
  | ok t =>
      cases hscope : Scope.ofTree table t with
      | error failure =>
          have hline := lineOf_of_tree wording table expression t ht
          rw [t.typeset_of_ofTree_error table failure hscope] at hline
          rw [hline]
          simp only [answer, ht, hscope]
          rfl
      | ok scope =>
          have hset : (o.answer wording table expression).printed =
              (o.set table expression t scope).printed := by
            simp [answer, ht, hscope, shown, h, Report.printed_andThen, Report.empty]
          rw [hset, o.printed_set wording table expression t ht scope]

end Answered

section Default

variable (o : Options) (wording : Source.Wording) (source : Text)

-- Every function of the default notation has a line, and there are octets for its names and for those of
-- the source
theorem exists_shownOf_default (t : Tree) (ht : Tree.ofSource wording source = .ok t) :
    ∃ texts, o.shownOf wording .default source = .ok texts := by
  obtain ⟨e, b, -, hbuilds, rfl⟩ := Tree.builds_of_ofSource wording source t ht
  have hscope := Scope.ofTree_of_wellFormed .default b.tree hbuilds.wellFormed
  obtain ⟨text, htext⟩ := Notation.describable_default.exists_describe_ofTree _ _ _ hscope
  have hoctets : text.HasOctets := Scope.hasOctets_describe _ text htext
    ((Scope.fromTree_default_of_builds e b hbuilds).forall_ofTree _ _ _ _ hscope)
  have hchain : chainOf wording .default source = .ok text := by
    rw [chainOf_of_tree wording .default source b.tree ht _ hscope, htext]
    exact printable_of_hasOctets text hoctets
  rw [shownOf, hchain]
  split <;> exact ⟨_, rfl⟩

theorem ending_answer_default :
    (o.answer wording .default source).ending = endingOf source (lineOf wording .default source) := by
  cases ht : Tree.ofSource wording source with
  | error fault =>
      rw [o.answer_of_fault wording .default source fault ht, lineOf, Markup.ofSource, ht]
      rfl
  | ok t =>
      obtain ⟨texts, htexts⟩ := o.exists_shownOf_default wording source t ht
      rw [o.ending_answer, o.endingOf_linesOf, htexts]
      exact if_pos rfl

end Default

-- Under the default notation every refusal is about the source or about a number of arguments, and is
-- told together with the expression, unless there is a half of a pair or a NUL in the source, or an integer
-- constant that is too long to be written comes before everything else that is wrong. These break the run
-- off, and so does markup that cannot be printed
theorem refusals_of_default (wording : Source.Wording) (source : Text) :
    ((∀ r, Markup.ofSource wording .default source = .error r → r.isOwn = true) ↔
      source.HasOctets ∧ .char '\x00' ∉ source ∧
      ∀ t, Tree.ofSource wording source = .ok t →
        t.postorder.findSome? (Tree.fault? .default) ≠ some .longInteger) ∧
    (∀ r, Markup.ofSource wording .default source = .error r →
      (∃ halves : Text.Unpaired, r = .source (.unpaired halves) ∧ r.isOwn = false ∧
        halves.StandsIn (Text.trim (·.is Text.isBlank) source)) ∨
      (r = .source .nul ∧ r.isOwn = false ∧ .char '\x00' ∈ source) ∨
      (∃ text, r = .source (.malformed (wording text)) ∧ r.isOwn = true ∧
        Text.trim (·.is Text.isBlank) source = Text.ofChars text ∧
        Source.Expr.ofText? (Text.unifyLineEnds text) = none) ∨
      (∃ e fault, r = .source fault ∧ r.isOwn = true ∧ Source.Expr.ofSource wording source = .ok e ∧
        e.toTree = .error fault ∧ fault.IsUnsupported) ∨
      (∃ head expected actual, r = .setting (.arity head expected actual) ∧ r.isOwn = true) ∨
      (r = .setting .longInteger ∧ r.isOwn = false ∧
        ∃ e column n, Source.Expr.ofSource wording source = .ok e ∧
          .constant column (.integer n) ∈ e.nodes ∧ hasDecimalText n.natAbs = false)) ∧
    ∀ o : Options,
      (∀ r, Markup.ofSource wording .default source = .error r →
        (o.answer wording .default source).ending =
          if r.isOwn then .stopped ("error: " ++ source ++ ": " ++ r.message)
          else .broken r.breakdown) ∧
      ∀ m, Markup.ofSource wording .default source = .ok m →
        (m.text.HasOctets → (o.answer wording .default source).ending = .done) ∧
        ∀ halves : Text.Unpaired, halves.StandsIn m.text →
          (o.answer wording .default source).ending = .broken (.printing halves) := by
  refine ⟨Markup.ofSource_default_own_iff wording source, fun r hr => ?_, fun o => ⟨fun r hr => ?_,
    fun m hm => ⟨fun hoctets => ?_, fun halves hstands => ?_⟩⟩⟩
  · rcases Markup.ofSource_default_error wording source r hr with
      ⟨fault, rfl, hfault⟩ | ⟨head, expected, actual, rfl⟩ | ⟨rfl, t, ht, hlong⟩
    · rcases Tree.ofSource_error wording source fault hfault with
        ⟨halves, rfl, hstands⟩ | ⟨rfl, hnul⟩ | ⟨text, rfl, htext, hnone⟩ | ⟨e, he, htree, hunsupported⟩
      · exact .inl ⟨halves, rfl, rfl, hstands⟩
      · exact .inr (.inl ⟨rfl, rfl, hnul⟩)
      · exact .inr (.inr (.inl ⟨text, rfl, rfl, htext, hnone⟩))
      · refine .inr (.inr (.inr (.inl ⟨e, fault, rfl, ?_, he, htree, hunsupported⟩)))
        cases fault <;> first | rfl | exact hunsupported.elim
    · exact .inr (.inr (.inr (.inr (.inl ⟨head, expected, actual, rfl, rfl⟩))))
    · exact .inr (.inr (.inr (.inr (.inr
        ⟨rfl, rfl, Tree.exists_long_constant wording source t ht hlong⟩))))
  · rw [o.ending_answer_default, lineOf_of_refusal wording .default source r hr]
    rfl
  · rw [o.ending_answer_default, lineOf_of_markup wording .default source m hm hoctets]
    rfl
  · rw [o.ending_answer_default, lineOf_of_standsIn wording .default source m hm halves hstands]
    rfl

-- A NUL ends the run without a word about the expression
theorem answer_default_of_nul :
    let o : Options := ⟨[], .absent, .absent, false, false⟩
    let wording : Source.Wording := fun _ => ⟨"invalid syntax", some 1⟩
    Markup.ofSource wording .default "x\x00" = .error (.source .nul) ∧
      (o.answer wording .default "x\x00").ending = .broken (.source .nul) := by
  intro o wording
  have hnul : Tree.ofSource wording "x\x00" = .error .nul :=
    (Tree.ofSource_eq_nul_iff wording _).mpr ⟨Text.hasOctets_ofString _, by decide +kernel⟩
  have hrefused : Markup.ofSource wording .default "x\x00" = .error (.source .nul) :=
    (Markup.ofSource_eq_error_iff wording _ _ _).mpr (.inl ⟨_, hnul, rfl⟩)
  refine ⟨hrefused, ?_⟩
  rw [o.ending_answer_default, lineOf_of_refusal wording .default _ _ hrefused]
  rfl

end Options

end CommandLine

end Formulary
