import Formulary.Proofs.CommandLine.Run
import Formulary.Proofs.Notation.Description

namespace Formulary.CommandLine

namespace Ending

-- Well, or with a message to the user
def IsOrderly (e : Ending) : Prop := e.status = 0 ∨ ∃ message, e = .stopped message

theorem isOrderly_stopped (message : Text) : (stopped message).IsOrderly := .inr ⟨message, rfl⟩

theorem not_isOrderly_broken (breakdown : Breakdown) : ¬ (broken breakdown).IsOrderly := by
  simp [IsOrderly, status]

-- The first ending that is not a good one, if there is any
def first (endings : List Ending) : Ending := (endings.find? (· ≠ .done)).getD .done

theorem first_cons (e : Ending) (rest : List Ending) :
    first (e :: rest) = if e = .done then first rest else e := by
  by_cases h : e = .done
  · simp [first, h]
  · simp [first, h]

end Ending

-- Where every refusal is told together with its expression or is about printing, a row of expressions ends
-- orderly unless there is something it cannot print before it is refused anything else
theorem isOrderly_first_iff {α : Type} (result : Text → Except Refusal α) (sources : List Text)
    (h : ∀ source ∈ sources, ∀ r, result source = .error r →
      (∃ halves, r = .printing halves) ∨ r.isOwn = true) :
    (Ending.first (sources.map fun e => endingOf e (result e))).IsOrderly ↔
      ∀ halves, sources.mapM result ≠ .error (.printing halves) := by
  induction sources with
  | nil =>
      refine iff_of_true (.inl rfl) fun halves hprinting => ?_
      cases hprinting
  | cons source rest ih =>
      rw [List.forall_mem_cons] at h
      rw [List.map_cons, Ending.first_cons, List.mapM_cons]
      cases hresult : result source with
      | ok value =>
          rw [endingOf, if_pos rfl, ih h.2]
          refine forall_congr' fun halves => not_congr ?_
          cases rest.mapM result <;> simp [bind, Except.bind, pure, Except.pure]
      | error r =>
          rw [endingOf, if_neg (r.ending_ne_done source)]
          rcases h.1 r hresult with ⟨halves, rfl⟩ | hown
          · exact iff_of_false (Ending.not_isOrderly_broken _) fun hnone => hnone halves rfl
          · rw [Refusal.ending, if_pos hown]
            refine iff_of_true (Ending.isOrderly_stopped _) fun halves hprinting => ?_
            cases hprinting
            cases hown

theorem lineOf_error (wording : Source.Wording) (table : Notation) (source : Text) (r : Refusal)
    (h : lineOf wording table source = .error r) :
    (∃ halves, r = .printing halves) ∨ Markup.ofSource wording table source = .error r := by
  rcases (bind_eq_error_iff _ _ _).mp h with hrefused | ⟨m, -, htext⟩
  · exact .inr hrefused
  · exact .inl (printable_error m.text r htext)

-- Where chains can be described, nothing but the source and the printing can be wrong with one
theorem chainOf_error (wording : Source.Wording) (table : Notation) (htable : table.Describable)
    (source : Text) (r : Refusal) (h : chainOf wording table source = .error r) :
    (∃ halves, r = .printing halves) ∨ Markup.ofSource wording table source = .error r := by
  cases ht : Tree.ofSource wording source with
  | error fault =>
      rw [chainOf, ht] at h
      exact .inr ((Markup.ofSource_eq_error_iff wording _ _ _).mpr
        (.inl ⟨fault, ht, (Except.error.inj h).symm⟩))
  | ok t =>
      have hw := Tree.wellFormed_of_ofSource wording source t ht
      have hscope := Scope.ofTree_of_wellFormed table t hw
      obtain ⟨text, htext⟩ := htable.exists_describe_ofTree table t _ hscope
      rw [chainOf_of_tree wording table source t ht _ hscope, htext] at h
      exact .inl (printable_error text r h)

-- Whether it can be told what there is where a switch points to: the octets of a file, or no file
inductive Operand.Examinable (files : Files) : Operand → Prop
  | absent : Examinable files .absent
  | missing (p : Path) (h : files p = .absent) : Examinable files (.path p)
  | file (p : Path) (octets : List UInt8) (h : files p = .file octets) : Examinable files (.path p)

namespace Options

variable (o : Options) (files : Files)

-- A run ends with the first expression that is not answered well
theorem ending_answerAll (wording : Source.Wording) (table : Notation) (expressions : List Text) :
    (o.answerAll wording table expressions).ending =
      .first (expressions.map fun e => endingOf e (o.linesOf wording table e)) := by
  induction expressions with
  | nil => rfl
  | cons e rest ih =>
      rw [answerAll, Report.ending_andThen, o.ending_answer wording table e, ih, List.map_cons,
        Ending.first_cons]

-- Where chains can be described, what is printed is refused where the markup is, or cannot be printed
theorem linesOf_error (wording : Source.Wording) (table : Notation) (htable : table.Describable)
    (source : Text) (r : Refusal) (h : o.linesOf wording table source = .error r) :
    (∃ halves, r = .printing halves) ∨ Markup.ofSource wording table source = .error r := by
  rcases (bind_eq_error_iff _ _ _).mp h with hshown | ⟨shown, -, h⟩
  · rw [shownOf] at hshown
    split at hshown
    · refine chainOf_error wording table htable source r ?_
      cases hchain : chainOf wording table source <;> rw [hchain] at hshown <;> cases hshown
      rfl
    · cases hshown
  · rcases (bind_eq_error_iff _ _ _).mp h with hline | ⟨line, -, h⟩
    · exact lineOf_error wording table source r hline
    · exact absurd h (pure_ne_error _ _)

theorem HasTable.describable (table : Notation) (h : o.HasTable files table) :
    table.Describable := by
  cases h with
  | default _ => exact Notation.describable_default
  | loaded p octets loaded _ _ accepted =>
      exact Notation.describable_default.load p.text octets none loaded accepted

theorem exists_hasTable_or_refused (h : o.table.Examinable files) :
    (∃ table, o.HasTable files table) ∨ ∃ message, o.TableRefused files message := by
  generalize hgiven : o.table = operand at h
  cases h with
  | absent => exact .inl ⟨_, .default hgiven⟩
  | missing p habsent => exact .inr ⟨_, .missing p hgiven habsent⟩
  | file p octets hpresent =>
      cases hload : Notation.load p.text octets none with
      | ok loaded => exact .inl ⟨_, .loaded p octets loaded hgiven hpresent hload⟩
      | error fault => exact .inr ⟨_, .invalid p octets fault hgiven hpresent hload⟩

theorem HasTable.not_refused (table : Notation) (h : o.HasTable files table) (message : Text) :
    ¬ o.TableRefused files message := by
  intro hrefused
  obtain ⟨logged, hload⟩ := o.loadTable_of_hasTable files table h
  cases hload.symm.trans (o.loadTable_of_refused files message hrefused)

-- The octets of the input file of a run are those of a text, if there is that file
def InputIsText : Prop :=
  ∀ p octets, o.input = .path p → files p = .file octets → ∃ text, octets = Text.Utf8.encode text

-- The octets of the input file of a run, and why they are no text
inductive InputRefused : Text.Utf8.Refusal → Prop
  | refused (p : Path) (octets : List UInt8) (refusal : Text.Utf8.Refusal) (given : o.input = .path p)
      (present : files p = .file octets) (refused : Text.Utf8.decode octets = .error refusal) :
      InputRefused refusal

theorem inputIsText_iff : o.InputIsText files ↔ ∀ refusal, ¬ o.InputRefused files refusal := by
  constructor
  · rintro htext refusal ⟨p, octets, _, hgiven, hpresent, hrefused⟩
    obtain ⟨text, hencode⟩ := htext p octets hgiven hpresent
    cases hrefused.symm.trans ((Text.Utf8.decode_eq_ok_iff octets text).mpr hencode)
  · intro hnone p octets hgiven hpresent
    cases hdecode : Text.Utf8.decode octets with
    | error refusal => exact absurd (.refused p octets refusal hgiven hpresent hdecode) (hnone refusal)
    | ok text => exact ⟨text, (Text.Utf8.decode_eq_ok_iff octets text).mp hdecode⟩

theorem fileLines_of_refused (refusal : Text.Utf8.Refusal) (h : o.InputRefused files refusal) :
    o.fileLines files = .error (.breakOff (.encoding refusal)) := by
  obtain ⟨p, octets, _, hgiven, hpresent, hrefused⟩ := h
  have htextOf : Notation.textOf octets = .error refusal := by
    rw [Notation.textOf, hrefused]
    rfl
  simp only [fileLines, hgiven, hpresent, htextOf]

theorem hasDocument_of_text (p : Path) (text : List Char) (given : o.input = .path p)
    (present : files p = .file (Text.Utf8.encode text)) :
    o.HasDocument files (Text.unifyLineEnds text) :=
  .file p _ _ given present (Notation.textOf_encode text)

-- The input file is read, or it is missing, or its octets are no text
theorem input_cases (h : o.input.Examinable files) :
    (∃ document, o.HasDocument files document) ∨ (∃ message, o.InputMissing files message) ∨
      ∃ refusal, o.InputRefused files refusal := by
  generalize hgiven : o.input = operand at h
  cases h with
  | absent => exact .inl ⟨_, .none hgiven⟩
  | missing p habsent => exact .inr (.inl ⟨_, .missing p hgiven habsent⟩)
  | file p octets hpresent =>
      cases hdecode : Text.Utf8.decode octets with
      | error refusal => exact .inr (.inr ⟨refusal, .refused p octets refusal hgiven hpresent hdecode⟩)
      | ok text =>
          obtain rfl := (Text.Utf8.decode_eq_ok_iff octets text).mp hdecode
          exact .inl ⟨_, o.hasDocument_of_text files p text hgiven hpresent⟩

-- There is one document to read
theorem HasDocument.unique (document document' : List Char) (h : o.HasDocument files document)
    (h' : o.HasDocument files document') : document = document' := by
  cases h with
  | none given =>
      cases h' with
      | none _ => rfl
      | file _ _ _ given' _ _ => cases given.symm.trans given'
  | file p octets _ given present decoded =>
      cases h' with
      | none given' => cases given.symm.trans given'
      | file _ _ _ given' present' decoded' =>
          cases given.symm.trans given'
          cases present.symm.trans present'
          exact Except.ok.inj (decoded.symm.trans decoded')

-- There is one notation to set with
theorem HasTable.unique (table table' : Notation) (h : o.HasTable files table)
    (h' : o.HasTable files table') : table = table' := by
  obtain ⟨logged, hload⟩ := o.loadTable_of_hasTable files table h
  obtain ⟨logged', hload'⟩ := o.loadTable_of_hasTable files table' h'
  cases hload.symm.trans hload'
  rfl

theorem HasDocument.inputIsText (document : List Char) (h : o.HasDocument files document) :
    o.InputIsText files := by
  refine (o.inputIsText_iff files).mpr fun refusal hrefused => ?_
  have hlines := o.fileLines_of_hasDocument files document h
  cases hlines.symm.trans (o.fileLines_of_refused files refusal hrefused)

theorem InputMissing.inputIsText (message : Text) (h : o.InputMissing files message) :
    o.InputIsText files := by
  refine (o.inputIsText_iff files).mpr fun refusal hrefused => ?_
  have hlines := o.fileLines_of_missing files message h
  cases hlines.symm.trans (o.fileLines_of_refused files refusal hrefused)

theorem InputMissing.not_hasDocument (message : Text) (document : List Char)
    (h : o.InputMissing files message) : ¬ o.HasDocument files document := by
  intro hdocument
  have hlines := o.fileLines_of_hasDocument files document hdocument
  cases hlines.symm.trans (o.fileLines_of_missing files message h)

end Options

section Accepted

variable (wording : Source.Wording) (arguments : List Text) (o : Options) (input : String)
  (files : Files) (hargs : Options.ofArguments arguments = .ok o) (table : Notation)
  (htable : o.HasTable files table)

include hargs htable

theorem run_of_inputMissing (message : Text) (h : o.InputMissing files message) :
    (run wording arguments input files).output = [] ∧
      (run wording arguments input files).ending = .stopped message :=
  run_of_fileLines_error wording arguments o input files hargs table htable _
    (o.fileLines_of_missing files message h)

theorem run_of_inputRefused (refusal : Text.Utf8.Refusal) (h : o.InputRefused files refusal) :
    (run wording arguments input files).output = [] ∧
      (run wording arguments input files).ending = .broken (.encoding refusal) :=
  run_of_fileLines_error wording arguments o input files hargs table htable _
    (o.fileLines_of_refused files refusal h)

section Document

variable (document : List Char) (hdocument : o.HasDocument files document)

include hdocument

-- Once there are a notation and a document, a run ends like the first of its expressions that does not end
-- well, whether or not chains are shown
theorem ending_of_gathered :
    (run wording arguments input files).ending =
      if o.gathered input document = [] then .stopped "no expressions given"
      else .first ((o.gathered input document).map fun e =>
        endingOf e (o.linesOf wording table e)) := by
  split
  · rename_i hnone
    have hrun := run_of_hasTable wording arguments o input files hargs table htable
    rw [o.collected_of_hasDocument input files document hdocument, if_pos hnone] at hrun
    exact hrun.2
  · rename_i hsome
    obtain ⟨-, hending⟩ :=
      run_of_gathered wording arguments o input files hargs table htable document hdocument hsome
    rw [hending, o.ending_answerAll wording table]

theorem isOrderly_of_gathered_iff (h : ∀ source ∈ o.gathered input document, ∀ r,
      Markup.ofSource wording table source = .error r → r.isOwn = true) :
    (run wording arguments input files).ending.IsOrderly ↔
      ∀ halves, (o.gathered input document).mapM (o.linesOf wording table) ≠
        .error (.printing halves) := by
  have hrefusals : ∀ source ∈ o.gathered input document, ∀ r, o.linesOf wording table source = .error r →
      (∃ halves, r = .printing halves) ∨ r.isOwn = true := fun source hsource r hr =>
    (o.linesOf_error wording table (htable.describable o files table) source r hr).imp_right
      (h source hsource r)
  rw [ending_of_gathered wording arguments o input files hargs table htable document hdocument,
    ← isOrderly_first_iff _ _ hrefusals]
  split
  · rename_i hnone
    rw [hnone]
    exact iff_of_true (Ending.isOrderly_stopped _) (.inl rfl)
  · exact Iff.rfl

end Document

end Accepted

namespace Options

-- Whatever notation and document a run has, it does not come to a text that it cannot print
def PrintsAll (o : Options) (wording : Source.Wording) (input : String) (files : Files) : Prop :=
  ∀ table document, o.HasTable files table → o.HasDocument files document →
    ∀ halves, (o.gathered input document).mapM (o.linesOf wording table) ≠ .error (.printing halves)

theorem printsAll_of_hasDocument (o : Options) (wording : Source.Wording) (input : String) (files : Files)
    (table : Notation) (htable : o.HasTable files table) (document : List Char)
    (hdocument : o.HasDocument files document) :
    o.PrintsAll wording input files ↔
      ∀ halves, (o.gathered input document).mapM (o.linesOf wording table) ≠
        .error (.printing halves) := by
  refine ⟨fun h => h table document htable hdocument, fun h table' document' htable' hdocument' => ?_⟩
  rw [htable'.unique o files _ _ htable, hdocument'.unique o files _ _ hdocument]
  exact h

end Options

-- Whatever octets the two files of a run hold, the run ends well or with a message, exactly if the notation
-- file is refused or the input file is a text and there are octets for all that is printed. For a notation
-- file that is no text, no document or no notation stops the run before the input file is looked at, and the
-- functions of any other one can be shown; but an input file that is no text breaks the run off, and so does
-- a half of a pair in what is to be printed
theorem run_ends_orderly_iff_input_is_text (wording : Source.Wording) (arguments : List Text) (o : Options)
    (input : String) (files : Files) (hargs : Options.ofArguments arguments = .ok o)
    (htable : o.table.Examinable files) (hinput : o.input.Examinable files)
    (hsources : ∀ table document, o.HasTable files table → o.HasDocument files document →
      ∀ source ∈ o.gathered input document, ∀ r, Markup.ofSource wording table source = .error r →
        r.isOwn = true) :
    let report := run wording arguments input files
    (report.ending.IsOrderly ↔ (∃ message, o.TableRefused files message) ∨
      o.InputIsText files ∧ o.PrintsAll wording input files) ∧
    (∀ message, o.TableRefused files message → report = .stop message) ∧
    ∀ table, o.HasTable files table →
      (∀ refusal, o.InputRefused files refusal →
        report.output = [] ∧ report.ending = .broken (.encoding refusal)) ∧
      (∀ message, o.InputMissing files message →
        report.output = [] ∧ report.ending = .stopped message) ∧
      ∀ document, o.HasDocument files document →
        report.ending =
          if o.gathered input document = [] then .stopped "no expressions given"
          else .first ((o.gathered input document).map fun e =>
            endingOf e (o.linesOf wording table e)) := by
  intro report
  have hstop (message : Text) (h : o.TableRefused files message) : report = .stop message :=
    run_of_loadTable_error wording arguments o input files hargs _ (o.loadTable_of_refused files message h)
  refine ⟨?_, hstop, fun table h => ⟨fun refusal hrefused => ?_, fun message hmissing => ?_,
    fun document hdocument => ?_⟩⟩
  · rcases o.exists_hasTable_or_refused files htable with ⟨table, h⟩ | ⟨message, h⟩
    · have hnot : ¬ ∃ message, o.TableRefused files message := by
        rintro ⟨message, hmessage⟩
        exact h.not_refused o files table message hmessage
      rw [or_iff_right hnot]
      rcases o.input_cases files hinput with
        ⟨document, hdocument⟩ | ⟨message, hmissing⟩ | ⟨refusal, hrefused⟩
      · rw [and_iff_right (hdocument.inputIsText o files document),
          o.printsAll_of_hasDocument wording input files table h document hdocument]
        exact isOrderly_of_gathered_iff wording arguments o input files hargs table h document hdocument
          (hsources table document h hdocument)
      · refine iff_of_true ?_ ⟨hmissing.inputIsText o files message, fun _ document _ hdocument => ?_⟩
        · rw [(run_of_inputMissing wording arguments o input files hargs table h message hmissing).2]
          exact Ending.isOrderly_stopped _
        · exact absurd hdocument (hmissing.not_hasDocument o files message document)
      · refine iff_of_false ?_ fun htext => (o.inputIsText_iff files).mp htext.1 refusal hrefused
        rw [(run_of_inputRefused wording arguments o input files hargs table h refusal hrefused).2]
        exact Ending.not_isOrderly_broken _
    · refine iff_of_true ?_ (.inl ⟨message, h⟩)
      rw [hstop message h]
      exact Ending.isOrderly_stopped _
  · exact run_of_inputRefused wording arguments o input files hargs table h refusal hrefused
  · exact run_of_inputMissing wording arguments o input files hargs table h message hmissing
  · exact ending_of_gathered wording arguments o input files hargs table h document hdocument

-- The chain of a name is shown, and the next line is refused
theorem run_ends_orderly_of_refused_line :
    let wording : Source.Wording := fun _ => ⟨"'(' was never closed", some 1⟩
    let p : Path := ⟨"", ["f"]⟩
    let files := Files.ofList [(p, Text.Utf8.encode "x\n(".toList)]
    let report := run wording ["--show-scope", "--input", "f"] "" files
    report.ending.IsOrderly ∧
      report.ending = .stopped "error: (: invalid expression: '(' was never closed (column 1)" := by
  intro wording p files report
  let o : Options := ⟨[], .path p, .absent, true, false⟩
  have hx : Markup.ofSource wording .default "x" = .ok ⟨"x"⟩ := by decide +kernel
  have hopen : Markup.ofSource wording .default "(" =
      .error (.source (.malformed ⟨"'(' was never closed", some 1⟩)) := by
    decide +kernel
  have hpresent : files p = .file (Text.Utf8.encode "x\n(".toList) := rfl
  have hdocument : o.HasDocument files "x\n(".toList := o.hasDocument_of_text files p _ rfl hpresent
  have hgathered : o.gathered "" "x\n(".toList = [("x" : Text), "("] := by decide +kernel
  have hsources : ∀ table document, o.HasTable files table → o.HasDocument files document →
      ∀ source ∈ o.gathered "" document, ∀ r, Markup.ofSource wording table source = .error r →
        r.isOwn = true := by
    rintro _ document (_ | ⟨_, _, _, ⟨⟩, _, _⟩) hd
    rw [hd.unique o files _ _ hdocument, hgathered, List.forall_mem_cons, List.forall_mem_singleton]
    constructor
    · intro r hr
      cases hx.symm.trans hr
    · intro r hr
      cases hopen.symm.trans hr
      rfl
  obtain ⟨-, -, hends⟩ := run_ends_orderly_iff_input_is_text wording
    ["--show-scope", "--input", "f"] o "" files rfl .absent (.file p _ hpresent) hsources
  -- Under the default notation the chain is always there to be shown
  have hlines (e : Text) : endingOf e (o.linesOf wording .default e) = endingOf e (lineOf wording .default e) :=
    (o.ending_answer wording .default e).symm.trans (o.ending_answer_default wording e)
  have hending : report.ending =
      .stopped "error: (: invalid expression: '(' was never closed (column 1)" := by
    rw [(hends .default (.default rfl)).2.2 _ hdocument, hgathered]
    simp only [List.map_cons, hlines, lineOf_of_refusal wording .default _ _ hopen,
      lineOf_of_markup wording .default _ _ hx (Text.hasOctets_ofString "x")]
    rfl
  exact ⟨hending ▸ Ending.isOrderly_stopped _, hending⟩

-- Where neither file is a text, the notation file is what the run stops for
example :
    run (fun _ => ⟨"invalid syntax", some 1⟩) ["--input", "f", "--notation", "n"] ""
        (Files.ofList [(⟨"", ["f"]⟩, [0xff]), (⟨"", ["n"]⟩, [0xff])]) =
      .stop ("invalid notation file n: 'utf-8' codec can't decode byte 0xff in position 0: " ++
        "invalid start byte") := by
  decide +kernel

-- A source that can be set does not help a run whose input file is no text
theorem run_breaks_on_input_that_is_no_text :
    let wording : Source.Wording := fun _ => ⟨"invalid syntax", some 1⟩
    let files := Files.ofList [(⟨"", ["f"]⟩, [0xff])]
    let o : Options := ⟨["x"], .path ⟨"", ["f"]⟩, .absent, false, false⟩
    let report := run wording ["x", "--input", "f"] "" files
    Options.ofArguments ["x", "--input", "f"] = .ok o ∧
      Markup.ofSource wording .default "x" = .ok ⟨"x"⟩ ∧
      files ⟨"", ["f"]⟩ = .file [0xff] ∧
      report.printed = [] ∧ report.ending = .broken (.encoding ⟨.start, 0, 1, 0xff⟩) ∧
      ¬ report.ending.IsOrderly := by
  intro wording files o report
  have hending : report.ending = .broken (.encoding ⟨.start, 0, 1, 0xff⟩) := by decide +kernel
  refine ⟨rfl, by decide +kernel, rfl, by decide +kernel, hending, ?_⟩
  rw [hending]
  exact Ending.not_isOrderly_broken _

end Formulary.CommandLine
