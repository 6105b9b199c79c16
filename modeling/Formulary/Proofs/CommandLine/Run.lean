import Formulary.Proofs.CommandLine.Answer
import Formulary.Proofs.Text.Lines

namespace Formulary

namespace Text

-- What is left of each line without the blanks around it, where anything is
def stripped (lines : List (List Char)) : List Text :=
  ((lines.map strip).filter fun line => !line.isEmpty).map ofChars

theorem stripped_splitOnP (isEnd : Char → Bool) (text : List Char) :
    (filledLines isEnd text).map ofChars = stripped (text.splitOnP isEnd) := by
  rw [filledLines, stripped, pieces_eq_splitOnP]

end Text

namespace CommandLine

theorem expandDashes_nil (expressions : List Text) :
    expandDashes [] expressions = expressions.filter (· ≠ ("-" : Text)) := by
  induction expressions with
  | nil => rfl
  | cons e rest ih =>
      by_cases h : e = "-"
      · simp [expandDashes, h, ih]
      · simp [expandDashes, h, ih]

-- The lines stand where the first dash stood
theorem expandDashes_eq (lines expressions : List Text) :
    expandDashes lines expressions =
      expressions.takeWhile (· ≠ ("-" : Text)) ++ (if ("-" : Text) ∈ expressions then lines else []) ++
        (expressions.dropWhile (· ≠ ("-" : Text))).filter (· ≠ ("-" : Text)) := by
  induction expressions with
  | nil => rfl
  | cons e rest ih =>
      by_cases h : e = "-"
      · simp [expandDashes, h, expandDashes_nil]
      · simp [expandDashes, h, ih, Ne.symm h]

namespace Options

-- The expressions of a run, given its standard input and the document in its input file
def gathered (o : Options) (input : String) (document : List Char) : List Text :=
  o.expressions.takeWhile (· ≠ ("-" : Text)) ++
    (if ("-" : Text) ∈ o.expressions then
      Text.stripped ((Text.unifyLineEnds input.toList).splitOnP Text.isLineFeed) else []) ++
    (o.expressions.dropWhile (· ≠ ("-" : Text))).filter (· ≠ ("-" : Text)) ++
    Text.stripped (document.splitOnP Text.isLineBreak)

-- What there is to tell about the notation file of a run that cannot start
inductive TableRefused (o : Options) (files : Files) : Text → Prop
  | missing (p : Path) (given : o.table = .path p) (absent : files p = .absent) :
      TableRefused o files ("missing notation file: " ++ p.text)
  | invalid (p : Path) (octets : List UInt8) (fault : Notation.FileFault)
      (given : o.table = .path p) (present : files p = .file octets)
      (rejected : Notation.load p.text octets none = .error fault) :
      TableRefused o files ("invalid notation file " ++ p.text ++ ": " ++ fault.message)

-- The notation of a run: the default one, or that with a file laid over it
inductive HasTable (o : Options) (files : Files) : Notation → Prop
  | default (given : o.table = .absent) : HasTable o files .default
  | loaded (p : Path) (octets : List UInt8) (loaded : Notation.Loaded)
      (given : o.table = .path p) (present : files p = .file octets)
      (accepted : Notation.load p.text octets none = .ok loaded) :
      HasTable o files loaded.table

-- The text of the input file of a run. Without one there is no text
inductive HasDocument (o : Options) (files : Files) : List Char → Prop
  | none (given : o.input = .absent) : HasDocument o files []
  | file (p : Path) (octets : List UInt8) (document : List Char)
      (given : o.input = .path p) (present : files p = .file octets)
      (decoded : Notation.textOf octets = .ok document) : HasDocument o files document

inductive InputMissing (o : Options) (files : Files) : Text → Prop
  | missing (p : Path) (given : o.input = .path p) (absent : files p = .absent) :
      InputMissing o files ("missing input file: " ++ p.text)

theorem loadTable_of_hasTable (o : Options) (files : Files) (table : Notation)
    (h : o.HasTable files table) : ∃ logged, o.loadTable files = .ok (table, logged) := by
  cases h with
  | default given => exact ⟨[], by rw [loadTable, given]⟩
  | loaded p octets loaded given present accepted =>
      simp only [loadTable, given, present, accepted, Except.ok.injEq, Prod.mk.injEq, true_and,
        exists_eq']

theorem loadTable_of_refused (o : Options) (files : Files) (message : Text)
    (h : o.TableRefused files message) : o.loadTable files = .error (.stop message) := by
  cases h with
  | missing p given absent =>
      simp only [loadTable, given, absent]
  | invalid p octets fault given present rejected =>
      simp only [loadTable, given, present, rejected]

theorem fileLines_of_hasDocument (o : Options) (files : Files) (document : List Char)
    (h : o.HasDocument files document) :
    o.fileLines files = .ok (Text.stripped (document.splitOnP Text.isLineBreak)) := by
  cases h with
  | none given => simp [fileLines, given, Text.stripped, Text.strip, Text.trim]
  | file p octets document given present decoded =>
      simp only [fileLines, given, present, decoded, Text.stripped_splitOnP]

theorem fileLines_of_missing (o : Options) (files : Files) (message : Text)
    (h : o.InputMissing files message) : o.fileLines files = .error (.stop message) := by
  cases h with
  | missing p given absent => simp only [fileLines, given, absent]

theorem collected_of_hasDocument (o : Options) (input : String) (files : Files)
    (document : List Char) (h : o.HasDocument files document) :
    o.collected input files =
      if o.gathered input document = [] then .error (.stop "no expressions given")
      else .ok (o.gathered input document) := by
  have hgathered : expandDashes (inputLines input) o.expressions ++
      Text.stripped (document.splitOnP Text.isLineBreak) = o.gathered input document := by
    rw [expandDashes_eq, inputLines, Text.stripped_splitOnP]
    rfl
  rw [collected, o.fileLines_of_hasDocument files document h]
  simp only [bind, Except.bind, hgathered, List.isEmpty_iff]
  rfl

section Quiet

variable (o : Options) (hquiet : o.showScope = false) (wording : Source.Wording) (table : Notation)

include hquiet

-- One expression more: its line is printed and the run goes on, or nothing is printed and it ends
theorem answerAll_cons_of_line (expression : Text) (rest : List Text) (line : Text)
    (h : lineOf wording table expression = .ok line) :
    (o.answerAll wording table (expression :: rest)).printed =
        line :: (o.answerAll wording table rest).printed ∧
      (o.answerAll wording table (expression :: rest)).ending =
        (o.answerAll wording table rest).ending := by
  have hprinted := o.printed_answer_quiet wording table expression hquiet
  have hending := o.ending_answer_quiet wording table expression hquiet
  rw [h] at hprinted hending
  rw [endingOf] at hending
  simp [answerAll, Report.printed_andThen, Report.ending_andThen, hending, hprinted, Except.toOption]

theorem answerAll_cons_of_refusal (expression : Text) (rest : List Text) (r : Refusal)
    (h : lineOf wording table expression = .error r) :
    (o.answerAll wording table (expression :: rest)).printed = [] ∧
      (o.answerAll wording table (expression :: rest)).ending = r.ending expression := by
  have hprinted := o.printed_answer_quiet wording table expression hquiet
  have hending := o.ending_answer_quiet wording table expression hquiet
  rw [h] at hprinted hending
  have hstop : (o.answer wording table expression).ending ≠ .done := by
    rw [hending]
    exact r.ending_ne_done expression
  rw [answerAll, Report.printed_andThen, Report.ending_andThen, if_neg hstop, if_neg hstop, hprinted,
    hending]
  exact ⟨rfl, rfl⟩

-- What comes first is printed in order, and what comes after it does not depend on it
theorem answerAll_append (first rest : List Text) (ms : List Markup)
    (h : first.mapM (Markup.ofSource wording table) = .ok ms) (hoctets : ∀ m ∈ ms, m.text.HasOctets) :
    (o.answerAll wording table (first ++ rest)).printed =
        ms.map Markup.text ++ (o.answerAll wording table rest).printed ∧
      (o.answerAll wording table (first ++ rest)).ending =
        (o.answerAll wording table rest).ending := by
  induction first generalizing ms with
  | nil =>
      cases h
      exact ⟨rfl, rfl⟩
  | cons expression more ih =>
      rw [List.mapM_cons] at h
      obtain ⟨m, hm, h⟩ := (bind_eq_ok_iff _ _ _).mp h
      obtain ⟨ms', hmore, h⟩ := (bind_eq_ok_iff _ _ _).mp h
      cases h
      rw [List.forall_mem_cons] at hoctets
      obtain ⟨hprinted, hending⟩ := ih ms' hmore hoctets.2
      obtain ⟨hfirst, hnext⟩ := o.answerAll_cons_of_line hquiet wording table expression (more ++ rest)
        m.text (lineOf_of_markup wording table expression m hm hoctets.1)
      rw [List.cons_append, hfirst, hnext, hprinted, hending]
      exact ⟨rfl, rfl⟩

end Quiet

end Options

-- What becomes of the expressions of a run once there is a notation
def Options.answers (o : Options) (wording : Source.Wording) (table : Notation) :
    Except Report (List Text) → Report
  | .error report => report
  | .ok expressions => o.answerAll wording table expressions

section Accepted

variable (wording : Source.Wording) (arguments : List Text) (o : Options) (input : String)
  (files : Files) (hargs : Options.ofArguments arguments = .ok o)

include hargs

theorem run_of_loadTable_error (report : Report) (h : o.loadTable files = .error report) :
    run wording arguments input files = report := by
  rw [run, hargs]
  simp only [Options.run, h]

-- With a notation, a run prints what its expressions make it print
theorem run_of_hasTable (table : Notation) (h : o.HasTable files table) :
    (run wording arguments input files).output =
        (o.answers wording table (o.collected input files)).output ∧
      (run wording arguments input files).ending =
        (o.answers wording table (o.collected input files)).ending := by
  obtain ⟨logged, hload⟩ := o.loadTable_of_hasTable files table h
  rw [run, hargs]
  simp only [Options.run, hload]
  cases o.collected input files <;> exact ⟨rfl, rfl⟩

theorem run_of_fileLines_error (table : Notation) (h : o.HasTable files table) (report : Report)
    (hlines : o.fileLines files = .error report) :
    (run wording arguments input files).output = report.output ∧
      (run wording arguments input files).ending = report.ending := by
  have hcollected : o.collected input files = .error report := by
    rw [Options.collected, hlines]
    rfl
  have hrun := run_of_hasTable wording arguments o input files hargs table h
  rwa [hcollected] at hrun

theorem run_of_gathered (table : Notation) (h : o.HasTable files table) (document : List Char)
    (hdocument : o.HasDocument files document) (hsome : o.gathered input document ≠ []) :
    (run wording arguments input files).output =
        (o.answerAll wording table (o.gathered input document)).output ∧
      (run wording arguments input files).ending =
        (o.answerAll wording table (o.gathered input document)).ending := by
  have hrun := run_of_hasTable wording arguments o input files hargs table h
  rwa [o.collected_of_hasDocument input files document hdocument, if_neg hsome] at hrun

section Quiet

variable (hquiet : o.showScope = false) (table : Notation) (htable : o.HasTable files table)
  (document : List Char) (hdocument : o.HasDocument files document) (ms : List Markup)
  (hoctets : ∀ m ∈ ms, m.text.HasOctets)

include hquiet htable hdocument hoctets

-- Where everything can be set and printed, all the markup is printed, if there is any to print
theorem output_of_markup
    (hms : (o.gathered input document).mapM (Markup.ofSource wording table) = .ok ms) :
    (run wording arguments input files).output = Report.ended (ms.map Markup.text) ∧
      (o.gathered input document ≠ [] → (run wording arguments input files).ending = .done) := by
  by_cases hsome : o.gathered input document = []
  · have hrun := run_of_hasTable wording arguments o input files hargs table htable
    rw [o.collected_of_hasDocument input files document hdocument, if_pos hsome] at hrun
    rw [hsome] at hms
    cases hms
    exact ⟨hrun.1, fun h => absurd hsome h⟩
  · obtain ⟨houtput, hending⟩ :=
      run_of_gathered wording arguments o input files hargs table htable document hdocument hsome
    obtain ⟨hprinted, hend⟩ := o.answerAll_append hquiet wording table _ [] ms hms hoctets
    rw [List.append_nil] at hprinted hend
    refine ⟨?_, fun _ => hending.trans hend⟩
    rw [houtput, Report.output, hprinted, Options.answerAll, Report.empty, List.append_nil]

-- Up to the first expression that is refused everything is printed, and nothing after it
theorem output_of_refusal (first rest : List Text) (expression : Text) (r : Refusal)
    (heq : o.gathered input document = first ++ expression :: rest)
    (hms : first.mapM (Markup.ofSource wording table) = .ok ms)
    (hr : lineOf wording table expression = .error r) :
    (run wording arguments input files).output = Report.ended (ms.map Markup.text) ∧
      (run wording arguments input files).ending = r.ending expression := by
  have hsome : o.gathered input document ≠ [] := by simp [heq]
  obtain ⟨houtput, hending⟩ :=
    run_of_gathered wording arguments o input files hargs table htable document hdocument hsome
  obtain ⟨hprinted, hend⟩ :=
    o.answerAll_append hquiet wording table first (expression :: rest) ms hms hoctets
  obtain ⟨hlast, hstop⟩ := o.answerAll_cons_of_refusal hquiet wording table expression rest r hr
  rw [heq] at houtput hending
  refine ⟨?_, hending.trans (hend.trans hstop)⟩
  rw [houtput, Report.output, hprinted, hlast, List.append_nil]

end Quiet

end Accepted

end CommandLine

end Formulary
