import Formulary.Proofs.CommandLine.Run
import Formulary.Proofs.Notation.File

namespace Formulary

namespace Text

theorem isBlank_of_isLineBreak (c : Char) (h : isLineBreak c = true) : isBlank c = true := by
  simp only [isLineBreak, isBlank, Bool.or_eq_true, Bool.and_eq_true, decide_eq_true_eq, beq_iff_eq] at h ⊢
  omega

theorem isLineBreak_of_isLineFeed (c : Char) (h : isLineFeed c = true) : isLineBreak c = true := by
  rw [isLineFeed, beq_iff_eq] at h
  subst h
  rfl

theorem shown_ofChars (characters : List Char) : (ofChars characters).shown = String.ofList characters := by
  simp [shown, ofChars, Function.comp_def, CodePoint.shown]

-- A line that is one line whichever characters end lines
def Unbroken (line : Text) : Prop := ∀ c ∈ line, c.is isLineBreak = false

-- By the characters of the line, not by all that there are
instance (line : Text) : Decidable (Unbroken line) := List.decidableBAll _ line

end Text

namespace CommandLine

-- The expressions that a document holds, as a file is read
def documentLines (document : List Char) : List Text :=
  (Text.filledLines Text.isLineBreak document).map Text.ofChars

-- A file is read like standard input, and then each of the lines is cut further
theorem documentLines_eq_flatMap (text : String) :
    documentLines (Text.unifyLineEnds text.toList) =
      (inputLines text).flatMap fun line => documentLines line.shown.toList := by
  rw [documentLines, inputLines, Text.filledLines_eq_flatMap _ _ Text.isLineBreak_of_isLineFeed,
    List.map_flatMap, List.flatMap_map]
  simp only [documentLines, Text.shown_ofChars, String.toList_ofList]

theorem documentLines_eq_inputLines_iff (text : String) :
    documentLines (Text.unifyLineEnds text.toList) = inputLines text ↔
      ∀ line ∈ inputLines text, Text.Unbroken line := by
  have hinjective : Function.Injective Text.ofChars :=
    List.map_injective_iff.mpr fun _ _ => CodePoint.char.inj
  rw [documentLines, inputLines, (List.map_injective_iff.mpr hinjective).eq_iff,
    Text.filledLines_eq_filledLines_iff _ _ Text.isBlank_of_isLineBreak Text.isLineBreak_of_isLineFeed]
  simp [Text.Unbroken, Text.ofChars, CodePoint.is]

namespace Options

-- What is answered depends on what is asked for besides the expressions
theorem answerAll_congr (o o' : Options) (hscope : o.showScope = o'.showScope)
    (hverbose : o.verbose = o'.verbose) (wording : Source.Wording) (table : Notation)
    (expressions : List Text) :
    o.answerAll wording table expressions = o'.answerAll wording table expressions := by
  induction expressions with
  | nil => rfl
  | cons e rest ih => simp only [answerAll, answer, shown, set, notes, hscope, hverbose, ih]

end Options

theorem expandDashes_append (lines first rest : List Text) (h : ("-" : Text) ∉ first) :
    expandDashes lines (first ++ rest) = first ++ expandDashes lines rest := by
  induction first with
  | nil => rfl
  | cons e first ih =>
      rw [List.mem_cons, not_or] at h
      rw [List.cons_append, expandDashes, if_neg (Ne.symm h.1), ih h.2, List.cons_append]

-- A run cannot do without expressions
def unlessNone (expressions : List Text) : Except Report (List Text) :=
  if expressions.isEmpty then .error (.stop "no expressions given") else .ok expressions

theorem unlessNone_injective : Function.Injective unlessNone := by
  intro first second h
  cases first <;> cases second <;> simp_all [unlessNone]

theorem Options.collected_of_fileLines (o : Options) (input : String) (files : Files)
    (lines : List Text) (h : o.fileLines files = .ok lines) :
    o.collected input files = unlessNone (expandDashes (inputLines input) o.expressions ++ lines) := by
  rw [collected, h]
  rfl

section Either

variable (es : List Text) (table : Operand) (showScope verbose : Bool) (p : Path) (text : String)
  (input : String) (files : Files)

-- Expressions that are given one by one, and then those on standard input
def Options.withDash : Options := ⟨es ++ [("-" : Text)], .absent, table, showScope, verbose⟩

-- The same, and then those in a file
def Options.withFile : Options := ⟨es, .path p, table, showScope, verbose⟩

theorem Options.collected_withDash (hes : ("-" : Text) ∉ es) :
    (withDash es table showScope verbose).collected text files =
      unlessNone (es ++ inputLines text) := by
  rw [(withDash es table showScope verbose).collected_of_fileLines text files [] rfl, withDash,
    expandDashes_append _ es _ hes]
  simp [expandDashes]

theorem Options.fileLines_withFile (hfile : files p = .file (Text.Utf8.encode text.toList)) :
    (withFile es table showScope verbose p).fileLines files =
      .ok (documentLines (Text.unifyLineEnds text.toList)) := by
  simp only [fileLines, withFile, hfile, Notation.textOf_encode]
  rfl

theorem Options.collected_withFile (hes : ("-" : Text) ∉ es)
    (hfile : files p = .file (Text.Utf8.encode text.toList)) :
    (withFile es table showScope verbose p).collected input files =
      unlessNone (es ++ documentLines (Text.unifyLineEnds text.toList)) := by
  have hlines := fileLines_withFile es table showScope verbose p text files hfile
  rw [(withFile es table showScope verbose p).collected_of_fileLines input files _ hlines, withFile]
  congr 2
  simpa [expandDashes] using expandDashes_append (inputLines input) es [] hes

-- From the same expressions both runs go on in the same way
theorem run_eq_run_of_collected (wording : Source.Wording) (arguments arguments' : List Text)
    (hdash : Options.ofArguments arguments = .ok (.withDash es table showScope verbose))
    (hinput : Options.ofArguments arguments' = .ok (.withFile es table showScope verbose p))
    (h : (Options.withFile es table showScope verbose p).collected input files =
      (Options.withDash es table showScope verbose).collected text files) :
    run wording arguments' input files = run wording arguments text files := by
  have hload : (Options.withFile es table showScope verbose p).loadTable files =
      (Options.withDash es table showScope verbose).loadTable files := rfl
  have hanswer := Options.answerAll_congr (.withFile es table showScope verbose p)
    (.withDash es table showScope verbose) rfl rfl wording
  simp only [run, hdash, hinput, Options.run, hload, h, hanswer]

end Either

-- A file is read like standard input, line by line, but its lines are cut further at the line breaks that
-- standard input leaves inside of a line. So the two are the same run, with the same output and the same
-- ending, wherever there are none of these
theorem input_file_reads_as_standard_input_iff (wording : Source.Wording)
    (arguments arguments' es : List Text) (table : Operand) (showScope verbose : Bool) (p : Path)
    (text input : String) (files : Files)
    (hdash : Options.ofArguments arguments = .ok (.withDash es table showScope verbose))
    (hinput : Options.ofArguments arguments' = .ok (.withFile es table showScope verbose p))
    (hes : ("-" : Text) ∉ es) (hfile : files p = .file (Text.Utf8.encode text.toList)) :
    (Options.withDash es table showScope verbose).collected text files =
        unlessNone (es ++ inputLines text) ∧
      (Options.withFile es table showScope verbose p).collected input files =
        unlessNone (es ++ (inputLines text).flatMap fun line => documentLines line.shown.toList) ∧
      ((Options.withFile es table showScope verbose p).collected input files =
          (Options.withDash es table showScope verbose).collected text files ↔
        ∀ line ∈ inputLines text, Text.Unbroken line) ∧
      ((∀ line ∈ inputLines text, Text.Unbroken line) →
        run wording arguments' input files = run wording arguments text files) := by
  have hstandard := Options.collected_withDash es table showScope verbose text files hes
  have hdocument :=
    Options.collected_withFile es table showScope verbose p text input files hes hfile
  have hiff : (Options.withFile es table showScope verbose p).collected input files =
        (Options.withDash es table showScope verbose).collected text files ↔
      ∀ line ∈ inputLines text, Text.Unbroken line := by
    rw [hstandard, hdocument, unlessNone_injective.eq_iff, List.append_right_inj,
      documentLines_eq_inputLines_iff]
  refine ⟨hstandard, ?_, hiff, fun h => ?_⟩
  · rw [hdocument, documentLines_eq_flatMap]
  · exact run_eq_run_of_collected es table showScope verbose p text input files wording arguments arguments'
      hdash hinput (hiff.mpr h)

-- All three line ends, a line of blanks, and blanks around an expression
theorem input_file_reads_as_standard_input_iff_of_line_ends :
    let wording : Source.Wording := fun _ => ⟨"invalid syntax", some 1⟩
    let text := "x\r\n \t\r\x0cy \n"
    let files := Files.ofList [(⟨"", ["f"]⟩, Text.Utf8.encode text.toList)]
    inputLines text = [("x" : Text), "y"] ∧
      run wording ["--input", "f"] "" files = run wording ["-"] text files ∧
      (run wording ["-"] text files).output = "x\ny\n" := by
  intro wording text files
  have hlines : inputLines text = [("x" : Text), "y"] := by decide +kernel
  have hunbroken : ∀ line ∈ inputLines text, Text.Unbroken line := by
    rw [hlines]
    decide
  obtain ⟨-, -, -, hrun⟩ := input_file_reads_as_standard_input_iff wording ["-"] ["--input", "f"] []
    .absent false false ⟨"", ["f"]⟩ text "" files rfl rfl (by simp) rfl
  exact ⟨hlines, hrun hunbroken, by decide +kernel⟩

-- A form feed is a blank inside of a formula, but cuts a line of a file in two
theorem input_file_cuts_sum_at_form_feed :
    let wording : Source.Wording := fun _ => ⟨"invalid syntax", some 1⟩
    let text := "x\x0c+ y"
    let files := Files.ofList [(⟨"", ["f"]⟩, Text.Utf8.encode text.toList)]
    Options.ofArguments ["-"] = .ok (.withDash [] .absent false false) ∧
      Options.ofArguments ["--input", "f"] = .ok (.withFile [] .absent false false ⟨"", ["f"]⟩) ∧
      files ⟨"", ["f"]⟩ = .file (Text.Utf8.encode text.toList) ∧
      (run wording ["-"] text files).output = "x + y\n" ∧
      (run wording ["--input", "f"] "" files).output = "x\n+y\n" ∧
      (run wording ["--input", "f"] "" files).output ≠ (run wording ["-"] text files).output := by
  intro wording text files
  have hstandard : (run wording ["-"] text files).output = "x + y\n" := by decide +kernel
  have hfile : (run wording ["--input", "f"] "" files).output = "x\n+y\n" := by decide +kernel
  refine ⟨rfl, rfl, rfl, hstandard, hfile, ?_⟩
  rw [hstandard, hfile]
  decide

end CommandLine

end Formulary
