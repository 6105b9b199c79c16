import Formulary.CommandLine.Files
import Formulary.CommandLine.Options
import Formulary.CommandLine.Report
import Formulary.CommandLine.Usage
import Formulary.Formula
import Formulary.Notation.Default
import Formulary.Notation.File
import Formulary.Typeset

namespace Formulary.CommandLine

-- A line of the log, under the name of what it is about
def note (about message : Text) : Text := "DEBUG texmath." ++ about ++ ": " ++ message

-- What is logged is logged only on demand
def Options.notes (o : Options) (lines : List Text) : List Text :=
  if o.verbose then lines else []

-- The notation of a run. A file is laid over the default notation
def Options.loadTable (o : Options) (files : Files) : Except Report (Notation × List Text) :=
  match o.table with
  | .absent => .ok (.default, [])
  | .blank => .error (.breakOff .blankPath)
  | .path p =>
    match files p with
    | .absent => .error (.stop ("missing notation file: " ++ p.text))
    | .overlong => .error (.breakOff (.overlong p))
    | .directory => .error (.breakOff (.directory p))
    | .file octets =>
      match Notation.load p.text octets none with
      | .error fault => .error (.stop ("invalid notation file " ++ p.text ++ ": " ++ fault.message))
      | .ok loaded =>
        .ok (loaded.table, o.notes [note "notation" ("loaded notation file " ++ p.text ++ " (" ++
          toString loaded.symbolCount ++ " symbols, " ++ toString loaded.functionCount ++
          " functions)")])

-- The lines of standard input stand in for the first dash among the expressions. There is nothing
-- left of them for another one
def expandDashes (lines : List Text) : List Text → List Text
  | [] => []
  | expression :: rest =>
    if expression = "-" then lines ++ expandDashes [] rest
    else expression :: expandDashes lines rest

def inputLines (text : String) : List Text :=
  (Text.filledLines Text.isLineFeed (Text.unifyLineEnds text.toList)).map Text.ofChars

-- The expressions of a file, of which there are none without a file
def Options.fileLines (o : Options) (files : Files) : Except Report (List Text) :=
  match o.input with
  | .absent => .ok []
  | .blank => .error (.breakOff .blankPath)
  | .path p =>
    match files p with
    | .absent => .error (.stop ("missing input file: " ++ p.text))
    | .overlong => .error (.breakOff (.overlong p))
    | .directory => .error (.breakOff (.directory p))
    | .file octets =>
      match Notation.textOf octets with
      | .error refusal => .error (.breakOff (.encoding refusal))
      | .ok text => .ok ((Text.filledLines Text.isLineBreak text).map Text.ofChars)

def Options.collected (o : Options) (input : String) (files : Files) :
    Except Report (List Text) := do
  let expressions := expandDashes (inputLines input) o.expressions ++ (← o.fileLines files)
  if expressions.isEmpty then throw (.stop "no expressions given") else return expressions

-- A failure that is about the expression is told together with it
def failed (expression : Text) (failure : Failure) : Ending :=
  match failure with
  | .longInteger => .broken (.setting failure)
  | .voidEntry => .broken (.setting failure)
  | _ => .stopped ("error: " ++ expression ++ ": " ++ failure.message)

def quotedNames (names : List Text) : String :=
  "[" ++ ", ".intercalate (names.map Text.quoted) ++ "]"

def kindName : Tree → String
  | .literal _ => "Literal"
  | .identifier _ => "Identifier"
  | .call _ _ => "Call"
  | .stray value => value.typeName

-- The names that only the tree knows
def scopeNote (tree : Tree) (scope : Scope) : Text :=
  note "translator" ("scope for " ++ kindName tree ++
    ": fallback functions=" ++ quotedNames (scope.namesUnder "fallback functions") ++
    " fallback symbols=" ++ quotedNames (scope.namesUnder "fallback symbols"))

-- The chain of a tree, shown before the tree is set
def Options.shown (o : Options) (expression : Text) (tree : Tree) (scope : Scope) : Report :=
  if !o.showScope then .empty
  else (Report.logging (o.notes [scopeNote tree scope])).andThen fun _ =>
    match scope.describe with
    | .error failure => ⟨[], [], failed expression failure⟩
    | .ok text => .print text

-- What is printed is logged first
def Options.set (o : Options) (table : Notation) (expression : Text) (tree : Tree) (scope : Scope) :
    Report :=
  (Report.logging (o.notes [scopeNote tree scope])).andThen fun _ =>
    match tree.typeset table with
    | .error failure => ⟨[], [], failed expression failure⟩
    | .ok markup =>
      (Report.logging (o.notes [note "cli" ("translated " ++ Text.quoted expression)])).andThen
        fun _ => .print markup.text

-- One expression from its source to its markup
def Options.answer (o : Options) (wording : Source.Wording) (table : Notation) (expression : Text) :
    Report :=
  match Tree.ofSource wording expression with
  | .error (.unpaired halves) => .breakOff (.source (.unpaired halves))
  | .error .nul => .breakOff (.source .nul)
  | .error fault => .stop ("error: " ++ expression ++ ": " ++ fault.message)
  | .ok tree =>
    match Scope.ofTree table tree with
    | .error failure => ⟨[], [], failed expression failure⟩
    | .ok scope =>
      (o.shown expression tree scope).andThen fun _ => o.set table expression tree scope

def Options.answerAll (o : Options) (wording : Source.Wording) (table : Notation) :
    List Text → Report
  | [] => .empty
  | expression :: rest =>
    (o.answer wording table expression).andThen fun _ => o.answerAll wording table rest

-- The notation comes before the expressions, and all expressions are there before the first is set
def Options.run (o : Options) (wording : Source.Wording) (input : String) (files : Files) : Report :=
  match o.loadTable files with
  | .error report => report
  | .ok (table, logged) =>
    (⟨[], logged, .done⟩ : Report).andThen fun _ =>
      match o.collected input files with
      | .error report => report
      | .ok expressions => o.answerAll wording table expressions

-- A run with its arguments, the text on standard input and the file system around it. The words for a
-- source that cannot be read are those of the parser
def run (wording : Source.Wording) (arguments : List Text) (input : String) (files : Files) : Report :=
  match Options.ofArguments arguments with
  | .error .help => ⟨help, [], .done⟩
  | .error (.misuse m) => ⟨[], usage ++ ["texmath: error: " ++ m.message], .misused⟩
  | .ok o => o.run wording input files

end Formulary.CommandLine
