import Formulary.Main
import Formulary.Value.Text
import Formulary.Proofs.Arithmetic
import Formulary.Proofs.Arithmetic.Reach
import Formulary.Proofs.Arithmetic.Row
import Formulary.Proofs.Binding
import Formulary.Proofs.Binding.Enclosure
import Formulary.Proofs.Binding.Sound
import Formulary.Proofs.CommandLine.Answer
import Formulary.Proofs.CommandLine.Run
import Formulary.Proofs.Failure
import Formulary.Proofs.Formula
import Formulary.Proofs.Logic
import Formulary.Proofs.Markup.Enclosure
import Formulary.Proofs.Markup.Escape
import Formulary.Proofs.Markup.Lexeme
import Formulary.Proofs.Markup.Sound
import Formulary.Proofs.Meaning
import Formulary.Proofs.Notation.Arity
import Formulary.Proofs.Notation.Enclosure
import Formulary.Proofs.Notation.Entries
import Formulary.Proofs.Notation.Reachable
import Formulary.Proofs.Notation.Sound
import Formulary.Proofs.OrderedMap
import Formulary.Proofs.Precedence
import Formulary.Proofs.Scope.Chain
import Formulary.Proofs.Scope.Description
import Formulary.Proofs.Scope.Resolution
import Formulary.Proofs.Source.Acceptance
import Formulary.Proofs.Source.Arithmetic
import Formulary.Proofs.Source.Builds
import Formulary.Proofs.Source.Calls
import Formulary.Proofs.Source.Enclosure
import Formulary.Proofs.Source.Logic
import Formulary.Proofs.Source.Meaning
import Formulary.Proofs.Source.Parts
import Formulary.Proofs.Source.Typeset
import Formulary.Proofs.Tree.Names
import Formulary.Proofs.Tree.Position
import Formulary.Proofs.Tree.Row
import Formulary.Proofs.Tree.Walk
import Formulary.Proofs.Typeset.Agreement
import Formulary.Proofs.Typeset.Denotation
import Formulary.Proofs.Typeset.Enclosure
import Formulary.Proofs.Typeset.Report
import Formulary.Proofs.Typeset.Sound
import Formulary.Proofs.Typeset.Splice
import Formulary.Proofs.Value.Numeral
import Formulary.Proofs.Value.Written
import Formulary.Proofs.Binding.Template
import Formulary.Proofs.Markup.Braces
import Formulary.Proofs.Source.Grouping
import Formulary.Proofs.Binding.Braces
import Formulary.Proofs.Source.Root
import Formulary.Proofs.Json.Document
import Formulary.Proofs.Text.Utf8
import Formulary.Proofs.Notation.File
import Formulary.Proofs.CommandLine.NotationFile
import Formulary.Proofs.Tree.Gathering
import Formulary.Proofs.Scope.Lookup
import Formulary.Proofs.Binding.Spec
import Formulary.Proofs.Notation.Layering
import Formulary.Proofs.Notation.Description
import Formulary.Proofs.Markup.Substitution
import Formulary.Proofs.CommandLine.Input
import Formulary.Proofs.Typeset.Characters
import Formulary.Proofs.Source.Characters
import Formulary.Proofs.Source.Token
import Formulary.Proofs.Source.Grammar
import Formulary.Proofs.CommandLine.Lines
import Formulary.Proofs.CommandLine.Ending
