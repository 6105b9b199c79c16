import Formulary.Source.Parser

namespace Formulary.Source.Grammar

open Formulary.Source.Parser

-- The rules that others call from inside brackets and after keywords
inductive Rule
  | expression
  | disjunction
  | bitOr
  | primary
  deriving DecidableEq, Repr

-- How a rule reads what is nested in it: `rule` reads further expressions, `field` judges the text
-- of a replacement field
structure Nested where
  rule : Rule → Parser Expr
  field : List Char → Bool

-- Adjacent quotations are one constant: octets only by themselves, and formatted if one of them is
def joined (column : Nat) (nested : Nested) (quotations : List Quotation) : Parser Expr := do
  let isOctets : Quotation → Bool
    | .octets _ => true
    | _ => false
  let fields := quotations.flatMap fun
    | .formatted fields => fields
    | _ => []
  let isFormatted : Quotation → Bool
    | .formatted _ => true
    | _ => false
  if !fields.all nested.field then failure
  else if quotations.all isOctets then
    return .constant column (.octets (quotations.flatMap fun
      | .octets bytes => bytes
      | _ => []))
  else if quotations.any isOctets then failure
  else if quotations.any isFormatted then return .other column .formatted []
  else
    return .constant column (.text (quotations.flatMap fun
      | .text characters => characters
      | _ => []))

def quotation : Parser Quotation := do
  match (← token).lexeme with
  | .quotation q => return q
  | _ => failure

def assignment (nested : Nested) : Parser Expr := do
  let start ← column
  let id ← name
  mark ":="
  let value ← nested.rule .expression
  return .other start .assignment [.name start id, value]

-- An expression that may name its value
def named (nested : Nested) : Parser Expr := do
  if ← atNameBefore ":=" then assignment nested else nested.rule .expression

def starred (rule : Parser Expr) : Parser Expr := do
  let start ← column
  mark "*"
  return .other start .starred [← rule]

-- An element of a display, which a star may spread
def element (nested : Nested) : Parser Expr := do
  if ← atMark "*" then starred (nested.rule .bitOr) else named nested

def isStarred : Expr → Bool
  | .other _ .starred _ => true
  | _ => false

mutual

-- What a comprehension can bind: names, members, items, and rows of such
def isTarget : Expr → Bool
  | .name _ _ => true
  | .attribute _ _ _ => true
  | .subscript _ _ _ => true
  | .other _ .tuple parts => areTargets parts
  | .other _ .list parts => areTargets parts
  | _ => false

-- In a row a star may stand before a target
def areTargets : List Expr → Bool
  | [] => true
  | .other _ .starred [part] :: rest => isTarget part && areTargets rest
  | part :: rest => isTarget part && areTargets rest

end

def target (nested : Nested) : Parser Expr := do
  let found ← if ← atMark "*" then starred (nested.rule .primary) else nested.rule .primary
  if areTargets [found] then return found else failure

-- One clause of a comprehension: the targets, what they run over, and conditions
def clause (nested : Nested) : Parser (List Expr) := do
  if ← atKeyword "async" then keyword "async"
  keyword "for"
  let targets ← commaSeparated (target nested)
  keyword "in"
  let source ← nested.rule .disjunction
  let conditions ← many (do keyword "if"; nested.rule .disjunction)
  return targets ++ source :: conditions

def clauses (nested : Nested) : Parser (List Expr) := do
  let first ← clause nested
  let rest ← many (clause nested)
  return first ++ rest.flatten

def atClause : Parser Bool := return (← atKeyword "for") || (← atKeyword "async")

-- The elements of a display after its first one, up to the closing mark
def elements (nested : Nested) (closing : String) : Parser (List Expr) := do
  let rest ← afterCommas (element nested)
  let _ ← maybe (mark ",")
  mark closing
  return rest

-- The column of the brackets' opening counts for all but a group
def yielded (nested : Nested) : Parser Expr := do
  let start ← column
  keyword "yield"
  if ← atKeyword "from" then
    keyword "from"
    return .other start .yieldFrom [← nested.rule .expression]
  else
    let spread : Parser Expr := do
      if ← atMark "*" then starred (nested.rule .bitOr) else nested.rule .expression
    match ← maybe spread with
    | none => return .other start .yield []
    | some first =>
      let rest ← afterCommas spread
      let _ ← maybe (mark ",")
      return .other start .yield (first :: rest)

def parenthesized (nested : Nested) : Parser Expr := do
  let start ← column
  mark "("
  if ← atMark ")" then
    mark ")"
    return .other start .tuple []
  else if ← atKeyword "yield" then
    let e ← yielded nested
    mark ")"
    return e
  else
    let first ← element nested
    if ← atMark "," then
      return .other start .tuple (first :: (← elements nested ")"))
    else if isStarred first then failure
    else if ← atClause then
      let parts ← clauses nested
      mark ")"
      return .other start .generator (first :: parts)
    else
      mark ")"
      return first

def bracketed (nested : Nested) : Parser Expr := do
  let start ← column
  mark "["
  if ← atMark "]" then
    mark "]"
    return .other start .list []
  else
    let first ← element nested
    if (← atClause) && !isStarred first then
      let parts ← clauses nested
      mark "]"
      return .other start .listComprehension (first :: parts)
    else return .other start .list (first :: (← elements nested "]"))

-- An item of a dictionary: a key and its value, or two stars and a mapping
def item (nested : Nested) : Parser (List Expr) := do
  if ← atMark "**" then
    mark "**"
    return [← nested.rule .bitOr]
  else
    let key ← nested.rule .expression
    mark ":"
    return [key, ← nested.rule .expression]

def items (nested : Nested) (start : Nat) (first : List Expr) : Parser Expr := do
  let rest ← afterCommas (item nested)
  let _ ← maybe (mark ",")
  mark "\x7d"
  return .other start .dict (first ++ rest.flatten)

def braced (nested : Nested) : Parser Expr := do
  let start ← column
  mark "\x7b"
  if ← atMark "\x7d" then
    mark "\x7d"
    return .other start .dict []
  else if ← atMark "**" then items nested start (← item nested)
  else
    let isNamed ← atNameBefore ":="
    let first ← element nested
    if (← atMark ":") && !isNamed && !isStarred first then
      mark ":"
      let value ← nested.rule .expression
      if ← atClause then
        let parts ← clauses nested
        mark "\x7d"
        return .other start .dictComprehension (first :: value :: parts)
      else items nested start [first, value]
    else if (← atClause) && !isStarred first then
      let parts ← clauses nested
      mark "\x7d"
      return .other start .setComprehension (first :: parts)
    else return .other start .set (first :: (← elements nested "\x7d"))

def atom (nested : Nested) : Parser Expr := do
  let start ← column
  match ← peek with
  | some (.name id) => let _ ← token; return .name start id
  | some (.keyword "True") => let _ ← token; return .constant start (.truth true)
  | some (.keyword "False") => let _ ← token; return .constant start (.truth false)
  | some (.keyword "None") => let _ ← token; return .constant start .none
  | some (.number value) => let _ ← token; return .constant start value
  | some (.quotation _) => joined start nested (← many quotation)
  | some (.mark "...") => let _ ← token; return .constant start .ellipsis
  | some (.mark "(") => parenthesized nested
  | some (.mark "[") => bracketed nested
  | some (.mark "\x7b") => braced nested
  | _ => failure

-- Arguments by position come first. Keyword arguments follow, and with two stars whole mappings of
-- them, after which no star spreads a sequence
inductive Stage
  | positions
  | keywords
  | mappings
  deriving DecidableEq, Repr

structure Arguments where
  values : List Expr
  keywords : List Nat

def argument (nested : Nested) (stage : Stage) : Parser (Stage × Arguments) := do
  let start ← column
  if ← atMark "**" then
    mark "**"
    let _ ← nested.rule .expression
    return (.mappings, ⟨[], [start]⟩)
  else if ← atMark "*" then
    if stage = .mappings then failure
    else return (stage, ⟨[← starred (nested.rule .expression)], []⟩)
  else if ← atNameBefore "=" then
    let _ ← name
    mark "="
    let _ ← nested.rule .expression
    return (if stage = .mappings then .mappings else .keywords, ⟨[], [start]⟩)
  else if stage = .positions then
    let value ← named nested
    if ← atMark "=" then failure else return (stage, ⟨[value], []⟩)
  else failure

def argumentsFrom (nested : Nested) (stage : Stage) (tokens : List Token) : Arguments × List Token :=
  match (do mark ","; argument nested stage : Parser (Stage × Arguments)) tokens with
  | none => (⟨[], []⟩, tokens)
  | some ((stage, a), rest) =>
    if rest.length < tokens.length then
      let (more, rest) := argumentsFrom nested stage rest
      (⟨a.values ++ more.values, a.keywords ++ more.keywords⟩, rest)
    else (⟨[], []⟩, tokens)
  termination_by tokens.length

-- The arguments of a call; a lone generator needs no parentheses of its own
def arguments (nested : Nested) : Parser Arguments := do
  let start ← column
  mark "("
  if ← atMark ")" then
    mark ")"
    return ⟨[], []⟩
  else
    let isStarred ← atMark "*"
    let (stage, first) ← argument nested .positions
    if (← atClause) && !isStarred && first.keywords.isEmpty then
      let parts ← clauses nested
      mark ")"
      return ⟨[.other start .generator (first.values ++ parts)], []⟩
    else
      let rest ← fun tokens => some (argumentsFrom nested stage tokens)
      let _ ← maybe (mark ",")
      mark ")"
      return ⟨first.values ++ rest.values, first.keywords ++ rest.keywords⟩

def endsSlicePart : Parser Bool :=
  return (← atMark ":") || (← atMark ",") || (← atMark "]")

def slicePart (nested : Nested) : Parser (List Expr) := do
  if ← endsSlicePart then return [] else return [← nested.rule .expression]

-- An index, or up to three bounds with colons between them. An index may name its value, a bound
-- may not
def slice (nested : Nested) : Parser Expr := do
  if ← atNameBefore ":=" then assignment nested
  else
    let start ← column
    let low ← slicePart nested
    if ← atMark ":" then
      mark ":"
      let high ← slicePart nested
      let step ← if ← atMark ":" then do mark ":"; slicePart nested else pure []
      return .other start .slice (low ++ high ++ step)
    else match low with
      | [e] => return e
      | _ => failure

-- Several indices, or a spread one, make a tuple
def index (nested : Nested) : Parser Expr := do
  let start ← column
  let one : Parser Expr := do
    if ← atMark "*" then starred (nested.rule .expression) else slice nested
  let first ← one
  if (← atMark ",") || isStarred first then
    let rest ← afterCommas one
    let _ ← maybe (mark ",")
    return .other start .tuple (first :: rest)
  else return first

def trailer (nested : Nested) : Parser (Nat → Expr → Expr) := do
  if ← atMark "." then
    mark "."
    let member ← name
    return fun start base => .attribute start base member
  else if ← atMark "(" then
    let a ← arguments nested
    return fun start callee => .call start callee a.values a.keywords
  else
    mark "["
    let i ← index nested
    mark "]"
    return fun start base => .subscript start base i

def primary (nested : Nested) : Parser Expr := do
  let start ← column
  let base ← atom nested
  let trailers ← many (trailer nested)
  return trailers.foldl (fun e trailer => trailer start e) base

def awaited (nested : Nested) : Parser Expr := do
  if ← atKeyword "await" then
    let start ← column
    keyword "await"
    return .other start .await [← primary nested]
  else primary nested

def sign : Parser (Nat × UnaryOp) := do
  let t ← token
  match t.lexeme with
  | .mark "-" => return (t.column, .minus)
  | .mark "+" => return (t.column, .plus)
  | .mark "~" => return (t.column, .invert)
  | _ => failure

def withSigns (signs : List (Nat × UnaryOp)) (e : Expr) : Expr :=
  signs.foldr (fun s e => .unary s.1 s.2 e) e

structure Operand where
  signs : List (Nat × UnaryOp)
  start : Nat
  base : Expr

def operand (nested : Nested) : Parser Operand := do
  let signs ← many sign
  let start ← column
  return ⟨signs, start, ← awaited nested⟩

-- Powers group to the right. A sign before a power applies to all of it
def powers (first : Operand) : List Operand → Expr
  | [] => withSigns first.signs first.base
  | second :: rest =>
    withSigns first.signs (.binary first.start .power first.base (powers second rest))

def factor (nested : Nested) : Parser Expr := do
  let first ← operand nested
  let rest ← many (do mark "**"; operand nested)
  return powers first rest

def operatorIn (ops : List (String × BinaryOp)) : Parser BinaryOp := do
  match (← token).lexeme with
  | .mark m =>
    match ops.lookup m with
    | some op => return op
    | none => failure
  | _ => failure

-- A level of operators that group to the left
def leftToRight (ops : List (String × BinaryOp)) (rule : Parser Expr) : Parser Expr := do
  let start ← column
  let first ← rule
  let rest ← many (do return (← operatorIn ops, ← rule))
  return rest.foldl (fun left r => .binary start r.1 left r.2) first

def term (nested : Nested) : Parser Expr :=
  leftToRight [("*", .multiply), ("/", .divide), ("//", .floorDivide), ("%", .modulo),
    ("@", .matrixMultiply)] (factor nested)

def sum (nested : Nested) : Parser Expr :=
  leftToRight [("+", .add), ("-", .subtract)] (term nested)

def shift (nested : Nested) : Parser Expr :=
  leftToRight [("<<", .shiftLeft), (">>", .shiftRight)] (sum nested)

def bitAnd (nested : Nested) : Parser Expr := leftToRight [("&", .bitAnd)] (shift nested)

def bitXor (nested : Nested) : Parser Expr := leftToRight [("^", .bitXor)] (bitAnd nested)

def bitOr (nested : Nested) : Parser Expr := leftToRight [("|", .bitOr)] (bitXor nested)

def comparisonOp : Parser ComparisonOp := do
  match (← token).lexeme with
  | .mark "==" => return .equal
  | .mark "!=" => return .notEqual
  | .mark "<" => return .less
  | .mark "<=" => return .lessOrEqual
  | .mark ">" => return .greater
  | .mark ">=" => return .greaterOrEqual
  | .keyword "in" => return .isIn
  | .keyword "not" => keyword "in"; return .notIn
  | .keyword "is" =>
    if ← atKeyword "not" then
      keyword "not"
      return .isNot
    else return .is
  | _ => failure

def comparison (nested : Nested) : Parser Expr := do
  let start ← column
  let left ← bitOr nested
  match ← many (do return (← comparisonOp, ← bitOr nested)) with
  | [] => return left
  | (op, right) :: links => return .comparison start left op right links

def negation : Parser Nat := do
  let start ← column
  keyword "not"
  return start

def inversion (nested : Nested) : Parser Expr := do
  let negations ← many negation
  return withSigns (negations.map fun start => (start, .not)) (← comparison nested)

def boolean (op : BooleanOp) (word : String) (rule : Parser Expr) : Parser Expr := do
  let start ← column
  let first ← rule
  match ← many (do keyword word; rule) with
  | [] => return first
  | rest => return .boolean start op first rest

def conjunction (nested : Nested) : Parser Expr := boolean .and "and" (inversion nested)

def disjunction (nested : Nested) : Parser Expr := boolean .or "or" (conjunction nested)

-- Where a parameter list stands: before any parameter, among those by position, after one with a
-- default, right after a bare star, after a star, and after two stars
inductive Parameters
  | none
  | plain
  | defaulted
  | bareStar
  | starred
  | finished
  deriving DecidableEq, Repr

-- A parameter ends with a comma, or right before the colon
def parameterEnd : Parser Unit := do
  if ← atMark ":" then return else mark ","

def byPosition (place : Parameters) : Bool :=
  place = .none || place = .plain || place = .defaulted

-- One parameter and the place after it, with its default if there is one. `slash` tells whether the
-- slash that ends the parameters by position alone may still come
def parameter (nested : Nested) (place : Parameters) (slash : Bool) :
    Parser (Parameters × Bool × List Expr) := do
  if place = .finished then failure
  else if ← atMark "**" then
    if place = .bareStar then failure
    else
      mark "**"
      let _ ← name
      parameterEnd
      return (.finished, false, [])
  else if ← atMark "*" then
    if !byPosition place then failure
    else
      mark "*"
      if ← atMark "," then
        mark ","
        return (.bareStar, false, [])
      else
        let _ ← name
        parameterEnd
        return (.starred, false, [])
  else if ← atMark "/" then
    if !slash || place = .none || !byPosition place then failure
    else
      mark "/"
      parameterEnd
      return (place, false, [])
  else
    let _ ← name
    if ← atMark "=" then
      mark "="
      let value ← nested.rule .expression
      parameterEnd
      return (if byPosition place then .defaulted else .starred, slash, [value])
    else if place = .defaulted then failure
    else
      parameterEnd
      return (if byPosition place then .plain else .starred, slash, [])

def parametersFrom (nested : Nested) (place : Parameters) (slash : Bool) (tokens : List Token) :
    Option (List Expr × List Token) :=
  match tokens with
  | [] => none
  | t :: others =>
    if t.lexeme = .mark ":" then
      if place = .bareStar then none else some ([], t :: others)
    else do
      let ((place, slash, values), rest) ← parameter nested place slash (t :: others)
      if rest.length ≤ others.length then
        let (more, rest) ← parametersFrom nested place slash rest
        return (values ++ more, rest)
      else none
  termination_by tokens.length

def lambda (nested : Nested) : Parser Expr := do
  let start ← column
  keyword "lambda"
  let defaults ← parametersFrom nested .none true
  mark ":"
  return .other start .lambda (defaults ++ [← nested.rule .expression])

def expression (nested : Nested) : Parser Expr := do
  if ← atKeyword "lambda" then lambda nested
  else
    let start ← column
    let value ← disjunction nested
    if ← atKeyword "if" then
      let conditional : Parser Expr := do
        keyword "if"
        let condition ← disjunction nested
        keyword "else"
        return .other start .conditional [condition, value, ← nested.rule .expression]
      return (← maybe conditional).getD value
    else return value

def rule (nested : Nested) : Rule → Parser Expr
  | .expression => expression nested
  | .disjunction => disjunction nested
  | .bitOr => bitOr nested
  | .primary => primary nested

-- Every rule, each reading what is nested in it from a shorter row of tokens
def read (field : List Char → Bool) (r : Rule) (tokens : List Token) : Option (Expr × List Token) :=
  rule ⟨fun r inner => if inner.length < tokens.length then read field r inner else none, field⟩ r tokens
  termination_by tokens.length

-- A whole formula: an expression, or several with commas, and nothing but line ends after it
def formula (field : List Char → Bool) : Parser Expr := do
  let start ← column
  let first ← read field .expression
  let isTuple ← atMark ","
  let rest ← afterCommas (read field .expression)
  let _ ← maybe (mark ",")
  let _ ← many (expect .lineEnd)
  if (← peek).isSome then failure
  else if isTuple then return .other start .tuple (first :: rest)
  else return first

end Formulary.Source.Grammar
