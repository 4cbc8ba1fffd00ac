import AccessorForge.Syntax.Cursor
import AccessorForge.Syntax.Literal
/-! The grammar of expressions. Each precedence level reads its operands one level down; where the grammar
comes back to itself it goes through `Rules`, so that the nesting depth is bounded by the fuel alone. -/
namespace AccessorForge.Syntax
open Reader

/-- The entries through which the grammar comes back to itself. -/
structure Rules where
  expression : Reader Expr
  namedExpression : Reader Expr
  disjunction : Reader Expr
  inversion : Reader Expr
  bitwiseOr : Reader Expr
  factor : Reader Expr
  primary : Reader Expr
  starExpressions : Reader Expr

namespace Grammar

def finish (start : Pos) (build : Span → Expr) : Reader Expr := do return build (← spanFrom start)

def compoundFrom (start : Pos) (form : Form) (parts : List Expr) : Reader Expr :=
  finish start fun s => .compound s form parts

def nameHere : Reader Expr := do
  let start ← here
  let id ← identifier
  finish start fun s => .name s id

mutual
/-- What may be assigned to: names, attributes, elements, and displays of such. -/
def isTarget : Expr → Bool
  | .name _ _ | .attribute _ _ _ | .subscript _ _ _ => true
  | .tuple _ items => areStarTargets items
  | .list _ items => areStarTargets items
  | _ => false

def areStarTargets : List Expr → Bool
  | [] => true
  | .starred _ value :: rest => isTarget value && areStarTargets rest
  | e :: rest => isTarget e && areStarTargets rest
end

def isStarTarget : Expr → Bool
  | .starred _ value => isTarget value
  | e => isTarget e

def isSingleTarget : Expr → Bool
  | .name _ _ | .attribute _ _ _ | .subscript _ _ _ => true
  | _ => false

mutual
def isDeletable : Expr → Bool
  | .name _ _ | .attribute _ _ _ | .subscript _ _ _ => true
  | .tuple _ items => areDeletable items
  | .list _ items => areDeletable items
  | _ => false

def areDeletable : List Expr → Bool
  | [] => true
  | e :: rest => isDeletable e && areDeletable rest
end

variable (r : Rules)

/-- A starred operand where a display or an element list allows one. -/
def starOperand : Reader Expr := do
  let start ← here
  mark "*"
  let value ← r.bitwiseOr
  finish start fun s => .starred s value

def starNamedExpression : Reader Expr := do
  if ← seesMark "*" then starOperand r else r.namedExpression

def starExpression : Reader Expr := do
  if ← seesMark "*" then starOperand r else r.expression

/-- One item stands for itself; several, or one with a comma, make a tuple. -/
def tupleOf (item : Reader Expr) : Reader Expr := do
  let start ← here
  let (items, trailing) ← commaList item
  match items, trailing with
  | [e], false => return e
  | items, _ => finish start fun s => .tuple s items

def starExpressions : Reader Expr := tupleOf (starExpression r)

def boundName? : Reader (Option Expr) := do
  let start ← here
  let bound ← attempt do
    let target ← nameHere
    mark ":="
    return target
  match bound with
  | some target =>
    let value ← r.expression
    return some (← compoundFrom start .binding [target, value])
  | none => return none

def namedExpression : Reader Expr := do
  match ← boundName? r with
  | some e => return e
  | none => r.expression

def yieldExpression : Reader Expr := do
  let start ← here
  word "yield"
  if ← takeWord "from" then
    let value ← r.expression
    compoundFrom start .delegating [value]
  else match ← attempt r.starExpressions with
    | some value => compoundFrom start .yielding [value]
    | none => compoundFrom start .yielding []

/-! Parameters. -/

/-- Parameter lists of functions may be annotated, those of lambdas may not. -/
inductive ParamStyle
  | annotated
  | bare
  deriving DecidableEq, Repr

def paramAnnotation (style : ParamStyle) : Reader Unit := do
  if style = .annotated then
    if ← takeMark ":" then discard r.expression

/-- How far a parameter list has come. -/
inductive ParamStage
  /-- Only a name may follow. -/
  | bareStar
  | positional (count : Nat) (slash defaulted : Bool)
  | keywordOnly
  | finished
  deriving DecidableEq, Repr

abbrev ParamItem := Parameter × Option Expr

def paramItem (name : String) (kind : ParameterKind) (value : Option Expr) : ParamItem :=
  (⟨name, kind, value.isSome⟩, value)

/-- A slash: all parameters before it take their arguments by place only. -/
def placeOnly (items : List ParamItem) : List ParamItem :=
  items.map fun (p, value) => ({ p with kind := .byPlace }, value)

def paramDefault : Reader (Option Expr) := do
  if ← takeMark "=" then return some (← r.expression) else return none

def starParam (style : ParamStyle) : Reader (ParamStage × List ParamItem) := do
  if ← seesMark "," then return (.bareStar, [])
  let name ← identifier
  if style = .annotated then
    if ← takeMark ":" then
      if ← seesMark "*" then
        let _ ← advance
        discard r.bitwiseOr
      else discard r.expression
  return (.keywordOnly, [paramItem name .rest none])

/-- One more parameter after `items`, and the stage after it. -/
def param (style : ParamStyle) (stage : ParamStage) (items : List ParamItem) :
    Reader (ParamStage × List ParamItem) := do
  if ← takeMark "**" then
    if stage = .bareStar || stage = .finished then failure
    let name ← identifier
    paramAnnotation r style
    return (.finished, items ++ [paramItem name .restByName none])
  if ← takeMark "*" then
    match stage with
    | .positional _ _ _ =>
      let (stage, more) ← starParam r style
      return (stage, items ++ more)
    | _ => failure
  if ← takeMark "/" then
    match stage with
    | .positional count false defaulted =>
      if count = 0 then failure else return (.positional count true defaulted, placeOnly items)
    | _ => failure
  let name ← identifier
  paramAnnotation r style
  let value ← paramDefault r
  match stage with
  | .positional count slash defaulted =>
    if defaulted && value.isNone then failure
    return (.positional (count + 1) slash value.isSome, items ++ [paramItem name .ordinary value])
  | .finished => failure
  | _ => return (.keywordOnly, items ++ [paramItem name .byName value])

def paramsWithin (style : ParamStyle) (close : String) : Nat → ParamStage → List ParamItem → Reader (List ParamItem)
  | 0, _, _ => failure
  | fuel + 1, stage, items => do
    let (stage, items) ← param r style stage items
    if ← takeMark "," then
      if ← seesMark close then
        if stage = .bareStar then failure
        return items
      return (← paramsWithin style close fuel stage items)
    if stage = .bareStar then failure
    return items

/-- A parameter list that ends before `close`. -/
def params (style : ParamStyle) (close : String) : Reader (List ParamItem) := do
  if ← seesMark close then return []
  paramsWithin r style close (← get).limit (.positional 0 false false) []

def lambda : Reader Expr := do
  let start ← here
  word "lambda"
  let items ← params r .bare ":"
  mark ":"
  let body ← r.expression
  compoundFrom start (.function (items.map (·.1))) (items.filterMap (·.2) ++ [body])

/-! Arguments of a call. -/

inductive Argument
  | positional (value : Expr)
  | named (keyword : Keyword)
  deriving Repr

/-- How far an argument list has come: after a named argument no plain one follows, after an unpacked
mapping no starred one either. -/
inductive ArgumentStage
  | plain
  | named
  | unpacked
  deriving DecidableEq, Repr

def argumentName : Reader (Option String) := attempt do
  let name ← identifier
  mark "="
  return name

def argument (stage : ArgumentStage) : Reader (ArgumentStage × Argument) := do
  let start ← here
  if ← takeMark "**" then
    let value ← r.expression
    return (.unpacked, .named (.mk none value))
  if ← takeMark "*" then
    if stage = .unpacked then failure
    let value ← r.expression
    let star ← finish start fun s => .starred s value
    return (stage, .positional star)
  match ← argumentName with
  | some name =>
    let value ← r.expression
    return (if stage = .unpacked then .unpacked else .named, .named (.mk (some name) value))
  | none =>
    if stage = .plain then
      let value ← r.namedExpression
      return (.plain, .positional value)
    else failure

def argumentsWithin : Nat → ArgumentStage → Reader (List Argument)
  | 0, _ => failure
  | fuel + 1, stage => do
    let (stage, first) ← argument r stage
    if ← takeMark "," then
      if ← seesMark ")" then return [first]
      return first :: (← argumentsWithin fuel stage)
    return [first]

def arguments : Reader (List Argument) := do
  if ← seesMark ")" then return []
  argumentsWithin r (← get).limit .plain

def positionals (arguments : List Argument) : List Expr :=
  arguments.filterMap fun
    | .positional value => some value
    | .named _ => none

def named (arguments : List Argument) : List Keyword :=
  arguments.filterMap fun
    | .positional _ => none
    | .named keyword => some keyword

/-! Subscripts. -/

def slicePart : Reader (Option Expr) := do
  if ← sees fun t => isMark ":" t || isMark "]" t || isMark "," t then return none
  else return some (← r.expression)

def sliceOf (start : Pos) (bounds : List (Option Expr)) : Reader Expr :=
  compoundFrom start (.slice (bounds.map Option.isSome)) (bounds.filterMap id)

def sliceTail (start : Pos) (first : Option Expr) : Reader Expr := do
  mark ":"
  let second ← slicePart r
  let third ← if ← takeMark ":" then slicePart r else pure none
  sliceOf start [first, second, third]

def slice : Reader Expr := do
  let start ← here
  match ← boundName? r with
  | some e => return e
  | none =>
    let first ← slicePart r
    if ← seesMark ":" then sliceTail r start first
    else match first with
    | some e => return e
    | none => failure

def starSlice : Reader Expr := do
  let start ← here
  if ← takeMark "*" then
    let value ← r.expression
    finish start fun s => .starred s value
  else slice r

/-- A starred element always makes a tuple. -/
def slices : Reader Expr := do
  let start ← here
  let (items, trailing) ← commaList (starSlice r)
  match items, trailing with
  | [.starred s e], false => return .tuple s [.starred s e]
  | [e], false => return e
  | items, _ => finish start fun s => .tuple s items

/-! Comprehensions. -/

def starTarget : Reader Expr := do
  let start ← here
  if ← takeMark "*" then
    let value ← r.primary
    if isTarget value then finish start fun s => .starred s value else failure
  else
    let e ← r.primary
    if isTarget e then return e else failure

def starTargets : Reader Expr := tupleOf (starTarget r)

def startsClause : Reader Bool := sees fun t => isWord "for" t || isWord "async" t

def comprehensionClause : Reader (Option (Loop × List Expr)) := do
  if ← startsClause then
    let isAsync ← takeWord "async"
    word "for"
    let target ← starTargets r
    word "in"
    let source ← r.disjunction
    let conditions ← repeated do
      if ← takeWord "if" then return some (← r.disjunction) else return none
    return some (⟨isAsync, conditions.length⟩, target :: source :: conditions)
  else return none

/-- A comprehension of which the element is known, up to its last clause. -/
def comprehensionTail (start : Pos) (collection : Collection) (element : List Expr) (close : String) :
    Reader Expr := do
  if !(← startsClause) then failure
  let clauses ← repeated (comprehensionClause r)
  mark close
  compoundFrom start (.comprehension collection (clauses.map (·.1))) (element ++ clauses.flatMap (·.2))

/-! Atoms. -/

def roundBrackets : Reader Expr := do
  let start ← here
  mark "("
  if ← takeMark ")" then finish start fun s => .tuple s []
  else if ← seesWord "yield" then
    let e ← yieldExpression r
    mark ")"
    return e
  else
    let starred ← seesMark "*"
    let first ← starNamedExpression r
    if !starred && (← startsClause) then
      comprehensionTail r start .stream [first] ")"
    else if ← takeMark "," then
      if ← takeMark ")" then finish start fun s => .tuple s [first]
      else
        let (more, _) ← commaList (starNamedExpression r)
        mark ")"
        finish start fun s => .tuple s (first :: more)
    else
      mark ")"
      if starred then failure else return first

def squareBrackets : Reader Expr := do
  let start ← here
  mark "["
  if ← takeMark "]" then finish start fun s => .list s []
  else
    let starred ← seesMark "*"
    let first ← starNamedExpression r
    if !starred && (← startsClause) then
      comprehensionTail r start .list [first] "]"
    else if ← takeMark "," then
      if ← takeMark "]" then finish start fun s => .list s [first]
      else
        let (more, _) ← commaList (starNamedExpression r)
        mark "]"
        finish start fun s => .list s (first :: more)
    else
      mark "]"
      finish start fun s => .list s [first]

def pair : Reader (List Expr) := do
  let key ← r.expression
  mark ":"
  let value ← r.expression
  return [key, value]

def pairOrUnpacked : Reader (List Expr) := do
  if ← takeMark "**" then return [← r.bitwiseOr] else pair r

def curlyItems (first : List Expr) (item : Reader (List Expr)) : Reader (List (List Expr)) := do
  if ← takeMark "," then
    if ← takeMark "\x7d" then return [first]
    let (more, _) ← commaList item
    mark "\x7d"
    return first :: more
  mark "\x7d"
  return [first]

def setTail (start : Pos) (first : Expr) : Reader Expr := do
  let items ← curlyItems [first] (List.singleton <$> starNamedExpression r)
  compoundFrom start .set items.flatten

def mappingTail (start : Pos) (first : List Expr) : Reader Expr := do
  let items ← curlyItems first (pairOrUnpacked r)
  compoundFrom start (.mapping (items.map fun i => i.length = 2)) items.flatten

def curlyBrackets : Reader Expr := do
  let start ← here
  mark "\x7b"
  if ← takeMark "\x7d" then compoundFrom start (.mapping []) []
  else if ← seesMark "**" then mappingTail r start (← pairOrUnpacked r)
  else if ← seesMark "*" then setTail r start (← starOperand r)
  else match ← boundName? r with
  | some e =>
    if ← startsClause then comprehensionTail r start .set [e] "\x7d" else setTail r start e
  | none =>
    let first ← r.expression
    if ← takeMark ":" then
      let value ← r.expression
      if ← startsClause then comprehensionTail r start .mapping [first, value] "\x7d"
      else mappingTail r start [first, value]
    else if ← startsClause then comprehensionTail r start .set [first] "\x7d"
    else setTail r start first

/-- The expression of a field in a formatted literal is read as if it stood in brackets. -/
def field (text : List Char) : Reader Expr := do
  match moduleTokens ('(' :: text ++ [')']) with
  | none => failure
  | some tokens =>
    match r.starExpressions (Cursor.start tokens) with
    | some (e, _) => return e
    | none => failure

def literals : Reader Expr := do
  let start ← here
  let lexemes ← repeated do
    if ← seesKind .string then return some (← advance).text.toList else return none
  match Literal.read lexemes with
  | none => failure
  | some (.text value) => finish start fun s => .text s (String.ofList value)
  | some .bytes => compoundFrom start .bytes []
  | some (.formatted fields) => compoundFrom start .formatted (← fields.mapM (field r))

def isConstantWord (t : Token) : Bool := isWord "True" t || isWord "False" t || isWord "None" t

def atom : Reader Expr := do
  let start ← here
  if ← sees isIdentifier then nameHere
  else if ← seesKind .string then literals r
  else if ← sees fun t => isKind .number t || isMark "..." t || isConstantWord t then
    let t ← advance
    compoundFrom start (.constant t.text) []
  else if ← seesMark "(" then roundBrackets r
  else if ← seesMark "[" then squareBrackets r
  else if ← seesMark "\x7b" then curlyBrackets r
  else failure

/-- The arguments of a call: a comprehension may stand alone without brackets of its own. -/
def callArguments : Reader (List Argument) := do
  let start ← here
  mark "("
  if ← takeMark ")" then return []
  let starred ← seesMark "*"
  let (stage, first) ← argument r .plain
  match first with
  | .positional e =>
    if !starred && (← startsClause) then
      return [.positional (← comprehensionTail r start .stream [e] ")")]
  | _ => pure ()
  if ← takeMark "," then
    if ← takeMark ")" then return [first]
    let more ← argumentsWithin r (← get).limit stage
    mark ")"
    return first :: more
  mark ")"
  return [first]

/-- Attributes, calls and subscripts after an atom; all of them start where the atom does. -/
def trailersWithin (start : Pos) : Nat → Expr → Reader Expr
  | 0, _ => failure
  | fuel + 1, e => do
    if ← takeMark "." then
      let attr ← identifier
      trailersWithin start fuel (← finish start fun s => .attribute s e attr)
    else if ← seesMark "(" then
      let arguments ← callArguments r
      trailersWithin start fuel (← finish start fun s => .call s e (positionals arguments) (named arguments))
    else if ← takeMark "[" then
      let index ← slices r
      mark "]"
      trailersWithin start fuel (← finish start fun s => .subscript s e index)
    else return e

def primary : Reader Expr := do
  let start ← here
  let first ← atom r
  trailersWithin r start (← get).limit first

/-! Operators, from the tightest level to the loosest. -/

def chain (form : List String → Form) (operand : Reader Expr) (operator : Reader (Option String)) :
    Reader Expr := do
  let start ← here
  let first ← operand
  let more ← repeated do
    match ← operator with
    | some text => return some (text, ← operand)
    | none => return none
  if more.isEmpty then return first
  else compoundFrom start (form (more.map (·.1))) (first :: more.map (·.2))

def anyMark (texts : List String) : Reader (Option String) := do
  if ← sees fun t => t.kind = .operator && texts.contains t.text then return some (← advance).text
  else return none

def wordOperator (text : String) : Reader (Option String) := do
  if ← takeWord text then return some text else return none

def awaited : Reader Expr := do
  let start ← here
  if ← takeWord "await" then compoundFrom start .awaiting [← primary r] else primary r

def power : Reader Expr := do
  let start ← here
  let base ← awaited r
  if ← takeMark "**" then compoundFrom start (.binary ["**"]) [base, ← r.factor] else return base

def factor : Reader Expr := do
  let start ← here
  match ← anyMark ["+", "-", "~"] with
  | some operator => compoundFrom start (.unary operator) [← r.factor]
  | none => power r

def term : Reader Expr := chain .binary (factor r) (anyMark ["*", "/", "//", "%", "@"])

def sum : Reader Expr := chain .binary (term r) (anyMark ["+", "-"])

def shift : Reader Expr := chain .binary (sum r) (anyMark ["<<", ">>"])

def bitwiseAnd : Reader Expr := chain .binary (shift r) (anyMark ["&"])

def bitwiseXor : Reader Expr := chain .binary (bitwiseAnd r) (anyMark ["^"])

def bitwiseOr : Reader Expr := chain .binary (bitwiseXor r) (anyMark ["|"])

def comparisonOperator : Reader (Option String) := do
  match ← anyMark ["==", "!=", "<", ">", "<=", ">="] with
  | some operator => return some operator
  | none =>
    if ← takeWord "in" then return some "in"
    else if ← takeWord "is" then
      if ← takeWord "not" then return some "is not" else return some "is"
    else if ← seesWord "not" then
      return (← attempt (do word "not"; word "in")).map fun _ => "not in"
    else return none

def comparison : Reader Expr := chain .comparison (bitwiseOr r) comparisonOperator

def inversion : Reader Expr := do
  let start ← here
  if ← takeWord "not" then compoundFrom start (.unary "not") [← r.inversion] else comparison r

def conjunction : Reader Expr := chain (fun _ => .conjunction) (inversion r) (wordOperator "and")

def disjunction : Reader Expr := chain (fun _ => .disjunction) (conjunction r) (wordOperator "or")

def expression : Reader Expr := do
  if ← seesWord "lambda" then lambda r
  else
    let start ← here
    let value ← disjunction r
    if ← takeWord "if" then
      let condition ← r.disjunction
      word "else"
      let otherwise ← r.expression
      compoundFrom start .choice [condition, value, otherwise]
    else return value

end Grammar

open Grammar in
/-- The grammar to a given nesting depth. -/
def rules : Nat → Rules
  | 0 => ⟨failure, failure, failure, failure, failure, failure, failure, failure⟩
  | depth + 1 =>
    let r := rules depth
    { expression := expression r, namedExpression := namedExpression r, disjunction := disjunction r,
      inversion := inversion r, bitwiseOr := bitwiseOr r, factor := factor r, primary := primary r,
      starExpressions := starExpressions r }

def readExpression (source : List Char) : Option Expr := do
  let tokens ← expressionTokens source
  let r := rules (source.length + 2)
  let whole : Reader Expr := do
    let e ← Grammar.tupleOf r.expression
    let _ ← repeated do
      if ← takeIf (isKind .newline) then return some () else return none
    layout .ending
    return e
  (whole (Cursor.start tokens)).map (·.1)

end AccessorForge.Syntax
