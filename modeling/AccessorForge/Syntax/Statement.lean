import AccessorForge.Syntax.Pattern
/-! The grammar of statements and of whole files. -/
namespace AccessorForge.Syntax
open Reader

namespace Grammar
variable (r : Rules)

def simply (p : Reader Unit) : Reader Stmt := do
  p
  return .other

/-- The last value of an assignment; no other target may follow. -/
def assignedValue : Reader Expr := do
  if ← seesWord "yield" then yieldExpression r else r.starExpressions

/-- Targets and value of a chain of equals signs, of which the first target is known. -/
def assignmentChain : Nat → Expr → Reader (List Expr × Expr)
  | 0, _ => failure
  | fuel + 1, target => do
    if !isStarTarget target then failure
    mark "="
    if ← seesWord "yield" then return ([target], ← yieldExpression r)
    let value ← r.starExpressions
    if ← seesMark "=" then
      let (targets, value) ← assignmentChain fuel value
      return (target :: targets, value)
    return ([target], value)

def updateOperators : List String :=
  ["+=", "-=", "*=", "@=", "/=", "%=", "&=", "|=", "^=", "<<=", ">>=", "**=", "//="]

def expressionStatement : Reader Stmt := do
  let first ← r.starExpressions
  if ← seesMark "=" then
    let (targets, value) ← assignmentChain r (← get).limit first
    return .assign targets (some value)
  else if ← takeMark ":" then
    if !isSingleTarget first then failure
    discard r.expression
    let value ← if ← takeMark "=" then some <$> assignedValue r else pure none
    return .assign [first] value
  else if (← anyMark updateOperators).isSome then
    if !isSingleTarget first then failure
    return .assign [first] (some (← assignedValue r))
  else return .other

/-! Imports. -/

def dottedName : Reader String := do
  let first ← identifier
  let more ← repeated do
    if ← takeMark "." then return some (← identifier) else return none
  return ".".intercalate (first :: more)

def localName : Reader (Option String) := do
  if ← takeWord "as" then return some (← identifier) else return none

def importStatement : Reader Stmt := do
  let start ← here
  word "import"
  let names ← strictCommaList do
    let name ← dottedName
    return ⟨name, ← localName⟩
  return .importModules (← spanFrom start) names

def importedName : Reader Alias := do
  let name ← identifier
  return ⟨name, ← localName⟩

def importedNames : Reader (List Alias) := do
  if ← takeMark "*" then return [⟨"*", none⟩]
  else if ← takeMark "(" then
    let (names, _) ← commaList importedName
    mark ")"
    return names
  else strictCommaList importedName

def importFromStatement : Reader Stmt := do
  let start ← here
  word "from"
  let dots ← repeated do
    return (← anyMark [".", "..."]).map fun _ => ()
  let module ← if !dots.isEmpty && (← seesWord "import") then pure none else some <$> dottedName
  word "import"
  let names ← importedNames
  return .importFrom (← spanFrom start) module names

/-! Other simple statements. -/

def endsSimple : Reader Bool := sees fun t => isMark ";" t || isKind .newline t

def optionalExpressions : Reader Unit := do
  if ← endsSimple then return () else discard r.starExpressions

def raiseStatement : Reader Unit := do
  if ← endsSimple then return ()
  discard r.expression
  if ← takeWord "from" then discard r.expression

def deleteStatement : Reader Unit := do
  let (targets, _) ← commaList r.primary
  if !areDeletable targets then failure

def assertStatement : Reader Unit := do
  discard r.expression
  if ← takeMark "," then discard r.expression

def nameList : Reader Unit := discard (strictCommaList identifier)

def simpleStatement : Reader Stmt := do
  if ← takeWord "pass" then return .pass
  else if ← seesWord "import" then importStatement
  else if ← seesWord "from" then importFromStatement
  else if ← takeIf fun t => isWord "break" t || isWord "continue" t then return .other
  else if ← takeWord "return" then simply (optionalExpressions r)
  else if ← takeWord "raise" then simply (raiseStatement r)
  else if ← takeIf fun t => isWord "global" t || isWord "nonlocal" t then simply nameList
  else if ← takeWord "del" then simply (deleteStatement r)
  else if ← takeWord "assert" then simply (assertStatement r)
  else if ← seesWord "yield" then simply (discard (yieldExpression r))
  else expressionStatement r

def simpleStatements : Reader (List Stmt) := do
  let first ← simpleStatement r
  let more ← repeated do
    if ← takeMark ";" then
      if ← seesKind .newline then return none else return some (← simpleStatement r)
    else return none
  layout .newline
  return first :: more

/-! Compound statements; `body` reads a statement list one level further in. -/

variable (depth : Nat) (body : Reader (List Stmt))

def suite : Reader (List Stmt) := do
  mark ":"
  if ← takeIf (isKind .newline) then
    layout .indent
    let statements ← body
    layout .dedent
    return statements
  else simpleStatements r

def elseClause : Reader (List Clause) := do
  if ← takeWord "else" then return [.mk .suite [] (← suite r body)] else return []

/-- A condition and its body. A further condition becomes the only statement of the last clause. -/
def conditionalWithin : Nat → Reader Stmt
  | 0 => failure
  | fuel + 1 => do
    let start ← here
    let _ ← advance
    let condition ← r.namedExpression
    let consequence ← suite r body
    let otherwise ← if ← seesWord "elif" then do
        pure [Clause.mk .suite [] [← conditionalWithin fuel]]
      else elseClause r body
    return .block (← spanFrom start) .conditional (.mk .suite [condition] consequence :: otherwise)

def conditional : Reader Stmt := do conditionalWithin r body (← get).limit

def whileLoop : Reader Stmt := do
  let start ← here
  word "while"
  let condition ← r.namedExpression
  let first ← suite r body
  let otherwise ← elseClause r body
  return .block (← spanFrom start) .other (.mk .suite [condition] first :: otherwise)

def forLoop (start : Pos) : Reader Stmt := do
  word "for"
  let targets ← starTargets r
  word "in"
  let source ← r.starExpressions
  let first ← suite r body
  let otherwise ← elseClause r body
  return .block (← spanFrom start) .other (.mk .suite [targets, source] first :: otherwise)

def withItem : Reader (List Expr) := do
  let value ← r.expression
  if ← takeWord "as" then
    let target ← starTarget r
    if ← sees fun t => isMark "," t || isMark ")" t || isMark ":" t then return [value, target] else failure
  else return [value]

def withHeader : Reader (List Expr) := do
  let bracketed ← attempt do
    mark "("
    let (items, _) ← commaList (withItem r)
    mark ")"
    if ← seesMark ":" then return items.flatten else failure
  match bracketed with
  | some items => return items
  | none => return (← strictCommaList (withItem r)).flatten

def withBlock (start : Pos) : Reader Stmt := do
  word "with"
  let items ← withHeader r
  let statements ← suite r body
  return .block (← spanFrom start) .other [.mk .suite items statements]

def handler : Reader (Option (Bool × Clause)) := do
  if ← takeWord "except" then
    if ← seesMark ":" then return some (false, .mk (.handler none) [] (← suite r body))
    else
      let grouped ← takeMark "*"
      let type ← r.expression
      let name ← localName
      return some (grouped, .mk (.handler name) [type] (← suite r body))
  else return none

def finallyClause : Reader (List Clause) := do
  if ← takeWord "finally" then return [.mk .suite [] (← suite r body)] else return []

/-- A guarded block needs a handler or a final clause; its handlers are all of one sort. -/
def guarded : Reader Stmt := do
  let start ← here
  word "try"
  let first ← suite r body
  let handlers ← repeated (handler r body)
  let grouped := handlers.any (·.1)
  if grouped && handlers.any (!·.1) then failure
  let otherwise ← if handlers.isEmpty then pure [] else elseClause r body
  let final ← finallyClause r body
  if handlers.isEmpty && final.isEmpty then failure
  return .block (← spanFrom start) (if grouped then .other else .guarded)
    (.mk .suite [] first :: handlers.map (·.2) ++ otherwise ++ final)

def caseClause : Reader (Option Clause) := do
  if ← takeWord "case" then
    Pattern.top r depth
    let guards ← if ← takeWord "if" then List.singleton <$> r.namedExpression else pure []
    return some (.mk .matchCase guards (← suite r body))
  else return none

def matchSubject : Reader Expr := do
  let starred ← seesMark "*"
  let start ← here
  let (items, trailing) ← commaList (starNamedExpression r)
  match items, trailing with
  | [e], false => if starred then failure else return e
  | items, _ => finish start fun s => .tuple s items

/-- The head of a match block up to its first case; `match` may be an ordinary name as well. -/
def matchHeader : Reader Expr := do
  word "match"
  let subject ← matchSubject r
  mark ":"
  layout .newline
  return subject

def matchBlock (start : Pos) (subject : Expr) : Reader Stmt := do
  layout .indent
  let cases ← repeated (caseClause r depth body)
  if cases.isEmpty then failure
  layout .dedent
  return .block (← spanFrom start) .other (.mk .suite [subject] [] :: cases)

/-! Definitions. -/

def decorator : Reader (Option Expr) := do
  if ← takeMark "@" then
    let e ← r.namedExpression
    layout .newline
    return some e
  else return none

def functionDefinition (decorators : List Expr) : Reader Stmt := do
  word "def"
  let name ← identifier
  mark "("
  let _ ← params r .annotated ")"
  mark ")"
  if ← takeMark "->" then discard r.expression
  return .function name decorators (← suite r body)

def classDefinition (decorators : List Expr) : Reader Stmt := do
  let start ← here
  word "class"
  let name ← identifier
  if ← takeMark "(" then
    discard (arguments r)
    mark ")"
  return .classDef start name decorators (← suite r body)

def asyncStatement : Reader Stmt := do
  let start ← here
  word "async"
  if ← seesWord "def" then functionDefinition r body []
  else if ← seesWord "for" then forLoop r body start
  else withBlock r body start

def decorated : Reader Stmt := do
  let decorators ← repeated (decorator r)
  if ← seesWord "class" then classDefinition r body decorators
  else
    let _ ← takeWord "async"
    functionDefinition r body decorators

def compound? : Reader (Option Stmt) := do
  let start ← here
  if ← seesWord "if" then return some (← conditional r body)
  else if ← seesWord "class" then return some (← classDefinition r body [])
  else if ← seesMark "@" then return some (← decorated r body)
  else if ← seesWord "def" then return some (← functionDefinition r body [])
  else if ← seesWord "async" then return some (← asyncStatement r body)
  else if ← seesWord "with" then return some (← withBlock r body start)
  else if ← seesWord "for" then return some (← forLoop r body start)
  else if ← seesWord "try" then return some (← guarded r body)
  else if ← seesWord "while" then return some (← whileLoop r body)
  else if ← seesWord "match" then
    match ← attempt (matchHeader r) with
    | some subject => return some (← matchBlock r depth body start subject)
    | none => return none
  else return none

def statement : Reader (List Stmt) := do
  match ← compound? r depth body with
  | some s => return [s]
  | none => simpleStatements r

def endsStatements : Reader Bool := sees fun t => isKind .dedent t || isKind .ending t

def statementsOnce : Reader (List Stmt) := do
  let lists ← repeated do
    if ← endsStatements then return none else return some (← statement r depth body)
  return lists.flatten

def statements : Nat → Reader (List Stmt)
  | 0 => failure
  | nesting + 1 => statementsOnce r depth (statements nesting)

end Grammar

/-- A whole source file, or nothing if it breaks the grammar anywhere. -/
def readModule (source : List Char) : Option Module := do
  let tokens ← moduleTokens source
  let depth := source.length + 2
  let whole : Reader Module := do
    let body ← Grammar.statements (rules depth) depth depth
    layout .ending
    return body
  (whole (Cursor.start tokens)).map (·.1)

end AccessorForge.Syntax
