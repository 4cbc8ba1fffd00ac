/-! Syntax trees of component source files. Expressions are kept in full; of statements they keep what
annotations, imports and module-level names can show, of any other statement only its blocks. -/
namespace AccessorForge.Syntax

/-- Lines count from 1, columns are bytes from 0. -/
structure Pos where
  line : Nat
  column : Nat
  deriving DecidableEq, Repr, Inhabited

structure Span where
  start : Pos
  stop : Pos
  deriving DecidableEq, Repr, Inhabited

/-- How a parameter takes its argument. -/
inductive ParameterKind
  | byPlace
  | ordinary
  | byName
  /-- All arguments by place that are left. -/
  | rest
  /-- All arguments by name that are left. -/
  | restByName
  deriving DecidableEq, Repr

structure Parameter where
  name : String
  kind : ParameterKind
  hasDefault : Bool := false
  deriving DecidableEq, Repr

/-- What a comprehension makes. -/
inductive Collection
  | list
  | set
  | mapping
  /-- Elements on demand. -/
  | stream
  deriving DecidableEq, Repr

/-- A clause of a comprehension: its parts are a target, a source and so many conditions. -/
structure Loop where
  isAsync : Bool
  conditions : Nat
  deriving DecidableEq, Repr

/-- What an expression makes of its parts. -/
inductive Form
  /-- A word or a number; no parts. -/
  | constant (text : String)
  | bytes
  /-- A text with the parts filled in. -/
  | formatted
  /-- A name, and the value bound to it in passing. -/
  | binding
  | yielding
  | delegating
  | awaiting
  /-- The defaults of the parameters that have one, and the body. -/
  | function (parameters : List Parameter)
  | unary (operator : String)
  /-- Operands from the left to the right, with the operators between them. -/
  | binary (operators : List String)
  | comparison (operators : List String)
  | conjunction
  | disjunction
  /-- The condition, the value if it holds, the value if not. -/
  | choice
  | set
  /-- Keys with values, and single parts that are unpacked. -/
  | mapping (arePairs : List Bool)
  /-- Of three bounds those that are given. -/
  | slice (given : List Bool)
  /-- One element, or a key with its value, then the parts of the clauses. -/
  | comprehension (collection : Collection) (loops : List Loop)
  deriving DecidableEq, Repr

mutual
inductive Expr
  | name (span : Span) (id : String)
  | attribute (span : Span) (value : Expr) (attr : String)
  | call (span : Span) (callee : Expr) (args : List Expr) (keywords : List Keyword)
  /-- A literal text, after joining the literals that stand side by side. -/
  | text (span : Span) (value : String)
  | starred (span : Span) (value : Expr)
  | tuple (span : Span) (items : List Expr)
  | list (span : Span) (items : List Expr)
  | subscript (span : Span) (value index : Expr)
  /-- Any other expression, with its direct parts. -/
  | compound (span : Span) (form : Form) (parts : List Expr)
  deriving Repr, Inhabited

/-- A named argument of a call, or an unpacked mapping. -/
inductive Keyword
  | mk (name : Option String) (value : Expr)
  deriving Repr, Inhabited
end

def Keyword.name? : Keyword → Option String
  | .mk name _ => name

def Keyword.value : Keyword → Expr
  | .mk _ value => value

def Expr.span : Expr → Span
  | .name s _ | .attribute s _ _ | .call s _ _ _ | .text s _ | .starred s _ | .tuple s _ | .list s _
  | .subscript s _ _ | .compound s _ _ => s

/-- The callee of a call, any other expression itself. -/
def Expr.head : Expr → Expr
  | .call _ callee _ _ => callee
  | e => e

mutual
def Expr.names : Expr → List String
  | .name _ id => [id]
  | .attribute _ value _ => value.names
  | .call _ callee args keywords => callee.names ++ exprNames args ++ keywordNames keywords
  | .text _ _ => []
  | .starred _ value => value.names
  | .tuple _ items => exprNames items
  | .list _ items => exprNames items
  | .subscript _ value index => value.names ++ index.names
  | .compound _ _ parts => exprNames parts

def exprNames : List Expr → List String
  | [] => []
  | e :: rest => e.names ++ exprNames rest

def Keyword.names : Keyword → List String
  | .mk _ value => value.names

def keywordNames : List Keyword → List String
  | [] => []
  | k :: rest => k.names ++ keywordNames rest
end

/-- One imported name with its local name, if another was given. -/
structure Alias where
  name : String
  localName : Option String
  deriving DecidableEq, Repr

inductive BlockKind
  | conditional
  | guarded
  | other
  deriving DecidableEq, Repr

inductive ClauseRole
  | suite
  /-- With the name for what was raised. -/
  | handler (name : Option String)
  | matchCase
  deriving DecidableEq, Repr

def ClauseRole.extraDepth : ClauseRole → Nat
  | .suite => 0
  | _ => 1

mutual
inductive Stmt
  | importModules (span : Span) (names : List Alias)
  | importFrom (span : Span) (module : Option String) (names : List Alias)
  | pass
  | assign (targets : List Expr) (value : Option Expr)
  | function (name : String) (decorators : List Expr) (body : List Stmt)
  | classDef (start : Pos) (name : String) (decorators : List Expr) (body : List Stmt)
  /-- A statement made of clauses; a chained condition is a condition in the last clause. -/
  | block (span : Span) (kind : BlockKind) (clauses : List Clause)
  | other
  deriving Repr

/-- The expressions of a clause's header that are read before its body runs, and the body. -/
inductive Clause
  | mk (role : ClauseRole) (heads : List Expr) (body : List Stmt)
  deriving Repr
end

def Clause.role : Clause → ClauseRole
  | .mk role _ _ => role

def Clause.heads : Clause → List Expr
  | .mk _ heads _ => heads

def Clause.body : Clause → List Stmt
  | .mk _ _ body => body

abbrev Module := List Stmt

end AccessorForge.Syntax
