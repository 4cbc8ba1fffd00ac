import AccessorForge.Naming
import AccessorForge.Path
import AccessorForge.Syntax.Statement
/-! Source units: one source file, the module name it is imported by, its imports and the names it defines
at module level. -/
namespace AccessorForge
open Syntax

/-- Which imports of a unit a generated module copies. -/
inductive ImportScope
  /-- Plain imports and guarded blocks of imports. -/
  | all
  /-- Plain imports only. -/
  | module
  deriving DecidableEq, Repr

def ImportScope.ofString (s : String) : ImportScope := if s = "all" then .all else .module

structure SourceUnit where
  module : String
  text : String
  tree : Syntax.Module
  path : Option Path := none
  deriving Repr

inductive SourceFault
  /-- The text breaks the grammar. -/
  | grammar
  /-- The text or its name holds a NUL character. -/
  | nul
  /-- The text holds half of a surrogate pair alone. -/
  | unpaired
  deriving DecidableEq, Repr

namespace SourceUnit

def displayOf (module : String) (path : Option Path) : String :=
  match path with
  | some p => p.text
  | none => "<" ++ module ++ ">"

def displayPath (u : SourceUnit) : String := displayOf u.module u.path

def hasNul (s : String) : Bool := s.toList.contains '\x00'

def read (module text : String) (path : Option Path) : Except SourceFault SourceUnit :=
  if hasNul (displayOf module path) then .error .nul
  else if Text.Surrogate.isBroken text then .error .unpaired
  else if hasNul text then .error .nul
  else match readModule text.toList with
  | some tree => .ok ⟨module, text, tree, path⟩
  | none => .error .grammar

end SourceUnit

/-! Excerpts of the text. -/

def keptLines (current : List Char) : List Char → List (List Char)
  | [] => if current.isEmpty then [] else [current.reverse]
  | '\r' :: '\n' :: rest => ('\n' :: '\r' :: current).reverse :: keptLines [] rest
  | c :: rest =>
    if c = '\n' || c = '\r' then (c :: current).reverse :: keptLines [] rest else keptLines (c :: current) rest

def dropBytes : Nat → List Char → List Char
  | 0, cs => cs
  | _, [] => []
  | n, c :: rest => dropBytes (n - c.utf8Size) rest

def takeBytes : Nat → List Char → List Char
  | _, [] => []
  | n, c :: rest => if n < c.utf8Size then [] else c :: takeBytes (n - c.utf8Size) rest

def excerptOf (lines : List (List Char)) (span : Span) : String :=
  match span.stop.line - span.start.line, lines.drop (span.start.line - 1) with
  | 0, line :: _ =>
    String.ofList (takeBytes (span.stop.column - span.start.column) (dropBytes span.start.column line))
  | count + 1, first :: rest =>
    String.ofList (dropBytes span.start.column first ++ (rest.take count).flatten ++
      takeBytes span.stop.column (rest.getD count []))
  | _, [] => ""

def excerpt (text : String) (span : Span) : String := excerptOf (keptLines [] text.toList) span

/-! Imports. -/

/-- One import, as it stands in the tree. -/
inductive Import
  | ofModules (names : List Alias)
  | fromModule (source : Option String) (names : List Alias)
  deriving DecidableEq, Repr

namespace Import

/-- Whether a module of this last name is imported, or a name that may be such a module. -/
def refersTo (stem : String) : Import → Bool
  | .ofModules names => names.any fun a => Naming.lastSegment a.name = stem
  | .fromModule source names =>
    source.any (fun m => Naming.lastSegment m = stem) || names.any fun a => a.name = stem

def boundBy (whole : Bool) (a : Alias) : String :=
  a.localName.getD (if whole then Naming.leadingName a.name else a.name)

def bound : Import → List String
  | .ofModules names => names.map (boundBy true)
  | .fromModule _ names => names.map (boundBy false)

end Import

mutual
/-- Nothing but imports, guarded by conditions and handlers at any depth. -/
def isImportOnly : Stmt → Bool
  | .importModules _ _ | .importFrom _ _ _ | .pass => true
  | .block _ .conditional clauses | .block _ .guarded clauses => areClausesImportOnly clauses
  | _ => false

def areImportOnly : List Stmt → Bool
  | [] => true
  | s :: rest => isImportOnly s && areImportOnly rest

def areClausesImportOnly : List Clause → Bool
  | [] => true
  | .mk _ _ body :: rest => areImportOnly body && areClausesImportOnly rest
end

mutual
def importsOf : Stmt → List Import
  | .importModules _ names => [.ofModules names]
  | .importFrom _ source names => [.fromModule source names]
  | .block _ _ clauses => importsOfClauses clauses
  | .function _ _ body | .classDef _ _ _ body => importsOfAll body
  | _ => []

def importsOfAll : List Stmt → List Import
  | [] => []
  | s :: rest => importsOf s ++ importsOfAll rest

def importsOfClauses : List Clause → List Import
  | [] => []
  | .mk _ _ body :: rest => importsOfAll body ++ importsOfClauses rest
end

/-- An import statement at module level, or a block that only imports, with its exact text. -/
structure ImportDirective where
  statement : Stmt
  text : String
  deriving Repr

namespace ImportDirective

def imports (d : ImportDirective) : List Import := importsOf d.statement

def refersTo (d : ImportDirective) (stem : String) : Bool := d.imports.any (·.refersTo stem)

def bound (d : ImportDirective) : List String := d.imports.flatMap Import.bound

end ImportDirective

def importSpan (scope : ImportScope) (s : Stmt) : Option Span :=
  match s with
  | .importModules span _ | .importFrom span _ _ => some span
  | .block span .conditional _ | .block span .guarded _ =>
    if scope = .all && isImportOnly s && !(importsOf s).isEmpty then some span else none
  | _ => none

def definedBy : Stmt → List String
  | .function name _ _ | .classDef _ name _ _ => [name]
  | .assign targets _ => targets.flatMap Expr.names
  | _ => []

namespace SourceUnit

/-- The imports at module level in source order; those inside functions and classes bind no module names. -/
def importDirectives (u : SourceUnit) (scope : ImportScope) : List ImportDirective :=
  let lines := keptLines [] u.text.toList
  u.tree.filterMap fun s => (importSpan scope s).map fun span => ⟨s, excerptOf lines span⟩

/-- Names defined at module level by classes, functions and assignments. -/
def moduleLevelNames (u : SourceUnit) : List String := u.tree.flatMap definedBy

end SourceUnit

end AccessorForge
