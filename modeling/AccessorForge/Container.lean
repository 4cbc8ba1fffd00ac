import AccessorForge.Annotation
import AccessorForge.Ledger
/-! Containers: everything known about one annotated class. A container is opened by the first class of its
full name and filled by the decorators of all of them. -/
namespace AccessorForge
open Syntax

/-- Name and visibility of the accessor for one overridden type. -/
structure OverrideEntry where
  name : String
  visibility : String
  deriving DecidableEq, Repr

structure Container where
  fullName : String
  name : String
  namespaceName : String
  unit : SourceUnit
  declared : Pos
  /-- Required types in the order in which they first came, each once. -/
  required : List String := []
  /-- The visibility of auto-named accessors, once a group marker asks for them. -/
  defaults : Option String := none
  overrides : Ledger OverrideEntry := []
  annotations : List Annotation := []
  diagnostics : List Diagnostic := []
  deriving Repr

namespace Container

def location (c : Container) : Location := c.unit.locationOf c.declared

def require (c : Container) (typeName : String) : Container :=
  { c with required := appendNew c.required typeName }

def annotate (c : Container) (a : Annotation) : Container := { c with annotations := c.annotations ++ [a] }

def report (c : Container) (d : Diagnostic) : Container := { c with diagnostics := c.diagnostics ++ [d] }

def reportAll (c : Container) (ds : List Diagnostic) : Container :=
  { c with diagnostics := c.diagnostics ++ ds }

/-- Whether nothing may be generated for this container. -/
def hasErrors (c : Container) (warningsAsErrors : Bool) : Bool :=
  if warningsAsErrors then !c.diagnostics.isEmpty else c.diagnostics.any (·.isError)

def defaultTypes (c : Container) : List String := if c.defaults.isSome then c.required else []

/-! Merging annotations. -/

/-- A later group marker replaces an earlier one; a later override of a type replaces the whole entry but
not its place. Malformed overrides are passed over. -/
def merge (c : Container) : Annotation → Container
  | .group visibility _ => { c with defaults := some visibility }
  | .override request =>
    match request.typeName, request.name with
    | some typeName, some name =>
      if name = "" then c
      else { c with overrides := Ledger.put typeName ⟨name, request.visibility⟩ c.overrides }
    | _, _ => c

def aggregate (c : Container) : Container := c.annotations.foldl merge c

end Container

/-! Scanning. -/

/-- A class, with the names that enclose it. -/
structure Declaration where
  namespaceName : String
  name : String
  start : Pos
  decorators : List Expr
  deriving Repr

namespace Declaration

def fullName (d : Declaration) : String :=
  if d.namespaceName = "" then d.name else d.namespaceName ++ "." ++ d.name

def kinds (d : Declaration) : List (Expr × DecoratorKind) :=
  d.decorators.filterMap fun e => (decoratorKind e).map (e, ·)

def isSelected (d : Declaration) : Bool := d.kinds.any fun (_, k) => k.selects

end Declaration

namespace SourceUnit

def moduleScope (u : SourceUnit) : List String := if u.module = "" then [] else [u.module]

def opened (u : SourceUnit) (d : Declaration) : Container :=
  ⟨d.fullName, d.name, d.namespaceName, u, d.start, [], none, [], [], []⟩

end SourceUnit

namespace Container

def absorbDecorator (u : SourceUnit) (c : Container) (decorator : Expr) (kind : DecoratorKind) : Container :=
  match u.annotationOf decorator kind with
  | some a => c.annotate a
  | none => (requiredTypes decorator).foldl require c

def absorb (u : SourceUnit) (c : Container) (d : Declaration) : Container :=
  d.kinds.foldl (fun c (e, k) => absorbDecorator u c e k) c

end Container

/-- Containers by full name, in the order in which they were first met. -/
abbrev Containers := Ledger Container

namespace Containers

/-- Take in one class; it counts only if a group marker or an override is among its decorators. -/
def declare (u : SourceUnit) (cs : Containers) (d : Declaration) : Containers :=
  if d.isSelected then
    let c := (Ledger.get? cs d.fullName).getD (u.opened d)
    Ledger.put d.fullName (c.absorb u d) cs
  else cs

end Containers

/-- A walk through a unit: the names around the statement at hand, outermost first, and the containers met so
far. -/
structure Walk where
  scope : List String
  containers : Containers
  deriving Repr

namespace Walk

def enter (v : Walk) (name : String) : Walk := { v with scope := v.scope ++ [name] }

def leave (v : Walk) : Walk := { v with scope := v.scope.dropLast }

def declare (u : SourceUnit) (v : Walk) (start : Pos) (name : String) (decorators : List Expr) : Walk :=
  { v with containers := v.containers.declare u ⟨".".intercalate v.scope, name, start, decorators⟩ }

mutual
/-- Walk through a statement; classes are taken in before what they enclose. -/
def visit (u : SourceUnit) (v : Walk) : Stmt → Walk
  | .function name _ body => (visitAll u (v.enter name) body).leave
  | .classDef start name decorators body =>
    (visitAll u ((v.declare u start name decorators).enter name) body).leave
  | .block _ _ clauses => visitClauses u v clauses
  | _ => v

def visitAll (u : SourceUnit) (v : Walk) : List Stmt → Walk
  | [] => v
  | s :: rest => visitAll u (visit u v s) rest

def visitClauses (u : SourceUnit) (v : Walk) : List Clause → Walk
  | [] => v
  | .mk _ _ body :: rest => visitClauses u (visitAll u v body) rest
end

end Walk

namespace Containers

def scanUnit (cs : Containers) (u : SourceUnit) : Containers :=
  (Walk.visitAll u ⟨u.moduleScope, cs⟩ u.tree).containers

def scan (units : List SourceUnit) : Containers := units.foldl scanUnit []

def aggregate (cs : Containers) : Containers := cs.map fun (name, c) => (name, c.aggregate)

end Containers

mutual
/-- The classes of a statement with their distance from the top; handlers and cases count one level more. -/
def classDepths (depth : Nat) : Stmt → List (Nat × String × Pos)
  | .function _ _ body => classDepthsAll (depth + 1) body
  | .classDef start name _ body => (depth, name, start) :: classDepthsAll (depth + 1) body
  | .block _ _ clauses => classDepthsClauses (depth + 1) clauses
  | _ => []

def classDepthsAll (depth : Nat) : List Stmt → List (Nat × String × Pos)
  | [] => []
  | s :: rest => classDepths depth s ++ classDepthsAll depth rest

def classDepthsClauses (depth : Nat) : List Clause → List (Nat × String × Pos)
  | [] => []
  | .mk role _ body :: rest => classDepthsAll (depth + role.extraDepth) body ++ classDepthsClauses depth rest
end

/-- Of two classes the one nearer to the top, the first if they are level. -/
def shallower (best : Option (Nat × String × Pos)) (c : Nat × String × Pos) : Option (Nat × String × Pos) :=
  match best with
  | none => some c
  | some b => if c.1 < b.1 then some c else some b

/-- The first class of a module when its levels are searched one by one. -/
def SourceUnit.firstClass (u : SourceUnit) : Option (String × Pos) :=
  ((classDepthsAll 0 u.tree).foldl shallower none).map (·.2)

end AccessorForge
