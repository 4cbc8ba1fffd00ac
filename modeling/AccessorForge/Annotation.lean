import AccessorForge.Diagnostic
import AccessorForge.Unit
/-! The class annotations that take part in generation, and how decorators are read into them. A decorator
counts by the last name of its dotted callee, whether it is called or not. -/
namespace AccessorForge
open Syntax

def publicVisibility : String := "public"

/-- The request for one accessor with a name of its own. Type and name are absent when they were not
written as a dotted name and a literal text. -/
structure Override where
  typeName : Option String := none
  name : Option String := none
  visibility : String := publicVisibility
  sourceText : String := ""
  location : Location := {}
  deriving DecidableEq, Repr

def Override.isWellFormed (o : Override) : Bool := o.typeName.isSome && o.name.any (· ≠ "")

inductive Annotation
  /-- Asks for an accessor per required type. -/
  | group (visibility : String) (location : Location)
  | override (request : Override)
  deriving DecidableEq, Repr

inductive DecoratorKind
  | group
  | override
  | requirement
  deriving DecidableEq, Repr

namespace DecoratorKind

def word : DecoratorKind → String
  | .group => "require_component_getters"
  | .override => "require_component_getter"
  | .requirement => "require_component"

def all : List DecoratorKind := [.group, .override, .requirement]

def ofWord (s : String) : Option DecoratorKind := all.find? (·.word = s)

/-- Whether a class that carries this decorator takes part in generation. -/
def selects : DecoratorKind → Bool
  | .requirement => false
  | _ => true

end DecoratorKind

def dottedName : Expr → Option String
  | .name _ id => some id
  | .attribute _ value attr => (dottedName value).map (· ++ "." ++ attr)
  | _ => none

def decoratorKind (decorator : Expr) : Option DecoratorKind := do
  let name ← dottedName decorator.head
  DecoratorKind.ofWord (Naming.lastSegment name)

def literalText : Expr → Option String
  | .text _ value => some value
  | _ => none

/-- An argument by its name, else by its place; a decorator that is not called has none. -/
def argument (decorator : Expr) (name : String) (index : Nat) : Option Expr :=
  match decorator with
  | .call _ _ args keywords =>
    match keywords.find? (·.name? = some name) with
    | some keyword => some keyword.value
    | none => args[index]?
  | _ => none

def operands : Expr → List Expr
  | .call _ _ args _ => args
  | _ => []

def requiredTypes (decorator : Expr) : List String := (operands decorator).filterMap dottedName

namespace SourceUnit

def locationOf (u : SourceUnit) (p : Pos) : Location := ⟨u.displayPath, p.line, p.column⟩

def visibilityAt (decorator : Expr) (index : Nat) : String :=
  ((argument decorator "visibility" index).bind literalText).getD publicVisibility

def groupOf (u : SourceUnit) (decorator : Expr) : Annotation :=
  .group (visibilityAt decorator 0) (u.locationOf decorator.span.start)

def overrideOf (u : SourceUnit) (decorator : Expr) : Annotation :=
  .override {
    typeName := (argument decorator "type" 0).bind dottedName
    name := (argument decorator "name" 1).bind literalText
    visibility := visibilityAt decorator 2
    sourceText := excerpt u.text decorator.span
    location := u.locationOf decorator.span.start }

def annotationOf (u : SourceUnit) (decorator : Expr) : DecoratorKind → Option Annotation
  | .group => some (u.groupOf decorator)
  | .override => some (u.overrideOf decorator)
  | .requirement => none

end SourceUnit

theorem dottedName_call (s : Span) (callee : Expr) (args : List Expr) (keywords : List Keyword) :
    dottedName (.call s callee args keywords) = none := rfl

end AccessorForge
