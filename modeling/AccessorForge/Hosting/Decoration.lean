import AccessorForge.Annotation
import AccessorForge.Hosting.Action
import AccessorForge.Hosting.Frame
/-! Decorators as a program runs them. Their operands are evaluated and bound to the parameters of the run-time
functions, from the top down; then what has come of them is applied to the class, from the bottom up. Operands
are plain: dotted names that stand for classes, and literal texts. -/
namespace AccessorForge.Hosting
open Syntax

abbrev Resolution := String → Option ClassId

def operandOf (classes : Resolution) (e : Expr) : Option Datum :=
  match e with
  | .text _ value => some (.text value)
  | e => (dottedName e).bind fun name => (classes name).map .cls

def namedOperandOf (classes : Resolution) : Keyword → Option (String × Datum)
  | .mk (some name) value => (operandOf classes value).map (name, ·)
  | .mk none _ => none

/-- The arguments of a call; nothing if one of them is unpacked or a name comes twice. -/
def givenTo (classes : Resolution) (args : List Expr) (keywords : List Keyword) : Option Given := do
  let places ← args.mapM (operandOf classes)
  let names ← keywords.mapM (namedOperandOf classes)
  if hasRepeats (names.map (·.1)) then none else some ⟨places, names⟩

def getterParameters : List Parameter :=
  [⟨"type", .ordinary, false⟩, ⟨"name", .ordinary, false⟩, ⟨"visibility", .ordinary, true⟩]

def markerParameters : List Parameter := [⟨"visibility", .ordinary, true⟩]

def defaultVisibility : List Datum := [.text publicVisibility]

def boundTo (parameters : List Parameter) (g : Given) : Option (Ledger Datum) :=
  bindParameters id parameters defaultVisibility g

def classesIn (ds : List Datum) : Option (List ClassId) :=
  ds.mapM fun
    | .cls c => some c
    | _ => none

namespace Act

/-- A decorator once it has been called; the group marker may be left as it is. -/
def decorationOf (classes : Resolution) (decorator : Expr) : Option Decoration := do
  match ← decoratorKind decorator, decorator with
  | .requirement, .call _ _ args keywords =>
    let types ← (← givenTo classes args keywords).row?
    return .require (← classesIn types)
  | .override, .call _ _ args keywords =>
    let bound ← boundTo getterParameters (← givenTo classes args keywords)
    match Ledger.get? bound "type", Ledger.get? bound "name", Ledger.get? bound "visibility" with
    | some (.cls type), some (.text name), some (.text visibility) =>
      return .requireOne type (.text name) (.text visibility)
    | _, _, _ => none
  | .group, .call _ _ args keywords =>
    let bound ← boundTo markerParameters (← givenTo classes args keywords)
    match Ledger.get? bound "visibility" with
    | some (.text visibility) => return .markGroup (.text visibility)
    | _ => none
  | .group, _ => return .markGroup (.text publicVisibility)
  | _, _ => none

def applyAll (c : ClassId) : List Decoration → Act Unit
  | [] => return
  | d :: rest => do
    let _ ← decorate c d
    applyAll c rest

def decorateAll (classes : Resolution) (c : ClassId) (decorators : List Expr) : Act Unit := do
  applyAll c (← ofOption (decorators.mapM (decorationOf classes))).reverse

end Act

end AccessorForge.Hosting
