import AccessorForge.Accessor
import AccessorForge.Log
/-! Checks on containers before anything is generated for them. All problems of a container are collected
first; an error suppresses the whole container. Containers do not affect each other, except that two of them
may claim one output name. -/
namespace AccessorForge

def malformedTypeOf (o : Override) : List Diagnostic :=
  if o.typeName.isNone then
    [⟨.error, Diagnostic.malformedType, "Type argument must be a type reference: " ++ o.sourceText, o.location⟩]
  else []

def malformedNameOf (o : Override) : List Diagnostic :=
  let problem (reason : String) : List Diagnostic :=
    [⟨.error, Diagnostic.malformedName, "Name argument " ++ reason ++ ": " ++ o.sourceText, o.location⟩]
  match o.name with
  | none => problem "must be a literal string"
  | some name => if name = "" then problem "must not be empty" else []

/-- Both arguments are reported when both are wrong. -/
def problemsOf : Annotation → List Diagnostic
  | .group _ _ => []
  | .override o => malformedTypeOf o ++ malformedNameOf o

/-- Names taken so far, each with the type it was generated for. -/
abbrev Owners := Ledger String

def clashMessage (typeName name owner : String) : String :=
  "Accessor for " ++ typeName ++ " would reuse the name '" ++ name ++ "' already generated for " ++ owner

def clashOf (owners : Owners) (a : Accessor) : Option (String × String) :=
  a.taken.findSome? fun name => (Ledger.get? owners name).map (name, ·)

def claim (owners : Owners) (a : Accessor) : Owners :=
  Ledger.put a.cacheField a.typeName (Ledger.put a.property a.typeName owners)

/-- An accessor that clashes is reported and takes no names. -/
def clashesFrom (location : Location) (owners : Owners) : List Accessor → List Diagnostic
  | [] => []
  | a :: rest =>
    match clashOf owners a with
    | some (name, owner) =>
      ⟨.error, Diagnostic.duplicateAccessor, clashMessage a.typeName name owner, location⟩ ::
        clashesFrom location owners rest
    | none => clashesFrom location (claim owners a) rest

namespace Container

def checkOverrides (c : Container) : List Diagnostic := c.annotations.flatMap problemsOf

def checkAccessorNames (c : Container) : List Diagnostic := clashesFrom c.location [] c.planned

/-- An overridden type is no longer required by itself. -/
def applyPrecedence (c : Container) : Container :=
  { c with required := c.required.filter fun t => !Ledger.has c.overrides t }

def examine (c : Container) : Container := c.reportAll (c.checkOverrides ++ c.checkAccessorNames)

end Container

/-- A container after its checks, and whether something is generated for it. -/
structure Verdict where
  container : Container
  kept : Bool
  deriving Repr

namespace Verdict

def judge (warningsAsErrors : Bool) (c : Container) : Verdict :=
  let c := c.examine
  if c.hasErrors warningsAsErrors then ⟨c, false⟩ else ⟨c.applyPrecedence, true⟩

def collision (name : String) (earlier : String) (c : Container) : Diagnostic :=
  ⟨.warning, Diagnostic.outputCollision,
    "Output '" ++ name ++ "' is also generated for " ++ earlier ++ "; the module for " ++ c.fullName ++
      " replaces it",
    c.location⟩

/-- Output names claimed so far, each with the full name of the last container that is still generated. -/
abbrev Claimed := Ledger String

/-- The later of two containers with one output name is warned about; it replaces the earlier one, or is
dropped when warnings count as errors. -/
def settleFrom (warningsAsErrors : Bool) (claimed : Claimed) : List Verdict → List Verdict
  | [] => []
  | v :: rest =>
    if v.kept then
      let name := Naming.outputName v.container.name
      let renewed := Ledger.put name v.container.fullName claimed
      match Ledger.get? claimed name with
      | some earlier =>
        let warned := v.container.report (collision name earlier v.container)
        if warningsAsErrors then ⟨warned, false⟩ :: settleFrom warningsAsErrors claimed rest
        else ⟨warned, true⟩ :: settleFrom warningsAsErrors renewed rest
      | none => v :: settleFrom warningsAsErrors renewed rest
    else v :: settleFrom warningsAsErrors claimed rest

def settle (warningsAsErrors : Bool) (vs : List Verdict) : List Verdict := settleFrom warningsAsErrors [] vs

def logger : String := "componentgen.core.services.validator"

def suppression (v : Verdict) : Option Log.Record :=
  if v.kept then none
  else some ⟨Log.info, logger, "Suppressing generation for " ++ v.container.fullName ++ " (" ++
    toString v.container.diagnostics.length ++ " diagnostic(s))"⟩

end Verdict

def validate (warningsAsErrors : Bool) (cs : List Container) : List Verdict × List Log.Record :=
  let judged := cs.map (Verdict.judge warningsAsErrors)
  (Verdict.settle warningsAsErrors judged, judged.filterMap Verdict.suppression)

def keptContainers (vs : List Verdict) : List Container := (vs.filter (·.kept)).map (·.container)

end AccessorForge
