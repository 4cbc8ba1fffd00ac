import AccessorForge.Checks
import AccessorForge.GeneratedModule
/-! One generation pass: scan, merge, check, then hand every generated module to an output. A module that
the output refuses is noted and the pass goes on. -/
namespace AccessorForge

structure PassOptions where
  importScope : ImportScope := .all
  runtimeModule : String := defaultRuntimeModule
  warningsAsErrors : Bool := false
  deriving DecidableEq, Repr

structure PassResult where
  sources : List GeneratedSource
  diagnostics : List Diagnostic
  containers : List Container
  /-- Full names of the containers without output. -/
  suppressed : List String
  writeErrors : List String
  deriving Repr

namespace PassResult

def errorCount (r : PassResult) : Nat := (Diagnostic.errors r.diagnostics).length

def warningCount (r : PassResult) : Nat := (Diagnostic.warnings r.diagnostics).length

end PassResult

def Diagnostic.record (d : Diagnostic) : Log.Record :=
  ⟨if d.isError then Log.error else Log.warning, "componentgen.diagnostics", d.format⟩

/-- What scanning, merging and checking find out about a list of units. -/
structure Analysis where
  verdicts : List Verdict
  records : List Log.Record
  deriving Repr

namespace Analysis

def foundRecord (c : Container) : Log.Record :=
  ⟨Log.debug, "componentgen.core.services.scanner",
    "Found container " ++ c.fullName ++ " (" ++ c.unit.displayPath ++ ":" ++ toString c.declared.line ++ ")"⟩

def ofContainers (warningsAsErrors : Bool) (cs : List Container) : Analysis :=
  let (verdicts, suppressions) := validate warningsAsErrors cs
  ⟨verdicts, cs.map foundRecord ++ suppressions ++
    verdicts.flatMap fun v => v.container.diagnostics.map Diagnostic.record⟩

def ofUnits (warningsAsErrors : Bool) (units : List SourceUnit) : Analysis :=
  ofContainers warningsAsErrors (Containers.scan units).aggregate.values

def diagnostics (a : Analysis) : List Diagnostic := a.verdicts.flatMap (·.container.diagnostics)

def suppressed (a : Analysis) : List String := (a.verdicts.filter (!·.kept)).map (·.container.fullName)

def sources (a : Analysis) (options : PassOptions) : List GeneratedSource :=
  (keptContainers a.verdicts).map fun c => c.generate options.importScope options.runtimeModule

end Analysis

structure Delivery where
  sources : List GeneratedSource := []
  writeErrors : List String := []
  deriving DecidableEq, Repr

def writeError (s : GeneratedSource) (reason : String) : String := s.name ++ ": " ++ reason

namespace Delivery

def note (d : Delivery) (s : GeneratedSource) : Option String → Delivery
  | some reason => { d with writeErrors := d.writeErrors ++ [writeError s reason] }
  | none => { d with sources := d.sources ++ [s] }

end Delivery

def passLogger : String := "componentgen.core.services.pipeline"

def refusalRecord (s : GeneratedSource) (reason : String) : Log.Record :=
  ⟨Log.error, passLogger, "Cannot write " ++ s.name ++ " for " ++ s.container ++ ": " ++ reason⟩

/-- Hand over the modules one by one; `add` gives the reason when it refuses one. -/
def deliver {m : Type → Type} [Monad m] (add : GeneratedSource → m (Option String))
    (log : Log.Record → m Unit) : Delivery → List GeneratedSource → m Delivery
  | d, [] => pure d
  | d, s :: rest => do
    let outcome ← add s
    match outcome with
    | some reason => log (refusalRecord s reason)
    | none => pure ()
    deliver add log (d.note s outcome) rest

namespace Analysis

def result (a : Analysis) (d : Delivery) : PassResult :=
  ⟨d.sources, a.diagnostics, a.verdicts.map (·.container), a.suppressed, d.writeErrors⟩

end Analysis

def PassResult.record (r : PassResult) : Log.Record :=
  ⟨Log.info, passLogger, "Generation pass: " ++ toString r.containers.length ++ " container(s), " ++
    toString r.sources.length ++ " generated, " ++ toString r.suppressed.length ++ " suppressed, " ++
    toString r.errorCount ++ " error(s)"⟩

def runPass {m : Type → Type} [Monad m] (add : GeneratedSource → m (Option String)) (log : Log.Record → m Unit)
    (options : PassOptions) (units : List SourceUnit) : m PassResult := do
  let analysis := Analysis.ofUnits options.warningsAsErrors units
  analysis.records.forM log
  let delivery ← deliver add log {} (analysis.sources options)
  let result := analysis.result delivery
  log result.record
  return result

/-! Modules kept in memory. -/

/-- Registered modules by name; a name registered again keeps its place. -/
abbrev Memory := Ledger GeneratedSource

namespace Memory

def add (m : Memory) (s : GeneratedSource) : Memory := Ledger.put s.name s m

def text? (m : Memory) (name : String) : Option String := (Ledger.get? m name).map (·.content)

def addUnless (refused : List String) (reason : String) (s : GeneratedSource) : StateM Memory (Option String) := do
  if refused.contains s.name then return some reason
  modify (·.add s)
  return none

end Memory

def runPassInMemory (refused : List String) (reason : String) (options : PassOptions) (units : List SourceUnit) :
    PassResult × Memory :=
  let run : StateM Memory PassResult := runPass (Memory.addUnless refused reason) (fun _ => pure ()) options units
  run.run []

end AccessorForge
