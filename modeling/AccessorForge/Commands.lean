import AccessorForge.Forest
import AccessorForge.Output
import AccessorForge.Report
import AccessorForge.Settings
/-! What a project can be asked for: generate its accessor modules, check that they are current, or inspect
what is declared. Settings that cannot be used end a command with a message instead of a result. -/
namespace AccessorForge

namespace Forest

def toJson (f : Forest) : Json :=
  .fields [("files", .int f.units.length), ("errors", .texts f.errors),
    ("skipped_generated", .int f.generated.length)]

end Forest

namespace Output

def paths (ps : List Path) : Json := .texts (ps.map Path.text)

def toJson (o : Output) : Json :=
  .fields [("written", paths o.written), ("unchanged", paths o.unchanged), ("pending", paths o.pending),
    ("removed", paths o.removed), ("obsolete", paths o.obsolete)]

end Output

abbrev ShowOverrides := Ledger OverrideEntry → Json

/-- Which files a command looks at and where it expects the modules. -/
structure Request where
  settingsFile : Option Path := none
  /-- Roots that stand in for those of the settings, if there are any. -/
  paths : List Path := []
  outputDir : Option Path := none
  deriving DecidableEq, Repr

namespace Request

def isFull (r : Request) : Bool := r.paths.isEmpty

def prepare (r : Request) : Job (Settings × Forest) := do
  let s ← Settings.load r.settingsFile true
  let roots ← if r.isFull then s.sourcePaths else r.paths.mapM Job.resolve
  return (s, ← Forest.load roots s.includePatterns s.excludePatterns)

def output (r : Request) (s : Settings) (dryRun : Bool) : Job Output := do
  let directory ← match r.outputDir with
    | some d => do pure (some (← Job.resolve d))
    | none => s.outputPath
  return { directory, dryRun, fallback := s.root }

/-- Generated modules under the roots and, after a full scan, in the output directory, which also holds
modules of sources outside a partial one. -/
def obsoleteCandidates (r : Request) (f : Forest) (o : Output) : Job (List Path) := do
  match o.directory with
  | some d => if r.isFull then return f.generated ++ (← generatedModulesIn d) else return f.generated
  | none => return f.generated

end Request

def passOnto (o : Output) (options : PassOptions) (units : List SourceUnit) : Job (PassResult × Output) :=
  let add (s : GeneratedSource) : StateT Output Job (Option String) := do
    let (o, failure) ← (← get).add s
    set o
    match failure with
    | none => return none
    | some (.file f) => return some f.message
    | some f => (throw f : Job (Option String))
  let log (r : Log.Record) : StateT Output Job Unit := (modify (Workspace.note r) : Job Unit)
  (runPass add log options units).run o

/-- What is left of a run that got as far as its pass. -/
structure Generation where
  forest : Forest
  pass : PassResult
  output : Output
  error : Option String := none
  deriving Repr

/-- A command ends with its result, or with a message about the settings. -/
abbrev Outcome := Except String

namespace Generation

def logger : String := "componentgen.core.use_cases.generate"

def hasErrors : Outcome Generation → Bool
  | .error _ => true
  | .ok g => g.error.isSome || g.pass.errorCount ≠ 0 || !g.pass.writeErrors.isEmpty

def toJson (showOverrides : ShowOverrides) : Outcome Generation → Json
  | .error message => .fields [("error", .text message)]
  | .ok g => .fields ((g.error.map fun e => ("error", .text e)).toList ++
      [("sources", g.forest.toJson), ("generation", g.pass.toJson showOverrides), ("output", g.output.toJson)])

end Generation

def generate (r : Request) (dryRun : Bool) : Job (Outcome Generation) := do
  match ← Job.attemptSettings r.prepare with
  | .error message => return .error message
  | .ok (s, forest) =>
    let (pass, o) ← passOnto (← r.output s dryRun) s.passOptions forest.units
    let (o, failure) ← match ← Job.attempt (r.obsoleteCandidates forest o) with
      | .ok candidates => o.prune candidates
      | .error f => pure (o, some (.file f))
    match failure with
    | some (.file f) => return .ok ⟨forest, pass, o, some ("Cannot remove obsolete module: " ++ f.message)⟩
    | some f => throw f
    | none =>
      Job.log Log.info Generation.logger ("Generated " ++ toString pass.sources.length ++ " module(s): " ++
        toString o.written.length ++ " written, " ++ toString o.unchanged.length ++ " unchanged, " ++
        toString o.removed.length ++ " removed")
      return .ok ⟨forest, pass, o, none⟩

structure Check where
  pass : PassResult
  /-- Modules that are missing, outdated or obsolete. -/
  stale : List Path
  parseErrors : List String
  deriving Repr

namespace Check

def isOk : Outcome Check → Bool
  | .error _ => false
  | .ok c => c.stale.isEmpty && c.pass.errorCount = 0

def toJson (showOverrides : ShowOverrides) (c : Outcome Check) : Json :=
  match c with
  | .error message => .fields [("ok", .bool false), ("error", .text message)]
  | .ok r => .fields [("ok", .bool (isOk c)), ("stale", .texts (r.stale.map Path.text)),
      ("parse_errors", .texts r.parseErrors), ("generation", r.pass.toJson showOverrides)]

end Check

/-- A dry run whose result is what a real run would change. -/
def check (r : Request) : Job (Outcome Check) := do
  match ← Job.attemptSettings r.prepare with
  | .error message => return .error message
  | .ok (s, forest) =>
    let (pass, o) ← passOnto (← r.output s true) s.passOptions forest.units
    let (o, failure) ← o.prune (← r.obsoleteCandidates forest o)
    match failure with
    | some f => throw f
    | none => return .ok ⟨pass, o.pending ++ o.obsolete, forest.errors⟩

structure Inspection where
  pass : PassResult
  memory : Memory
  deriving Repr

namespace Inspection

def toJson (showOverrides : ShowOverrides) : Outcome Inspection → Json
  | .error message => .fields [("error", .text message)]
  | .ok i => .fields [("containers", .list (i.pass.containers.map (Container.toJson showOverrides))),
      ("suppressed", .texts i.pass.suppressed), ("outputs", .texts i.memory.keys)]

end Inspection

/-- A pass into memory, which leaves the files alone. -/
def inspect (r : Request) : Job (Outcome Inspection) := do
  match ← Job.attemptSettings r.prepare with
  | .error message => return .error message
  | .ok (s, forest) =>
    let log (record : Log.Record) : StateT Memory Job Unit := (modify (Workspace.note record) : Job Unit)
    let add (source : GeneratedSource) : StateT Memory Job (Option String) := do
      modify (Memory.add · source)
      return none
    let (pass, memory) ← (runPass add log s.passOptions forest.units).run []
    return .ok ⟨pass, memory⟩

end AccessorForge
