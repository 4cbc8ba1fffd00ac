import AccessorForge.Files.Workspace
import AccessorForge.GeneratedModule
/-! Generated modules on disk. A module goes next to its source or into one directory. A file that is up to
date already is left alone, and a dry run only notes what it would do. -/
namespace AccessorForge

structure Output where
  directory : Option Path := none
  dryRun : Bool := false
  /-- Where a module goes that has neither a source file nor a directory. -/
  fallback : Path
  written : List Path := []
  unchanged : List Path := []
  pending : List Path := []
  removed : List Path := []
  obsolete : List Path := []
  /-- The absolute paths of all modules handed over, also of those that could not be written. -/
  registered : List Path := []
  deriving DecidableEq, Repr

namespace Output

def logger : String := "componentgen.core.persistence.output"

def target (o : Output) (s : GeneratedSource) : Path :=
  match o.directory, s.origin with
  | some d, _ => d.child s.name
  | none, some origin => (Path.ofString origin).parent.child s.name
  | none, none => o.fallback.child s.name

def register (o : Output) (p : Path) : Output := { o with registered := o.registered ++ [p] }

def isCurrent (p : Path) (text : String) : Job Bool := do
  match ← Job.attemptRead (Job.readText p) with
  | .ok old => return old = text
  | .error message =>
    Job.log Log.debug logger ("Cannot compare " ++ p.text ++ ", rewriting: " ++ message)
    return false

def write (o : Output) (p : Path) (s : GeneratedSource) : Job Output := do
  match ← Job.attempt (Job.writeAtomically p s.content) with
  | .error f =>
    Job.log Log.error logger ("Failed to write " ++ p.text ++ ": " ++ f.message)
    throw (.file f)
  | .ok () =>
    Job.log Log.info logger ("Wrote " ++ p.text ++ " (" ++ s.container ++ ")")
    return { o with written := o.written ++ [p] }

def update (o : Output) (p : Path) (s : GeneratedSource) : Job Output := do
  let current ← if ← Job.isFile p then isCurrent p s.content else pure false
  if current then
    Job.log Log.debug logger ("Up to date: " ++ p.text)
    return { o with unchanged := o.unchanged ++ [p] }
  if o.dryRun then return { o with pending := o.pending ++ [p] }
  o.write p s

/-- Hand over a module; the failure says why its file is not up to date. -/
def add (o : Output) (s : GeneratedSource) : Job (Output × Option Failure) := do
  let p := o.target s
  let o := o.register (← Job.resolve p)
  match ← Job.outcome (o.update p s) with
  | .ok o => return (o, none)
  | .error f => return (o, some f)

/-- Remove the candidates that were not registered, each once; files that are gone already do not count. A
failure ends the work, what was removed before it stays noted. -/
def pruneFrom (o : Output) (seen : List Path) : List Path → Job (Output × Option Failure)
  | [] => return (o, none)
  | p :: rest => do
    if let some flaw := p.firstFlaw? then return (o, some flaw.failure)
    let absolute := p.absolute (← get).cwd
    if o.registered.contains absolute || seen.contains absolute then return ← pruneFrom o seen rest
    let seen := absolute :: seen
    if o.dryRun then return ← pruneFrom { o with obsolete := o.obsolete ++ [p] } seen rest
    match ← Job.attempt (Job.removeFile p) with
    | .ok () =>
      Job.log Log.info logger ("Removed obsolete " ++ p.text)
      pruneFrom { o with removed := o.removed ++ [p] } seen rest
    | .error f => if f.obstacle = .missing then pruneFrom o seen rest else return (o, some (.file f))

def prune (o : Output) (candidates : List Path) : Job (Output × Option Failure) := o.pruneFrom [] candidates

end Output

end AccessorForge
