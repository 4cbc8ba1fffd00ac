import AccessorForge.Files.Workspace
import AccessorForge.GeneratedModule
import AccessorForge.Wildcard
/-! The source files that a pass looks at. Files that cannot be read or do not parse are skipped and named;
modules that an earlier pass generated are kept apart. -/
namespace AccessorForge

structure Forest where
  units : List SourceUnit := []
  errors : List String := []
  generated : List Path := []
  deriving Repr

def SourceFault.message : SourceFault → String
  | .grammar => "invalid source"
  | .nul => "source code string cannot contain null bytes"
  | .unpaired => "source code string cannot contain unpaired surrogates"

/-! Module names. -/

def packageMark : String := "__init__.py"

/-- The names of the packages around a directory, outermost first; the top of the file tree is never one. -/
def packageNames : Nat → Path → Job (List String)
  | 0, _ => return []
  | fuel + 1, directory => do
    if !(← Job.isFile (directory.child packageMark)) || directory.name = "" then return []
    return (← packageNames fuel directory.parent) ++ [directory.name]

def moduleName (path : Path) : Job String := do
  let p ← Job.resolve path
  let own := if p.stem = "__init__" then [] else [p.stem]
  let name := ".".intercalate ((← packageNames (p.parts.length + 1) p.parent) ++ own)
  return if name = "" then p.parent.name else name

/-! Finding files. -/

namespace Forest

def logger : String := "componentgen.core.services.forest"

structure Patterns where
  includes : List String
  excludes : List String
  deriving DecidableEq, Repr

def Patterns.selects (ps : Patterns) (relative : List String) : Bool :=
  let text := "/".intercalate relative
  Wildcard.selects ps.includes text && !Wildcard.selects ps.excludes text

def Patterns.selected (ps : Patterns) (root : Path) (below : List (Spot × Entry)) : List Path :=
  (below.filter fun (relative, e) => e.isFile && ps.selects relative).map fun (relative, _) =>
    { root with parts := root.parts ++ relative }

/-- The files of one root: a file stands for itself, a directory for the files below it. -/
def candidates? (ps : Patterns) (root : Path) : Job (Option (List Path)) := do
  match ← Job.entry? root with
  | some (.file _) => return some [root]
  | some .directory => return some (ps.selected root ((← get).tree.below (← Job.locate root)))
  | none => return none

def addNew (cwd : Spot) (found candidates : List Path) : List Path :=
  candidates.foldl (fun found p =>
    if found.any fun q => q.absolute cwd = p.absolute cwd then found else found ++ [p]) found

def filesFrom (ps : Patterns) (found : List Path) : List Path → Job (List Path)
  | [] => return found
  | root :: rest => do
    match ← candidates? ps root with
    | some cs => filesFrom ps (addNew (← get).cwd found cs) rest
    | none =>
      Job.log Log.warning logger ("Source root does not exist: " ++ root.text)
      filesFrom ps found rest

/-- All files of the roots, each once, at the place of the first root that has it. -/
def files (ps : Patterns) (roots : List Path) : Job (List Path) := filesFrom ps [] roots

/-! Reading files. -/

def noteError (f : Forest) (p : Path) (message : String) : Forest :=
  { f with errors := f.errors ++ [p.text ++ ": " ++ message] }

def addFile (f : Forest) (p : Path) : Job Forest := do
  match ← Job.attemptRead (Job.readText p) with
  | .error message =>
    Job.log Log.warning logger ("Cannot read " ++ p.text ++ ": " ++ message)
    return f.noteError p message
  | .ok text =>
    if isGenerated text then
      Job.log Log.debug logger ("Skipping generated module " ++ p.text)
      return { f with generated := f.generated ++ [p] }
    match SourceUnit.read (← moduleName p) text (some p) with
    | .ok u => return { f with units := f.units ++ [u] }
    | .error fault =>
      Job.log Log.warning logger ("Cannot parse " ++ p.text ++ ": " ++ fault.message)
      return f.noteError p fault.message

def addFiles (f : Forest) : List Path → Job Forest
  | [] => return f
  | p :: rest => do addFiles (← f.addFile p) rest

def standardIncludes : List String := ["**/*.py"]

/-- Without patterns to include, the standard ones count. -/
def patterns (includes excludes : List String) : Patterns :=
  ⟨if includes.isEmpty then standardIncludes else includes, excludes⟩

def load (roots : List Path) (includes excludes : List String) : Job Forest := do
  let f ← addFiles {} (← files (patterns includes excludes) roots)
  Job.log Log.info logger ("Loaded " ++ toString f.units.length ++ " source file(s) (" ++
    toString f.generated.length ++ " generated skipped, " ++ toString f.errors.length ++ " errors)")
  return f

end Forest

/-! Generated modules. -/

def isSourceName (name : String) : Bool := ".py".toList.isSuffixOf name.toList

def modulePaths (directory : Path) : Job (List Path) := do
  if !(← Job.isDirectory directory) then return []
  let inside := (← get).tree.children (← Job.locate directory)
  return (inside.filter fun (names, _) => names.any isSourceName).map fun (names, _) =>
    { directory with parts := directory.parts ++ names }

def keepGenerated : List Path → Job (List Path)
  | [] => return []
  | p :: rest => do
    match ← Job.attemptRead (Job.readFirstLine p) with
    | .error message =>
      Job.log Log.debug Forest.logger ("Cannot read " ++ p.text ++ ": " ++ message)
      keepGenerated rest
    | .ok line => if isGenerated line then return p :: (← keepGenerated rest) else keepGenerated rest

def generatedModulesIn (directory : Path) : Job (List Path) := do keepGenerated (← modulePaths directory)

end AccessorForge
