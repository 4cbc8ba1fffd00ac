import AccessorForge.Files.Workspace
import AccessorForge.Json
import AccessorForge.Pass
import AccessorForge.Schema
import AccessorForge.Yaml.Document
/-! Settings of a project, read from the nearest settings file upwards; without one every setting keeps its
default. Paths in the file count from its directory. -/
namespace AccessorForge

def ImportScope.word : ImportScope → String
  | .all => "all"
  | .module => "module"

structure Settings where
  sources : List String := ["."]
  includePatterns : List String := ["**/*.py"]
  excludePatterns : List String :=
    ["**/.git/**", "**/.venv/**", "**/venv/**", "**/__pycache__/**", "**/node_modules/**"]
  outputDir : Option String := none
  runtimeModule : String := defaultRuntimeModule
  importScope : ImportScope := .all
  warningsAsErrors : Bool := false
  /-- The directory from which the paths count. -/
  root : Path
  deriving DecidableEq, Repr

/-- Settings that cannot be used become a message. -/
def Job.attemptSettings {α : Type} (job : Job α) : Job (Except String α) := ExceptT.mk do
  match ← job.run with
  | .ok a => return .ok (.ok a)
  | .error (.settings message) => return .ok (.error message)
  | .error f => return .error f

namespace Settings

def fileName : String := "componentgen.yml"

def logger : String := "componentgen.core.config.loader"

def ofEntries (root : Path) (entries : List (Value × Value)) : Checked Settings :=
  let standard : Settings := { root }
  let texts := Schema.list Schema.text
  let scope := Schema.oneOf [("all", ImportScope.all), ("module", ImportScope.module)]
  (Checked.both (Schema.field entries "sources" standard.sources texts) <|
    Checked.both (Schema.field entries "include" standard.includePatterns texts) <|
    Checked.both (Schema.field entries "exclude" standard.excludePatterns texts) <|
    Checked.both (Schema.field entries "output_dir" none Schema.optionalText) <|
    Checked.both (Schema.field entries "runtime_module" standard.runtimeModule Schema.text) <|
    Checked.both (Schema.field entries "import_scope" standard.importScope scope)
    (Schema.field entries "warnings_as_errors" standard.warningsAsErrors Schema.bool)).map
    fun (sources, includePatterns, excludePatterns, outputDir, runtimeModule, importScope, warningsAsErrors) =>
      ⟨sources, includePatterns, excludePatterns, outputDir, runtimeModule, importScope, warningsAsErrors, root⟩

/-- The settings in a document's value; they may stand under a key of their own. -/
def ofValue (path root : Path) (v : Value) : Except String Settings :=
  match v with
  | .null => .ok { root }
  | .map entries =>
    match (Value.lookup entries "componentgen").getD v with
    | .map own => (ofEntries root own).mapError fun ps =>
        "Invalid generator configuration: " ++ formatProblems ps
    | _ => .error ("Expected 'componentgen' to be a mapping in " ++ path.text)
  | _ => .error ("Expected a YAML mapping in " ++ path.text ++ ", got " ++ v.kindWord)

def searchPlaces : Nat → Path → List Path
  | 0, _ => []
  | n + 1, p => p :: if p.parts.isEmpty then [] else searchPlaces n p.parent

def maxSearchPlaces : Nat := 20

def firstFile? : List Path → Job (Option Path)
  | [] => return none
  | p :: rest => do if ← Job.isFile p then return some p else firstFile? rest

def find? (start : Option Path) : Job (Option Path) := do
  let first ← Job.resolve (start.getD ⟨"/", (← get).cwd⟩)
  firstFile? ((searchPlaces maxSearchPlaces first).map (·.child fileName))

def readFile (path : Path) : Job Settings := do
  if !(← Job.isFile path) then throw (.settings ("Config file not found: " ++ path.text))
  Job.log Log.debug logger ("Loading generator config from " ++ path.text)
  let text ← match ← Job.attempt (Job.readText path) with
    | .ok text => pure text
    | .error f => throw (.settings ("Cannot read " ++ path.text ++ ": " ++ f.message))
  let v ← match Yaml.read text with
    | .ok v => pure v
    | .error .malformed => throw (.settings ("Invalid YAML in " ++ path.text))
    | .error f => throw (.document f)
  match ofValue path (path.parent.absolute (← get).cwd) v with
  | .error message => throw (.settings message)
  | .ok s =>
    Job.log Log.info logger
      ("Loaded config " ++ path.text ++ " (" ++ toString s.sources.length ++ " source root(s))")
    return s

def load (path : Option Path) (search : Bool) : Job Settings := do
  let found ← match path with
    | some p => pure (some p)
    | none => if search then find? none else pure none
  match found with
  | some p => readFile p
  | none =>
    Job.log Log.debug logger ("No " ++ fileName ++ " found, using defaults")
    return { root := ⟨"/", (← get).cwd⟩ }

def sourcePaths (s : Settings) : Job (List Path) := s.sources.mapM fun source => Job.resolve (s.root.child source)

def outputPath (s : Settings) : Job (Option Path) :=
  match s.outputDir with
  | none => return none
  | some d => return some (← Job.resolve (s.root.child d))

def toJson (s : Settings) : Json :=
  .fields [("sources", .texts s.sources), ("include", .texts s.includePatterns), ("exclude", .texts s.excludePatterns),
    ("output_dir", .optional s.outputDir), ("runtime_module", .text s.runtimeModule),
    ("import_scope", .text s.importScope.word), ("warnings_as_errors", .bool s.warningsAsErrors)]

def passOptions (s : Settings) : PassOptions := ⟨s.importScope, s.runtimeModule, s.warningsAsErrors⟩

end Settings

end AccessorForge
