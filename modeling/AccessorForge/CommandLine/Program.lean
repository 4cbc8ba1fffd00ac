import AccessorForge.CommandLine.Reply
/-! The commands of the program and how they follow from its arguments and environment. -/
namespace AccessorForge.CommandLine

def version : String := "0.1.0"

def helpSwitch : Switch := ⟨.help, ["--help"], false⟩

def jsonSwitch : Switch := ⟨.json, ["--json-output", "--json"], false⟩

def outputSwitch : Switch := ⟨.outputDir, ["--output-dir", "-o"], true⟩

namespace Command

def top : Command where
  call := "componentgen"
  synopsis := "[OPTIONS] COMMAND [ARGS]..."
  switches := [⟨.version, ["--version"], false⟩, ⟨.verbose, ["--verbose", "-v"], false⟩,
    ⟨.quiet, ["--quiet", "-q"], false⟩, ⟨.debug, ["--debug"], false⟩,
    ⟨.settingsFile, ["--config", "-c"], true⟩, helpSwitch]
  below := ["generate", "check", "inspect", "config"]

def generate : Command where
  call := "componentgen generate"
  synopsis := "[OPTIONS] [PATHS]..."
  switches := [outputSwitch, ⟨.dryRun, ["--dry-run"], false⟩, jsonSwitch, helpSwitch]
  takesPaths := true

def check : Command where
  call := "componentgen check"
  synopsis := "[OPTIONS] [PATHS]..."
  switches := [outputSwitch, jsonSwitch, helpSwitch]
  takesPaths := true

def inspect : Command where
  call := "componentgen inspect"
  synopsis := "[OPTIONS] [PATHS]..."
  switches := [jsonSwitch, helpSwitch]
  takesPaths := true

def config : Command where
  call := "componentgen config"
  synopsis := "[OPTIONS] COMMAND [ARGS]..."
  switches := [helpSwitch]
  below := ["check"]

def configCheck : Command where
  call := "componentgen config check"
  synopsis := "[OPTIONS]"
  switches := [jsonSwitch, helpSwitch]

def usage (c : Command) : String := "Usage: " ++ c.call ++ " " ++ c.synopsis ++ "\n"

end Command

/-- A command that is still to be run, or a reply that settles the matter. -/
abbrev Plan (α : Type) := ExceptT Reply Job α

namespace Plan
variable {α : Type}

def orMisuse : Except Misuse α → Plan α
  | .ok a => return a
  | .error m => throw (.ofMisuse m)

/-- Whether something stands at a path as it is written; one that ends like a directory has to be one. -/
def standing? (w : Workspace) (written : String) : Option Entry :=
  if written = "" then none
  else match w.tree.entry w.cwd (Path.ofString written) with
  | .error _ => none
  | .ok (.file bytes) =>
    let last := (Path.segments [] written.toList).getLastD ""
    if last = "" || last = "." then none else some (.file bytes)
  | .ok .directory => some .directory

def notFlawed (written : String) : Plan Unit := (Job.refuseFlawed (Path.ofString written) : Job Unit)

/-- Read a command's arguments; help and version come before everything else. -/
def read (c : Command) (args : List String) : Plan Arguments := do
  if args.isEmpty && !c.below.isEmpty then throw { code := 2, err := c.usage }
  let a ← orMisuse (c.read args)
  match a.given.find? fun g => g.key = .help || g.key = .version with
  | some ⟨.version, _⟩ => throw { out := "componentgen, version " ++ version ++ "\n" }
  | some _ => throw { out := c.usage }
  | none => return a

def settingsFile (a : Arguments) : Plan (Option Path) := do
  match a.value? .settingsFile with
  | none => return none
  | some written =>
    notFlawed written
    return some (Path.ofString written)

def outputDir (c : Command) (a : Arguments) : Plan (Option Path) := do
  match a.value? .outputDir with
  | none => return none
  | some written =>
    notFlawed written
    match standing? (← get) written with
    | some (.file _) => throw (.ofMisuse ⟨some c,
        "Invalid value for '--output-dir' / '-o': Directory " ++
          Text.Quoted.literal (Text.Surrogate.readable written) ++ " is a file."⟩)
    | _ => return some (Path.ofString written)

def paths (c : Command) : List String → Plan (List Path)
  | [] => return []
  | written :: rest => do
    notFlawed written
    if (standing? (← get) written).isNone then
      throw (.ofMisuse ⟨some c,
        "Invalid value for '[PATHS]...': Path " ++ Text.Quoted.literal (Text.Surrogate.readable written) ++
          " does not exist."⟩)
    return Path.ofString written :: (← paths c rest)

def request (c : Command) (settingsFile : Option Path) (a : Arguments) : Plan Request := do
  let outputDir ← outputDir c a
  if c.takesPaths then return ⟨settingsFile, ← paths c a.rest, outputDir⟩
  else
    orMisuse (c.refuseExtra a)
    return ⟨settingsFile, [], outputDir⟩

/-- The options for the log win over the environment, the more talkative ones over the others. -/
def logLevel (env : List (String × String)) (a : Arguments) : Option String :=
  if a.has .debug then some "DEBUG"
  else if a.has .verbose then some "INFO"
  else if a.has .quiet then some "ERROR"
  else env.lookup "COMPONENTGEN_LOG_LEVEL"

def startLog (env : List (String × String)) (a : Arguments) : Job Unit := do
  let file := (env.lookup "COMPONENTGEN_LOG_FILE").filter (· ≠ "")
  let logFile ← match file with
    | none => pure none
    | some written => do
      let p := (Path.ofString written).absolute (← get).cwd
      pure (some (← Job.openForAppending p))
  modify fun w => { w with
    log := Log.setup (logLevel env a) file.isSome (env.lookup "COMPONENTGEN_LOG_FILE_LEVEL"), logFile, logLost := false }

def configCheck (file : Option Path) (a : Arguments) : Plan Reply := do
  let asJson := a.has .json
  let found ← match file with
    | some p => pure (some p)
    | none => (Settings.find? none : Job (Option Path))
  match ← (Job.attemptSettings (Settings.load found false) : Job (Except String Settings)) with
  | .ok s => return .ofSettings asJson found s
  | .error message => return .ofSettingsFault asJson message

def reply (env : List (String × String)) (args : List String) : Plan Reply := do
  let a ← read .top args
  let file ← settingsFile a
  let (name, args) ← orMisuse (Command.top.select a)
  startLog env a
  match name with
  | "generate" =>
    let own ← read .generate args
    let r ← request .generate file own
    return .ofGeneration (a.has .quiet) (own.has .json) (← (AccessorForge.generate r (own.has .dryRun) : Job _))
  | "check" =>
    let own ← read .check args
    let r ← request .check file own
    return .ofCheck (own.has .json) (← (AccessorForge.check r : Job _))
  | "inspect" =>
    let own ← read .inspect args
    let r ← request .inspect file own
    return .ofInspection (own.has .json) (← (AccessorForge.inspect r : Job _))
  | _ =>
    let group ← read .config args
    let (_, args) ← orMisuse (Command.config.select group)
    let own ← read .configCheck args
    let _ ← request .configCheck file own
    configCheck file own

end Plan

/-- Run the program. What the log shows on the console comes before other messages; a failure that no
command explains leaves only the log. -/
def run (env : List (String × String)) (args : List String) : Job Reply := do
  match ← (Plan.reply env args).run with
  | .ok r | .error r => return r

end AccessorForge.CommandLine
