import AccessorForge.CommandLine.Clock
import AccessorForge.CommandLine.Program
/-! The program. It reads the part of the disk that a run can look at, runs on it, and puts what changed
back. -/
namespace AccessorForge.Main

def spotText (s : Spot) : String := (Path.mk "/" s).text

def spotOf (text : String) : Spot := ((Path.ofString text).absolute []).parts

/-- The real place of a spot, if something stands there. -/
def place? (s : Spot) := EIO.catchExceptions (some <$> IO.FS.realPath (spotText s)) fun _ => pure none

/-- Everything at a place and below it; symbolic links are passed over. -/
partial def loadBelow (tree : FileTree) (s : Spot) : IO FileTree := do
  let some place ← place? s | return tree
  if ← place.isDir then
    let mut tree := tree.makeAll [] s
    for e in ← place.readDir do
      let kind := (← e.path.symlinkMetadata).type
      if kind == .dir then tree ← loadBelow tree (s ++ [e.fileName])
      else if kind == .file then
        tree := tree.put (s ++ [e.fileName]) (.file (← IO.FS.readBinFile e.path).toList)
    return tree
  else return (tree.makeAll [] s.dropLast).put s (.file (← IO.FS.readBinFile place).toList)

/-- Where a run looks without being told: the settings and the package marks above a directory. -/
def loadAbove (tree : FileTree) (s : Spot) : IO FileTree := do
  let mut tree := tree
  for depth in [0:s.length] do
    for name in [Settings.fileName, packageMark] do
      let file := s.take depth ++ [name]
      let some place ← place? file | continue
      if !(← place.isDir) then
        tree := (tree.makeAll [] file.dropLast).put file (.file (← IO.FS.readBinFile place).toList)
  return tree

def loadPlaces (tree : FileTree) (spots : List Spot) : IO FileTree :=
  spots.foldlM (fun tree s => do loadBelow (← loadAbove tree s) s) tree

/-- The places that the settings name. -/
def settingsPlaces (w : Workspace) (args : List String) : List Spot :=
  let file := (CommandLine.Command.top.read args).toOption.bind fun a => a.value? .settingsFile
  let job : Job (List Path) := do
    let s ← Settings.load (file.map Path.ofString) true
    return (← s.sourcePaths) ++ (← s.outputPath).toList
  match job.run.run w with
  | (.ok ps, _) => ps.map (·.parts)
  | (.error _, _) => []

def argumentPlaces (cwd : Spot) (args : List String) : List Spot :=
  args.map fun arg => ((Path.ofString ((CommandLine.splitValue arg).2.getD arg)).absolute cwd).parts

def store (entry : Spot × Entry) : IO Unit := do
  match entry with
  | (s, .directory) => IO.FS.createDirAll (spotText s)
  | (s, .file bytes) =>
    let temporary := spotText (s.dropLast ++ [Job.temporaryName 0])
    IO.FS.writeBinFile temporary ⟨bytes.toArray⟩
    IO.FS.rename temporary (spotText s)

/-- Put back what differs from before. -/
def storeChanges (before after : FileTree) : IO Unit := do
  for entry in after do
    if before.get? entry.1 ≠ some entry.2 then store entry
  for entry in before do
    if (after.get? entry.1).isNone then IO.FS.removeFile (spotText entry.1)

/-- Seconds since the beginning of 1970, told by a file that is made now. -/
def now : IO Nat := do
  let (_, place) ← IO.FS.createTempFile
  let seconds := (← place.metadata).modified.sec
  IO.FS.removeFile place
  return seconds.toNat

def environment : IO (List (String × String)) := do
  let names := ["COMPONENTGEN_LOG_LEVEL", "COMPONENTGEN_LOG_FILE", "COMPONENTGEN_LOG_FILE_LEVEL"]
  names.filterMapM fun name => do return (← IO.getEnv name).map fun value => (name, value)

def failureText : Failure → String
  | .file f => f.message
  | .undecodable f => f.message
  | .nulInPath => "embedded null byte"
  | .unencodable => "surrogates not allowed"
  | .settings message => message
  | .document _ => "Settings hold a value that does not exist"

end AccessorForge.Main

open AccessorForge in
def main (args : List String) : IO UInt32 := do
  let cwd := Main.spotOf (← IO.currentDir).toString
  let env ← Main.environment
  let log := (env.lookup "COMPONENTGEN_LOG_FILE").toList
  let tree ← Main.loadPlaces [] (cwd :: Main.argumentPlaces cwd (args ++ log))
  let tree ← Main.loadPlaces tree (Main.settingsPlaces { tree, cwd } args)
  let seconds ← Main.now
  let start : Workspace :=
    { tree, cwd, stamp := CommandLine.timeOfDay seconds, fileStamp := CommandLine.dateAndTime seconds }
  let (result, w) := (CommandLine.run env args).run.run start
  Main.storeChanges tree w.tree
  IO.eprint w.consoleText
  match result with
  | .ok reply =>
    IO.print reply.out
    IO.eprint reply.err
    reply.failure.forM fun f => IO.eprintln (Main.failureText f)
    return reply.code.toUInt32
  | .error f =>
    IO.eprintln (Main.failureText f)
    return 1
