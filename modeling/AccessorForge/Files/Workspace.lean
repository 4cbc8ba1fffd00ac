import AccessorForge.Failure
import AccessorForge.Log
import AccessorForge.Text.LineEnds
/-! The place where jobs run: a file tree, the directory they run in, and the log they keep. What a job did
before it failed stays done. -/
namespace AccessorForge

/-- Paths, as they are written, that may not be used in one way or another. -/
structure Refusals where
  reading : List String := []
  replacing : List String := []
  removing : List String := []
  /-- Directories that may not be made. -/
  making : List String := []
  /-- Directories where no temporary file may be made. -/
  creating : List String := []
  /-- Directories whose temporary files take no text. -/
  filling : List String := []
  deriving DecidableEq, Repr

structure Workspace where
  tree : FileTree := []
  cwd : Spot := []
  refusals : Refusals := {}
  log : Log.Setup := ⟨Log.warning, []⟩
  logFile : Option Spot := none
  /-- Another file was put in the place of the log file; lines do not reach that one. -/
  logLost : Bool := false
  stamp : String := ""
  fileStamp : String := ""
  records : List Log.Record := []
  deriving Repr

namespace Workspace

/-- Lines that reach the log file are appended to it, unless they hold something that has no bytes. -/
def note (r : Log.Record) (w : Workspace) : Workspace :=
  let w := { w with records := w.records ++ [r] }
  match if w.logLost then none else w.logFile with
  | none => w
  | some s =>
    match w.tree.get? s with
    | some (.file bytes) =>
      let line := w.log.lines w.fileStamp .file [r]
      if Text.Surrogate.isBroken line then w
      else { w with tree := w.tree.put s (.file (bytes ++ Text.Utf8.encode line.toList)) }
    | _ => w

/-- Put another entry in the place of the one at a spot. -/
def supplant (w : Workspace) (s : Spot) (e : Entry) : Workspace :=
  { w with tree := w.tree.put s e, logLost := w.logLost || decide (w.logFile = some s) }

def consoleText (w : Workspace) : String := Text.Surrogate.spelled (w.log.lines w.stamp .console w.records)

end Workspace

abbrev Job := ExceptT Failure (StateM Workspace)

namespace Job
variable {α : Type}

def log (level : Nat) (logger message : String) : Job Unit := modify (Workspace.note ⟨level, logger, message⟩)

def obstruct (obstacle : Obstacle) (p : Path) : Job α := throw (.file ⟨obstacle, p.text, none⟩)

def outcome (job : Job α) : Job (Except Failure α) := ExceptT.mk (Except.ok <$> job.run)

/-- A failure that is one of files becomes a result. -/
def attempt (job : Job α) : Job (Except FileFault α) := ExceptT.mk do
  match ← job.run with
  | .ok a => return .ok (.ok a)
  | .error (.file f) => return .ok (.error f)
  | .error f => return .error f

/-- A file that cannot be read or decoded becomes a message. -/
def attemptRead (job : Job α) : Job (Except String α) := ExceptT.mk do
  match ← job.run with
  | .ok a => return .ok (.ok a)
  | .error (.file f) => return .ok (.error f.message)
  | .error (.undecodable f) => return .ok (.error f.message)
  | .error f => return .error f

def locate (p : Path) : Job Spot := do
  let w ← get
  match w.tree.locate w.cwd p with
  | .ok s => return s
  | .error o => obstruct o p

def orFlawed : Option Path.Flaw → Job Unit
  | some f => throw f.failure
  | none => return

def refuseFlawed (p : Path) : Job Unit := orFlawed p.flaw?

def resolve (p : Path) : Job Path := do
  orFlawed p.firstFlaw?
  return p.absolute (← get).cwd

def entry? (p : Path) : Job (Option Entry) := do
  let w ← get
  match w.tree.entry? w.cwd p with
  | .ok e => return e
  | .error o => obstruct o p

def isFile (p : Path) : Job Bool := return (← entry? p).any Entry.isFile

def isDirectory (p : Path) : Job Bool := return (← entry? p).any Entry.isDirectory

def readBytes (p : Path) : Job (List UInt8) := do
  refuseFlawed p
  if (← get).refusals.reading.contains p.text then obstruct .denied p
  match (← get).tree.get? (← locate p) with
  | some (.file bytes) => return bytes
  | some .directory => obstruct .isDirectory p
  | none => obstruct .missing p

def orUndecodable : Except Text.Utf8.Fault α → Job α
  | .ok a => return a
  | .error f => throw (.undecodable f)

/-- The text of a file with its line ends unified. -/
def readText (p : Path) : Job String := do
  let cs ← orUndecodable (Text.Utf8.decode (← readBytes p))
  return String.ofList (Text.LineEnds.unify cs)

def readFirstLine (p : Path) : Job String := do
  return String.ofList (← orUndecodable (Text.Utf8.firstLine (← readBytes p)))

def makeDirectory (p : Path) : Job Unit := do
  refuseFlawed p
  let s ← locate p
  if ((← get).tree.get? s).isSome then obstruct .exists p
  if (← get).refusals.making.contains p.text then obstruct .denied p
  modify fun w => { w with tree := w.tree.put s .directory }

def makeDirectoryUnlessThere (p : Path) : Job Unit := do
  match ← attempt (makeDirectory p) with
  | .ok () => return
  | .error f => if f.obstacle = .missing || !(← isDirectory p) then throw (.file f)

def ensureDirectory : Nat → Path → Job Unit
  | 0, p => makeDirectoryUnlessThere p
  | fuel + 1, p => do
    match ← attempt (makeDirectory p) with
    | .ok () => return
    | .error f =>
      if f.obstacle = .missing && !p.parts.isEmpty then
        ensureDirectory fuel p.parent
        makeDirectoryUnlessThere p
      else if f.obstacle = .missing || !(← isDirectory p) then throw (.file f)

/-- Names for temporary files; their varying part is made of stars. -/
def temporaryName (n : Nat) : String := ".componentgen_" ++ String.ofList (List.replicate (n + 1) '*') ++ ".tmp"

def freshName (t : FileTree) (directory : Spot) : Nat → Nat → String
  | 0, n => temporaryName n
  | fuel + 1, n =>
    if (t.get? (directory ++ [temporaryName n])).isSome then freshName t directory fuel (n + 1)
    else temporaryName n

def temporarySpot (w : Workspace) (directory : Path) : Spot :=
  let here := (directory.absolute w.cwd).parts
  here ++ [freshName w.tree here w.tree.length 0]

def fill (temporary : Spot) (directory : Path) (text : String) : Job Unit := do
  if (← get).refusals.filling.contains directory.text then obstruct .denied ⟨"/", temporary⟩
  if Text.Surrogate.isBroken text then throw .unencodable
  modify fun w => { w with tree := w.tree.put temporary (.file (Text.Utf8.encode text.toList)) }

/-- Put a file in the place of whatever file a path leads to. -/
def moveOnto (source : Spot) (p : Path) : Job Unit := do
  refuseFlawed p
  if (← get).refusals.replacing.contains p.text then obstruct .denied p
  let refuse (o : Obstacle) : Job Unit := throw (.file ⟨o, (Path.mk "/" source).text, some p.text⟩)
  let w ← get
  match w.tree.locate w.cwd p with
  | .error o => refuse o
  | .ok s =>
    if p.parts.isEmpty || p.name = ".." then refuse .busy
    else match w.tree.get? source, w.tree.get? s with
    | _, some .directory => refuse .isDirectory
    | some e, _ => set ({ w with tree := w.tree.erase source }.supplant s e)
    | none, _ => refuse .missing

/-- Write a temporary file beside the target, then rename it; it is gone again if that fails. -/
def writeAtomically (p : Path) (text : String) : Job Unit := do
  ensureDirectory p.parent.parts.length p.parent
  let w ← get
  let temporary := temporarySpot w p.parent
  if w.refusals.creating.contains p.parent.text then obstruct .denied ⟨"/", temporary⟩
  set { w with tree := w.tree.put temporary (.file []) }
  try
    fill temporary p.parent text
    moveOnto temporary p
  catch f =>
    modify fun w => { w with tree := w.tree.erase temporary }
    throw f

def removeFile (p : Path) : Job Unit := do
  refuseFlawed p
  if (← get).refusals.removing.contains p.text then obstruct .denied p
  let s ← locate p
  match (← get).tree.get? s with
  | some (.file _) => modify fun w => { w with tree := w.tree.erase s }
  | some .directory => obstruct .isDirectory p
  | none => obstruct .missing p

def openForAppending (p : Path) : Job Spot := do
  refuseFlawed p
  let s ← locate p
  match (← get).tree.get? s with
  | some (.file _) => return s
  | some .directory => obstruct .isDirectory p
  | none =>
    modify fun w => { w with tree := w.tree.put s (.file []) }
    return s

end Job

end AccessorForge
