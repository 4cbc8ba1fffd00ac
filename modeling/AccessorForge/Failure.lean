import AccessorForge.Files.Tree
import AccessorForge.Text.Quoted
import AccessorForge.Text.Utf8
import AccessorForge.Yaml.Token
/-! Why a job stops, and how that is told. -/
namespace AccessorForge

def Obstacle.number : Obstacle → Nat
  | .missing => 2
  | .denied => 13
  | .busy => 16
  | .exists => 17
  | .notDirectory => 20
  | .isDirectory => 21
  | .nameTooLong => 36

def Obstacle.phrase : Obstacle → String
  | .missing => "No such file or directory"
  | .denied => "Permission denied"
  | .busy => "Device or resource busy"
  | .exists => "File exists"
  | .notDirectory => "Not a directory"
  | .isDirectory => "Is a directory"
  | .nameTooLong => "File name too long"

/-- An operation on files that was not possible; a rename has a second path. -/
structure FileFault where
  obstacle : Obstacle
  path : String
  target : Option String := none
  deriving DecidableEq, Repr

def FileFault.message (f : FileFault) : String :=
  "[Errno " ++ toString f.obstacle.number ++ "] " ++ f.obstacle.phrase ++ ": " ++ Text.Quoted.literal f.path ++
    (f.target.map fun t => " -> " ++ Text.Quoted.literal t).getD ""

inductive Failure
  | file (f : FileFault)
  | undecodable (f : Text.Utf8.Fault)
  | nulInPath
  /-- Half of a surrogate pair, for which files have no bytes. -/
  | unencodable
  /-- Settings that cannot be used, in words. -/
  | settings (message : String)
  /-- A document that keeps the format and yet has no value. -/
  | document (f : Yaml.Fault)
  deriving DecidableEq, Repr

def Path.Flaw.failure : Path.Flaw → Failure
  | .nul => .nulInPath
  | .unpaired => .unencodable

end AccessorForge
