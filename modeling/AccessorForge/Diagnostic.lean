/-! Problems found in annotations, each with a severity, a code and the place it points to. -/
namespace AccessorForge

/-- A place in a source file: lines count from 1, columns are bytes from 0; line 0 means the whole file. -/
structure Location where
  path : String := ""
  line : Int := 0
  column : Int := 0
  deriving DecidableEq, Repr

def Location.format (l : Location) : String :=
  let path := if l.path = "" then "<unknown>" else l.path
  if l.line = 0 then path else path ++ ":" ++ toString l.line ++ ":" ++ toString l.column

inductive Severity
  | error
  | warning
  deriving DecidableEq, Repr

def Severity.word : Severity → String
  | .error => "error"
  | .warning => "warning"

structure Diagnostic where
  severity : Severity
  code : String
  message : String
  location : Location := {}
  deriving DecidableEq, Repr

namespace Diagnostic

def malformedType : String := "RCG001"
def malformedName : String := "RCG002"
def outputCollision : String := "RCG003"
def duplicateAccessor : String := "RCG004"

def isError (d : Diagnostic) : Bool := d.severity = .error

def format (d : Diagnostic) : String :=
  d.location.format ++ ": " ++ d.severity.word ++ " " ++ d.code ++ ": " ++ d.message

def errors (ds : List Diagnostic) : List Diagnostic := ds.filter isError

def warnings (ds : List Diagnostic) : List Diagnostic := ds.filter (!·.isError)

end Diagnostic

end AccessorForge
