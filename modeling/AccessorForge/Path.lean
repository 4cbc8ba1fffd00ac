import AccessorForge.Text.Surrogate
/-! File paths as they are written: an anchor and the names below it. Empty names and single dots are
dropped on reading, double dots are kept. -/
namespace AccessorForge

structure Path where
  /-- Empty for a relative path, else one slash, or exactly two. -/
  anchor : String := ""
  parts : List String := []
  deriving DecidableEq, Repr, Inhabited

namespace Path

def segments (current : List Char) : List Char → List String
  | [] => [String.ofList current.reverse]
  | c :: rest => if c = '/' then String.ofList current.reverse :: segments [] rest else segments (c :: current) rest

def keptSegments (cs : List Char) : List String := (segments [] cs).filter fun s => s ≠ "" && s ≠ "."

def anchorOf (cs : List Char) : String :=
  match (cs.takeWhile (· = '/')).length with
  | 0 => ""
  | 2 => "//"
  | _ => "/"

def ofString (s : String) : Path := ⟨anchorOf s.toList, keptSegments s.toList⟩

def text (p : Path) : String :=
  if p.anchor = "" && p.parts.isEmpty then "." else p.anchor ++ "/".intercalate p.parts

def isAbsolute (p : Path) : Bool := p.anchor ≠ ""

/-- The second path as seen from the first; an absolute one stands alone. -/
def join (p q : Path) : Path := if q.isAbsolute then q else ⟨p.anchor, p.parts ++ q.parts⟩

def child (p : Path) (name : String) : Path := p.join (ofString name)

def parent (p : Path) : Path := { p with parts := p.parts.dropLast }

def name (p : Path) : String := p.parts.getLastD ""

/-- The name without its last extension; a dot at either end starts none. -/
def stemChars (name : List Char) : List Char :=
  let suffix := (name.reverse.takeWhile (· ≠ '.')).length
  let stem := name.length - suffix - 1
  if suffix = 0 || suffix = name.length || stem = 0 then name else name.take stem

def stem (p : Path) : String := String.ofList (stemChars p.name.toList)

/-- Go up for every double dot, never above the top. -/
def withoutDots (parts : List String) : List String :=
  parts.foldl (fun done part => if part = ".." then done.dropLast else done ++ [part]) []

/-- The absolute path without dots that a path stands for in the directory `cwd`. -/
def absolute (cwd : List String) (p : Path) : Path :=
  ⟨"/", withoutDots (if p.isAbsolute then p.parts else cwd ++ p.parts)⟩

def components (p : Path) : List String := if p.anchor = "" then p.parts else p.anchor :: p.parts

inductive Flaw
  | nul
  /-- Half of a surrogate pair that stands for no byte. -/
  | unpaired
  deriving DecidableEq, Repr

/-- How many bytes one element of a name takes; none if it has no bytes. -/
def elementBytes? : Text.Surrogate.Element → Option Nat
  | .char c => some c.utf8Size
  | .half n => if Text.Surrogate.isByteHalf n then some 1 else none

def isUnpaired (name : String) : Bool :=
  Text.Surrogate.isBroken name && (Text.Surrogate.elements name.toList).any fun e => (elementBytes? e).isNone

def hasNulIn (name : String) : Bool := name.toList.contains '\x00'

/-- The flaw that comes to light when the names are followed one by one. -/
def firstFlaw? (p : Path) : Option Flaw :=
  p.parts.findSome? fun s => if isUnpaired s then some .unpaired else if hasNulIn s then some .nul else none

/-- The flaw that comes to light when the path is used as a whole. -/
def flaw? (p : Path) : Option Flaw :=
  if p.parts.any isUnpaired then some .unpaired else if p.parts.any hasNulIn then some .nul else none

def byteCount (name : String) : Nat :=
  (Text.Surrogate.elements name.toList).foldl (fun n e => n + (elementBytes? e).getD 0) 0

def maxNameBytes : Nat := 255

def maxPathBytes : Nat := 4095

theorem isAbsolute_absolute (cwd : List String) (p : Path) : (p.absolute cwd).isAbsolute = true := by
  simp [absolute, isAbsolute]

theorem join_absolute {p q : Path} (h : q.isAbsolute = true) : p.join q = q := by simp [join, h]

end Path

end AccessorForge
