import AccessorForge.Path
/-! A file tree. Every entry stands under the names that lead to it from the top; the top itself is a
directory that is always there. -/
namespace AccessorForge

inductive Entry
  | file (bytes : List UInt8)
  | directory
  deriving DecidableEq, Repr

def Entry.isFile : Entry → Bool
  | .file _ => true
  | .directory => false

def Entry.isDirectory : Entry → Bool
  | .file _ => false
  | .directory => true

abbrev Spot := List String

abbrev FileTree := List (Spot × Entry)

/-- Why a path leads to nothing that can be used. -/
inductive Obstacle
  | missing
  | denied
  | busy
  | exists
  | notDirectory
  | isDirectory
  | nameTooLong
  deriving DecidableEq, Repr

namespace FileTree

def get? (t : FileTree) (s : Spot) : Option Entry :=
  if s.isEmpty then some .directory else (t.find? (·.1 = s)).map (·.2)

/-- A new entry comes last, one that is replaced keeps its place. -/
def put (s : Spot) (e : Entry) : FileTree → FileTree
  | [] => [(s, e)]
  | (r, d) :: rest => if r = s then (s, e) :: rest else (r, d) :: put s e rest

def erase (t : FileTree) (s : Spot) : FileTree := t.filter (·.1 ≠ s)

def eraseAll (t : FileTree) (s : Spot) : FileTree := t.filter fun (r, _) => !s.isPrefixOf r

theorem get?_nil (t : FileTree) : t.get? [] = some .directory := rfl

theorem get?_put_self (t : FileTree) {s : Spot} (e : Entry) (h : s ≠ []) : (t.put s e).get? s = some e := by
  induction t with
  | nil => simp [put, get?, h]
  | cons head rest ih =>
    obtain ⟨r, d⟩ := head
    by_cases hr : r = s
    · simp [put, get?, hr, h]
    · simpa [put, get?, hr, h] using ih

theorem get?_put_of_ne (t : FileTree) {s r : Spot} (e : Entry) (h : r ≠ s) : (t.put s e).get? r = t.get? r := by
  have hs : s ≠ r := fun same => h same.symm
  induction t with
  | nil => simp [put, get?, hs]
  | cons head rest ih =>
    obtain ⟨q, d⟩ := head
    by_cases hq : q = s
    · subst hq
      simp [put, get?, hs]
    · by_cases hr : q = r
      · subst hr
        simp [put, get?, hq]
      · simpa [put, get?, hq, hr] using ih

theorem get?_erase_self (t : FileTree) {s : Spot} (h : s ≠ []) : (t.erase s).get? s = none := by
  simp [get?, erase, h, List.find?_filter]

theorem get?_erase_of_ne (t : FileTree) {s r : Spot} (h : r ≠ s) : (t.erase s).get? r = t.get? r := by
  induction t with
  | nil => rfl
  | cons head rest ih =>
    obtain ⟨q, d⟩ := head
    by_cases hq : q = s
    · subst hq
      have hr : q ≠ r := fun same => h same.symm
      simpa [erase, get?, hr] using ih
    · by_cases hr : q = r
      · subst hr
        simp [erase, get?, hq]
      · simpa [erase, get?, hq, hr] using ih

def isDirectory (t : FileTree) (s : Spot) : Bool := t.get? s = some .directory

def precedes (a b : Spot × Entry) : Bool := !decide (b.1 < a.1)

/-- Everything below a spot, in the order of the names, seen from there. -/
def below (t : FileTree) (s : Spot) : List (Spot × Entry) :=
  let inside := t.filter fun (r, _) => s.isPrefixOf r && s.length < r.length
  (inside.map fun (r, e) => (r.drop s.length, e)).mergeSort precedes

def children (t : FileTree) (s : Spot) : List (Spot × Entry) := (t.below s).filter (·.1.length = 1)

/-- Follow names from a directory. All but the last have to lead to directories; the last may lead to
nothing. -/
def walk (t : FileTree) (here : Spot) : List String → Except Obstacle Spot
  | [] => .ok here
  | name :: rest =>
    if name = ".." then walk t here.dropLast rest
    else if Path.maxNameBytes < Path.byteCount name then .error .nameTooLong
    else
      let next := here ++ [name]
      if rest.isEmpty then .ok next
      else match t.get? next with
      | some .directory => walk t next rest
      | some (.file _) => .error .notDirectory
      | none => .error .missing

def locate (t : FileTree) (cwd : Spot) (p : Path) : Except Obstacle Spot :=
  if Path.maxPathBytes < Path.byteCount p.text then .error .nameTooLong
  else t.walk (if p.isAbsolute then [] else cwd) p.parts

def entry (t : FileTree) (cwd : Spot) (p : Path) : Except Obstacle Entry := do
  match t.get? (← t.locate cwd p) with
  | some e => return e
  | none => throw .missing

/-- What a path leads to, if to anything. A path that cannot be leads to nothing, but a name that is too long
is an obstacle. -/
def entry? (t : FileTree) (cwd : Spot) (p : Path) : Except Obstacle (Option Entry) :=
  if p.flaw?.isSome then .ok none
  else match t.entry cwd p with
  | .ok e => .ok (some e)
  | .error .nameTooLong => .error .nameTooLong
  | .error _ => .ok none

def makeAll (t : FileTree) (here : Spot) : List String → FileTree
  | [] => t
  | name :: rest =>
    let next := here ++ [name]
    makeAll (if (t.get? next).isSome then t else t.put next .directory) next rest

end FileTree

end AccessorForge
