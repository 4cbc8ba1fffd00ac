import AccessorForge.Text.LowerTable
import AccessorForge.Text.Ranges
/-! Full lower-casing (Unicode 14.0): one character at a time, except that a capital sigma at the end of a
word becomes the final form and a dotted capital I keeps its dot as a combining mark. -/
namespace AccessorForge.Text.Lower

def isIgnorable (c : Char) : Bool :=
  if c.toNat < 0x80 then ['\'', '.', ':', '^', '\x60'].contains c
  else Ranges.contains LowerTable.ignorableChanges c.toNat

def isCased (c : Char) : Bool :=
  if c.toNat < 0x80 then c.isAlpha else Ranges.contains LowerTable.casedChanges c.toNat

def capitalSigma : Char := 'Σ'
def smallSigma : Char := 'σ'
def finalSigma : Char := 'ς'

/-- The first character that counts in `cs` is a cased letter. -/
def meetsCased (cs : List Char) : Bool :=
  match cs.dropWhile isIgnorable with
  | [] => false
  | c :: _ => isCased c

def lowerChar (c : Char) : List Char :=
  if c.toNat < 0x80 then [c.toLower]
  else if c = 'İ' then ['i', '\u0307']
  else match LowerTable.runs.find? (·.covers c.toNat) with
    | some run => [Char.ofNat (c.toNat + run.shift).toNat]
    | none => [c]

/-- `before` holds the characters already passed, the nearest one first. -/
def lowerFrom (before : List Char) : List Char → List Char
  | [] => []
  | c :: rest =>
    (if c = capitalSigma then
      [if meetsCased before && !meetsCased rest then finalSigma else smallSigma]
    else lowerChar c) ++ lowerFrom (c :: before) rest

def lower (s : List Char) : List Char := lowerFrom [] s

theorem lowerFrom_ascii (before s : List Char) (h : ∀ c ∈ s, c.toNat < 0x80) :
    lowerFrom before s = s.map Char.toLower := by
  induction s generalizing before with
  | nil => rfl
  | cons c rest ih =>
    have hc : c.toNat < 0x80 := h c (by simp)
    have hs : c ≠ capitalSigma := by
      rintro rfl
      exact absurd hc (by decide)
    simp [lowerFrom, hs, lowerChar, hc, ih (c :: before) fun d hd => h d (by simp [hd])]

theorem lower_ascii (s : List Char) (h : ∀ c ∈ s, c.toNat < 0x80) : lower s = s.map Char.toLower :=
  lowerFrom_ascii [] s h

end AccessorForge.Text.Lower
