import AccessorForge.Text.CompatTable
/-! The compatibility composed form (NFKC) of identifier text: decompose, put combining marks into
canonical order, compose. ASCII text is its own form. -/
namespace AccessorForge.Text.Compose

def words (current : List Char) : List Char → List (List Char)
  | [] => [current.reverse]
  | c :: rest => if c = ' ' then current.reverse :: words [] rest else words (c :: current) rest

def decompositionPairs : List (Char × List Char) :=
  (words [] CompatTable.decompositions.toList).filterMap fun word =>
    match word with
    | [] => none
    | c :: rest => some (c, rest)

def triples : List Char → List (Char × Char × Char)
  | c :: a :: b :: rest => (c, a, b) :: triples rest
  | _ => []

def compositionTriples : List (Char × Char × Char) := triples CompatTable.compositions.toList

def hangulBase : Nat := 0xAC00
def leadBase : Nat := 0x1100
def vowelBase : Nat := 0x1161
def tailBase : Nat := 0x11A7
def leadCount : Nat := 19
def vowelCount : Nat := 21
def tailCount : Nat := 28
def syllableCount : Nat := leadCount * vowelCount * tailCount

/-- A precomposed syllable falls apart into lead, vowel and, where there is one, tail. -/
def decomposeHangul (c : Nat) : Option (List Char) :=
  if hangulBase ≤ c && c < hangulBase + syllableCount then
    let s := c - hangulBase
    let tail := s % tailCount
    let lv := [Char.ofNat (leadBase + s / (vowelCount * tailCount)),
      Char.ofNat (vowelBase + s % (vowelCount * tailCount) / tailCount)]
    some (if tail = 0 then lv else lv ++ [Char.ofNat (tailBase + tail)])
  else none

def decompose (c : Char) : List Char :=
  if c.toNat < 0x80 then [c]
  else match decomposeHangul c.toNat with
    | some cs => cs
    | none => ((decompositionPairs.find? (·.1 = c)).map (·.2)).getD [c]

def combiningClass (c : Char) : Nat :=
  if c.toNat < 0x300 then 0
  else ((CompatTable.combiningRuns.find? fun (a, b, _) => a ≤ c.toNat && c.toNat ≤ b).map (·.2.2)).getD 0

/-- Insert a combining mark before the first mark of a higher class that directly follows. -/
def insertMark (c : Char) : List Char → List Char
  | [] => [c]
  | d :: rest =>
    if combiningClass c ≠ 0 && combiningClass d > combiningClass c then c :: d :: rest
    else d :: insertMark c rest

/-- The marks collected since the last starter, kept in canonical order. -/
def orderMarks : List Char → List Char → List Char
  | marks, [] => marks
  | marks, c :: rest =>
    if combiningClass c = 0 then marks ++ c :: orderMarks [] rest else orderMarks (insertMark c marks) rest

def composeHangul (a b : Nat) : Option Char :=
  if leadBase ≤ a && a < leadBase + leadCount && vowelBase ≤ b && b < vowelBase + vowelCount then
    some (Char.ofNat (hangulBase + ((a - leadBase) * vowelCount + (b - vowelBase)) * tailCount))
  else if hangulBase ≤ a && a < hangulBase + syllableCount && (a - hangulBase) % tailCount = 0
      && tailBase < b && b < tailBase + tailCount then
    some (Char.ofNat (a + (b - tailBase)))
  else none

def composePair (a b : Char) : Option Char :=
  match composeHangul a.toNat b.toNat with
  | some c => some c
  | none => (compositionTriples.find? fun (_, x, y) => x = a && y = b).map (·.1)

/-- Compose onto the open starter; `held` are the marks that stay after it, `top` the class of the last
one. A mark composes unless a mark of its own or a higher class stands between. -/
def composeFrom (starter : Char) (held : List Char) (top : Option Nat) : List Char → List Char
  | [] => starter :: held
  | c :: rest =>
    let k := combiningClass c
    let blocked := match top with
      | none => false
      | some t => t = 0 || k ≤ t
    match if blocked then none else composePair starter c with
    | some d => composeFrom d held top rest
    | none =>
      if k = 0 then starter :: held ++ composeFrom c [] none rest
      else composeFrom starter (held ++ [c]) (some k) rest

def compose : List Char → List Char
  | [] => []
  | c :: rest =>
    if combiningClass c = 0 then composeFrom c [] none rest else c :: compose rest

def normalForm (s : List Char) : List Char :=
  if s.all (·.toNat < 0x80) then s else compose (orderMarks [] (s.flatMap decompose))

theorem normalForm_ascii {s : List Char} (h : s.all (·.toNat < 0x80)) : normalForm s = s := by
  simp [normalForm, h]

end AccessorForge.Text.Compose
