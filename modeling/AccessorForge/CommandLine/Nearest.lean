/-! Words that resemble a mistyped one. Two words are close if three fifths of their letters belong to common
runs, the longest run being found first and the rest on either side of it. -/
namespace AccessorForge.CommandLine

def commonStart : List Char → List Char → Nat
  | a :: as, b :: bs => if a = b then commonStart as bs + 1 else 0
  | _, _ => 0

structure Run where
  left : Nat := 0
  right : Nat := 0
  size : Nat := 0
  deriving DecidableEq, Repr

/-- The longest common run; of several the one that starts first. -/
def longestRun (a b : List Char) : Run :=
  (List.range a.length).foldl (fun best i =>
    (List.range b.length).foldl (fun best j =>
      let size := commonStart (a.drop i) (b.drop j)
      if best.size < size then ⟨i, j, size⟩ else best) best) {}

def sharedLetters : Nat → List Char → List Char → Nat
  | 0, _, _ => 0
  | fuel + 1, a, b =>
    let run := longestRun a b
    if run.size = 0 then 0
    else run.size + sharedLetters fuel (a.take run.left) (b.take run.right) +
      sharedLetters fuel (a.drop (run.left + run.size)) (b.drop (run.right + run.size))

/-- A known word beside the letters it shares with the mistyped one, and the letters of both. -/
structure Likeness where
  word : String
  shared : Nat
  total : Nat
  deriving DecidableEq, Repr

def Likeness.of (mistyped word : String) : Likeness :=
  ⟨word, sharedLetters (word.length + 1) word.toList mistyped.toList, word.length + mistyped.length⟩

def Likeness.isClose (l : Likeness) : Bool := 3 * l.total ≤ 10 * l.shared

def Likeness.precedes (a b : Likeness) : Bool :=
  let x := a.shared * b.total
  let y := b.shared * a.total
  if x = y then b.word < a.word else y < x

def maxNearest : Nat := 3

/-- The known words that are closest to a mistyped one, in alphabetical order. -/
def nearest (known : List String) (mistyped : String) : List String :=
  let close := ((known.map (Likeness.of mistyped)).filter Likeness.isClose).mergeSort fun a b => !b.precedes a
  ((close.take maxNearest).map (·.word)).mergeSort fun a b => !decide (b < a)

end AccessorForge.CommandLine
