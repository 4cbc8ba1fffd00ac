/-! Wildcard patterns for file selection. A star stands for any text, slashes and line feeds included, a
question mark for one character, a bracket for one character of a set; there are no escapes. -/
namespace AccessorForge.Wildcard

/-- One character of a set, given as inclusive ranges; `negated` admits the characters outside. -/
structure CharSet where
  negated : Bool
  ranges : List (Char × Char)
  deriving DecidableEq, Repr

def CharSet.admits (s : CharSet) (c : Char) : Bool :=
  s.ranges.any (fun (lo, hi) => lo ≤ c && c ≤ hi) != s.negated

inductive Piece
  | star
  | anyChar
  | exact (c : Char)
  | oneOf (set : CharSet)
  deriving DecidableEq, Repr

def Piece.admits : Piece → Char → Bool
  | .star, _ => false
  | .anyChar, _ => true
  | .exact d, c => c = d
  | .oneOf set, c => set.admits c

/-- The text of a bracket up to its closing mark, and what follows the mark. A closing mark that comes
first, or right after the negation, belongs to the set. -/
def bracketBody (s : List Char) : Option (List Char × List Char) :=
  let (head, s) := match s with
    | '!' :: r => (['!'], r)
    | r => ([], r)
  let (head, s) := match s with
    | ']' :: r => (head ++ [']'], r)
    | r => (head, r)
  match s.dropWhile (· ≠ ']') with
  | [] => none
  | _ :: rest => some (head ++ s.takeWhile (· ≠ ']'), rest)

/-- Cut at every hyphen that can join two characters: the search starts `skip` characters on, and a
character that ends one range does not start the next. -/
def chunksFrom (current : List Char) (skip : Nat) : List Char → List (List Char)
  | [] => [current]
  | c :: rest =>
    if skip = 0 && c = '-' then current :: chunksFrom [] 2 rest
    else chunksFrom (current ++ [c]) (skip - 1) rest

/-- A hyphen at the very end is an ordinary character of the last chunk. -/
def closeChunks : List (List Char) → List (List Char)
  | [] => []
  | [a] => [a]
  | [a, []] => [a ++ ['-']]
  | a :: b :: rest => a :: closeChunks (b :: rest)

/-- Join a chunk to the chunks after it, dropping a range that runs backwards. -/
def joinChunk (a : List Char) : List (List Char) → List (List Char)
  | [] => [a]
  | b :: rest =>
    match a.getLast?, b with
    | some lo, hi :: tail => if hi < lo then (a.dropLast ++ tail) :: rest else a :: b :: rest
    | _, _ => a :: b :: rest

def dropEmptyRanges (chunks : List (List Char)) : List (List Char) := chunks.foldr joinChunk []

def single (c : Char) : Char × Char := (c, c)

/-- The ranges of joined chunks; `joined` says that the first character already ends a range. -/
def chunkRanges (joined : Bool) : List (List Char) → List (Char × Char)
  | [] => []
  | [a] => (a.drop (if joined then 1 else 0)).map single
  | a :: b :: rest =>
    let own := a.drop (if joined then 1 else 0)
    match own.getLast?, b with
    | some lo, hi :: _ => own.dropLast.map single ++ (lo, hi) :: chunkRanges true (b :: rest)
    | _, _ => own.map single ++ chunkRanges false (b :: rest)

def charSet (body : List Char) : CharSet :=
  let chunks := match body with
    | '!' :: c :: r => dropEmptyRanges (closeChunks (chunksFrom ['!', c] 0 r))
    | c :: r => dropEmptyRanges (closeChunks (chunksFrom [c] 0 r))
    | [] => []
  match chunks with
  | ('!' :: first) :: rest => ⟨true, chunkRanges false (first :: rest)⟩
  | chunks => ⟨false, chunkRanges false chunks⟩

/-- Pieces of a pattern; `fuel` bounds the number of pieces and the pattern's length is enough. -/
def piecesWithin : Nat → List Char → List Piece
  | 0, _ => []
  | _, [] => []
  | fuel + 1, '*' :: rest => .star :: piecesWithin fuel (rest.dropWhile (· = '*'))
  | fuel + 1, '?' :: rest => .anyChar :: piecesWithin fuel rest
  | fuel + 1, '[' :: rest =>
    match bracketBody rest with
    | some (body, after) => .oneOf (charSet body) :: piecesWithin fuel after
    | none => .exact '[' :: piecesWithin fuel rest
  | fuel + 1, c :: rest => .exact c :: piecesWithin fuel rest

def pieces (pattern : String) : List Piece := piecesWithin pattern.toList.length pattern.toList

def suffixes : List Char → List (List Char)
  | [] => [[]]
  | c :: rest => (c :: rest) :: suffixes rest

/-- What may be left of the text after one more piece, longest first. -/
def advance : Piece → List (List Char) → List (List Char)
  | .star, [] => []
  | .star, longest :: _ => suffixes longest
  | p, texts => texts.filterMap fun
    | [] => none
    | c :: rest => if p.admits c then some rest else none

def remainders (ps : List Piece) (text : List Char) : List (List Char) :=
  ps.foldl (fun texts p => advance p texts) [text]

def isMatch (pattern text : String) : Bool := (remainders (pieces pattern) text.toList).contains []

/-- A leading `**/` also stands for no directory at all. -/
def selects (patterns : List String) (path : String) : Bool :=
  patterns.any fun p =>
    isMatch p path || (p.startsWith "**/" && isMatch (String.ofList (p.toList.drop 3)) path)

end AccessorForge.Wildcard
