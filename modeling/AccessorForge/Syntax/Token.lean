import AccessorForge.Syntax.Tree
import AccessorForge.Text.Identifier
import AccessorForge.Text.LineEnds
/-! Tokens of source text. Line ends are unified first; indentation becomes tokens of its own; line ends
inside brackets and on blank lines are dropped. A text that has no tokens is refused as a whole. -/
namespace AccessorForge.Syntax

inductive TokenKind
  | name
  | number
  | string
  | operator
  | newline
  | indent
  | dedent
  | ending
  deriving DecidableEq, Repr

def Lexer.isWordChar (c : Char) : Bool := c.isAlphanum || c = '_' || c.toNat ≥ 0x80

/-- Above ASCII only what has the form of an identifier is a word. -/
def Lexer.isWordText (cs : List Char) : Bool :=
  cs.all isWordChar && (cs.all (·.toNat < 0x80) || Text.Identifier.isIdentifier cs)

structure Token where
  kind : TokenKind
  text : String
  span : Span
  isWord : kind = .name → Lexer.isWordText text.toList
  deriving DecidableEq, Repr

/-- Tokens that stand for layout have no text of their own. -/
def TokenKind.isLayout : TokenKind → Bool
  | .newline | .indent | .dedent | .ending => true
  | _ => false

def Pos.step (p : Pos) (c : Char) : Pos :=
  if c = '\n' then ⟨p.line + 1, 0⟩ else ⟨p.line, p.column + c.utf8Size⟩

def Pos.advance (p : Pos) (cs : List Char) : Pos := cs.foldl Pos.step p

namespace Lexer

abbrev Cut := List Char × List Char

def Cut.cons (c : Char) (cut : Cut) : Cut := (c :: cut.1, cut.2)

def isWordStart (c : Char) : Bool := c.isAlpha || c = '_' || c.toNat ≥ 0x80

/-- Digits in groups divided by single underscores. -/
def digitGroups (isDigit : Char → Bool) : List Char → Option Cut
  | [] => some ([], [])
  | '_' :: c :: rest =>
    if isDigit c then (digitGroups isDigit rest).map fun cut => ('_' :: c :: cut.1, cut.2) else none
  | c :: rest =>
    if isDigit c then (digitGroups isDigit rest).map (Cut.cons c)
    else if c = '_' then none else some ([], c :: rest)

/-- Words that may follow a number without a blank. -/
def joiningWords : List String := ["and", "else", "for", "if", "in", "is", "not", "or"]

def endsNumber (rest : List Char) : Bool :=
  match rest with
  | [] => true
  | c :: _ => !isWordChar c || joiningWords.any fun w => w.toList.isPrefixOf rest

def isHexDigit (c : Char) : Bool :=
  c.isDigit || ('a' ≤ c && c ≤ 'f') || ('A' ≤ c && c ≤ 'F')

def isOctDigit (c : Char) : Bool := '0' ≤ c && c ≤ '7'

def isBinDigit (c : Char) : Bool := c = '0' || c = '1'

def finishNumber (cut : Cut) : Option Cut := if endsNumber cut.2 then some cut else none

def radixDigits (isDigit : Char → Bool) (rest : List Char) : Option Cut :=
  match rest with
  | '_' :: c :: _ => if isDigit c then digitGroups isDigit rest >>= finishNumber else none
  | c :: _ => if isDigit c then digitGroups isDigit rest >>= finishNumber else none
  | [] => none

def imaginaryTail (rest : List Char) : Option Cut :=
  match rest with
  | c :: more => if c = 'j' || c = 'J' then finishNumber ([c], more) else finishNumber ([], rest)
  | [] => some ([], [])

def followedBy (lexeme : List Char) (tail : Option Cut) : Option Cut :=
  tail.map fun cut => (lexeme ++ cut.1, cut.2)

/-- What may follow the digits before an exponent: an exponent needs a digit, after at most one sign. -/
def exponentTail (rest : List Char) : Option Cut :=
  match rest with
  | c :: more =>
    if c = 'e' || c = 'E' then
      match more with
      | d :: after =>
        if d = '+' || d = '-' then
          match after with
          | x :: _ =>
            if x.isDigit then
              digitGroups Char.isDigit after >>= fun cut => followedBy (c :: d :: cut.1) (imaginaryTail cut.2)
            else none
          | [] => none
        else if d.isDigit then
          digitGroups Char.isDigit more >>= fun cut => followedBy (c :: cut.1) (imaginaryTail cut.2)
        else finishNumber ([], rest)
      | [] => none
    else imaginaryTail rest
  | [] => some ([], [])

def fractionTail (rest : List Char) : Option Cut :=
  match rest with
  | c :: _ =>
    if c.isDigit then
      digitGroups Char.isDigit rest >>= fun cut => followedBy cut.1 (exponentTail cut.2)
    else exponentTail rest
  | [] => some ([], [])

def decimalTail (rest : List Char) : Option Cut :=
  match rest with
  | '.' :: more => followedBy ['.'] (fractionTail more)
  | _ => exponentTail rest

def isMarkOf (low c : Char) : Bool := c.toLower = low

/-- Longest whole decimal that can be read back from its digits. -/
def maxDigits : Nat := 4300

def startsWithZero (digits : List Char) : Bool := digits.head? = some '0'

def isTooLong (digits : List Char) : Bool :=
  !startsWithZero digits && maxDigits < (digits.filter Char.isDigit).length

def isPadded (digits : List Char) : Bool := startsWithZero digits && digits.any fun c => c ≠ '0' && c ≠ '_'

/-- A whole number other than zero may not start with a zero. Digits before a word in `e` are taken for the
beginning of an exponent, and so they may. -/
def decimalNumber (text : List Char) : Option Cut := do
  let digits ← digitGroups Char.isDigit text
  let cut ← followedBy digits.1 (decimalTail digits.2)
  let isWhole := cut.1.length = digits.1.length
  let meetsExponent := cut.2.head?.any (isMarkOf 'e')
  if isWhole && (isTooLong digits.1 || (isPadded digits.1 && !meetsExponent)) then none else some cut

/-- A number at the head of the text, which starts with a digit or with a point and a digit. -/
def number (text : List Char) : Option Cut :=
  match text with
  | '.' :: rest => followedBy ['.'] (fractionTail rest)
  | '0' :: c :: rest =>
    if isMarkOf 'x' c then followedBy ['0', c] (radixDigits isHexDigit rest)
    else if isMarkOf 'o' c then followedBy ['0', c] (radixDigits isOctDigit rest)
    else if isMarkOf 'b' c then followedBy ['0', c] (radixDigits isBinDigit rest)
    else decimalNumber text
  | _ => decimalNumber text

def isQuote (c : Char) : Bool := c = '"' || c = '\''

def literalPrefixes : List String := ["b", "u", "r", "f", "br", "rb", "fr", "rf"]

/-- The letters before a quote mark, if a literal starts here. -/
def literalPrefix (text : List Char) : Option (List Char) :=
  match text with
  | a :: q :: more =>
    if isQuote a then some []
    else if isQuote q then
      if literalPrefixes.contains (String.ofList [a.toLower]) then some [a] else none
    else match more with
      | r :: _ =>
        if isQuote r && literalPrefixes.contains (String.ofList [a.toLower, q.toLower]) then some [a, q]
        else none
      | [] => none
  | [a] => if isQuote a then some [] else none
  | [] => none

/-- Body and closing mark of a literal on one line; a backslash keeps the next character from counting. -/
def shortBody (mark : Char) : List Char → Option Cut
  | [] => none
  | '\\' :: c :: rest => (shortBody mark rest).map fun cut => ('\\' :: c :: cut.1, cut.2)
  | c :: rest =>
    if c = mark then some ([c], rest)
    else if c = '\n' || c = '\\' then none
    else (shortBody mark rest).map (Cut.cons c)

/-- Body and closing marks of a literal in triple marks. -/
def longBody (mark : Char) : List Char → Option Cut
  | [] => none
  | '\\' :: c :: rest => (longBody mark rest).map fun cut => ('\\' :: c :: cut.1, cut.2)
  | a :: b :: c :: rest =>
    if a = mark && b = mark && c = mark then some ([a, b, c], rest)
    else (longBody mark (b :: c :: rest)).map (Cut.cons a)
  | c :: rest => if c = '\\' then none else (longBody mark rest).map (Cut.cons c)

def literalBody (text : List Char) : Option Cut :=
  match text with
  | a :: b :: c :: rest =>
    if a = b && b = c then followedBy [a, b, c] (longBody a rest)
    else followedBy [a] (shortBody a (b :: c :: rest))
  | a :: rest => followedBy [a] (shortBody a rest)
  | [] => none

def operators3 : List String := ["**=", "//=", "<<=", ">>=", "..."]

def operators2 : List String :=
  ["!=", "%=", "&=", "**", "*=", "+=", "-=", "->", "//", "/=", ":=", "<<", "<=", "<>", "==", ">=", ">>", "@=",
    "^=", "|="]

def operators1 : List Char :=
  ['(', ')', '[', ']', '\x7b', '\x7d', ',', ':', ';', '.', '+', '-', '*', '/', '%', '@', '&', '|', '^', '~', '<',
    '>', '=']

def operator (text : List Char) : Option Cut :=
  match text with
  | a :: b :: c :: rest =>
    if operators3.contains (String.ofList [a, b, c]) then some ([a, b, c], rest)
    else if operators2.contains (String.ofList [a, b]) then some ([a, b], c :: rest)
    else if operators1.contains a then some ([a], b :: c :: rest) else none
  | [a, b] =>
    if operators2.contains (String.ofList [a, b]) then some ([a, b], [])
    else if operators1.contains a then some ([a], [b]) else none
  | [a] => if operators1.contains a then some ([a], []) else none
  | [] => none

def closing : Char → Option Char
  | '(' => some ')'
  | '[' => some ']'
  | '\x7b' => some '\x7d'
  | _ => none

def isClosing (c : Char) : Bool := c = ')' || c = ']' || c = '\x7d'

def maxNesting : Nat := 200

/-- The closing marks still expected, after one more operator. -/
def trackBracket (expected : List Char) (lexeme : List Char) : Option (List Char) :=
  match lexeme with
  | [c] =>
    match closing c with
    | some close => if expected.length < maxNesting then some (close :: expected) else none
    | none =>
      if isClosing c then
        match expected with
        | d :: rest => if c = d then some rest else none
        | [] => none
      else some expected
  | _ => some expected

structure State where
  rest : List Char
  pos : Pos
  /-- Open indentation levels, innermost first: tabs to multiples of eight, and tabs as one column. -/
  indents : List (Nat × Nat)
  brackets : List Char
  atLineStart : Bool

def start (text : List Char) : State := ⟨text, ⟨1, 0⟩, [], [], true⟩

/-- Leading blanks of a line: what they cut off, the two widths and the rest. A joined line counts with the
width before the first backslash, unless that is zero. -/
def measure (width narrow joined : Nat) : List Char → Option (List Char × Nat × Nat × List Char)
  | [] => some ([], if joined = 0 then width else joined, if joined = 0 then narrow else joined, [])
  | '\\' :: '\n' :: c :: rest =>
    (measure width narrow (if joined = 0 then width else joined) (c :: rest)).map fun (cs, r) =>
      ('\\' :: '\n' :: cs, r)
  | c :: rest =>
    if c = ' ' then (measure (width + 1) (narrow + 1) joined rest).map fun (cs, r) => (c :: cs, r)
    else if c = '\t' then
      (measure ((width / 8 + 1) * 8) (narrow + 1) joined rest).map fun (cs, r) => (c :: cs, r)
    else if c = '\x0c' then (measure 0 0 joined rest).map fun (cs, r) => (c :: cs, r)
    else if c = '\\' then none
    else some ([], if joined = 0 then width else joined, if joined = 0 then narrow else joined, c :: rest)

def maxIndents : Nat := 99

def layoutToken (kind : TokenKind) (p : Pos) : Token := ⟨kind, "", ⟨p, p⟩, fun _ => rfl⟩

/-- Close levels until one of width at most `width` is on top; it has to be that very level. -/
def closeIndents (p : Pos) (width narrow : Nat) : List (Nat × Nat) → Option (List Token × List (Nat × Nat))
  | [] => if width = 0 && narrow = 0 then some ([], []) else none
  | (w, n) :: outer =>
    if width < w then
      (closeIndents p width narrow outer).map fun (ts, r) => (layoutToken .dedent p :: ts, r)
    else if width = w && narrow = n then some ([], (w, n) :: outer) else none

def indentation (p : Pos) (width narrow : Nat) (levels : List (Nat × Nat)) :
    Option (List Token × List (Nat × Nat)) :=
  let top := levels.headD (0, 0)
  if top.1 < width then
    if levels.length < maxIndents && top.2 < narrow then
      some ([layoutToken .indent p], (width, narrow) :: levels)
    else none
  else closeIndents p width narrow levels

def isBlank (c : Char) : Bool := c = ' ' || c = '\t' || c = '\x0c'

def State.take (s : State) (lexeme rest : List Char) : State :=
  { s with rest := rest, pos := s.pos.advance lexeme }

def State.tokenOf (s : State) (kind : TokenKind) (lexeme : List Char)
    (isWord : kind = .name → isWordText lexeme) : Token :=
  ⟨kind, String.ofList lexeme, ⟨s.pos, s.pos.advance lexeme⟩, by rwa [String.toList_ofList]⟩

def State.emit (s : State) (kind : TokenKind) (cut : Cut) (isWord : kind = .name → isWordText cut.1) :
    List Token × State :=
  ([s.tokenOf kind cut.1 isWord], s.take cut.1 cut.2)

def word (s : State) : Option (List Token × State) :=
  let lexeme := s.rest.takeWhile isWordChar
  if isWhole : isWordText lexeme then
    some (s.emit .name (lexeme, s.rest.dropWhile isWordChar) fun _ => isWhole)
  else none

def literal (s : State) (letters : List Char) : Option (List Token × State) :=
  (followedBy letters (literalBody (s.rest.drop letters.length))).map fun cut => s.emit .string cut nofun

def mark (s : State) : Option (List Token × State) := do
  let cut ← operator s.rest
  let brackets ← trackBracket s.brackets cut.1
  some ([s.tokenOf .operator cut.1 nofun], { s.take cut.1 cut.2 with brackets := brackets })

/-- One step at the start of a line: its indentation counts unless the line is blank or inside brackets. -/
def lineStep (s : State) : Option (List Token × State) := do
  let (blanks, width, narrow, rest) ← measure 0 0 0 s.rest
  let s := s.take blanks rest
  match rest with
  | '\n' :: more => some ([], s.take ['\n'] more)
  | '#' :: _ =>
    let comment := rest.takeWhile (· ≠ '\n')
    match rest.dropWhile (· ≠ '\n') with
    | [] => some ([], { s.take comment [] with atLineStart := false })
    | c :: more => some ([], s.take (comment ++ [c]) more)
  | _ =>
    if s.brackets.isEmpty then
      let (tokens, levels) ← indentation s.pos width narrow s.indents
      some (tokens, { s with indents := levels, atLineStart := false })
    else some ([], { s with atLineStart := false })

def tokenStep (s : State) : Option (List Token × State) :=
  match s.rest with
  | [] => none
  | '\n' :: rest =>
    let next := { s.take ['\n'] rest with atLineStart := true }
    if s.brackets.isEmpty then some ([layoutToken .newline s.pos], next) else some ([], next)
  | '#' :: _ => some ([], s.take (s.rest.takeWhile (· ≠ '\n')) (s.rest.dropWhile (· ≠ '\n')))
  | '\\' :: '\n' :: c :: rest => some ([], s.take ['\\', '\n'] (c :: rest))
  | '.' :: d :: _ => if d.isDigit then (number s.rest).map fun cut => s.emit .number cut nofun else mark s
  | c :: rest =>
    if isBlank c then some ([], s.take [c] rest)
    else match literalPrefix s.rest with
      | some letters => literal s letters
      | none =>
        if isWordStart c then word s
        else if c.isDigit then (number s.rest).map fun cut => s.emit .number cut nofun
        else mark s

/-- All tokens; every step but the last cuts something off, so the length of the text is fuel enough. -/
def run : Nat → State → Option (List Token)
  | 0, _ => none
  | fuel + 1, s =>
    if s.atLineStart then do
      let (tokens, next) ← lineStep s
      (run fuel next).map (tokens ++ ·)
    else if s.rest.isEmpty then
      if s.brackets.isEmpty then some [layoutToken .ending s.pos] else none
    else do
      let (tokens, next) ← tokenStep s
      (run fuel next).map (tokens ++ ·)

end Lexer

def tokens (text : List Char) : Option (List Token) := Lexer.run (2 * text.length + 2) (Lexer.start text)

/-- Unify line ends and close the last line. A line end of two characters counts as one that is still open. -/
def closedLines (source : List Char) : List Char :=
  let text := Text.LineEnds.unify source
  if text.getLast? = some '\n' && !List.isSuffixOf ['\r', '\n'] source then text else text ++ ['\n']

def moduleTokens (source : List Char) : Option (List Token) := tokens (closedLines source)

def expressionTokens (source : List Char) : Option (List Token) := tokens (Text.LineEnds.unify source)

end AccessorForge.Syntax
