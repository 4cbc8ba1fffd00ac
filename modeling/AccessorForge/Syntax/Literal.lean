import AccessorForge.Syntax.Token
import AccessorForge.Text.CharName
import AccessorForge.Text.Surrogate
/-! Reading literals: the text that a literal stands for, and the expressions in the fields of a formatted
one. Literals side by side join into one. -/
namespace AccessorForge.Syntax.Literal
open Lexer (isQuote closing isClosing maxNesting)

structure Marks where
  raw : Bool
  bytes : Bool
  formatted : Bool
  deriving DecidableEq, Repr

def Marks.ofLetters (letters : List Char) : Marks :=
  let low := letters.map Char.toLower
  ⟨low.contains 'r', low.contains 'b', low.contains 'f'⟩

/-- The characters between the marks: one mark on either side, or three. -/
def insideMarks (text : List Char) : List Char :=
  match text with
  | a :: b :: c :: rest =>
    if a = b && b = c then rest.take (rest.length - 3) else (b :: c :: rest).take (rest.length + 1)
  | _ => []

/-- Split a lexeme into its letters and its body. -/
def dissect (lexeme : List Char) : Marks × List Char :=
  (Marks.ofLetters (lexeme.takeWhile (!isQuote ·)), insideMarks (lexeme.dropWhile (!isQuote ·)))

def hexDigit (c : Char) : Option Nat :=
  if c.isDigit then some (c.toNat - '0'.toNat)
  else if 'a' ≤ c && c ≤ 'f' then some (c.toNat - 'a'.toNat + 10)
  else if 'A' ≤ c && c ≤ 'F' then some (c.toNat - 'A'.toNat + 10)
  else none

def hexNumber (count : Nat) (cs : List Char) : Option (Nat × List Char) := do
  let digits := cs.take count
  if digits.length < count then none
  else
    let n ← digits.foldlM (fun n c => (hexDigit c).map (n * 16 + ·)) 0
    some (n, cs.drop count)

def textOfCode (n : Nat) : Option (List Char) := if 0x10FFFF < n then none else some (Text.Surrogate.ofCode n)

def octDigit (c : Char) : Option Nat :=
  if '0' ≤ c && c ≤ '7' then some (c.toNat - '0'.toNat) else none

/-- At most three octal digits, of which the first is known. -/
def octNumber (first : Nat) (cs : List Char) : Nat × List Char :=
  match cs with
  | a :: rest =>
    match octDigit a with
    | none => (first, cs)
    | some n =>
      match rest with
      | b :: more =>
        match octDigit b with
        | none => (first * 8 + n, rest)
        | some m => ((first * 8 + n) * 8 + m, more)
      | [] => (first * 8 + n, [])
  | [] => (first, [])

def simpleEscape : Char → Option Char
  | '\\' => some '\\'
  | '\'' => some '\''
  | '"' => some '"'
  | 'a' => some '\x07'
  | 'b' => some '\x08'
  | 'f' => some '\x0c'
  | 'n' => some '\n'
  | 'r' => some '\r'
  | 't' => some '\t'
  | 'v' => some '\x0b'
  | _ => none

def escapedCode (count : Nat) (cs : List Char) : Option (List Char × List Char) := do
  let (n, rest) ← hexNumber count cs
  let text ← textOfCode n
  some (text, rest)

def namedCharacter (cs : List Char) : Option (List Char × List Char) :=
  match cs with
  | '\x7b' :: rest =>
    match rest.dropWhile (· ≠ '\x7d') with
    | _ :: after => (Text.CharName.lookup (rest.takeWhile (· ≠ '\x7d'))).map fun c => ([c], after)
    | [] => none
  | _ => none

/-- What stands after a backslash: the text meant and the rest. A letter without a meaning keeps the
backslash. -/
def escapeAfter (c : Char) (rest : List Char) : Option (List Char × List Char) :=
  if c = '\n' then some ([], rest)
  else if c = 'x' then escapedCode 2 rest
  else if c = 'u' then escapedCode 4 rest
  else if c = 'U' then escapedCode 8 rest
  else if c = 'N' then namedCharacter rest
  else match simpleEscape c with
    | some d => some ([d], rest)
    | none =>
      match octDigit c with
      | some n =>
        let (code, after) := octNumber n rest
        some ([Char.ofNat code], after)
      | none => some (['\\', c], rest)

/-- The text of a body without formatting; its length is fuel enough. -/
def unescapeWithin : Nat → List Char → Option (List Char)
  | 0, _ => some []
  | _, [] => some []
  | _, ['\\'] => some ['\\']
  | fuel + 1, '\\' :: c :: rest => do
    let (chars, after) ← escapeAfter c rest
    (unescapeWithin fuel after).map (chars ++ ·)
  | fuel + 1, c :: rest => (unescapeWithin fuel rest).map (c :: ·)

def unescape (body : List Char) : Option (List Char) := unescapeWithin body.length body

/-- Bytes are written in ASCII, and a hexadecimal escape has two digits. -/
def areBytes (raw : Bool) : List Char → Bool
  | [] => true
  | '\\' :: 'x' :: a :: b :: rest =>
    (raw || ((hexDigit a).isSome && (hexDigit b).isSome)) && areBytes raw (a :: b :: rest)
  | '\\' :: c :: rest => (raw || c ≠ 'x') && c.toNat < 0x80 && areBytes raw rest
  | c :: rest => c.toNat < 0x80 && areBytes raw rest

/-! Formatted literals. -/

inductive Stop
  | ending
  | fieldStart
  | fieldEnd
  | doubledBrace
  deriving DecidableEq, Repr

/-- How far a backslash reaches while plain text is passed. -/
inductive Mode
  | plain
  | escaped
  | nameMark
  | insideName
  deriving DecidableEq, Repr

def isBrace (c : Char) : Bool := c = '\x7b' || c = '\x7d'

/-- A brace that counts, with the plain text before it. Braces are doubled at the outermost level only. -/
def atBrace (level : Nat) (before : List Char) (c : Char) (rest : List Char) :
    Option (List Char × Stop × List Char) :=
  if level = 0 && rest.head? = some c then some (before ++ [c], .doubledBrace, rest.drop 1)
  else if c = '\x7b' then some (before, .fieldStart, rest)
  else if level = 0 then none
  else some (before, .fieldEnd, c :: rest)

/-- The plain text up to the next brace that counts; those of a named character do not. -/
def plainStretch (raw : Bool) (level : Nat) (mode : Mode) (taken : List Char) :
    List Char → Option (List Char × Stop × List Char)
  | [] => some (taken.reverse, .ending, [])
  | c :: rest =>
    match mode with
    | .insideName => plainStretch raw level (if c = '\x7d' then .plain else .insideName) (c :: taken) rest
    | .nameMark => plainStretch raw level (if c = '\x7b' then .insideName else .plain) (c :: taken) rest
    | .escaped =>
      if isBrace c then atBrace level taken.reverse c rest
      else plainStretch raw level (if c = 'N' then .nameMark else .plain) (c :: taken) rest
    | .plain =>
      if isBrace c then atBrace level taken.reverse c rest
      else plainStretch raw level (if c = '\\' && !raw then .escaped else .plain) (c :: taken) rest

abbrev OpenQuote := Option (Char × Bool)

def isTripled (c : Char) (rest : List Char) : Bool := [c, c].isPrefixOf rest

/-- Marks that end an expression when no bracket is open. -/
def endsExpression (c : Char) : Bool := c = '!' || c = ':' || c = '\x7d' || c = '='

def isComparison (c : Char) (rest : List Char) : Bool :=
  (c = '!' || c = '=' || c = '<' || c = '>') && rest.head? = some '='

/-- A field's expression: its text, and the rest from the mark that ended it. Quoted parts and brackets
hide such marks; no backslash and no comment may occur. `skip` characters have been dealt with already. -/
def fieldExpression (quote : OpenQuote) (expected : List Char) (skip : Nat) (taken : List Char) :
    List Char → Option (List Char × List Char)
  | [] => none
  | c :: rest =>
    if skip ≠ 0 then fieldExpression quote expected (skip - 1) (c :: taken) rest
    else if c = '\\' then none
    else match quote with
    | some (mark, tripled) =>
      if c ≠ mark then fieldExpression quote expected 0 (c :: taken) rest
      else if !tripled then fieldExpression none expected 0 (c :: taken) rest
      else if isTripled c rest then fieldExpression none expected 2 (c :: taken) rest
      else fieldExpression quote expected 0 (c :: taken) rest
    | none =>
      if isQuote c then
        if isTripled c rest then fieldExpression (some (c, true)) expected 2 (c :: taken) rest
        else fieldExpression (some (c, false)) expected 0 (c :: taken) rest
      else if c = '#' then none
      else match closing c, expected with
      | some close, _ =>
        if expected.length < maxNesting then fieldExpression none (close :: expected) 0 (c :: taken) rest
        else none
      | none, close :: outer =>
        if !isClosing c then fieldExpression none expected 0 (c :: taken) rest
        else if c = close then fieldExpression none outer 0 (c :: taken) rest
        else none
      | none, [] =>
        if isComparison c rest then fieldExpression none [] 1 (c :: taken) rest
        else if endsExpression c then some (taken.reverse, c :: rest)
        else if isClosing c then none
        else fieldExpression none [] 0 (c :: taken) rest

def isFieldBlank (c : Char) : Bool := c = ' ' || c = '\t' || c = '\n' || c = '\x0c'

def isPlainBlank (c : Char) : Bool := isFieldBlank c || c = '\r' || c = '\x0b'

def conversion (rest : List Char) : Option (List Char) :=
  let rest := match rest with
    | '=' :: more => more.dropWhile isPlainBlank
    | other => other
  match rest with
  | '!' :: c :: more => if c = 's' || c = 'r' || c = 'a' then some more else none
  | '!' :: [] => none
  | other => some other

/-- The expressions of all fields, those in layouts included, and the rest from the brace that ends a
layout. Fields nest one level deep; the length of the text is fuel enough. -/
def fieldsWithin (raw : Bool) : Nat → Nat → List Char → Option (List (List Char) × List Char)
  | 0, _, _ => none
  | fuel + 1, level, cs => do
    let (plain, stop, rest) ← plainStretch raw level .plain [] cs
    if !raw && (unescape plain).isNone then none
    else match stop with
    | .ending => some ([], [])
    | .fieldEnd => some ([], rest)
    | .doubledBrace => fieldsWithin raw fuel level rest
    | .fieldStart =>
      if level ≥ 2 then none
      else
        let (expression, rest) ← fieldExpression none [] 0 [] rest
        if expression.all isFieldBlank then none
        else
          let rest ← conversion rest
          let (inner, rest) ← match rest with
            | ':' :: layout =>
              if layout.isEmpty then none else fieldsWithin raw fuel (level + 1) layout
            | other => some ([], other)
          match rest with
          | '\x7d' :: after =>
            let (later, rest) ← fieldsWithin raw fuel level after
            some (expression :: inner ++ later, rest)
          | _ => none

inductive Meaning
  | text (value : List Char)
  | bytes
  | formatted (fields : List (List Char))
  deriving DecidableEq, Repr

def readOne (lexeme : List Char) : Option Meaning :=
  let (marks, body) := dissect lexeme
  if marks.bytes then if areBytes marks.raw body then some .bytes else none
  else if marks.formatted then
    (fieldsWithin marks.raw (body.length + 1) 0 body).map fun (fields, _) => .formatted fields
  else if marks.raw then some (.text body)
  else (unescape body).map .text

/-- Bytes join with bytes only; a formatted part makes the whole formatted. -/
def join : Meaning → Meaning → Option Meaning
  | .bytes, .bytes => some .bytes
  | .bytes, _ | _, .bytes => none
  | .text a, .text b => some (.text (a ++ b))
  | .text _, .formatted fs | .formatted fs, .text _ => some (.formatted fs)
  | .formatted fs, .formatted gs => some (.formatted (fs ++ gs))

def read : List (List Char) → Option Meaning
  | [] => none
  | [lexeme] => readOne lexeme
  | lexeme :: rest => do
    let first ← readOne lexeme
    let others ← read rest
    join first others

end AccessorForge.Syntax.Literal
