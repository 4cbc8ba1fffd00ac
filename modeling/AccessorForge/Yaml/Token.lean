import AccessorForge.Text.Surrogate
/-! Tokens of a YAML 1.1 document whose line ends are unified. Indentation becomes tokens of its own, and a
key that shows itself only by its colon is marked after the fact. -/
namespace AccessorForge.Yaml

/-- Why a document has no value. -/
inductive Fault
  | malformed
  /-- A number, date or character code that denotes nothing. -/
  | noSuchValue
  /-- A number that is too large for the machine, in words. -/
  | tooLarge (message : String)
  /-- A word that is neither true nor false. -/
  | noSuchTruth (word : String)
  /-- A number without a single digit or sign. -/
  | emptyNumber
  | notATime
  | timeOfMapping
  deriving DecidableEq, Repr

inductive Directive
  | version (major : Nat)
  | tagHandle (handle uri : String)
  | other
  deriving DecidableEq, Repr

inductive Token
  | directive (d : Directive)
  | documentStart
  | documentEnd
  | blockSequence
  | blockMapping
  | blockEnd
  | flowSequence
  | flowSequenceEnd
  | flowMapping
  | flowMappingEnd
  | entry
  | comma
  | key
  | value
  | alias (name : String)
  | anchor (name : String)
  | tag (handle : Option String) (suffix : String)
  | scalar (text : String) (plain : Bool)
  | ending
  deriving DecidableEq, Repr

/-- Where a key may have begun. -/
structure KeyPlace where
  /-- The number of tokens before it. -/
  number : Nat
  required : Bool
  index : Nat
  line : Nat
  column : Nat
  deriving DecidableEq, Repr

structure Scan where
  rest : List Char
  index : Nat := 0
  line : Nat := 0
  column : Nat := 0
  /-- The latest token comes first. -/
  tokens : List Token := []
  /-- How many brackets are open. -/
  depth : Nat := 0
  indent : Int := -1
  outerIndents : List Int := []
  keyAllowed : Bool := true
  /-- At most one open key for every depth. -/
  keys : List (Nat × KeyPlace) := []
  deriving Repr

/-- A fault leaves the tokens before it in place. -/
abbrev Scanner := ExceptT Fault (StateM Scan)

def isPrintable (c : Char) : Bool :=
  c = '\t' || c = '\n' || c = '\r' || (' ' ≤ c && c ≤ '~') || c = '\u0085' ||
  ('\u00a0' ≤ c && c ≤ '\ufffd') || '\uffff' < c

def isBreak (c : Char) : Bool := c = '\n' || c = '\u0085' || c = '\u2028' || c = '\u2029'

def isBlank (c : Char) : Bool := c = ' ' || c = '\t'

def endsWord : List Char → Bool
  | [] => true
  | c :: _ => isBlank c || isBreak c

def endsPart : List Char → Bool
  | [] => true
  | c :: _ => c = ' ' || isBreak c

def endsLine : List Char → Bool
  | [] => true
  | c :: _ => isBreak c

def isDocumentMark : List Char → Bool
  | '-' :: '-' :: '-' :: rest | '.' :: '.' :: '.' :: rest => endsWord rest
  | _ => false

def isNameChar (c : Char) : Bool := c.isAlphanum || c = '-' || c = '_'

def isUriChar (c : Char) : Bool := c.isAlphanum || "-;/?:@&=+$,_.!~*'()[]%".toList.contains c

def hexDigit? (c : Char) : Option Nat :=
  if c.isDigit then some (c.toNat - '0'.toNat)
  else if 'a' ≤ c && c ≤ 'f' then some (c.toNat - 'a'.toNat + 10)
  else if 'A' ≤ c && c ≤ 'F' then some (c.toNat - 'A'.toNat + 10)
  else none

/-- The number that exactly `count` hexadecimal digits write. -/
def hexNumber? (count : Nat) (cs : List Char) : Option Nat :=
  let digits := cs.take count
  if digits.length = count then
    (digits.mapM hexDigit?).map fun ds => ds.foldl (fun n d => n * 16 + d) 0
  else none

def Scan.step (s : Scan) : Scan :=
  match s.rest with
  | [] => s
  | c :: rest =>
    if isBreak c then { s with rest, index := s.index + 1, line := s.line + 1, column := 0 }
    else { s with rest, index := s.index + 1, column := if c = '\ufeff' then s.column else s.column + 1 }

def Scan.skip : Nat → Scan → Scan
  | 0, s => s
  | n + 1, s => Scan.skip n s.step

namespace Scanner

def require (condition : Bool) : Scanner Unit := if condition then pure () else throw .malformed

def rest : Scanner (List Char) := return (← get).rest

def next? : Scanner (Option Char) := return (← get).rest.head?

def skip (n : Nat) : Scanner Unit := modify (Scan.skip n)

def takeWhile (p : Char → Bool) : Scanner (List Char) := do
  let taken := (← rest).takeWhile p
  skip taken.length
  return taken

def skipSpaces : Scanner Unit := do
  let _ ← takeWhile (· = ' ')

def skipComment : Scanner Unit := do
  if (← next?) = some '#' then
    let _ ← takeWhile (!isBreak ·)

/-- A line end as it counts in text, if one follows. -/
def takeBreak? : Scanner (Option Char) := do
  match ← next? with
  | some c =>
    if isBreak c then
      skip 1
      return some (if c = '\u0085' then '\n' else c)
    else return none
  | none => return none

def emit (t : Token) : Scanner Unit := modify fun s => { s with tokens := t :: s.tokens }

/-! Indentation and keys. -/

def unwindTo (column : Int) : Nat → Scan → Scan
  | 0, s => s
  | fuel + 1, s =>
    if column < s.indent then
      unwindTo column fuel { s with
        indent := s.outerIndents.headD (-1), outerIndents := s.outerIndents.tail, tokens := .blockEnd :: s.tokens }
    else s

/-- Close the blocks that are indented further than `column`; brackets suspend indentation. -/
def unwind (column : Int) : Scanner Unit :=
  modify fun s => if s.depth = 0 then unwindTo column (s.outerIndents.length + 1) s else s

def indentTo (column : Nat) : Scanner Bool := do
  let s ← get
  if s.indent < column then
    set { s with indent := (column : Int), outerIndents := s.indent :: s.outerIndents }
    return true
  else return false

def keyAt? (s : Scan) (depth : Nat) : Option KeyPlace := (s.keys.find? (·.1 = depth)).map (·.2)

def withoutKey (s : Scan) : Scan := { s with keys := s.keys.filter (·.1 ≠ s.depth) }

def dropKey : Scanner Unit := do
  let s ← get
  require !((keyAt? s s.depth).any (·.required))
  set (withoutKey s)

def isStale (s : Scan) (k : KeyPlace) : Bool := k.line ≠ s.line || s.index - k.index > 1024

/-- A key that shows itself by its colon stays on one line and within 1024 characters. -/
def dropStaleKeys : Scanner Unit := do
  let s ← get
  require !(s.keys.any fun (_, k) => isStale s k && k.required)
  set { s with keys := s.keys.filter fun (_, k) => !isStale s k }

def openKey : Scanner Unit := do
  if (← get).keyAllowed then
    dropKey
    modify fun s =>
      let required := s.depth = 0 && s.indent = (s.column : Int)
      { s with keys := s.keys ++ [(s.depth, ⟨s.tokens.length, required, s.index, s.line, s.column⟩)] }

def allowKey (allowed : Bool) : Scanner Unit := modify fun s => { s with keyAllowed := allowed }

def insertAt (t : Token) (number : Nat) (s : Scan) : Scan :=
  let later := s.tokens.length - number
  { s with tokens := s.tokens.take later ++ t :: s.tokens.drop later }

/-! Scalars. -/

/-- What a line end with empty lines after it means inside a text. -/
def folded (lineBreak : Char) (breaks : List Char) : List Char :=
  if lineBreak ≠ '\n' then lineBreak :: breaks else if breaks.isEmpty then [' '] else breaks

/-- Empty lines after a line end in a plain text; none at a document mark. -/
def plainBreaks : Nat → List Char → Scanner (Option (List Char))
  | 0, breaks => return some breaks
  | fuel + 1, breaks => do
    if isDocumentMark (← rest) && (← get).column = 0 then return none
    skipSpaces
    match ← takeBreak? with
    | some c => plainBreaks fuel (breaks ++ [c])
    | none => return some breaks

/-- The space between two words of a plain text; empty if the text ends here. -/
def plainSpace : Scanner (List Char) := do
  let blanks ← takeWhile (· = ' ')
  match ← takeBreak? with
  | some c =>
    allowKey true
    return match ← plainBreaks (← rest).length [] with
      | some breaks => folded c breaks
      | none => []
  | none => return blanks

/-- The characters of a plain text up to a blank or a mark. -/
def plainWord (inFlow : Bool) : List Char → List Char
  | [] => []
  | c :: rest =>
    let stopsHere :=
      isBlank c || isBreak c ||
      (c = ':' && (endsWord rest || (inFlow && rest.head?.any fun n => ",[]\x7b\x7d".toList.contains n))) ||
      (inFlow && ",?[]\x7b\x7d".toList.contains c)
    if stopsHere then [] else c :: plainWord inFlow rest

def plainText : Nat → List Char → List Char → Scanner (List Char)
  | 0, done, _ => return done
  | fuel + 1, done, space => do
    let s ← get
    let inFlow := s.depth ≠ 0
    let word := if s.rest.head? = some '#' then [] else plainWord inFlow s.rest
    if word.isEmpty then return done
    allowKey false
    skip word.length
    let done := done ++ space ++ word
    let space ← plainSpace
    let here ← get
    if space.isEmpty || here.rest.head? = some '#' || (!inFlow && (here.column : Int) < here.indent + 1) then
      return done
    plainText fuel done space

/-- Empty lines inside a quoted text, where no document mark may stand. -/
def quotedBreaks : Nat → List Char → Scanner (List Char)
  | 0, breaks => return breaks
  | fuel + 1, breaks => do
    require !(isDocumentMark (← rest))
    let _ ← takeWhile isBlank
    match ← takeBreak? with
    | some c => quotedBreaks fuel (breaks ++ [c])
    | none => return breaks

def quotedSpace : Scanner (List Char) := do
  let blanks ← takeWhile isBlank
  match ← takeBreak? with
  | some c => return folded c (← quotedBreaks (← rest).length [])
  | none =>
    require (← next?).isSome
    return blanks

def namedEscapes : List (Char × Char) :=
  [('0', '\x00'), ('a', '\x07'), ('b', '\x08'), ('t', '\t'), ('\t', '\t'), ('n', '\n'), ('v', '\x0b'),
    ('f', '\x0c'), ('r', '\r'), ('e', '\x1b'), (' ', ' '), ('"', '"'), ('\\', '\\'), ('/', '/'),
    ('N', '\u0085'), ('_', '\u00a0'), ('L', '\u2028'), ('P', '\u2029')]

def numericEscapes : List (Char × Nat) := [('x', 2), ('u', 4), ('U', 8)]

def textOfNumber (n : Nat) : Scanner (List Char) :=
  if 0x7fffffff < n then throw (.tooLarge "Python int too large to convert to C int")
  else if 0x10ffff < n then throw .noSuchValue
  else return Text.Surrogate.ofCode n

def escape : Scanner (List Char) := do
  match ← next? with
  | none => throw .malformed
  | some c =>
    if isBreak c then
      let _ ← takeBreak?
      quotedBreaks (← rest).length []
    else
      skip 1
      match namedEscapes.lookup c, numericEscapes.lookup c with
      | some plain, _ => return [plain]
      | none, some count =>
        match hexNumber? count (← rest) with
        | some n =>
          let text ← textOfNumber n
          skip count
          return text
        | none => throw .malformed
      | none, none => throw .malformed

def quotedText (double : Bool) : Nat → List Char → Scanner (List Char)
  | 0, _ => throw .malformed
  | fuel + 1, done => do
    match ← rest with
    | [] => throw .malformed
    | '"' :: _ =>
      skip 1
      if double then return done else quotedText double fuel (done ++ ['"'])
    | '\x27' :: after =>
      skip 1
      if double then quotedText double fuel (done ++ ['\x27'])
      else if after.head? = some '\x27' then
        skip 1
        quotedText double fuel (done ++ ['\x27'])
      else return done
    | '\\' :: _ =>
      skip 1
      if double then quotedText double fuel (done ++ (← escape))
      else quotedText double fuel (done ++ ['\\'])
    | c :: _ =>
      if isBlank c || isBreak c then quotedText double fuel (done ++ (← quotedSpace))
      else
        skip 1
        quotedText double fuel (done ++ [c])

/-- How the line ends after a block text are kept. -/
inductive Chomping
  | clip
  | strip
  | keep
  deriving DecidableEq, Repr

def chomping? : Scanner (Option Chomping) := do
  match ← next? with
  | some '+' => skip 1; return some .keep
  | some '-' => skip 1; return some .strip
  | _ => return none

def increment? : Scanner (Option Nat) := do
  match ← next? with
  | some c =>
    if c.isDigit then
      require (c ≠ '0')
      skip 1
      return some (c.toNat - '0'.toNat)
    else return none
  | none => return none

def blockHeader : Scanner (Chomping × Option Nat) := do
  match ← chomping? with
  | some c => return (c, ← increment?)
  | none =>
    let increment ← increment?
    if increment.isSome then return ((← chomping?).getD .clip, increment) else return (.clip, none)

def ignoredLine : Scanner Unit := do
  skipSpaces
  skipComment
  require (endsLine (← rest))
  let _ ← takeBreak?

/-- Empty lines before the first line of a block text, and the widest indentation among them. -/
def leadingBreaks : Nat → List Char → Nat → Scanner (List Char × Nat)
  | 0, breaks, widest => return (breaks, widest)
  | fuel + 1, breaks, widest => do
    skipSpaces
    let widest := max widest (← get).column
    match ← takeBreak? with
    | some c => leadingBreaks fuel (breaks ++ [c]) widest
    | none => return (breaks, widest)

def skipIndent (indent : Nat) : Scanner Unit := do
  let s ← get
  skip (min (s.rest.takeWhile (· = ' ')).length (indent - s.column))

def blockBreaks (indent : Nat) : Nat → List Char → Scanner (List Char)
  | 0, breaks => return breaks
  | fuel + 1, breaks => do
    skipIndent indent
    match ← takeBreak? with
    | some c => blockBreaks indent fuel (breaks ++ [c])
    | none => return breaks

def startsBlank (cs : List Char) : Bool := cs.head?.any isBlank

/-- The lines of a block text: the text without its end, the last line end, and the empty lines after it. -/
def blockLines (fold : Bool) (indent : Nat) : Nat → List Char → List Char →
    Scanner (List Char × Option Char × List Char)
  | 0, done, breaks => return (done, none, breaks)
  | fuel + 1, done, breaks => do
    let flush := !startsBlank (← rest)
    let done := done ++ breaks ++ (← takeWhile (!isBreak ·))
    let lineBreak ← takeBreak?
    let breaks ← blockBreaks indent (← rest).length.succ []
    let s ← get
    if s.column = indent && !s.rest.isEmpty then
      if fold && lineBreak = some '\n' && flush && !startsBlank s.rest then
        blockLines fold indent fuel (if breaks.isEmpty then done ++ [' '] else done) breaks
      else blockLines fold indent fuel (done ++ lineBreak.toList) breaks
    else return (done, lineBreak, breaks)

def blockText (fold : Bool) : Scanner (List Char) := do
  skip 1
  let (chomping, increment) ← blockHeader
  require (endsPart (← rest))
  ignoredLine
  let least := (max 1 ((← get).indent + 1)).toNat
  let fuel := (← rest).length + 1
  let (breaks, indent) ← match increment with
    | some n => do
      let indent := least + n - 1
      pure (← blockBreaks indent fuel [], indent)
    | none => do
      let (breaks, widest) ← leadingBreaks fuel [] 0
      pure (breaks, max least widest)
  let s ← get
  let (done, lineBreak, breaks) ←
    if s.column = indent && !s.rest.isEmpty then blockLines fold indent fuel [] breaks
    else pure ([], none, breaks)
  return match chomping with
    | .strip => done
    | .clip => done ++ lineBreak.toList
    | .keep => done ++ lineBreak.toList ++ breaks

/-! Names, tags and directives. -/

def anchorName : Scanner String := do
  skip 1
  let name ← takeWhile isNameChar
  require !name.isEmpty
  let after ← rest
  require (endsWord after || after.head?.any fun c => "?:,]\x7d%@`".toList.contains c)
  return String.ofList name

def escapedBytes : Nat → List Char → Option (List UInt8 × Nat)
  | fuel + 1, '%' :: cs => do
    let n ← hexNumber? 2 cs
    let (bytes, count) ← escapedBytes fuel (cs.drop 2)
    return (n.toUInt8 :: bytes, count + 3)
  | _, _ => some ([], 0)

def uriText : Nat → List Char → Scanner (List Char)
  | 0, done => return done
  | fuel + 1, done => do
    let done := done ++ (← takeWhile fun c => isUriChar c && c ≠ '%')
    let after ← rest
    if after.head? ≠ some '%' then return done
    match escapedBytes after.length after with
    | some (bytes, count) =>
      match String.fromUTF8? ⟨bytes.toArray⟩ with
      | some text =>
        skip count
        uriText fuel (done ++ text.toList)
      | none => throw .malformed
    | none => throw .malformed

def uri : Scanner String := do
  let before := (← rest).length
  let text ← uriText before []
  require ((← rest).length < before)
  return String.ofList text

/-- One exclamation mark followed by a space, or a name between two. -/
def tagHandle : Scanner String := do
  require ((← next?) = some '!')
  skip 1
  if (← next?) = some ' ' then return "!"
  let name ← takeWhile isNameChar
  require ((← next?) = some '!')
  skip 1
  return "!" ++ String.ofList name ++ "!"

def tag : Scanner Token := do
  let after := (← rest).tail
  let token ←
    if after.head? = some '<' then do
      skip 2
      let suffix ← uri
      require ((← next?) = some '>')
      skip 1
      pure (Token.tag none suffix)
    else if endsWord after then do
      skip 1
      pure (Token.tag none "!")
    else do
      let handle ←
        if (after.takeWhile fun c => !endsPart [c]).contains '!' then tagHandle
        else do
          skip 1
          pure "!"
      pure (Token.tag (some handle) (← uri))
  require (endsPart (← rest))
  return token

def number : Scanner Nat := do
  let digits ← takeWhile Char.isDigit
  require !digits.isEmpty
  return digits.foldl (fun n c => n * 10 + (c.toNat - '0'.toNat)) 0

def directive : Scanner Directive := do
  skip 1
  let name ← takeWhile isNameChar
  require (!name.isEmpty && endsPart (← rest))
  let d ←
    if name = "YAML".toList then do
      skipSpaces
      let major ← number
      require ((← next?) = some '.')
      skip 1
      let _ ← number
      require (endsPart (← rest))
      pure (Directive.version major)
    else if name = "TAG".toList then do
      skipSpaces
      let handle ← tagHandle
      require ((← next?) = some ' ')
      skipSpaces
      let target ← uri
      require (endsPart (← rest))
      pure (Directive.tagHandle handle target)
    else do
      let _ ← takeWhile (!isBreak ·)
      pure Directive.other
  ignoredLine
  return d

/-! One token after the other. -/

def toNextToken : Nat → Scanner Unit
  | 0 => pure ()
  | fuel + 1 => do
    skipSpaces
    skipComment
    if (← takeBreak?).isSome then
      modify fun s => if s.depth = 0 then { s with keyAllowed := true } else s
      toNextToken fuel

/-- Start a token at the outermost level of the document. -/
def leaveBlocks : Scanner Unit := do
  unwind (-1)
  dropKey
  allowKey false

def openFlow (t : Token) : Scanner Unit := do
  openKey
  modify fun s => { s with depth := s.depth + 1, keyAllowed := true }
  skip 1
  emit t

def closeFlow (t : Token) : Scanner Unit := do
  require ((← get).depth ≠ 0)
  dropKey
  modify fun s => { s with depth := s.depth - 1, keyAllowed := false }
  skip 1
  emit t

/-- Outside brackets a mark opens a block at its column. -/
def openBlockFor (block : Token) : Scanner Unit := do
  let s ← get
  if s.depth = 0 then
    require s.keyAllowed
    if ← indentTo s.column then emit block

def entryMark : Scanner Unit := do
  openBlockFor .blockSequence
  allowKey true
  dropKey
  skip 1
  emit .entry

def keyMark : Scanner Unit := do
  openBlockFor .blockMapping
  allowKey ((← get).depth = 0)
  dropKey
  skip 1
  emit .key

def valueMark : Scanner Unit := do
  let s ← get
  match keyAt? s s.depth with
  | some k =>
    set (insertAt .key k.number (withoutKey s))
    if s.depth = 0 then
      if ← indentTo k.column then modify (insertAt .blockMapping k.number)
    allowKey false
  | none =>
    openBlockFor .blockMapping
    allowKey (s.depth = 0)
    dropKey
  skip 1
  emit .value

def leaf (read : Scanner Token) : Scanner Unit := do
  openKey
  allowKey false
  emit (← read)

def blockScalar (fold : Bool) : Scanner Unit := do
  allowKey true
  dropKey
  emit (.scalar (String.ofList (← blockText fold)) false)

def quotedScalar (double : Bool) : Scanner Token := do
  skip 1
  let text ← quotedText double ((← rest).length + 1) []
  return .scalar (String.ofList text) false

def plainScalar : Scanner Token := do
  let text ← plainText ((← rest).length + 1) [] []
  return .scalar (String.ofList text) true

def startsPlain (inFlow : Bool) : List Char → Bool
  | [] => false
  | c :: after =>
    !(isBlank c || isBreak c || "-?:,[]\x7b\x7d#&*!|>'\"%@`".toList.contains c) ||
    (!endsWord after && (c = '-' || (!inFlow && (c = '?' || c = ':'))))

def token : Scanner Bool := do
  toNextToken ((← rest).length + 1)
  dropStaleKeys
  unwind (← get).column
  let s ← get
  let inFlow := s.depth ≠ 0
  match s.rest with
  | [] =>
    leaveBlocks
    emit .ending
    return false
  | c :: after =>
    if c = '%' && s.column = 0 then
      leaveBlocks
      emit (.directive (← directive))
    else if s.column = 0 && isDocumentMark s.rest then
      leaveBlocks
      skip 3
      emit (if c = '-' then .documentStart else .documentEnd)
    else if c = '[' then openFlow .flowSequence
    else if c = '\x7b' then openFlow .flowMapping
    else if c = ']' then closeFlow .flowSequenceEnd
    else if c = '\x7d' then closeFlow .flowMappingEnd
    else if c = ',' then
      allowKey true
      dropKey
      skip 1
      emit .comma
    else if c = '-' && endsWord after then entryMark
    else if c = '?' && (inFlow || endsWord after) then keyMark
    else if c = ':' && (inFlow || endsWord after) then valueMark
    else if c = '*' then leaf (return .alias (← anchorName))
    else if c = '&' then leaf (return .anchor (← anchorName))
    else if c = '!' then leaf tag
    else if c = '|' && !inFlow then blockScalar false
    else if c = '>' && !inFlow then blockScalar true
    else if c = '\x27' then leaf (quotedScalar false)
    else if c = '"' then leaf (quotedScalar true)
    else
      require (startsPlain inFlow s.rest)
      leaf plainScalar
    return true

def tokens : Nat → Scanner Unit
  | 0 => pure ()
  | fuel + 1 => do if ← token then tokens fuel

end Scanner

structure TokenStream where
  tokens : List Token
  fault : Option Fault
  deriving DecidableEq, Repr

def TokenStream.ofText (text : List Char) : TokenStream :=
  if !text.all isPrintable then ⟨[], some .malformed⟩
  else
    let text := if text.head? = some '\ufeff' then text.tail else text
    match (Scanner.tokens (text.length + 1)).run.run { rest := text } with
    | (.ok (), s) => ⟨s.tokens.reverse, none⟩
    | (.error f, s) => ⟨s.tokens.reverse, some f⟩

end AccessorForge.Yaml
