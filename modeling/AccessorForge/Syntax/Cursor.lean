import AccessorForge.Syntax.Token
import AccessorForge.Text.Compose
/-! Reading along a list of tokens. A reader either succeeds and moves on or fails as a whole; what it has
read so far is known by the place where the last visible token ended. -/
namespace AccessorForge.Syntax

structure Cursor where
  rest : List Token
  /-- Where the last token that is not mere layout ended. -/
  reached : Pos
  /-- More than there are tokens, and so a bound for every repetition. -/
  limit : Nat
  deriving Repr

def Cursor.start (tokens : List Token) : Cursor := ⟨tokens, ⟨1, 0⟩, tokens.length + 1⟩

abbrev Reader := StateT Cursor Option

namespace Reader
variable {α : Type}

def keywords : List String :=
  ["False", "None", "True", "and", "as", "assert", "async", "await", "break", "class", "continue", "def", "del",
    "elif", "else", "except", "finally", "for", "from", "global", "if", "import", "in", "is", "lambda",
    "nonlocal", "not", "or", "pass", "raise", "return", "try", "while", "with", "yield"]

def next? : Reader (Option Token) := do return (← get).rest.head?

def advance : Reader Token := fun c =>
  match c.rest with
  | [] => none
  | t :: rest => some (t, { c with rest, reached := if t.kind.isLayout then c.reached else t.span.stop })

def here : Reader Pos := fun c =>
  match c.rest with
  | [] => none
  | t :: _ => some (t.span.start, c)

def spanFrom (start : Pos) : Reader Span := do return ⟨start, (← get).reached⟩

def sees (p : Token → Bool) : Reader Bool := do
  match ← next? with
  | some t => return p t
  | none => return false

def isMark (text : String) (t : Token) : Bool := t.kind = .operator && t.text = text

def isWord (text : String) (t : Token) : Bool := t.kind = .name && t.text = text

def isKind (kind : TokenKind) (t : Token) : Bool := t.kind = kind

def isIdentifier (t : Token) : Bool := t.kind = .name && !keywords.contains t.text

def seesMark (text : String) : Reader Bool := sees (isMark text)

def seesWord (text : String) : Reader Bool := sees (isWord text)

def seesKind (kind : TokenKind) : Reader Bool := sees (isKind kind)

def takeIf (p : Token → Bool) : Reader Bool := do
  if ← sees p then
    let _ ← advance
    return true
  else return false

def takeMark (text : String) : Reader Bool := takeIf (isMark text)

def takeWord (text : String) : Reader Bool := takeIf (isWord text)

def need (p : Token → Bool) : Reader Token := do
  if ← sees p then advance else failure

def mark (text : String) : Reader Unit := discard (need (isMark text))

def word (text : String) : Reader Unit := discard (need (isWord text))

def layout (kind : TokenKind) : Reader Unit := discard (need (isKind kind))

/-- A name that is no keyword, in its normal form. -/
def identifier : Reader String := do
  let t ← need isIdentifier
  return String.ofList (Text.Compose.normalForm t.text.toList)

def attempt (p : Reader α) : Reader (Option α) := fun c =>
  match p c with
  | some (a, next) => some (some a, next)
  | none => some (none, c)

def repeatWithin (step : Reader (Option α)) : Nat → Reader (List α)
  | 0 => failure
  | fuel + 1 => do
    match ← step with
    | none => return []
    | some a => return a :: (← repeatWithin step fuel)

/-- As often as the step reads something; each time it takes a token, so their number bounds the rounds. -/
def repeated (step : Reader (Option α)) : Reader (List α) := do
  repeatWithin step (← get).limit

/-- Items divided by commas, and whether a comma follows the last one. -/
def commaList (item : Reader α) : Reader (List α × Bool) := do
  let first ← item
  let more ← repeated do
    match ← attempt (do mark ","; item) with
    | some a => return some a
    | none => return none
  let trailing ← takeMark ","
  return (first :: more, trailing)

/-- Items divided by commas, without a comma after the last. -/
def strictCommaList (item : Reader α) : Reader (List α) := do
  let first ← item
  let more ← repeated do
    if ← takeMark "," then return some (← item) else return none
  return first :: more

end Reader

end AccessorForge.Syntax
