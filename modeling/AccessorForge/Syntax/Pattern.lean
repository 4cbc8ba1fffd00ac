import AccessorForge.Syntax.Expression
/-! The grammar of case patterns. A pattern binds no module-level name that later stages look at, so that it
is read only to tell whether it is one. -/
namespace AccessorForge.Syntax.Pattern
open Reader Grammar

def isImaginary (t : Token) : Bool :=
  t.kind = .number && (t.text.endsWith "j" || t.text.endsWith "J")

def isSign (t : Token) : Bool := isMark "+" t || isMark "-" t

/-- A number with an optional minus, or a real and an imaginary number joined by a sign. -/
def number : Reader Unit := do
  let _ ← takeMark "-"
  let first ← need (isKind .number)
  if ← takeIf isSign then
    let second ← need (isKind .number)
    if isImaginary first || !isImaginary second then failure

def literalStart (t : Token) : Bool :=
  isKind .number t || isKind .string t || isMark "-" t || isConstantWord t

def literal (r : Rules) : Reader Unit := do
  if ← seesKind .string then discard (literals r)
  else if ← takeIf isConstantWord then return ()
  else number

/-- A name to bind; the underscore binds nothing and is none. -/
def captureTarget : Reader Unit := do
  let t ← need isIdentifier
  if t.text = "_" || (← sees fun t => isMark "." t || isMark "(" t || isMark "=" t) then failure

def dotted : Reader Bool := do
  let _ ← identifier
  let more ← repeated do
    if ← takeMark "." then return some (← identifier) else return none
  return !more.isEmpty

/-- A pattern, or a starred name for all that is left; whether it was starred. -/
def starItem (pattern : Reader Unit) : Reader Bool := do
  if ← takeMark "*" then
    if !(← takeIf (isWord "_")) then captureTarget
    return true
  else
    pattern
    return false

/-- Items divided by commas; whether there is just one, starred and without a comma. -/
def isLoneStar (item : Reader Bool) : Reader Bool := do
  let (starred, trailing) ← commaList item
  return starred = [true] && !trailing

def roundBrackets (pattern : Reader Unit) : Reader Unit := do
  if ← takeMark ")" then return ()
  if ← isLoneStar (starItem pattern) then failure
  mark ")"

def squareBrackets (pattern : Reader Unit) : Reader Unit := do
  if ← takeMark "]" then return ()
  let _ ← isLoneStar (starItem pattern)
  mark "]"

/-- Entries of a mapping; the rest of the mapping comes last. -/
def entriesWithin (r : Rules) (pattern : Reader Unit) : Nat → Reader Unit
  | 0 => failure
  | fuel + 1 => do
    if ← takeMark "\x7d" then return ()
    if ← takeMark "**" then
      captureTarget
      let _ ← takeMark ","
      mark "\x7d"
    else
      if ← sees literalStart then literal r
      else if !(← dotted) then failure
      mark ":"
      pattern
      if ← takeMark "," then entriesWithin r pattern fuel else mark "\x7d"

/-- Arguments of a class pattern; named ones come last. -/
def argumentsWithin (pattern : Reader Unit) (named : Bool) : Nat → Reader Unit
  | 0 => failure
  | fuel + 1 => do
    if ← takeMark ")" then return ()
    let isNamed := (← argumentName).isSome
    if named && !isNamed then failure
    pattern
    if ← takeMark "," then argumentsWithin pattern isNamed fuel else mark ")"

def closed (r : Rules) (pattern : Reader Unit) : Reader Unit := do
  let fuel := (← get).limit
  if ← sees literalStart then literal r
  else if ← takeIf (isWord "_") then return ()
  else if ← sees isIdentifier then
    discard dotted
    if ← takeMark "(" then argumentsWithin pattern false fuel
    else if ← seesMark "=" then failure
  else if ← takeMark "(" then roundBrackets pattern
  else if ← takeMark "[" then squareBrackets pattern
  else if ← takeMark "\x7b" then entriesWithin r pattern fuel
  else failure

def alternatives (r : Rules) (pattern : Reader Unit) : Reader Unit := do
  closed r pattern
  discard <| repeated do
    if ← takeMark "|" then return some (← closed r pattern) else return none

def withName (r : Rules) (pattern : Reader Unit) : Reader Unit := do
  alternatives r pattern
  if ← takeWord "as" then captureTarget

def pattern (r : Rules) : Nat → Reader Unit
  | 0 => failure
  | depth + 1 => withName r (pattern r depth)

/-- What stands after `case`: a pattern, or several divided by commas, possibly starred. -/
def top (r : Rules) (depth : Nat) : Reader Unit := do
  if ← isLoneStar (starItem (pattern r depth)) then failure

end AccessorForge.Syntax.Pattern
