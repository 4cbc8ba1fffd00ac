import AccessorForge.Yaml.Timestamp
/-! The kinds of YAML 1.1 nodes, and what an untagged plain text is taken for. -/
namespace AccessorForge.Yaml

inductive Tag
  | null
  | bool
  | int
  | float
  | binary
  | timestamp
  | orderedMapping
  | pairs
  | set
  | text
  | sequence
  | mapping
  | merge
  | default
  | unknown
  deriving DecidableEq, Repr

namespace Tag

def standard : List (String × Tag) :=
  [("null", .null), ("bool", .bool), ("int", .int), ("float", .float), ("binary", .binary),
    ("timestamp", .timestamp), ("omap", .orderedMapping), ("pairs", .pairs), ("set", .set), ("str", .text),
    ("seq", .sequence), ("map", .mapping), ("merge", .merge), ("value", .default)]

def ofUri (uri : String) : Tag :=
  match standard.find? fun (name, _) => uri = "tag:yaml.org,2002:" ++ name with
  | some (_, tag) => tag
  | none => .unknown

/-! The forms of plain texts. -/

def truthWords : List (String × Bool) :=
  [("yes", true), ("no", false), ("true", true), ("false", false), ("on", true), ("off", false)]

def capitalized : List Char → List Char
  | [] => []
  | c :: rest => c.toUpper :: rest

/-- A word in small letters, with a capital, or in capitals. -/
def isInThreeCases (word : String) (cs : List Char) : Bool :=
  cs = word.toList || cs = capitalized word.toList || cs = word.toList.map Char.toUpper

def withoutSign : List Char → List Char
  | '-' :: rest | '+' :: rest => rest
  | cs => cs

def isDigitOrGap (c : Char) : Bool := c.isDigit || c = '_'

def isGrouped : List Char → Bool
  | [] => false
  | c :: rest => c.isDigit && rest.all isDigitOrGap

def partsAt (mark : Char) (current : List Char) : List Char → List (List Char)
  | [] => [current.reverse]
  | c :: rest => if c = mark then current.reverse :: partsAt mark [] rest else partsAt mark (c :: current) rest

def isSixtieth : List Char → Bool
  | [c] => c.isDigit
  | [c, d] => '0' ≤ c && c ≤ '5' && d.isDigit
  | _ => false

/-- Digits and then parts to base sixty, each behind a colon. -/
def isSexagesimal (cs : List Char) : Bool :=
  match partsAt ':' [] cs with
  | first :: second :: rest => isGrouped first && (second :: rest).all isSixtieth
  | _ => false

def isHexOrGap (c : Char) : Bool := c.isDigit || ('a' ≤ c && c ≤ 'f') || ('A' ≤ c && c ≤ 'F') || c = '_'

def isInt (cs : List Char) : Bool :=
  match withoutSign cs with
  | '0' :: 'b' :: rest => !rest.isEmpty && rest.all fun c => c = '0' || c = '1' || c = '_'
  | '0' :: 'x' :: rest => !rest.isEmpty && rest.all isHexOrGap
  | '0' :: rest => rest.all fun c => ('0' ≤ c && c ≤ '7') || c = '_'
  | body => isGrouped body || isSexagesimal body

def isExponentMark (c : Char) : Bool := c = 'e' || c = 'E'

/-- An exponent has a sign. -/
def isExponent : List Char → Bool
  | '-' :: c :: rest | '+' :: c :: rest => (c :: rest).all Char.isDigit
  | _ => false

def isFraction (cs : List Char) : Bool :=
  cs.takeWhile (!isExponentMark ·) |>.all isDigitOrGap

/-- What may follow the digits in front of an exponent. -/
def endsInExponent (cs : List Char) : Bool :=
  match cs.dropWhile (!isExponentMark ·) with
  | [] => true
  | _ :: exponent => isExponent exponent

def isFloat (cs : List Char) : Bool :=
  let body := withoutSign cs
  let whole := body.takeWhile (· ≠ '.')
  match body.dropWhile (· ≠ '.') with
  | [] => false
  | _ :: rest =>
    (isGrouped whole && isFraction rest && endsInExponent rest) ||
    (isSexagesimal whole && rest.all isDigitOrGap) ||
    (whole.isEmpty && isInThreeCases "inf" rest) ||
    (whole.isEmpty && body.length = cs.length &&
      ((isGrouped (rest.takeWhile (!isExponentMark ·)) && endsInExponent rest) ||
        rest = "nan".toList || rest = "NaN".toList || rest = "NAN".toList))

def isNull (cs : List Char) : Bool := cs = ['~'] || isInThreeCases "null" cs

/-- A line end after a text does not change what it looks like. -/
def withoutFinalBreak (cs : List Char) : List Char :=
  if cs.getLast? = some '\n' then cs.dropLast else cs

def ofPlain (text : String) : Tag :=
  if text = "" then .null
  else
    let cs := withoutFinalBreak text.toList
    if truthWords.any fun (word, _) => isInThreeCases word cs then .bool
    else if isFloat cs then .float
    else if isInt cs then .int
    else if cs = "<<".toList then .merge
    else if isNull cs then .null
    else if Timestamp.isPlain cs then .timestamp
    else if cs = ['='] then .default
    else if cs = ['!'] || cs = ['&'] || cs = ['*'] then .unknown
    else .text

end Tag

end AccessorForge.Yaml
