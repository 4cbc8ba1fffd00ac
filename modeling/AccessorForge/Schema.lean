import AccessorForge.Container
import AccessorForge.GeneratedModule
import AccessorForge.Text.Surrogate
import AccessorForge.Value
/-! Checking untyped values field by field. All problems of a record are collected, in the order of its
fields; fields that it does not know are passed over. -/
namespace AccessorForge

inductive ProblemKind
  | missing
  | textWanted
  | textEncoding
  | unknownWord
  | listWanted
  | boolWanted
  | boolWord
  | intWanted
  | intDigits
  | intSize
  | intFraction
  | finiteNumber
  | recordWanted
  deriving DecidableEq, Repr

def ProblemKind.word : ProblemKind → String
  | .missing => "missing"
  | .textWanted => "string_type"
  | .textEncoding => "string_unicode"
  | .unknownWord => "literal_error"
  | .listWanted => "list_type"
  | .boolWanted => "bool_type"
  | .boolWord => "bool_parsing"
  | .intWanted => "int_type"
  | .intDigits => "int_parsing"
  | .intSize => "int_parsing_size"
  | .intFraction => "int_from_float"
  | .finiteNumber => "finite_number"
  | .recordWanted => "model_type"

/-- What is wrong, and where: field names and list positions from the outside in. -/
structure Problem where
  place : List String
  kind : ProblemKind
  deriving DecidableEq, Repr

def Problem.format (p : Problem) : String := ".".intercalate p.place ++ ":" ++ p.kind.word

def formatProblems (ps : List Problem) : String := "; ".intercalate (ps.map Problem.format)

abbrev Checked (α : Type) := Except (List Problem) α

namespace Checked
variable {α β : Type}

def fail (kind : ProblemKind) : Checked α := .error [⟨[], kind⟩]

def within (step : String) (c : Checked α) : Checked α :=
  c.mapError fun ps => ps.map fun p => { p with place := step :: p.place }

def both (a : Checked α) (b : Checked β) : Checked (α × β) :=
  match a, b with
  | .ok x, .ok y => .ok (x, y)
  | .ok _, .error ps => .error ps
  | .error ps, .ok _ => .error ps
  | .error ps, .error qs => .error (ps ++ qs)

end Checked

namespace Schema
open Checked

def text : Value → Checked String
  | .text s => .ok s
  | .bytes data =>
    match String.fromUTF8? ⟨data.toArray⟩ with
    | some s => .ok s
    | none => fail .textEncoding
  | _ => fail .textWanted

def optionalText : Value → Checked (Option String)
  | .null => .ok none
  | v => (text v).map some

/-- A text without unpaired surrogates. -/
def whole (s : String) : Checked String := if Text.Surrogate.isBroken s then fail .textEncoding else .ok s

def oneOf {α : Type} (words : List (String × α)) : Value → Checked α
  | .text s => do
    let s ← whole s
    match words.find? (·.1 = s) with
    | some (_, a) => .ok a
    | none => fail .unknownWord
  | _ => fail .unknownWord

def boolWords : List (String × Bool) :=
  [("0", false), ("off", false), ("f", false), ("false", false), ("n", false), ("no", false),
    ("1", true), ("on", true), ("t", true), ("true", true), ("y", true), ("yes", true)]

def boolOfInt (n : Int) : Checked Bool :=
  if n = 0 then .ok false else if n = 1 then .ok true else fail .boolWord

/-- Whole numbers that fit into a machine word. -/
def fitsWord (n : Int) : Bool := -Int.pow 2 63 ≤ n && n < Int.pow 2 63

/-- Whole floats that are safely inside a machine word. -/
def fitsWordAsFloat (n : Int) : Bool := -Int.pow 2 63 < n && n < Int.pow 2 63

def boolOfText (s : String) : Checked Bool :=
  match boolWords.find? (·.1 = s.map Char.toLower) with
  | some (_, b) => .ok b
  | none => fail .boolWord

def bool : Value → Checked Bool
  | .bool b => .ok b
  | .int n => if fitsWord n then boolOfInt n else fail .boolWanted
  | .float (.whole n) => if fitsWordAsFloat n then boolOfInt n else fail .boolWanted
  | .text s => whole s >>= boolOfText
  | .bytes data =>
    match String.fromUTF8? ⟨data.toArray⟩ with
    | some s => boolOfText s
    | none => fail .boolWord
  | _ => fail .boolWanted

def isSpace (c : Char) : Bool :=
  c = ' ' || ('\t' ≤ c && c ≤ '\r') || c = '\u0085' || c = '\u00a0' || c = '\u1680' ||
  ('\u2000' ≤ c && c ≤ '\u200a') || c = '\u2028' || c = '\u2029' || c = '\u202f' || c = '\u205f' ||
  c = '\u3000'

def trim (cs : List Char) : List Char := ((cs.dropWhile isSpace).reverse.dropWhile isSpace).reverse

/-! Whole numbers in words. -/

/-- What is left when zeros in front are dropped; gaps between them go too. A zero stays if nothing but a
fraction follows, and another sign may follow the zeros. -/
def withoutLeadingZeros : List Char → Option (List Char)
  | '0' :: rest =>
    match rest.dropWhile fun c => c = '0' || c = '_' with
    | [] => some [rest.getLastD '0']
    | '.' :: fraction => some ((rest.takeWhile (· ≠ '.')).getLastD '0' :: '.' :: fraction)
    | c :: more => if c.isDigit || c = '-' then some (c :: more) else none
  | c :: rest => if c.isDigit then some (c :: rest) else none
  | [] => none

def withoutZeroFraction (cs : List Char) : List Char :=
  match cs.dropWhile (· ≠ '.') with
  | _ :: fraction => if !fraction.isEmpty && fraction.all (· = '0') then cs.takeWhile (· ≠ '.') else cs
  | [] => cs

def hasDoubledGap : List Char → Bool
  | '_' :: '_' :: _ => true
  | _ :: rest => hasDoubledGap rest
  | [] => false

/-- Single underscores between other characters count for nothing. -/
def withoutGaps (cs : List Char) : Option (List Char) :=
  if cs.head? = some '_' || cs.getLast? = some '_' || hasDoubledGap cs then none else some (cs.filter (· ≠ '_'))

def digitsValue (cs : List Char) : Nat := cs.foldl (fun n c => n * 10 + (c.toNat - '0'.toNat)) 0

/-- The longest number, its sign included. -/
def maxNumberLength : Nat := 4300

/-- A number with at most a minus in front and no needless zero. -/
def strictInt (cs : List Char) : Option Int :=
  let digits := if cs.head? = some '-' then cs.drop 1 else cs
  let padded := digits.head? = some '0' && digits ≠ ['0']
  if digits.isEmpty || !digits.all Char.isDigit || padded || maxNumberLength < cs.length then none
  else if cs.head? = some '-' then some (-(digitsValue digits : Int)) else some (digitsValue digits)

def plainNumber (cs : List Char) : Option (List Char) := do
  withoutGaps (withoutZeroFraction (← withoutLeadingZeros cs))

/-- A decimal whole number with a sign, surrounded by blanks. -/
def intOfText (s : String) : Option Int := do
  match trim s.toList with
  | '-' :: rest => strictInt ('-' :: (← plainNumber rest))
  | '+' :: rest => strictInt (← plainNumber rest)
  | cs => strictInt (← plainNumber cs)

/-- A number that is too long for the machine, whatever follows its digits. -/
def isTooLong (s : String) : Bool :=
  let cs := s.toList
  let digits := if cs.head? = some '-' then cs.drop 1 else cs
  let run := digits.takeWhile Char.isDigit
  digits.head? ≠ some '0' && !run.isEmpty && maxNumberLength < run.length + (cs.length - digits.length)

def intOfFloat (n : Int) : Checked Int := if fitsWordAsFloat n then .ok n else fail .intSize

def int : Value → Checked Int
  | .int n => .ok n
  | .bool b => .ok (if b then 1 else 0)
  | .float (.whole n) => intOfFloat n
  | .float .fractional => fail .intFraction
  | .float .notFinite => fail .finiteNumber
  | .text s => do
    let s ← whole s
    if isTooLong s then fail .intSize
    else match intOfText s with
    | some n => .ok n
    | none => fail .intDigits
  | _ => fail .intWanted

def itemsFrom {α : Type} (item : Value → Checked α) (place : Nat) : List Value → Checked (List α)
  | [] => .ok []
  | v :: rest =>
    (both (within (toString place) (item v)) (itemsFrom item (place + 1) rest)).map fun (a, as) => a :: as

def list {α : Type} (item : Value → Checked α) : Value → Checked (List α)
  | .list vs | .set vs => itemsFrom item 0 vs
  | _ => fail .listWanted

def required {α : Type} (entries : List (Value × Value)) (name : String) (check : Value → Checked α) : Checked α :=
  within name <| match Value.lookup entries name with
  | some v => check v
  | none => fail .missing

def field {α : Type} (entries : List (Value × Value)) (name : String) (default : α) (check : Value → Checked α) :
    Checked α :=
  within name <| match Value.lookup entries name with
  | some v => check v
  | none => .ok default

def location (entries : List (Value × Value)) : Checked Location :=
  (both (field entries "path" "" text) (both (field entries "line" 0 int) (field entries "column" 0 int))).map
    fun (path, line, column) => ⟨path, line, column⟩

def locationValue : Value → Checked Location
  | .map entries => location entries
  | _ => fail .recordWanted

def severity : Value → Checked Severity := oneOf [("error", .error), ("warning", .warning)]

def diagnostic (entries : List (Value × Value)) : Checked Diagnostic :=
  (both (required entries "severity" severity) <| both (required entries "code" text) <|
    both (required entries "message" text) (field entries "location" {} locationValue)).map
    fun (severity, code, message, location) => ⟨severity, code, message, location⟩

def kind (word : String) : Value → Checked Unit := oneOf [(word, ())]

def groupMarker (entries : List (Value × Value)) : Checked Annotation :=
  (both (field entries "kind" () (kind "group")) <| both (field entries "visibility" publicVisibility text)
    (field entries "location" {} locationValue)).map
    fun (_, visibility, location) => .group visibility location

def singleOverride (entries : List (Value × Value)) : Checked Override :=
  (both (field entries "kind" () (kind "override")) <| both (field entries "type_name" none optionalText) <|
    both (field entries "name" none optionalText) <| both (field entries "visibility" publicVisibility text) <|
    both (field entries "source_text" "" text) (field entries "location" {} locationValue)).map
    fun (_, typeName, name, visibility, sourceText, location) =>
      ⟨typeName, name, visibility, sourceText, location⟩

def generatedSource (entries : List (Value × Value)) : Checked GeneratedSource :=
  (both (required entries "name" text) <| both (required entries "content" text) <|
    both (required entries "container" text) <| both (field entries "module" "" text)
    (field entries "origin" none optionalText)).map
    fun (name, content, container, module, origin) => ⟨name, content, container, module, origin⟩

end Schema

end AccessorForge
