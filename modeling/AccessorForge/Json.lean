import AccessorForge.Text.Surrogate
/-! JSON documents and their text, on one line or indented. Everything outside printable ASCII is escaped,
characters above the basic plane as surrogate pairs. -/
namespace AccessorForge

inductive Json
  | null
  | bool (b : Bool)
  | int (n : Int)
  | text (s : String)
  | list (items : List Json)
  | fields (entries : List (String × Json))
  deriving Repr, Inhabited

namespace Json

def hexDigit (n : Nat) : Char := (Nat.toDigits 16 n).headD '0'

def escapedUnit (n : Nat) : List Char :=
  ['\\', 'u', hexDigit (n / 4096 % 16), hexDigit (n / 256 % 16), hexDigit (n / 16 % 16), hexDigit (n % 16)]

def escapedChar (c : Char) : List Char :=
  if c = '"' then ['\\', '"']
  else if c = '\\' then ['\\', '\\']
  else if c = '\n' then ['\\', 'n']
  else if c = '\r' then ['\\', 'r']
  else if c = '\t' then ['\\', 't']
  else if c = '\x0c' then ['\\', 'f']
  else if c = '\x08' then ['\\', 'b']
  else if ' ' ≤ c && c ≤ '~' then [c]
  else if c.toNat < 0x10000 then escapedUnit c.toNat
  else
    let n := c.toNat - 0x10000
    escapedUnit (0xD800 + n / 0x400) ++ escapedUnit (0xDC00 + n % 0x400)

def escapedElement : Text.Surrogate.Element → List Char
  | .char c => escapedChar c
  | .half n => escapedUnit n

def quoted (s : String) : String :=
  "\"" ++ String.ofList ((Text.Surrogate.elements s.toList).flatMap escapedElement) ++ "\""

def openBrace : String := "\x7b"
def closeBrace : String := "\x7d"

mutual
def compact : Json → String
  | .null => "null"
  | .bool b => if b then "true" else "false"
  | .int n => toString n
  | .text s => quoted s
  | .list items => "[" ++ ", ".intercalate (compactItems items) ++ "]"
  | .fields entries => openBrace ++ ", ".intercalate (compactEntries entries) ++ closeBrace

def compactItems : List Json → List String
  | [] => []
  | j :: rest => compact j :: compactItems rest

def compactEntries : List (String × Json) → List String
  | [] => []
  | (k, j) :: rest => (quoted k ++ ": " ++ compact j) :: compactEntries rest
end

def lineStart (depth : Nat) : String := "\n" ++ String.ofList (List.replicate (2 * depth) ' ')

/-- Parts on lines of their own between two brackets; without parts the brackets touch. -/
def bracketed (depth : Nat) (left right : String) (parts : List String) : String :=
  if parts.isEmpty then left ++ right
  else left ++ lineStart (depth + 1) ++ ("," ++ lineStart (depth + 1)).intercalate parts ++ lineStart depth ++ right

mutual
/-- The text with two blanks of indentation per level. -/
def indented (depth : Nat) : Json → String
  | .null => "null"
  | .bool b => if b then "true" else "false"
  | .int n => toString n
  | .text s => quoted s
  | .list items => bracketed depth "[" "]" (indentedItems (depth + 1) items)
  | .fields entries => bracketed depth openBrace closeBrace (indentedEntries (depth + 1) entries)

def indentedItems (depth : Nat) : List Json → List String
  | [] => []
  | j :: rest => indented depth j :: indentedItems depth rest

def indentedEntries (depth : Nat) : List (String × Json) → List String
  | [] => []
  | (k, j) :: rest => (quoted k ++ ": " ++ indented depth j) :: indentedEntries depth rest
end

def texts (ss : List String) : Json := .list (ss.map .text)

def optional (s : Option String) : Json := (s.map .text).getD .null

end Json

end AccessorForge
