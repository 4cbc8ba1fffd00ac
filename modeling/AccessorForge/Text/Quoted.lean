import AccessorForge.Text.Printable
import AccessorForge.Text.Surrogate
/-! Quoted text literals. `literal` quotes any text; `quote` prefers plain double quotes when nothing in
the text needs an escape. -/
namespace AccessorForge.Text.Quoted

def hexDigits (width n : Nat) : List Char :=
  let ds := Nat.toDigits 16 n
  List.replicate (width - ds.length) '0' ++ ds

def escape (mark c : Char) : List Char :=
  if c = mark || c = '\\' then ['\\', c]
  else if c = '\t' then ['\\', 't']
  else if c = '\n' then ['\\', 'n']
  else if c = '\r' then ['\\', 'r']
  else if Printable.isPrintable c then [c]
  else if c.toNat < 0x100 then '\\' :: 'x' :: hexDigits 2 c.toNat
  else if c.toNat < 0x10000 then '\\' :: 'u' :: hexDigits 4 c.toNat
  else '\\' :: 'U' :: hexDigits 8 c.toNat

def escapeElement (mark : Char) : Surrogate.Element → List Char
  | .char c => escape mark c
  | .half n => '\\' :: 'u' :: hexDigits 4 n

/-- Single quote marks, unless the text holds a single and no double one. -/
def markFor (s : List Char) : Char :=
  if s.contains '\'' && !s.contains '"' then '"' else '\''

def literalChars (s : List Char) : List Char :=
  let mark := markFor s
  mark :: (Surrogate.elements s).flatMap (escapeElement mark) ++ [mark]

def literal (s : String) : String := String.ofList (literalChars s.toList)

def isPlain (s : List Char) : Bool :=
  Printable.allPrintable s && !s.contains '"' && !s.contains '\\'

def quoteChars (s : List Char) : List Char :=
  if isPlain s then '"' :: s ++ ['"'] else literalChars s

def quote (s : String) : String := String.ofList (quoteChars s.toList)

end AccessorForge.Text.Quoted
