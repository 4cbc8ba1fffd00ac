import AccessorForge.Text.CharName.Aliases
import AccessorForge.Text.CharName.Alphabets
import AccessorForge.Text.CharName.EastAsian
import AccessorForge.Text.CharName.Forms
import AccessorForge.Text.CharName.Historic
import AccessorForge.Text.CharName.Indic
import AccessorForge.Text.CharName.Notation
import AccessorForge.Text.CharName.Phonetic
import AccessorForge.Text.CharName.Pictographs
import AccessorForge.Text.CharName.Pictorial
import AccessorForge.Text.CharName.Punctuation
import AccessorForge.Text.CharName.Shapes
import AccessorForge.Text.CharName.Syllabaries
/-! Characters by their standard names (Unicode 14.0): by table in any case, ideographs and Hangul syllables by
rule and in capitals only. A run of the tables has its first code point and the names from there on, divided by
bars. Each name starts with a sign that counts how many characters it shares with the name before it, and an
empty name is a gap. -/
namespace AccessorForge.Text.CharName

def entries (current : List Char) : List Char → List (List Char)
  | [] => [current.reverse]
  | c :: rest => if c = '|' then current.reverse :: entries [] rest else entries (c :: current) rest

def commonLength : List Char → List Char → Nat
  | a :: as, b :: bs => if a = b then commonLength as bs + 1 else 0
  | _, _ => 0

/-- The place of a name among the entries; `common` counts what it has in common with the entry before. -/
def placeOf (name : List Char) (common place : Nat) : List (List Char) → Option Nat
  | [] => none
  | [] :: rest => placeOf name common (place + 1) rest
  | (sign :: tail) :: rest =>
    let shared := sign.toNat - '0'.toNat
    if common < shared then placeOf name common (place + 1) rest
    else
      let wanted := name.drop shared
      if tail = wanted then some place else placeOf name (shared + commonLength tail wanted) (place + 1) rest

def runs : List (Nat × List String) :=
  Alphabets.runs ++ Indic.runs ++ Syllabaries.runs ++ Phonetic.runs ++ Punctuation.runs ++ Shapes.runs ++
    EastAsian.runs ++ Forms.runs ++ Historic.runs ++ Pictorial.runs ++ Notation.runs ++ Pictographs.runs

def inRuns? (name : List Char) : Option Nat :=
  runs.findSome? fun (start, names) => (placeOf name 0 0 (names.flatMap fun s => entries [] s.toList)).map (start + ·)

/-! Names with a number. -/

def hexValue? (cs : List Char) : Option Nat :=
  cs.foldlM (fun n c =>
    if c.isDigit then some (n * 16 + (c.toNat - '0'.toNat))
    else if 'A' ≤ c && c ≤ 'F' then some (n * 16 + (c.toNat - 'A'.toNat + 10)) else none) 0

def decimalValue? (cs : List Char) : Option Nat :=
  if cs.isEmpty || cs.head? = some '0' || !cs.all Char.isDigit then none
  else some (cs.foldl (fun n c => n * 10 + (c.toNat - '0'.toNat)) 0)

def afterStem? (stem : String) (name : List Char) : Option (List Char) :=
  if stem.toList.isPrefixOf name then some (name.drop stem.length) else none

/-- Stems that a character's own code point follows, with their ranges. -/
def codeStems : List (String × Nat × Nat) :=
  [("CJK COMPATIBILITY IDEOGRAPH-", 0xF900, 0xFA6D), ("CJK COMPATIBILITY IDEOGRAPH-", 0xFA70, 0xFAD9),
    ("CJK COMPATIBILITY IDEOGRAPH-", 0x2F800, 0x2FA1D), ("NUSHU CHARACTER-", 0x1B170, 0x1B2FB),
    ("KHITAN SMALL SCRIPT CHARACTER-", 0x18B00, 0x18CD5)]

def byCode? (name : List Char) : Option Nat :=
  codeStems.findSome? fun (stem, first, last) => do
    let digits ← afterStem? stem name
    let n ← hexValue? digits
    if first ≤ n && n ≤ last && digits.head? ≠ some '0' then some n else none

/-- Variation selectors stand in two rows. -/
def variationSelector? (name : List Char) : Option Nat := do
  let n ← decimalValue? (← (afterStem? "VARIATION SELECTOR-" name).or (afterStem? "VS" name))
  if 1 ≤ n && n ≤ 16 then some (0xFE00 + (n - 1))
  else if 17 ≤ n && n ≤ 256 then some (0xE0100 + (n - 17)) else none

/-- The code point of a name in capitals, the ideographs and syllables apart. -/
def code? (name : List Char) : Option Nat :=
  ((Aliases.table.find? (·.1.toList = name)).map (·.2)).or <|
    (variationSelector? name).or <| (byCode? name).or <| inRuns? name

/-! Ideographs and syllables. -/

def ideographRanges : List (Nat × Nat) :=
  [(0x3400, 0x4DBF), (0x4E00, 0x9FFF), (0x20000, 0x2A6DF), (0x2A700, 0x2B738), (0x2B740, 0x2B81D),
    (0x2B820, 0x2CEA1), (0x2CEB0, 0x2EBE0), (0x30000, 0x3134A)]

def ideograph? (digits : List Char) : Option Nat := do
  let n ← hexValue? digits
  if (digits.length = 4 || digits.length = 5) && ideographRanges.any (fun (a, b) => a ≤ n && n ≤ b) then some n
  else none

def leads : List String :=
  ["G", "GG", "N", "D", "DD", "R", "M", "B", "BB", "S", "SS", "", "J", "JJ", "C", "K", "T", "P", "H"]

def vowels : List String :=
  ["A", "AE", "YA", "YAE", "EO", "E", "YEO", "YE", "O", "WA", "WAE", "OE", "YO", "U", "WEO", "WE", "WI", "YU",
    "EU", "YI", "I"]

def tails : List String :=
  ["", "G", "GG", "GS", "N", "NJ", "NH", "D", "L", "LG", "LM", "LB", "LS", "LT", "LP", "LH", "M", "B", "BS", "S",
    "SS", "NG", "J", "C", "K", "T", "P", "H"]

/-- The longest of some parts at the beginning of a text: its place, and the text behind it. -/
def longest? (parts : List String) (cs : List Char) : Option (Nat × List Char) :=
  let fitting := (parts.zipIdx 0).filter fun (p, _) => p.toList.isPrefixOf cs
  (fitting.foldl (fun best (p, i) =>
    match best with
    | some (q, j) => some (if q.length < p.length then (p, i) else (q, j))
    | none => some (p, i)) none).map fun (p, i) => (i, cs.drop p.length)

def syllable? (cs : List Char) : Option Nat := do
  let (lead, cs) ← longest? leads cs
  let (vowel, cs) ← longest? vowels cs
  let (tail, cs) ← longest? tails cs
  if cs.isEmpty then some (0xAC00 + (lead * vowels.length + vowel) * tails.length + tail) else none

def lookup (name : List Char) : Option Char :=
  let code := match afterStem? "HANGUL SYLLABLE " name, afterStem? "CJK UNIFIED IDEOGRAPH-" name with
    | some parts, _ => syllable? parts
    | none, some digits => ideograph? digits
    | none, none => code? (name.map Char.toUpper)
  code.map Char.ofNat

end AccessorForge.Text.CharName
