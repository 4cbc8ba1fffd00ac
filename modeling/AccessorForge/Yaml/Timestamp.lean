/-! Dates and times as YAML 1.1 writes them. -/
namespace AccessorForge.Yaml

structure Clock where
  hour : Nat
  minute : Nat
  second : Nat
  /-- Distance from universal time in minutes, where a signed one is given. -/
  zoneMinutes : Option Nat
  deriving DecidableEq, Repr

structure Timestamp where
  year : Nat
  month : Nat
  day : Nat
  clock : Option Clock
  deriving DecidableEq, Repr

namespace Timestamp

def digit? (c : Char) : Option Nat := if c.isDigit then some (c.toNat - '0'.toNat) else none

def fixed (count : Nat) (cs : List Char) : Option (Nat × List Char) := do
  let ds ← (cs.take count).mapM digit?
  if ds.length = count then return (ds.foldl (fun n d => n * 10 + d) 0, cs.drop count) else none

def oneOrTwo (cs : List Char) : Option (Nat × List Char) := fixed 2 cs <|> fixed 1 cs

def mark (c : Char) : List Char → Option (List Char)
  | d :: rest => if d = c then some rest else none
  | [] => none

def isBlank (c : Char) : Bool := c = ' ' || c = '\t'

/-- A letter or blanks between the day and the hour. -/
def divider : List Char → Option (List Char)
  | c :: rest => if c = 'T' || c = 't' then some rest else if isBlank c then some (rest.dropWhile isBlank) else none
  | [] => none

def fraction (cs : List Char) : List Char :=
  match cs with
  | '.' :: rest => rest.dropWhile Char.isDigit
  | _ => cs

def zone (cs : List Char) : Option (Option Nat) := do
  match cs.dropWhile isBlank with
  | ['Z'] => return none
  | c :: rest =>
    if c = '+' || c = '-' then
      let (hours, rest) ← oneOrTwo rest
      if rest.isEmpty then return some (hours * 60)
      let (minutes, rest) ← fixed 2 (← mark ':' rest)
      if rest.isEmpty then return some (hours * 60 + minutes) else none
    else none
  | [] => none

def readClock (cs : List Char) : Option Clock := do
  let (hour, cs) ← oneOrTwo cs
  let (minute, cs) ← fixed 2 (← mark ':' cs)
  let (second, cs) ← fixed 2 (← mark ':' cs)
  let cs := fraction cs
  if cs.isEmpty then return ⟨hour, minute, second, none⟩ else return ⟨hour, minute, second, ← zone cs⟩

def read (cs : List Char) : Option Timestamp := do
  let (year, cs) ← fixed 4 cs
  let (month, cs) ← oneOrTwo (← mark '-' cs)
  let (day, cs) ← oneOrTwo (← mark '-' cs)
  if cs.isEmpty then return ⟨year, month, day, none⟩
  else return ⟨year, month, day, some (← readClock (← divider cs))⟩

/-- Plain text is taken for a date only if month and day have two digits each. -/
def isPlain (cs : List Char) : Bool :=
  match read cs with
  | some t => t.clock.isSome || cs.length = 10
  | none => false

def isLeap (year : Nat) : Bool := year % 4 = 0 && (year % 100 ≠ 0 || year % 400 = 0)

def daysIn (year month : Nat) : Nat :=
  if month = 2 then (if isLeap year then 29 else 28)
  else if month = 4 || month = 6 || month = 9 || month = 11 then 30 else 31

def exists? (t : Timestamp) : Bool :=
  1 ≤ t.year && 1 ≤ t.month && t.month ≤ 12 && 1 ≤ t.day && t.day ≤ daysIn t.year t.month &&
  t.clock.all fun c =>
    c.hour < 24 && c.minute < 60 && c.second < 60 && c.zoneMinutes.all fun minutes => minutes < 24 * 60

end Timestamp

end AccessorForge.Yaml
