import AccessorForge.Text.Digits
import AccessorForge.Text.Lower
import AccessorForge.Value
import AccessorForge.Yaml.Tag
import AccessorForge.Yaml.Token
/-! The values of YAML 1.1 scalars by tag. A tag that is written out may meet any text. -/
namespace AccessorForge.Yaml.Scalar

def isSpace (c : Char) : Bool :=
  c = ' ' || ('\t' ≤ c && c ≤ '\r') || ('\x1c' ≤ c && c ≤ '\x1f') || c = '\u0085' || c = '\u00a0' ||
  c = '\u1680' || ('\u2000' ≤ c && c ≤ '\u200a') || c = '\u2028' || c = '\u2029' || c = '\u202f' ||
  c = '\u205f' || c = '\u3000'

def trim (cs : List Char) : List Char := ((cs.dropWhile isSpace).reverse.dropWhile isSpace).reverse

def splitSign : List Char → Bool × List Char
  | '-' :: rest => (true, rest)
  | '+' :: rest => (false, rest)
  | cs => (false, cs)

def signed (negative : Bool) (n : Nat) : Int := if negative then -(n : Int) else n

def digitIn? (base : Nat) (c : Char) : Option Nat := (hexDigit? c).filter (· < base)

/-- A number in base 2, 8 or 16 may repeat the mark of its base. -/
def withoutBaseMark (base : Nat) (cs : List Char) : List Char :=
  match cs with
  | '0' :: m :: rest =>
    let m := m.toLower
    if (base = 2 && m = 'b') || (base = 8 && m = 'o') || (base = 16 && m = 'x') then rest else cs
  | _ => cs

/-- The longest decimal that is read as a whole number. -/
def maxDecimalDigits : Nat := 4300

/-- Digits of any script count. -/
def numberIn? (base : Nat) (cs : List Char) : Option Int := do
  let (negative, body) := splitSign (trim (cs.map Text.Digits.plain))
  let ds ← (withoutBaseMark base body).mapM (digitIn? base)
  if ds.isEmpty || (base = 10 && maxDecimalDigits < ds.length) then none
  else return signed negative (ds.foldl (fun n d => n * base + d) 0)

def orNoSuchValue {α : Type} (o : Option α) : Except Fault α := o.elim (throw .noSuchValue) pure

def withoutGaps (text : String) : List Char := text.toList.filter (· ≠ '_')

/-- A number's own sign and the rest, unless there is nothing at all. -/
def outerSign (cs : List Char) : Except Fault (Bool × List Char) :=
  if cs.isEmpty then throw .emptyNumber else return splitSign cs

/-- Parts to base sixty, the highest first. -/
def sexagesimal (parts : List Int) : Int := parts.foldl (fun n d => n * 60 + d) 0

def int (text : String) : Except Fault Int := do
  let (negative, body) ← outerSign (withoutGaps text)
  let n ← match body with
    | [] => throw .emptyNumber
    | ['0'] => pure 0
    | '0' :: 'b' :: digits => orNoSuchValue (numberIn? 2 digits)
    | '0' :: 'x' :: digits => orNoSuchValue (numberIn? 16 digits)
    | '0' :: _ => orNoSuchValue (numberIn? 8 body)
    | _ =>
      if body.contains ':' then
        orNoSuchValue (((Tag.partsAt ':' [] body).mapM (numberIn? 10)).map sexagesimal)
      else orNoSuchValue (numberIn? 10 body)
  return if negative then -n else n

def decimalDigits? (cs : List Char) : Option (List Nat) := cs.mapM (digitIn? 10)

def exponent? (cs : List Char) : Option Int := do
  match cs with
  | [] => return 0
  | _ :: rest =>
    let (negative, digits) := splitSign rest
    let ds ← decimalDigits? digits
    if ds.isEmpty then none else return signed negative (ds.foldl (fun n d => n * 10 + d) 0)

/-- The largest exponent that can still make a difference to a text of this length. -/
def boundExponent (length : Nat) (e : Int) : Int := max (-(400 + length : Int)) (min (400 + length : Int) e)

def decimal? (cs : List Char) : Option Float := do
  let (negative, body) := splitSign (trim (cs.map Text.Digits.plain))
  let word := body.map Char.toLower
  if word = "inf".toList || word = "infinity".toList then
    return if negative then -(1.0 / 0.0) else 1.0 / 0.0
  else if word = "nan".toList then return 0.0 / 0.0
  else
    let mantissa := body.takeWhile (!Tag.isExponentMark ·)
    let exponent ← exponent? (body.dropWhile (!Tag.isExponentMark ·))
    let whole ← decimalDigits? (mantissa.takeWhile (· ≠ '.'))
    let fraction ← decimalDigits? (mantissa.dropWhile (· ≠ '.')).tail
    if whole.isEmpty && fraction.isEmpty then none
    else
      let digits := (whole ++ fraction).foldl (fun n d => n * 10 + d) 0
      return Value.nearestFloat negative digits
        (boundExponent body.length exponent - fraction.length)

/-- From the power of sixty on that this number tells, the unit is no float any more. -/
def maxSexagesimalParts : Nat := 174

/-- Parts to base sixty, added up from the lowest. -/
def sexagesimalFloat (parts : List Float) : Float :=
  (parts.reverse.foldl (fun (sum, unit) part => (sum + part * unit, unit * 60)) ((0.0, 1.0) : Float × Float)).1

def float (text : String) : Except Fault FloatShape := do
  let (negative, body) ← outerSign ((withoutGaps text).map Char.toLower)
  let x ←
    if body = ".inf".toList then pure (1.0 / 0.0)
    else if body = ".nan".toList then pure (0.0 / 0.0)
    else if body.contains ':' then
      let parts ← orNoSuchValue ((Tag.partsAt ':' [] body).mapM decimal?)
      if maxSexagesimalParts < parts.length then throw (.tooLarge "int too large to convert to float")
      pure (sexagesimalFloat parts)
    else orNoSuchValue (decimal? body)
  return Value.shapeOfBits (if negative then -x else x).toBits

def truth (text : String) : Except Fault Bool :=
  let word := String.ofList (Text.Lower.lower text.toList)
  match Tag.truthWords.lookup word with
  | some b => return b
  | none => throw (.noSuchTruth word)

/-! Bytes in base 64. Characters outside the alphabet are passed over. -/

def sextet? (c : Char) : Option Nat :=
  if 'A' ≤ c && c ≤ 'Z' then some (c.toNat - 'A'.toNat)
  else if 'a' ≤ c && c ≤ 'z' then some (c.toNat - 'a'.toNat + 26)
  else if c.isDigit then some (c.toNat - '0'.toNat + 52)
  else if c = '+' then some 62
  else if c = '/' then some 63
  else none

/-- `place` counts the sextets of the present group, `left` holds the bits that are still due; `pads` counts
the padding marks in a row. -/
def base64From (place left pads : Nat) : List Char → Option (List UInt8)
  | [] => if place = 0 then some [] else none
  | c :: rest =>
    if c = '=' then
      if 2 ≤ place then
        if 4 ≤ place + pads + 1 then some [] else base64From place left (pads + 1) rest
      else base64From place left pads rest
    else match sextet? c with
      | none => base64From place left pads rest
      | some s =>
        match place with
        | 0 => base64From 1 s 0 rest
        | 1 => (base64From 2 (s % 16) 0 rest).map ((left * 4 + s / 16).toUInt8 :: ·)
        | 2 => (base64From 3 (s % 4) 0 rest).map ((left * 16 + s / 4).toUInt8 :: ·)
        | _ => (base64From 0 0 0 rest).map ((left * 64 + s).toUInt8 :: ·)

def binary (text : String) : Except Fault (List UInt8) :=
  if text.toList.all (·.toNat < 0x80) then (base64From 0 0 0 text.toList).elim (throw .malformed) pure
  else throw .malformed

def timestamp (text : String) : Except Fault Value :=
  match Timestamp.read (Tag.withoutFinalBreak text.toList) with
  | none => throw .notATime
  | some t =>
    if t.exists? then return if t.clock.isSome then .moment else .date else throw .noSuchValue

end AccessorForge.Yaml.Scalar
