/-! Values of settings and of untyped input, as a document gives them. -/
namespace AccessorForge

/-- What matters of a floating-point number: its whole value, if it has one. -/
inductive FloatShape
  | whole (n : Int)
  | fractional
  | notFinite
  deriving DecidableEq, Repr

inductive Value
  | null
  | bool (b : Bool)
  | int (n : Int)
  | float (shape : FloatShape)
  | text (s : String)
  | bytes (data : List UInt8)
  | date
  | moment
  | list (items : List Value)
  | set (items : List Value)
  | map (entries : List (Value × Value))
  deriving Repr, Inhabited

namespace Value

/-- The number nearest to a binary float's bits. -/
def shapeOfBits (bits : UInt64) : FloatShape :=
  let negative := bits >>> 63 = 1
  let exponent := ((bits >>> 52) &&& 0x7ff).toNat
  let fraction := (bits &&& 0xfffffffffffff).toNat
  if exponent = 0x7ff then .notFinite
  else
    let significand := if exponent = 0 then fraction else fraction + Nat.pow 2 52
    let power := if exponent = 0 then 1 else exponent
    let sign (n : Nat) : Int := if negative then -n else n
    if 1075 ≤ power then .whole (sign (significand * Nat.pow 2 (power - 1075)))
    else
      let unit := Nat.pow 2 (1075 - power)
      if significand % unit = 0 then .whole (sign (significand / unit)) else .fractional

/-- The float nearest to `digits` times ten to a power. -/
def nearestFloat (negative : Bool) (digits : Nat) (exponent : Int) : Float :=
  let magnitude := Float.ofScientific digits (exponent < 0) exponent.natAbs
  if negative then -magnitude else magnitude

def floatOfDecimal (negative : Bool) (digits : Nat) (exponent : Int) : FloatShape :=
  shapeOfBits (nearestFloat negative digits exponent).toBits

/-- The word for a value's kind in messages about settings. -/
def kindWord : Value → String
  | .null => "NoneType"
  | .bool _ => "bool"
  | .int _ => "int"
  | .float _ => "float"
  | .text _ => "str"
  | .bytes _ => "bytes"
  | .date => "date"
  | .moment => "datetime"
  | .list _ => "list"
  | .set _ => "set"
  | .map _ => "dict"

def isText (s : String) : Value → Bool
  | .text t => t = s
  | _ => false

def lookup (entries : List (Value × Value)) (key : String) : Option Value :=
  (entries.reverse.find? fun (k, _) => k.isText key).map (·.2)

end Value

end AccessorForge
