import AccessorForge.Hosting.Equality
/-! Operators and comparison of values, which run no program text. What an operation leaves open about a result
is only its class. -/
namespace AccessorForge.Hosting.Operation
open Datum

def missing (key : Datum) : Fault := .missingEntry (key.shown maxDepth)

def addElement (w : World) (items : List Datum) (x : Datum) : Except Fault (List Datum) :=
  if !x.isKey maxDepth then .error .badType
  else .ok (if items.any (isEqual w x) then items else items ++ [x])

def setOf (w : World) (items : List Datum) : Answered := .set <$> items.foldlM (addElement w) []

/-- A later value takes the place of an earlier one. -/
def putEntry (w : World) (entries : List (Datum × Datum)) (key value : Datum) :
    Except Fault (List (Datum × Datum)) :=
  if !key.isKey maxDepth then .error .badType
  else if entries.any fun (k, _) => isEqual w key k then
    .ok (entries.map fun (k, v) => if isEqual w key k then (k, value) else (k, v))
  else .ok (entries ++ [(key, value)])

def entry? (w : World) (entries : List (Datum × Datum)) (key : Datum) : Option Datum :=
  (entries.find? fun (k, _) => isEqual w key k).map (·.2)

/-- Types of a union, without unions in it and without repetition. -/
def unionOf (w : World) (a b : Datum) : Datum :=
  let members : Datum → List Datum
    | .union ms => ms
    | d => [d]
  match (members a ++ members b).foldl (fun ms m => if ms.any (isEqual w m) then ms else ms ++ [m]) [] with
  | [m] => m
  | ms => .union ms

/-! Operators. -/

/-- Results beyond this many bits are not worked out. -/
def maxBits : Nat := 4096

def power (a b : Int) : Answered :=
  if b < 0 then
    if a = 0 then .error (.division "0.0 cannot be raised to a negative power") else .ok (.other "float")
  else if maxBits < b.toNat * (Nat.log2 a.natAbs + 1) then .ok (.other "int")
  else .ok (.number (Int.pow a b.toNat))

def bits (operator : String) (a b : Nat) : Nat :=
  if operator = "&" then a &&& b else if operator = "|" then a ||| b else a ^^^ b

def arithmetic (operator : String) (a b : Int) : Answered :=
  match operator with
  | "+" => .ok (.number (a + b))
  | "-" => .ok (.number (a - b))
  | "*" => .ok (.number (a * b))
  | "/" => if b = 0 then .error (.division "division by zero") else .ok (.other "float")
  | "//" =>
    if b = 0 then .error (.division "integer division or modulo by zero") else .ok (.number (Int.fdiv a b))
  | "%" => if b = 0 then .error (.division "integer modulo by zero") else .ok (.number (Int.fmod a b))
  | "**" => power a b
  | "<<" =>
    if b < 0 then .error .badValue
    else if maxBits < b.toNat then .ok (.other "int") else .ok (.number (a * Int.pow 2 b.toNat))
  | ">>" =>
    if b < 0 then .error .badValue
    else if maxBits < b.toNat then .ok (.number (if a < 0 then -1 else 0))
    else .ok (.number (Int.fdiv a (Int.pow 2 b.toNat)))
  | "&" | "|" | "^" =>
    if a < 0 || b < 0 then .ok (.other "int") else .ok (.number (bits operator a.toNat b.toNat))
  | _ => .error .badType

def isBitwise (operator : String) : Bool := operator = "&" || operator = "|" || operator = "^"

def repeated (count : Int) (items : List Datum) : List Datum := (List.replicate count.toNat items).flatten

def setOperation (w : World) (operator : String) (xs ys : List Datum) : Answered :=
  let isIn (items : List Datum) (x : Datum) : Bool := items.any (isEqual w x)
  match operator with
  | "|" => .ok (.set (xs ++ ys.filter (!isIn xs ·)))
  | "&" => .ok (.set (xs.filter (isIn ys)))
  | "-" => .ok (.set (xs.filter (!isIn ys ·)))
  | "^" => .ok (.set (xs.filter (!isIn ys ·) ++ ys.filter (!isIn xs ·)))
  | _ => .error .badType

/-- A text that values are put into; one without places for them takes none. -/
def layout (s : String) (d : Datum) : Answered :=
  if s.contains '%' then .ok (.other "str")
  else match d with
  | .tuple [] | .list _ | .mapping _ | .union _ | .parameterised _ _ => .ok (.text s)
  | d => if d.isOther ["bytes"] then .ok (.text s) else .error .badType

def binary (w : World) (operator : String) (a b : Datum) : Answered :=
  match a, b with
  | .tuple xs, .tuple ys => if operator = "+" then .ok (.tuple (xs ++ ys)) else .error .badType
  | .list xs, .list ys => if operator = "+" then .ok (.list (xs ++ ys)) else .error .badType
  | .text s, .text t =>
    if operator = "+" then .ok (.text (s ++ t)) else if operator = "%" then layout s b else .error .badType
  | .set xs, .set ys => setOperation w operator xs ys
  | .mapping xs, .mapping ys =>
    if operator = "|" then .mapping <$> ys.foldlM (fun es (k, v) => putEntry w es k v) xs else .error .badType
  | .flag x, .flag y =>
    if isBitwise operator then .ok (.flag (bits operator x.toNat y.toNat = 1))
    else arithmetic operator x.toNat y.toNat
  | .tuple xs, d | d, .tuple xs =>
    match operator, d.int? with
    | "*", some n => .ok (.tuple (repeated n xs))
    | _, _ => .error .badType
  | .list xs, d | d, .list xs =>
    match operator, d.int? with
    | "*", some n => .ok (.list (repeated n xs))
    | _, _ => .error .badType
  | .text s, d =>
    match operator, d.int? with
    | "*", some n => .ok (.text (String.join (List.replicate n.toNat s)))
    | "%", _ => layout s d
    | _, _ => .error .badType
  | d, .text s =>
    match operator, d.int? with
    | "*", some n => .ok (.text (String.join (List.replicate n.toNat s)))
    | _, _ => .error .badType
  | a, b =>
    match a.int?, b.int? with
    | some m, some n => arithmetic operator m n
    | m, n =>
      if operator = "|" && a.isTypeLike && b.isTypeLike && !(a.isNothing && b.isNothing) then .ok (unionOf w a b)
      else if (a.isFloat || m.isSome) && (b.isFloat || n.isSome) && !isBitwise operator then .ok (.other "float")
      else .error .badType

def unary (operator : String) (d : Datum) : Answered :=
  match operator, d.int? with
  | "not", _ => .ok (.flag (!d.truth))
  | "-", some n => .ok (.number (-n))
  | "+", some n => .ok (.number n)
  | "~", some n => .ok (.number (-n - 1))
  | operator, none => if d.isOther ["float", "complex"] && operator ≠ "~" then .ok d else .error .badType
  | _, _ => .error .badType

def magnitude (d : Datum) : Answered :=
  match d.int? with
  | some n => .ok (.number n.natAbs)
  | none => if d.isOther ["float", "complex"] then .ok (.other "float") else .error .badType

def wholeNumber (d : Datum) : Answered :=
  match d.int?, d with
  | some n, _ => .ok (.number n)
  | none, .text s =>
    match s.trimAscii.toString.toInt? with
    | some n => .ok (.number n)
    | none => .error .badValue
  | none, d => if d.isFloat then .ok (.other "int") else .error .badType

def rounded (d : Datum) : Answered :=
  match d.int? with
  | some n => .ok (.number n)
  | none => if d.isFloat then .ok (.other "int") else .error .badType

def inexactNumber (cls : String) (d : Datum) : Answered :=
  match d with
  | .text _ => .error .badValue
  | d => if d.int?.isSome || d.isOther ["float", cls] then .ok (.other cls) else .error .badType

/-! Comparison. -/

def order (w : World) : Nat → Datum → Datum → Except Fault Ordering
  | 0, _, _ => .error .endless
  | depth + 1, a, b =>
    match a, b with
    | .text s, .text t => .ok (compare s t)
    | .tuple xs, .tuple ys | .list xs, .list ys =>
      match (xs.zip ys).find? fun (x, y) => !isEqual w x y with
      | some (x, y) => order w depth x y
      | none => .ok (compare xs.length ys.length)
    | a, b =>
      match a.int?, b.int? with
      | some m, some n => .ok (compare m n)
      | m, n =>
        if (a.isFloat || m.isSome) && (b.isFloat || n.isSome) then .ok .lt else .error .badType

def characters (s : String) : List Datum := s.toList.map fun c => .text (String.singleton c)

def elements? : Datum → Option (List Datum)
  | .tuple items | .list items | .set items | .stream items => some items
  | .parameterised origin ps => some [.parameterised origin ps]
  | .mapping entries => some (entries.map (·.1))
  | .text s => some (characters s)
  | _ => none

/-- The elements of a value that has them in a row, not only one after the other. -/
def row? : Datum → Option (List Datum)
  | .set _ | .stream _ | .parameterised _ _ => none
  | d => elements? d

def size? : Datum → Option Nat
  | .stream _ | .parameterised _ _ => none
  | d => (elements? d).map List.length

/-- A row of two as a key with its value. -/
def putPair (w : World) (entries : List (Datum × Datum)) : Datum → Except Fault (List (Datum × Datum))
  | .tuple [k, v] => putEntry w entries k v
  | _ => .error .badValue

def isPartOf (part whole : String) : Bool :=
  (List.range (whole.length + 1)).any fun i => part.toList.isPrefixOf (whole.toList.drop i)

def contains (w : World) (x whole : Datum) : Except Fault Bool :=
  match x, whole with
  | .text part, .text whole => .ok (isPartOf part whole)
  | _, .text _ => .error .badType
  | x, .set _ | x, .mapping _ =>
    if x.isKey maxDepth then .ok (((elements? whole).getD []).any (isEqual w x)) else .error .badType
  | x, whole =>
    match elements? whole with
    | some items => .ok (items.any (isEqual w x))
    | none => .error .badType

def comparison (w : World) (operator : String) (a b : Datum) : Except Fault Bool :=
  match operator with
  | "is" => .ok (same a b)
  | "is not" => .ok (!same a b)
  | "==" => .ok (isEqual w a b)
  | "!=" => .ok (!isEqual w a b)
  | "in" => contains w a b
  | "not in" => (contains w a b).map (!·)
  | _ =>
    match a, b with
    | .set xs, .set ys =>
      let within (xs ys : List Datum) : Bool := xs.all fun x => ys.any (isEqual w x)
      match operator with
      | "<" => .ok (within xs ys && !within ys xs)
      | "<=" => .ok (within xs ys)
      | ">" => .ok (within ys xs && !within xs ys)
      | _ => .ok (within ys xs)
    | a, b => do
      let o ← order w maxDepth a b
      match operator with
      | "<" => return o = .lt
      | "<=" => return o ≠ .gt
      | ">" => return o = .gt
      | _ => return o ≠ .lt

def extreme (w : World) (wanted : Ordering) : List Datum → Answered
  | [] => .error .badValue
  | x :: rest => rest.foldlM (fun best y => do
      if (← order w maxDepth y best) = wanted then return y else return best) x

def insertSorted (w : World) (x : Datum) : List Datum → Except Fault (List Datum)
  | [] => .ok [x]
  | y :: rest => do
    if (← order w maxDepth x y) = .lt then return x :: y :: rest else return y :: (← insertSorted w x rest)

def sum (w : World) (items : List Datum) (first : Datum) : Answered :=
  if first matches .text _ then .error .badType else items.foldlM (binary w "+") first

def sorted (w : World) (items : List Datum) : Except Fault (List Datum) :=
  items.foldlM (fun done x => insertSorted w x done) []

end AccessorForge.Hosting.Operation
