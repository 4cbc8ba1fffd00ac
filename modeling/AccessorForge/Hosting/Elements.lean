import AccessorForge.Hosting.Operation
/-! Parts of values: elements at a place or under a key, stretches between bounds, rows put together. -/
namespace AccessorForge.Hosting.Operation
open Datum

def elementAt (kind : String) (items : List Datum) (place : Int) : Answered :=
  let place := if place < 0 then place + items.length else place
  if place < 0 then .error (.outOfRange kind)
  else match items[place.toNat]? with
  | some x => .ok x
  | none => .error (.outOfRange kind)

def places (count : Nat) (start stop step : Int) : List Nat :=
  (List.range count).filterMap fun (k : Nat) =>
    let place := start + step * k
    if 0 ≤ place && (if 0 < step then place < stop else stop < place) then some place.toNat else none

def sliceOf (items : List Datum) (start stop : Option Int) (step : Int) : List Datum :=
  let count : Int := items.length
  let (low, high) : Int × Int := if 0 < step then (0, count) else (-1, count - 1)
  let bound (b : Int) : Int := max low (min high (if b < 0 then b + count else b))
  let start := (start.map bound).getD (if 0 < step then low else high)
  let stop := (stop.map bound).getD (if 0 < step then high else low)
  (places (items.length + 1) start stop step).filterMap (items[·]?)

def textOf (items : List Datum) : Datum :=
  .text (String.join (items.filterMap fun
    | .text s => some s
    | _ => none))

def element (w : World) (d key : Datum) : Answered :=
  match d with
  | .tuple items => withPlace items "tuple"
  | .list items => withPlace items "list"
  | .text s => withPlace (characters s) "string"
  | .mapping entries =>
    if !key.isKey maxDepth then .error .badType
    else match entry? w entries key with
    | some v => .ok v
    | none => .error (missing key)
  | .ambient name =>
    if Ambient.parameterisedClasses.contains name then
      .ok (.parameterised d (match key with | .tuple items => items | k => [k]))
    else .error .badType
  | _ => .error .badType
where
  withPlace (items : List Datum) (kind : String) : Answered :=
    match key.int? with
    | some place => elementAt kind items place
    | none => .error .badType

def boundOf : Option Datum → Except Fault (Option Int)
  | none | some .nothing => .ok none
  | some d =>
    match d.int? with
    | some n => .ok (some n)
    | none => .error .badType

def sliced (w : World) (d : Datum) (bounds : List (Option Datum)) : Answered := do
  let cut (items : List Datum) : Except Fault (List Datum) := do
    match bounds with
    | [start, stop, step] =>
      let step ← boundOf step
      if step = some 0 then throw .badValue
      return sliceOf items (← boundOf start) (← boundOf stop) (step.getD 1)
    | _ => throw .badType
  match d with
  | .tuple items => return .tuple (← cut items)
  | .list items => return .list (← cut items)
  | .text s => return textOf (← cut (characters s))
  | d => if d.isMapping then throw .badType else element w d (.other "slice")

def namedEntries : Datum → Except Fault (List (String × Datum))
  | .mapping entries => entries.mapM fun
    | (.text name, d) => .ok (name, d)
    | _ => .error .badType
  | _ => .error .badType

def numbered (items : List Datum) : Datum := .stream (items.zipIdx.map fun (x, i) => .tuple [.number i, x])

/-- The first elements of all rows, then the second ones, as long as each row has one. -/
def paired (rows : List (List Datum)) : Datum :=
  let count := (rows.map List.length).min?.getD 0
  .stream ((List.range count).map fun i => .tuple (rows.filterMap (·[i]?)))

end AccessorForge.Hosting.Operation
