import AccessorForge.Hosting.Calls
/-! Evaluation of expressions. Reading an accessor whose cache field holds nothing yet evaluates the expression
that fills it, which may read other accessors in turn; `reach` ties all of it together. -/
namespace AccessorForge.Hosting
open Syntax

namespace Reach

/-- The values of items in a row; a starred one gives all its elements. -/
def row (r : Reach) (f : Frame) (items : List Expr) : Eval (List Datum) :=
  items.flatMapM fun
    | .starred _ value => do r.elements f (← r.evaluate f value)
    | e => do return [← r.evaluate f e]

def bounds (r : Reach) (f : Frame) : List Bool → List Expr → Eval (List (Option Datum))
  | true :: given, e :: rest => do
    let d ← r.evaluate f e
    return some d :: (← r.bounds f given rest)
  | false :: given, rest => do return none :: (← r.bounds f given rest)
  | _, _ => return []

/-- Arguments by name; an unpacked mapping gives all its entries. -/
def namedArguments (r : Reach) (f : Frame) (keywords : List Keyword) : Eval (List (String × Datum)) :=
  keywords.flatMapM fun
    | .mk (some name) value => do return [(name, ← r.evaluate f value)]
    | .mk none value => do ofAnswer (Operation.namedEntries (← r.evaluate f value))

def chain (r : Reach) (f : Frame) (a : Datum) : List (String × Expr) → Eval Datum
  | [] => return .flag true
  | (operator, x) :: rest => do
    let b ← r.evaluate f x
    if ← ofAnswer (Operation.comparison (← getThe World) operator a b) then r.chain f b rest
    else return .flag false

/-- The first of several values with the given truth, or the last. -/
def firstWith (r : Reach) (f : Frame) (truth : Bool) : List Expr → Eval Datum
  | [] => return .flag (!truth)
  | [last] => r.evaluate f last
  | e :: rest => do
    let d ← r.evaluate f e
    if (← r.truth d) = truth then return d else r.firstWith f truth rest

def entries (r : Reach) (f : Frame) (before : List (Datum × Datum)) :
    List Bool → List Expr → Eval (List (Datum × Datum))
  | true :: more, key :: value :: rest => do
    let k ← r.evaluate f key
    let v ← r.evaluate f value
    r.entries f (← ofAnswer (Operation.putEntry (← getThe World) before k v)) more rest
  | false :: more, whole :: rest => do
    match ← r.evaluate f whole with
    | .mapping new =>
      let w ← getThe World
      r.entries f (← ofAnswer (new.foldlM (fun es (k, v) => Operation.putEntry w es k v) before)) more rest
    | _ => throw .badType
  | _, _ => return before

/-! Comprehensions. -/

/-- Run through the clauses of a comprehension: conditions that are still to be met, then the next clause. -/
def clauses (r : Reach) (element : Frame → Eval Datum) (f : Frame) :
    Nat → List Loop → List Expr → Eval (List Datum)
  | pending + 1, loops, condition :: rest => do
    if ← r.truth (← r.evaluate f condition) then r.clauses element f pending loops rest else return []
  | 0, l :: loops, target :: source :: rest => do
    let items ← r.elements f (← r.evaluate f source)
    items.flatMapM fun x => do
      let inner ← ofAnswer (bindTarget f Datum.maxDepth f.inner target x)
      r.clauses element { f with inner } l.conditions loops rest
  | 0, [], _ => return [← element f]
  | _, _, _ => throw .badType

def collect (r : Reach) (f : Frame) (collection : Collection) (loops : List Loop) (parts : List Expr) :
    Eval Datum := do
  match collection, parts with
  | .mapping, key :: value :: rest =>
    let pair (f : Frame) : Eval Datum := do
      let k ← r.evaluate f key
      return .tuple [k, ← r.evaluate f value]
    let pairs ← r.clauses pair f 0 loops rest
    let w ← getThe World
    return .mapping (← ofAnswer (pairs.foldlM (Operation.putPair w) []))
  | .set, element :: rest => setFrom (← r.clauses (r.evaluate · element) f 0 loops rest)
  | _, element :: rest => return .list (← r.clauses (r.evaluate · element) f 0 loops rest)
  | _, [] => throw .badType

def runThrough (r : Reach) (f : Frame) (d : Datum) : Eval (List Datum) := do
  match d with
  | .closure (.compound _ (.comprehension .stream loops) parts) _ seen =>
    r.componentsIn (← r.collect { f with inner := seen } .list loops parts)
  | d => r.componentsIn d

/-! Expressions. -/

def operate (r : Reach) (f : Frame) (first : Datum) (links : List (String × Expr)) : Eval Datum :=
  links.foldlM (fun a (operator, x) => do
    let b ← r.evaluate f x
    ofAnswer (Operation.binary (← getThe World) operator a b)) first

def form (r : Reach) (f : Frame) (e : Expr) (form : Form) (parts : List Expr) : Eval Datum := do
  match form, parts with
  | .constant text, _ => return constantOf text
  | .bytes, _ => return .other "bytes"
  | .formatted, parts =>
    parts.forM fun p => discard (r.evaluate f p)
    return .other "str"
  | .binding, [.name _ id, value] =>
    let d ← r.evaluate f value
    modify (Ledger.put (f.private id) d)
    return d
  | .function _, parts => return .closure e (← parts.dropLast.mapM (r.evaluate f)) (f.inner ++ (← get))
  | .unary "not", [x] => return .flag (!(← r.truth (← r.evaluate f x)))
  | .unary operator, [x] => ofAnswer (Operation.unary operator (← r.evaluate f x))
  | .binary operators, first :: rest => r.operate f (← r.evaluate f first) (operators.zip rest)
  | .comparison operators, first :: rest => r.chain f (← r.evaluate f first) (operators.zip rest)
  | .conjunction, parts => r.firstWith f false parts
  | .disjunction, parts => r.firstWith f true parts
  | .choice, [condition, value, otherwise] =>
    if ← r.truth (← r.evaluate f condition) then r.evaluate f value else r.evaluate f otherwise
  | .set, items => setFrom (← r.row f items)
  | .mapping arePairs, parts => return .mapping (← r.entries f [] arePairs parts)
  | .slice _, parts =>
    parts.forM fun p => discard (r.evaluate f p)
    return .other "slice"
  | .comprehension .stream _, _ :: _ :: source :: _ =>
    discard (r.elements f (← r.evaluate f source))
    return .closure e [] (f.inner ++ (← get))
  | .comprehension collection loops, parts => r.collect f collection loops parts
  | _, _ => throw .badType

def expression (r : Reach) (f : Frame) (e : Expr) : Eval Datum := do
  match e with
  | .name _ id => ofAnswer (f.value (← get) (f.private id))
  | .text _ s => return .text s
  | .starred _ _ => throw .badType
  | .tuple _ items => return .tuple (← r.row f items)
  | .list _ items => return .list (← r.row f items)
  | .attribute _ value attr => r.attributeOf (← r.evaluate f value) (f.private attr)
  | .subscript _ value (.compound _ (.slice given) parts) =>
    let d ← r.evaluate f value
    let bounds ← r.bounds f given parts
    ofAnswer (Operation.sliced (← getThe World) d bounds)
  | .subscript _ value index =>
    let d ← r.evaluate f value
    let key ← r.evaluate f index
    r.refuse d ["__getitem__"]
    ofAnswer (Operation.element (← getThe World) d key)
  | .call _ callee args keywords =>
    let called ← r.evaluate f callee
    let places ← r.row f args
    let names ← r.namedArguments f keywords
    if hasRepeats (names.map (·.1)) then throw .badType
    r.apply f called ⟨places, names⟩
  | .compound _ form parts => r.form f e form parts

end Reach

def reach : Nat → Reach
  | 0 => Reach.nowhere
  | n + 1 =>
    { evaluate := fun f e => (reach n).expression f e
      elements := fun f d => (reach n).runThrough f d
      apply := fun f called given => (reach n).call f called given
      read := fun o name => (reach n).readThrough o name
      run := fun o getter => (reach n).runGetter o getter }

/-- How deep evaluation may nest. -/
def maxNesting : Nat := 3000

end AccessorForge.Hosting
