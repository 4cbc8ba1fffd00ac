import AccessorForge.Hosting.Mixin
import AccessorForge.Hosting.Types
/-! The names that an expression sees, the values of constants, and the binding of targets and parameters. -/
namespace AccessorForge.Hosting
open Syntax

structure Frame where
  self : ObjectId
  origin : Origin
  /-- The names that the function around binds itself. -/
  own : List String
  /-- Values bound by comprehensions, and those that a function has seen where it was made. -/
  inner : Ledger Datum := []
  deriving Repr

abbrev Eval := StateT (Ledger Datum) Act

def Frame.private (f : Frame) (name : String) : String := privateName f.origin.ownerName name

def ambientValue (name : String) : Answered :=
  match name with
  | "UNRESOLVED" => .ok .unresolved
  | "component_accessor" => .ok (.function name)
  | "__debug__" => .ok (.flag true)
  | "__name__" => .ok (.text "builtins")
  | "__package__" => .ok (.text "")
  | _ =>
    match Ambient.class? name, Ambient.values.lookup name with
    | some c, _ => .ok (.ambient c)
    | none, some c => .ok (.other c)
    | none, none => if Ambient.functions.contains name then .ok (.function name) else .error (.undefinedName name)

def Frame.value (f : Frame) (bound : Ledger Datum) (name : String) : Answered :=
  match Ledger.get? f.inner name with
  | some d => .ok d
  | none =>
    if f.own.contains name then
      match Ledger.get? bound name with
      | some d => .ok d
      | none => .error (.unboundName name)
    else if name = "self" then .ok (.object f.self)
    else if name = "__class__" then .ok (.cls f.origin.owner)
    else match Ledger.get? f.origin.scope name with
    | some c => .ok (.cls c)
    | none => ambientValue name

/-! Constants. -/

def radixOf (text : List Char) : Option (Nat × List Char) :=
  match text with
  | '0' :: c :: rest =>
    if c = 'x' || c = 'X' then some (16, rest) else if c = 'o' || c = 'O' then some (8, rest)
    else if c = 'b' || c = 'B' then some (2, rest) else none
  | _ => none

def digitsValue (radix : Nat) (cs : List Char) : Int :=
  cs.foldl (fun n c => n * radix + ((Literal.hexDigit c).getD 0 : Nat)) 0

def numberOf (text : String) : Datum :=
  let cs := text.toList.filter (· ≠ '_')
  match radixOf cs with
  | some (radix, digits) => .number (digitsValue radix digits)
  | none =>
    if cs.all Char.isDigit then .number (digitsValue 10 cs)
    else .other (if text.endsWith "j" || text.endsWith "J" then "complex" else "float")

def constantOf (text : String) : Datum :=
  match text with
  | "None" => .nothing
  | "True" => .flag true
  | "False" => .flag false
  | "..." => .other "ellipsis"
  | _ => numberOf text

/-! Binding. -/

def bindTarget (f : Frame) : Nat → Ledger Datum → Expr → Datum → Except Fault (Ledger Datum)
  | 0, _, _, _ => .error .endless
  | depth + 1, inner, target, d =>
    let bindRow (items : List Expr) : Except Fault (Ledger Datum) :=
      match Operation.elements? d with
      | none => .error .badType
      | some ds =>
        match items.findIdx? Expr.isStarred with
        | none =>
          if items.length ≠ ds.length then .error .badValue
          else (items.zip ds).foldlM (fun inner (e, x) => bindTarget f depth inner e x) inner
        | some i =>
          let spare := ds.length - (items.length - 1)
          if ds.length + 1 < items.length then .error .badValue
          else
            let rest : Datum := .list ((ds.drop i).take spare)
            let row := ds.take i ++ rest :: ds.drop (i + spare)
            (items.zip row).foldlM (fun inner (e, x) => bindTarget f depth inner e x) inner
    match target with
    | .name _ id => .ok (Ledger.put (f.private id) d inner)
    | .starred _ value => bindTarget f depth inner value d
    | .tuple _ items | .list _ items => bindRow items
    | _ => .error .badType

structure Given where
  places : List Datum
  names : List (String × Datum) := []
  deriving Repr

/-- Exactly one argument, by place or by this name. -/
def Given.only? (g : Given) (name : String) : Option Datum :=
  match g.places, g.names with
  | [d], [] => some d
  | [], [(n, d)] => if n = name then some d else none
  | _, _ => none

def Given.row? (g : Given) : Option (List Datum) := if g.names.isEmpty then some g.places else none

/-- The values of parameters; nothing if the arguments do not fit. -/
def bindParameters (private' : String → String) : List Parameter → List Datum → Given → Option (Ledger Datum)
  | [], _, g => if g.places.isEmpty && g.names.isEmpty then some [] else none
  | p :: rest, defaults, g =>
    let defaultOf := if p.hasDefault then defaults.head? else none
    let later := if p.hasDefault then defaults.drop 1 else defaults
    let bind (d : Datum) (g : Given) : Option (Ledger Datum) :=
      (bindParameters private' rest later g).map (Ledger.put (private' p.name) d)
    let named := g.names.lookup p.name
    let without : Given := { g with names := g.names.filter (·.1 ≠ p.name) }
    match p.kind with
    | .rest => bind (.tuple g.places) { g with places := [] }
    | .restByName => bind (.mapping (g.names.map fun (n, d) => (.text n, d))) { g with names := [] }
    | .byName => (named.or defaultOf).bind fun d => bind d without
    | .byPlace =>
      match g.places with
      | d :: ds => bind d { g with places := ds }
      | [] => defaultOf.bind fun d => bind d g
    | .ordinary =>
      match g.places with
      | d :: ds => if named.isSome then none else bind d { g with places := ds }
      | [] => (named.or defaultOf).bind fun d => bind d without

def Given.isEmpty (g : Given) : Bool := g.places.isEmpty && g.names.isEmpty

def isTypeOf (d : Datum) : Bool :=
  match d with
  | .cls _ | .ambient _ => true
  | _ => false

/-! Answers and faults of pure operations. -/

def ofAnswer {α : Type} : Except Fault α → Act α
  | .ok a => return a
  | .error f => throw f

def ofOption {α : Type} : Option α → Act α
  | some a => return a
  | none => throw .badType

end AccessorForge.Hosting
