import AccessorForge.Hosting.Attributes
/-! Calls of values: functions of the program's own, methods, and what is in scope everywhere. -/
namespace AccessorForge.Hosting
open Syntax

def orElseMissing (a : Act Datum) (otherwise : Act Datum) : Act Datum :=
  tryCatchThe Fault a fun
    | .badAttribute => otherwise
    | fault => throw fault

namespace Reach

def setFrom (items : List Datum) : Eval Datum := do ofAnswer (Operation.setOf (← getThe World) items)

def applyScalarClass (r : Reach) (name : String) (row : List Datum) : Eval Datum := do
  match name, row with
  | "NoneType", [] => return .nothing
  | "bool", [] => return .flag false
  | "bool", [d] => return .flag (← r.truth d)
  | "int", [] => return .number 0
  | "int", [d] => ofAnswer (Operation.wholeNumber d)
  | "float", [d] | "complex", [d] => ofAnswer (Operation.inexactNumber name d)
  | "str", [] => return .text ""
  | "str", [.text s] => return .text s
  | "super", [d] => if isTypeOf d then return .other name else throw .badType
  | "super", [d, x] => if ← r.isOfType x Datum.maxDepth d then return .other name else throw .badType
  | _, row => if Ambient.admitsArguments name (some row.length) then return .other name else throw .badType

def range (row : List Datum) : Eval Datum := do
  match row with
  | [.number stop] => return .list ((List.range (min stop.toNat Datum.maxDepth)).map fun (k : Nat) => .number k)
  | [d, e] | [d, e, _] => if d.int?.isSome && e.int?.isSome then return .other "range" else throw .badType
  | _ => throw .badType

def applyCollectionClass (r : Reach) (f : Frame) (name : String) (row : List Datum) : Eval Datum := do
  match name, row with
  | "tuple", [] => return .tuple []
  | "tuple", [d] => return .tuple (← r.elements f d)
  | "list", [] => return .list []
  | "list", [d] => return .list (← r.elements f d)
  | "set", [] | "frozenset", [] => return .set []
  | "set", [d] | "frozenset", [d] => setFrom (← r.elements f d)
  | "dict", [] => return .mapping []
  | "dict", [.mapping entries] => return .mapping entries
  | "dict", [d] =>
    let pairs ← (← r.elements f d).mapM fun x => return Datum.tuple (← r.elements f x)
    let w ← getThe World
    return .mapping (← ofAnswer (pairs.foldlM (fun entries pair => Operation.putPair w entries pair) []))
  | "reversed", [d] => return .stream (← ofOption (Operation.row? d)).reverse
  | "enumerate", [d] => return Operation.numbered (← r.elements f d)
  | "zip", ds => return Operation.paired (← ds.mapM (r.elements f))
  | "range", row => range row
  | _, _ => throw .badType

def collectionClasses : List String :=
  ["tuple", "list", "set", "frozenset", "dict", "reversed", "enumerate", "zip", "range"]

def applyClass (r : Reach) (f : Frame) (name : String) (given : Given) : Eval Datum := do
  match name, given.row? with
  | "type", some [d] => return d.classIn (← getThe World)
  | "type", some [.text made, .tuple _, .mapping _] => return .ambient made
  | "dict", none =>
    if !given.places.isEmpty then throw .badType
    return .mapping (given.names.map fun (k, d) => (.text k, d))
  | _, none => throw .badType
  | name, some row =>
    if collectionClasses.contains name then r.applyCollectionClass f name row else r.applyScalarClass name row

def applyQuestion (r : Reach) (name : String) (row : List Datum) : Eval Datum := do
  match name, row with
  | "isinstance", [d, type] => return .flag (← r.isOfType d Datum.maxDepth type)
  | "issubclass", [d, type] =>
    if !isTypeOf d then throw .badType
    return .flag (← ofAnswer (Operation.isInstance (← getThe World) d Datum.maxDepth type))
  | "getattr", [d, .text attr] => r.attributeOf d attr
  | "getattr", [d, .text attr, other] => orElseMissing (r.attributeOf d attr) (return other)
  | "hasattr", [d, .text attr] =>
    orElseMissing (do let _ ← r.attributeOf d attr; return .flag true) (return .flag false)
  | "vars", [d] => orElseMissing (r.attributeOf d "__dict__") (throw .badType)
  | "len", [d] =>
    r.refuse d ["__len__"]
    return .number (← ofOption (Operation.size? d))
  | "callable", [d] => return .flag d.isCallable
  | "repr", [_] | "ascii", [_] | "format", [_] => return .other "str"
  | "id", [_] => return .other "int"
  | "hash", [d] => if d.isKey Datum.maxDepth then return .other "int" else throw .badType
  | "abs", [d] => ofAnswer (Operation.magnitude d)
  | "round", [d] => ofAnswer (Operation.rounded d)
  | "bin", [d] | "hex", [d] | "oct", [d] | "chr", [d] =>
    if d.int?.isSome then return .other "str" else throw .badType
  | "dir", [_] => return .list []
  | "iter", [d, _] => if d.isCallable then return .other "callable_iterator" else throw .badType
  | _, _ => throw .badType

def applyThrough (r : Reach) (name : String) (items : List Datum) (more : List Datum) : Eval Datum := do
  match name, more with
  | "iter", [] => return .stream items
  | "sorted", [] => return .list (← ofAnswer (Operation.sorted (← getThe World) items))
  | "max", [] => ofAnswer (Operation.extreme (← getThe World) .gt items)
  | "min", [] => ofAnswer (Operation.extreme (← getThe World) .lt items)
  | "sum", [] => ofAnswer (Operation.sum (← getThe World) items (.number 0))
  | "sum", [first] => ofAnswer (Operation.sum (← getThe World) items first)
  | "any", [] => return .flag (← items.anyM fun x => r.truth x)
  | "all", [] => return .flag (← items.allM fun x => r.truth x)
  | "next", [] => match items.head? with
    | some x => return x
    | none => throw .exhausted
  | "next", [other] => return items.head?.getD other
  | _, _ => throw .badType

/-- Functions that run through the elements of their first argument. -/
def throughFunctions : List String := ["sorted", "sum", "any", "all", "next", "iter", "max", "min"]

def applyFunction (r : Reach) (f : Frame) (name : String) (given : Given) : Eval Datum := do
  match name, given.row? with
  | "print", _ => return .nothing
  | "dir", some [] => return .list []
  | "globals", some [] => return .mapping (f.origin.scope.map fun (k, c) => (.text k, .cls c))
  | "locals", some [] | "vars", some [] =>
    return .mapping (((← get).map fun (k, d) => (Datum.text k, d)) ++ [(.text "self", .object f.self)])
  | "max", some (d :: e :: rest) => r.applyThrough "max" (d :: e :: rest) []
  | "min", some (d :: e :: rest) => r.applyThrough "min" (d :: e :: rest) []
  | "next", some (d :: more) =>
    if !d.isStream || 1 < more.length then throw .badType
    r.applyThrough "next" (← r.elements f d) more
  | "iter", some [d, e] => r.applyQuestion name [d, e]
  | name, some (d :: more) =>
    if throughFunctions.contains name then r.applyThrough name (← r.elements f d) more
    else r.applyQuestion name (d :: more)
  | _, _ => throw .badType

def applyClassMethod (r : Reach) (f : Frame) (owner : Datum) (name : String) (given : Given) : Eval Datum := do
  let w ← getThe World
  match name, given.row? with
  | "__call__", _ => r.apply f owner given
  | "__or__", some [d] | "__ror__", some [d] =>
    return if d.isTypeLike then Operation.unionOf w owner d else .other "NotImplementedType"
  | "mro", some [] => return .list (Operation.lineOf w owner)
  | "__subclasses__", some [] => return .list (Operation.subclassesOf w owner)
  | _, _ => throw .badType

/-- Call a function of the program's own. Its body sees what the function has seen where it was made. -/
def applyClosure (r : Reach) (f : Frame) (parameters : List Parameter) (body : Expr) (defaults : List Datum)
    (seen : Ledger Datum) (given : Given) : Eval Datum := do
  let arguments ← ofOption (bindParameters f.private parameters defaults given)
  if body.yields then return .other "generator"
  let own := arguments.map (·.1) ++ (body.bindings true).map f.private
  let inner := seen.filter fun (name, _) => !own.contains name
  let before ← get
  set arguments
  let d ← r.evaluate { f with own, inner } body
  set before
  return d

def call (r : Reach) (f : Frame) (called : Datum) (given : Given) : Eval Datum := do
  match called with
  | .cls c => if given.isEmpty then return .object (← r.create "" c) else throw .badType
  | .ambient name => r.applyClass f name given
  | .function name => r.applyFunction f name given
  | .method o m => r.applyMethod o m given
  | .classMethod owner name => r.applyClassMethod f owner name given
  | .parameterised origin _ => r.apply f origin given
  | .closure (.compound _ (.function parameters) parts) defaults seen =>
    r.applyClosure f parameters (← ofOption parts.getLast?) defaults seen given
  | d =>
    r.refuse d ["__call__"]
    if d.isOther ["method-wrapper", "function"] then return .other "object" else throw .badType

end Reach

end AccessorForge.Hosting
