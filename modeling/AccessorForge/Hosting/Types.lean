import AccessorForge.Hosting.Elements
/-! Types: which values are of which type, and the attributes of classes and of plain values. -/
namespace AccessorForge.Hosting.Operation
open Datum

/-- In a union the absent value stands for its class. -/
def withNoneType : Datum → Datum
  | .nothing => .ambient "NoneType"
  | t => t

def isInstance (w : World) (cls : Datum) : Nat → Datum → Except Fault Bool
  | 0, _ => .error .endless
  | depth + 1, type =>
    match type with
    | .cls c =>
      match cls with
      | .cls d => .ok (w.classes.isSubclass d c)
      | _ => .ok (c = ClassTable.base)
    | .ambient name =>
      match cls with
      | .ambient d => .ok ((Ambient.lineage d).contains name)
      | _ => .ok false
    | .tuple types => types.anyM (isInstance w cls depth)
    | .union types => (types.map withNoneType).anyM (isInstance w cls depth)
    | _ => .error .badType

def isOfType (w : World) (x type : Datum) : Except Fault Bool := isInstance w (x.classIn w) maxDepth type

def basesOf (w : World) (c : ClassId) : List Datum := (((w.classes[c]?).map (·.bases)).getD []).map .cls

def ambientLine (name : String) : List Datum := (Ambient.lineage name).map .ambient ++ [rootClass]

def lineOf (w : World) : Datum → List Datum
  | .cls c => (w.classes.order c).map .cls
  | .ambient name => ambientLine name
  | _ => []

/-- What a slot gives when it is taken from the class. -/
def ofSlot : Slot → Datum
  | .unresolved => .unresolved
  | .accessor _ _ => .other "ComponentAccessor"
  | .componentsView => .other "property"
  | .method _ => .other "function"
  | .required types => .tuple (types.map .cls)
  | .groupMark (.text s) => .text s
  | .groupMark _ | .standard => .other "object"

/-- Attributes that all classes answer for themselves. -/
def commonAttribute? (d : Datum) (name : String) (line bases : List Datum) (attr : String) : Option Answered :=
  match attr with
  | "__class__" => some (.ok (.ambient "type"))
  | "__name__" | "__qualname__" => some (.ok (.text name))
  | "__mro__" => some (.ok (.tuple line))
  | "__bases__" => some (.ok (.tuple bases))
  | "__base__" => some (.ok (bases.head?.getD .nothing))
  | "__dict__" => some (.ok (.other "mappingproxy"))
  | "__text_signature__" => some (.ok .nothing)
  | "__itemsize__" => some (.ok (if d matches .cls _ then .number 0 else .other "int"))
  | "__basicsize__" | "__flags__" | "__dictoffset__" | "__weakrefoffset__" =>
    some (.ok (.other "int"))
  | "mro" | "__subclasses__" | "__call__" | "__or__" | "__ror__" => some (.ok (.classMethod d attr))
  | _ => none

def classAttribute (w : World) (c : ClassId) (attr : String) : Answered :=
  let own := w.classes.slot? c attr
  let isMethod := ["mro", "__subclasses__", "__call__", "__or__", "__ror__"].contains attr
  match if isMethod && own.isSome then none
    else commonAttribute? (.cls c) (w.classes.nameOf c) (lineOf w (.cls c)) (basesOf w c) attr with
  | some answer => answer
  | none =>
    match own with
    | some .standard | none =>
      if attr = "__doc__" then .ok (if c ≤ ClassTable.host then .other "str" else .nothing)
      else if attr = "__annotations__" && c ≠ ClassTable.base then .ok (.mapping [])
      else if attr = "__module__" then .ok (.text "builtins")
      else if attr = "__weakref__" && c ≠ ClassTable.base then .ok (.other "getset_descriptor")
      else if attr = "__abstractmethods__" || attr = "__annotations__" then .error .badAttribute
      else if Ambient.objectAttributes.contains attr || Ambient.classAttributes.contains attr then
        .ok (.other "method-wrapper")
      else .error .badAttribute
    | some s => .ok (ofSlot s)

def ambientAttribute (name : String) (attr : String) : Answered :=
  let line := ambientLine name
  match commonAttribute? (.ambient name) name line ((line.drop 1).take 1) attr with
  | some answer => answer
  | none =>
    if attr = "__doc__" then .ok (.other "str")
    else if attr = "__module__" then .ok (.text "builtins")
    else if attr = "__abstractmethods__" || attr = "__annotations__" then .error .badAttribute
    else if Ambient.objectAttributes.contains attr || Ambient.classAttributes.contains attr then
      .ok (.other "method-wrapper")
    else .error .badAttribute

/-- An attribute of a value that is neither a class nor an object of the world. -/
def plainAttribute (w : World) (d : Datum) (attr : String) : Answered :=
  match d, attr with
  | .union members, "__args__" =>
    .ok (.tuple (members.map withNoneType))
  | .parameterised _ ps, "__args__" => .ok (.tuple ps)
  | .parameterised origin _, "__origin__" => .ok origin
  | .unresolved, "value" | .unresolved, "name" => .ok (.text "UNRESOLVED")
  | .number n, "real" | .number n, "numerator" => .ok (.number n)
  | .flag b, "real" | .flag b, "numerator" => .ok (.number (if b then 1 else 0))
  | .number _, "imag" | .flag _, "imag" => .ok (.number 0)
  | .number _, "denominator" | .flag _, "denominator" => .ok (.number 1)
  | .other "float", "real" | .other "float", "imag" | .other "complex", "real" | .other "complex", "imag" =>
    .ok (.other "float")
  | d, "__class__" => .ok (d.classIn w)
  | .parameterised (.ambient name) _, attr => ambientAttribute name attr
  | .function name, "__name__" | .function name, "__qualname__" => .ok (.text name)
  | .classMethod _ name, "__name__" => .ok (.text name)
  | .function _, "__module__" => .ok (.text "builtins")
  | .function _, "__self__" => .ok (.other "module")
  | .function _, "__text_signature__" => .ok .nothing
  | .method _ m, "__name__" => .ok (.text m.name)
  | .method o _, "__self__" => .ok (.object o)
  | .method _ m, "__qualname__" => .ok (.text ("ComponentHost." ++ m.name))
  | .method _ _, "__func__" => .ok (.other "function")
  | .closure _ _ _, "__name__" | .closure _ _ _, "__qualname__" =>
    .ok (.text (if d.isStream then "<genexpr>" else "<lambda>"))
  | .closure _ _ _, "__doc__" | .nothing, "__doc__" | .unresolved, "__doc__" | .other "ellipsis", "__doc__" =>
    .ok .nothing
  | .list _, "__hash__" | .set _, "__hash__" | .mapping _, "__hash__" => .ok .nothing
  | d, "__call__" => if d.isCallable then .ok (.other "method-wrapper") else .error .badAttribute
  | d, "__len__" => if (size? d).isSome then .ok (.other "method-wrapper") else .error .badAttribute
  | d, "__iter__" => if (elements? d).isSome then .ok (.other "method-wrapper") else .error .badAttribute
  | d, "__bool__" =>
    if d.int?.isSome || d.isNothing then .ok (.other "method-wrapper") else .error .badAttribute
  | _, "__doc__" => .ok (.other "str")
  | _, attr => if Ambient.objectAttributes.contains attr then .ok (.other "method-wrapper") else .error .badAttribute

/-- The classes right below a class, as far as the world has made them. -/
def subclassesOf (w : World) : Datum → List Datum
  | .cls c =>
    ((List.range w.classes.length).filter fun d => ((w.classes[d]?).map (·.bases)).any (·.contains c)).map .cls
  | _ => []

end AccessorForge.Hosting.Operation
