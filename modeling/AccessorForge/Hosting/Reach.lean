import AccessorForge.Hosting.Frame
/-! What evaluation may do next. Expressions, calls and accessors lead to one another; each of them is told here
what lies one step further, so that the depth of all together has one bound. -/
namespace AccessorForge.Hosting
open Syntax

structure Reach where
  evaluate : Frame → Expr → Eval Datum
  elements : Frame → Datum → Eval (List Datum)
  apply : Frame → Datum → Given → Eval Datum
  read : ObjectId → String → Act Datum
  run : ObjectId → Getter → Act Datum

namespace Reach

def nowhere : Reach :=
  ⟨fun _ _ => throw .endless, fun _ _ => throw .endless, fun _ _ _ => throw .endless, fun _ _ => throw .endless,
    fun _ _ => throw .endless⟩

/-- Run an accessor that stands in the place of a method. What it gives cannot be called. -/
def runInstead {α : Type} (r : Reach) (o : ObjectId) (getter : Getter) : Act α := do
  discard (r.run o getter)
  throw .badType

/-- An object does what it does by the first of these accessors that its class has. -/
def refuse (r : Reach) (d : Datum) (names : List String) : Act Unit := do
  if let .object o := d then
    let w ← get
    if let some getter := names.findSome? (w.accessor? o) then r.runInstead o getter

/-- The class that an object says it is of; nothing if it has no such attribute. -/
def saidClass (r : Reach) (o : ObjectId) : Act Datum :=
  tryCatchThe Fault (r.read o "__class__") fun
    | .badAttribute => return .nothing
    | fault => throw fault

/-- Whether a value is of a type. The types of a row are tried from the left; an object that is not of a class is
asked for the class that it says it is of. -/
def isOfType (r : Reach) (x : Datum) : Nat → Datum → Act Bool
  | 0, _ => throw .endless
  | depth + 1, type => do
    let w ← get
    match type, x with
    | .tuple types, x => types.anyM (r.isOfType x depth)
    | .union types, x => (types.map Operation.withNoneType).anyM (r.isOfType x depth)
    | .object o, _ =>
      r.refuse type ["__instancecheck__"]
      let _ ← tryCatchThe Fault (r.read o "__bases__") fun
        | .badAttribute => return .nothing
        | fault => throw fault
      throw .badType
    | type, .object o =>
      if ← ofAnswer (Operation.isOfType w x type) then return true
      match ← r.saidClass o with
      | .cls c => ofAnswer (Operation.isInstance (← get) (.cls c) depth type)
      | _ => return false
    | type, x => ofAnswer (Operation.isOfType w x type)

def truth (r : Reach) (d : Datum) : Act Bool := do
  r.refuse d ["__bool__", "__len__"]
  return d.truth

def attributeOf (r : Reach) (d : Datum) (name : String) : Act Datum := do
  match d with
  | .object o => r.read o name
  | .cls c => ofAnswer (Operation.classAttribute (← get) c name)
  | .ambient c => ofAnswer (Operation.ambientAttribute c name)
  | d => ofAnswer (Operation.plainAttribute (← get) d name)

end Reach

end AccessorForge.Hosting
