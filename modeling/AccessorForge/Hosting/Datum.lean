import AccessorForge.Ledger
import AccessorForge.Syntax.Tree
/-! The values that programs of the run-time world handle. Classes and objects are known by their numbers. -/
namespace AccessorForge.Hosting

abbrev ClassId := Nat

abbrev ObjectId := Nat

inductive HostMethod
  | attachedComponents
  | addComponent
  | removeComponent
  | getComponent
  deriving DecidableEq, Repr

def HostMethod.name : HostMethod → String
  | .attachedComponents => "_attached_components"
  | .addComponent => "add_component"
  | .removeComponent => "remove_component"
  | .getComponent => "get_component"

inductive Datum
  /-- Nothing has been looked up yet. -/
  | unresolved
  | nothing
  | flag (b : Bool)
  | number (n : Int)
  | text (s : String)
  | object (o : ObjectId)
  | cls (c : ClassId)
  | ambient (name : String)
  | function (name : String)
  | method (o : ObjectId) (m : HostMethod)
  | classMethod (owner : Datum) (name : String)
  | tuple (items : List Datum)
  | list (items : List Datum)
  | set (items : List Datum)
  | mapping (entries : List (Datum × Datum))
  | union (members : List Datum)
  | parameterised (origin : Datum) (parameters : List Datum)
  /-- A function, or elements on demand: the expression with the values that it sees. -/
  | closure (e : Syntax.Expr) (defaults : List Datum) (seen : List (String × Datum))
  | stream (items : List Datum)
  /-- Anything else, of which only the name of its class is known. -/
  | other (className : String)
  deriving Repr, Inhabited

namespace Datum

def isUnresolved : Datum → Bool
  | .unresolved => true
  | _ => false

def isObject (o : ObjectId) : Datum → Bool
  | .object x => x = o
  | _ => false

def objects (items : List Datum) : List ObjectId :=
  items.filterMap fun
    | .object o => some o
    | _ => none

end Datum

end AccessorForge.Hosting
