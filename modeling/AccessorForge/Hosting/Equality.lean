import AccessorForge.Hosting.Ambient
import AccessorForge.Hosting.World
import AccessorForge.Text.Quoted
/-! What values amount to: their truth, their class, which of them are the same and which are equal. -/
namespace AccessorForge.Hosting

abbrev Answered := Except Fault Datum

namespace Datum

def truth : Datum → Bool
  | .nothing | .flag false | .number 0 | .text "" | .tuple [] | .list [] | .set [] | .mapping [] => false
  | _ => true

/-- Truth values count as numbers. -/
def int? : Datum → Option Int
  | .number n => some n
  | .flag b => some (if b then 1 else 0)
  | _ => none

def isOther (names : List String) : Datum → Bool
  | .other name => names.contains name
  | _ => false

def isFloat (d : Datum) : Bool := d.isOther ["float"]

def isNothing : Datum → Bool
  | .nothing => true
  | _ => false

def isMapping : Datum → Bool
  | .mapping _ => true
  | _ => false

/-- What may stand in a union of types. -/
def isTypeLike : Datum → Bool
  | .nothing | .cls _ | .ambient _ | .union _ | .parameterised _ _ => true
  | _ => false

def rootClass : Datum := .cls ClassTable.base

def classIn (w : World) : Datum → Datum
  | .unresolved => .ambient "_Sentinel"
  | .nothing => .ambient "NoneType"
  | .flag _ => .ambient "bool"
  | .number _ => .ambient "int"
  | .text _ => .ambient "str"
  | .object o => .cls (w.classOf o)
  | .cls _ | .ambient _ => .ambient "type"
  | .function _ | .classMethod _ _ => .ambient "builtin_function_or_method"
  | .method _ _ => .ambient "method"
  | .tuple _ => .ambient "tuple"
  | .list _ => .ambient "list"
  | .set _ => .ambient "set"
  | .mapping _ => .ambient "dict"
  | .union _ => .ambient "UnionType"
  | .parameterised _ _ => .ambient "GenericAlias"
  | .closure (.compound _ (.function _) _) _ _ => .ambient "function"
  | .closure _ _ _ => .ambient "generator"
  | .stream _ => .ambient "iterator"
  | .other name => .ambient name

/-- The same thing, not only an equal one. -/
def same : Datum → Datum → Bool
  | .unresolved, .unresolved | .nothing, .nothing | .tuple [], .tuple [] => true
  | .flag a, .flag b => a = b
  | .number a, .number b => a = b
  | .text a, .text b | .ambient a, .ambient b | .function a, .function b => a = b
  | .object a, .object b => a = b
  | .cls a, .cls b => a = b
  | _, _ => false

def isCallable : Datum → Bool
  | .cls _ | .ambient _ | .function _ | .method _ _ | .classMethod _ _ | .parameterised _ _ => true
  | .closure (.compound _ (.function _) _) _ _ => true
  | d => d.isOther ["method-wrapper", "function", "Quitter", "_Printer", "_Helper"]

def isStream : Datum → Bool
  | .stream _ => true
  | .closure (.compound _ (.comprehension _ _) _) _ _ => true
  | _ => false

def equals (w : World) : Nat → Datum → Datum → Bool
  | 0, _, _ => false
  | depth + 1, a, b =>
    let all (xs ys : List Datum) : Bool := xs.length = ys.length && (xs.zip ys).all fun (x, y) => equals w depth x y
    let within (xs ys : List Datum) : Bool := xs.all fun x => ys.any (equals w depth x)
    match a, b with
    | .object o, b => isObject o b || w.equalsAll o || (match b with | .object p => w.equalsAll p | _ => false)
    | _, .object o => w.equalsAll o
    | .tuple xs, .tuple ys | .list xs, .list ys | .union xs, .union ys => all xs ys
    | .set xs, .set ys => xs.length = ys.length && within xs ys
    | .mapping xs, .mapping ys =>
      xs.length = ys.length && xs.all fun (k, v) => ys.any fun (l, u) => equals w depth k l && equals w depth v u
    | .parameterised a xs, .parameterised b ys => equals w depth a b && all xs ys
    | a, b =>
      match a.int?, b.int? with
      | some m, some n => m = n
      | _, _ => same a b

def maxDepth : Nat := 1000

def isEqual (w : World) (a b : Datum) : Bool := equals w maxDepth a b

def isKey : Nat → Datum → Bool
  | 0, _ => true
  | depth + 1, d =>
    match d with
    | .list _ | .set _ | .mapping _ => false
    | .tuple items | .union items | .parameterised _ items => items.all (isKey depth)
    | d => !d.isOther ["mappingproxy", "slice", "bytearray"]

/-- A value in words, as far as its words are known. -/
def shown : Nat → Datum → String
  | 0, _ => "..."
  | depth + 1, d =>
    match d with
    | .nothing => "None"
    | .flag b => if b then "True" else "False"
    | .number n => toString n
    | .text s => Text.Quoted.literal s
    | .unresolved => "UNRESOLVED"
    | .ambient name => "<class '" ++ name ++ "'>"
    | .tuple [x] => "(" ++ shown depth x ++ ",)"
    | .tuple items => "(" ++ ", ".intercalate (items.map (shown depth)) ++ ")"
    | _ => "..."

end Datum

end AccessorForge.Hosting
