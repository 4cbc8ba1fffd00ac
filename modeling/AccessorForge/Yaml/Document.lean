import AccessorForge.Yaml.Node
import AccessorForge.Yaml.Scalar
/-! The value of a YAML document. Of several faults the one nearest to the root counts, and of those the
first in the order of the document. -/
namespace AccessorForge.Yaml

namespace Node

def hasTag (tag : Tag) : Node → Bool
  | .scalar t _ | .sequence t _ | .mapping t _ => t = tag
  | .inside _ => false

mutual
/-- The text of a scalar, or of the default entry of a mapping. -/
def text? : Node → Option String
  | .scalar _ text => some text
  | .mapping _ pairs => defaultText? pairs
  | _ => none

def defaultText? : List (Node × Node) → Option String
  | [] => none
  | (k, v) :: rest => if k.hasTag .default then v.text? else defaultText? rest
end

def withTag (tag : Tag) : Node → Node
  | .scalar _ text => .scalar tag text
  | .sequence _ items => .sequence tag items
  | .mapping _ pairs => .mapping tag pairs
  | .inside a => .inside a

/-- The pairs of a mapping with everything merged in front of its own; false where something else than
mappings is merged. -/
def mergedPairs : Nat → List (Node × Node) → List (Node × Node) × Bool
  | 0, _ => ([], false)
  | fuel + 1, pairs =>
    let own := (pairs.filter fun (k, _) => !k.hasTag .merge).map fun (k, v) =>
      if k.hasTag .default then (k.withTag .text, v) else (k, v)
    let ofMapping (n : Node) : List (Node × Node) × Bool :=
      match n with
      | .mapping _ inner => mergedPairs fuel inner
      | _ => ([], false)
    let ofSource (n : Node) : List (Node × Node) × Bool :=
      match n with
      | .sequence _ items =>
        let parts := items.map ofMapping
        ((parts.reverse.map (·.1)).flatten, parts.all (·.2))
      | _ => ofMapping n
    let merged := (pairs.filter fun (k, _) => k.hasTag .merge).map fun (_, v) => ofSource v
    ((merged.map (·.1)).flatten ++ own, merged.all (·.2))

end Node

/-- A value, with all faults on the way and their distances from the root. -/
structure Built (α : Type) where
  result : α
  faults : List (Nat × Fault) := []
  deriving Repr

namespace Built
variable {α β : Type}

def fail (level : Nat) (fault : Fault) (filler : α) : Built α := ⟨filler, [(level, fault)]⟩

def map (f : α → β) (b : Built α) : Built β := ⟨f b.result, b.faults⟩

def all (bs : List (Built α)) : Built (List α) := ⟨bs.map (·.result), bs.flatMap (·.faults)⟩

def ofExcept (level : Nat) (filler : α) : Except Fault α → Built α
  | .ok a => ⟨a, []⟩
  | .error f => fail level f filler

def firstFault (b : Built α) : Option Fault :=
  let nearest := b.faults.foldl (fun least (level, _) => min least level) (b.faults.headD (0, .malformed)).1
  (b.faults.find? (·.1 = nearest)).map (·.2)

end Built

def isHashable : Value → Bool
  | .list _ | .set _ | .map _ => false
  | _ => true

def asNumber? : Value → Option Int
  | .int n => some n
  | .bool b => some (if b then 1 else 0)
  | .float (.whole n) => some n
  | _ => none

def isSameKey (a b : Value) : Bool :=
  match a, b with
  | .text s, .text t => s = t
  | .null, .null => true
  | _, _ =>
    match asNumber? a, asNumber? b with
    | some m, some n => m = n
    | _, _ => false

def distinct : List Value → List Value
  | [] => []
  | v :: rest => v :: (distinct rest).filter (!isSameKey v ·)

/-- The value of a text under a scalar tag. -/
def scalarValue (tag : Tag) (text : String) : Except Fault Value :=
  match tag with
  | .null => return .null
  | .bool => return .bool (← Scalar.truth text)
  | .int => return .int (← Scalar.int text)
  | .float => return .float (← Scalar.float text)
  | .binary => return .bytes (← Scalar.binary text)
  | .timestamp => Scalar.timestamp text
  | .text => return .text text
  | _ => throw .malformed

def Node.isScalar : Node → Bool
  | .scalar _ _ => true
  | _ => false

def Node.tag : Node → Tag
  | .scalar t _ | .sequence t _ | .mapping t _ => t
  | .inside _ => .null

/-- The node's value; `level` is its distance from the root. -/
def build : Nat → Nat → Node → Built Value
  | 0, level, _ => .fail level .malformed .null
  | fuel + 1, level, n =>
    let entries (pairs : List (Node × Node)) : Built (List (Value × Value)) :=
      let (merged, isSound) := Node.mergedPairs n.height pairs
      let parts := merged.map fun (k, v) =>
        let key := build fuel (level + 1) k
        let item := build fuel (level + 1) v
        let refusal := if isHashable key.result then [] else [(level + 1, Fault.malformed)]
        (⟨(key.result, item.result), key.faults ++ refusal ++ item.faults⟩ : Built (Value × Value))
      let whole := Built.all parts
      if isSound then whole else { whole with faults := (level + 1, .malformed) :: whole.faults }
    match n.tag with
    | .sequence =>
      match n with
      | .sequence _ items => (Built.all (items.map (build fuel (level + 1)))).map .list
      | _ => .fail (level + 1) .malformed (.list [])
    | .mapping =>
      match n with
      | .mapping _ pairs => (entries pairs).map .map
      | _ => .fail (level + 1) .malformed (.map [])
    | .set =>
      match n with
      | .mapping _ pairs => (entries pairs).map fun es => .set (distinct (es.map (·.1)))
      | _ => .fail (level + 1) .malformed (.set [])
    | .orderedMapping | .pairs =>
      match n with
      | .sequence _ items =>
        (Built.all (items.map fun item =>
          match item with
          | .mapping _ [(k, v)] =>
            (Built.all [build fuel (level + 1) k, build fuel (level + 1) v]).map Value.list
          | _ => .fail (level + 1) .malformed .null)).map .list
      | _ => .fail (level + 1) .malformed (.list [])
    | tag =>
      match n.text? with
      | none => .fail level .malformed .null
      | some text =>
        if tag = .timestamp && !n.isScalar then .fail level .timeOfMapping .null
        else .ofExcept level .null (scalarValue tag text)

def Node.value? (n : Node) : Except Fault Value :=
  let built := build n.height 0 n
  match built.firstFault with
  | some f => .error f
  | none => .ok built.result

/-- The value of a text that holds one document; null if it holds none. -/
def read (text : String) : Except Fault Value := do
  match ← Node.ofTokens? (TokenStream.ofText text.toList) with
  | none => return .null
  | some n => n.value?

end AccessorForge.Yaml
