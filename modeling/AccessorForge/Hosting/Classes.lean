import AccessorForge.Hosting.Datum
import AccessorForge.Text.Surrogate
import AccessorForge.Value
/-! Classes of the run-time world: their linear order of ancestors, the slots they define and the component
types they require. -/
namespace AccessorForge.Hosting

/-- Where an accessor was written: the class that it was written in, and the classes known there. -/
structure Origin where
  owner : ClassId
  ownerName : String
  scope : Ledger ClassId
  deriving DecidableEq, Repr

inductive Getter
  | nothing
  /-- Evaluate an expression once and keep the result in the cache field. -/
  | lookup (field : String) (fill : Syntax.Expr) (origin : Origin)
  deriving Repr

inductive Slot
  | unresolved
  | accessor (visibility : String) (getter : Getter)
  | componentsView
  | method (m : HostMethod)
  /-- The component types that a decorator has recorded. -/
  | required (types : List ClassId)
  /-- The visibility that a group marker has recorded. -/
  | groupMark (visibility : Value)
  /-- What every class defines for itself. -/
  | standard
  deriving Repr

def Slot.isAccessor : Slot → Bool
  | .accessor _ _ => true
  | _ => false

def Slot.isStandard : Slot → Bool
  | .standard => true
  | _ => false

/-- Slots of this kind win over an instance's own attributes and cannot be assigned. -/
def Slot.isGuarding : Slot → Bool
  | .accessor _ _ | .componentsView => true
  | _ => false

structure Class where
  name : String
  /-- The class itself, then its ancestors in the order in which they are searched. -/
  order : List ClassId
  bases : List ClassId := []
  slots : Ledger Slot := []
  /-- Its instances compare equal to everything. -/
  equalsAll : Bool := false
  /-- It can have no instances of its own. -/
  isAbstract : Bool := false
  deriving Repr

/-- What each class defines for itself, and what it defines unless an ancestor does. -/
def standardNames (isFirst : Bool) : List String :=
  ["__module__", "__doc__"] ++ if isFirst then ["__dict__", "__weakref__"] else []

def withStandard (isFirst : Bool) (slots : Ledger Slot) : Ledger Slot :=
  (standardNames isFirst).foldl (fun m name => if Ledger.has m name then m else Ledger.put name .standard m) slots

/-! Linear order of ancestors. -/

/-- The first head that stands in no other list's tail. -/
def goodHead (lists : List (List ClassId)) : Option ClassId :=
  lists.findSome? fun
    | [] => none
    | c :: _ => if lists.any fun l => l.tail.contains c then none else some c

def dropHead (c : ClassId) : List ClassId → List ClassId
  | [] => []
  | d :: rest => if d = c then rest else d :: rest

/-- Merge the ancestors' orders, keeping each of them; `fuel` bounds the number of classes. -/
def mergeOrders : Nat → List (List ClassId) → Option (List ClassId)
  | 0, _ => none
  | fuel + 1, lists =>
    let lists := lists.filter (!·.isEmpty)
    if lists.isEmpty then some []
    else do
      let c ← goodHead lists
      let rest ← mergeOrders fuel (lists.map (dropHead c))
      some (c :: rest)

def hasRepetition : List ClassId → Bool
  | [] => false
  | c :: rest => rest.contains c || hasRepetition rest

def orderOf (self : ClassId) (bases : List ClassId) (orders : List (List ClassId)) : Option (List ClassId) :=
  if hasRepetition bases then none
  else (mergeOrders (orders.flatten.length + bases.length + 1) (orders ++ [bases])).map (self :: ·)

abbrev ClassTable := List Class

namespace ClassTable

def base : ClassId := 0
def host : ClassId := 1

/-- The two classes that are always there: the root of all, and the host mixin. -/
def initial : ClassTable :=
  [⟨"object", [base], [], [], false, false⟩,
    ⟨"ComponentHost", [host, base], [base],
      withStandard true
        [("_attached_components", .method .attachedComponents), ("components", .componentsView),
          ("add_component", .method .addComponent), ("remove_component", .method .removeComponent),
          ("get_component", .method .getComponent)],
      false, false⟩]

def order (t : ClassTable) (c : ClassId) : List ClassId := ((t[c]?).map (·.order)).getD []

def nameOf (t : ClassTable) (c : ClassId) : String := ((t[c]?).map (·.name)).getD ""

def search {α : Type} (t : ClassTable) (c : ClassId) (f : Class → Option α) : Option α :=
  (t.order c).findSome? fun k => (t[k]?).bind f

def slot? (t : ClassTable) (c : ClassId) (name : String) : Option Slot :=
  t.search c fun k => Ledger.get? k.slots name

def accessor? (t : ClassTable) (c : ClassId) (name : String) : Option Getter :=
  match t.slot? c name with
  | some (.accessor _ getter) => some getter
  | _ => none

def requiredName : String := "__required_components__"

def groupName : String := "__component_getters_visibility__"

/-- The required types seen on a class, inherited ones too; nothing if something else has taken their name. -/
def required? (t : ClassTable) (c : ClassId) : Option (List ClassId) :=
  match t.slot? c requiredName with
  | none => some []
  | some (.required types) => some types
  | some _ => none

def groupVisibility (t : ClassTable) (c : ClassId) : Option Value :=
  match t.slot? c groupName with
  | some (.groupMark v) => some v
  | _ => none

def isSubclass (t : ClassTable) (c d : ClassId) : Bool := (t.order c).contains d

def mergeTypes (old new : List ClassId) : List ClassId :=
  new.foldl (fun seen c => if c ∈ seen then seen else seen ++ [c]) old

def setSlot (t : ClassTable) (c : ClassId) (name : String) (s : Slot) : ClassTable :=
  t.modify c fun k => { k with slots := Ledger.put name s k.slots }

/-- Record required types on a class, after those already seen there. -/
def require? (t : ClassTable) (c : ClassId) (types : List ClassId) : Option ClassTable :=
  (t.required? c).map fun seen => t.setSlot c requiredName (.required (mergeTypes (mergeTypes [] seen) types))

def markGroup (t : ClassTable) (c : ClassId) (visibility : Value) : ClassTable :=
  t.setSlot c groupName (.groupMark visibility)

def slotNames (t : ClassTable) (c : ClassId) : List String :=
  (t.order c).flatMap fun k => ((t[k]?).map fun k => k.slots.keys).getD []

/-- Names go by their code points. -/
def codeOrder (a b : String) : Bool := !(Text.Surrogate.codes b).lex (Text.Surrogate.codes a)

/-- Every accessor of a class by name, with its visibility; a nearer slot of the same name hides it. -/
def accessors (t : ClassTable) (c : ClassId) : List (String × String) :=
  (((t.slotNames c).foldl appendNew []).mergeSort codeOrder).filterMap fun name =>
    match t.slot? c name with
    | some (.accessor visibility _) => some (name, visibility)
    | _ => none

/-- An accessor of this name in an ancestor makes it impossible to derive from it. -/
def derivationName : String := "__init_subclass__"

/-- Names that a class body may not give to an accessor or its cache field. -/
def bodyNames : List String := ["__slots__", "__qualname__", "__classcell__"]

/-- A new class; nothing if its ancestors have no common order or do not let a class derive from them, or if
one of its slots has a name that it may not have. -/
def define (t : ClassTable) (name : String) (bases : List ClassId) (slots : Ledger Slot) (equalsAll : Bool) :
    Option (ClassTable × ClassId) := do
  let self := t.length
  let bases := if bases.isEmpty then [base] else bases
  let order ← orderOf self bases (bases.map t.order)
  let made := t ++ [⟨name, order, bases, withStandard (bases = [base]) slots, equalsAll, false⟩]
  let above := order.tail.findSome? fun k => (made[k]?).bind fun k => Ledger.get? k.slots derivationName
  if above.any Slot.isAccessor || bodyNames.any (Ledger.has slots) then none else some (made, self)

end ClassTable

end AccessorForge.Hosting
