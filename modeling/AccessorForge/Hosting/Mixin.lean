import AccessorForge.Accessor
import AccessorForge.Hosting.Classes
import AccessorForge.Syntax.Scope
/-! Mixin classes made of generated accessor text: the text is read as a class body, and each accessor in it
becomes a cache field and an accessor slot. -/
namespace AccessorForge.Hosting
open Syntax

def mixinText (name : String) (accessors : List Accessor) : List Char :=
  let body := if accessors.isEmpty then ["    pass\n"] else ["\n"].intercalate (accessors.map (·.pieces none))
  (["class ", name, ":\n"] ++ body).flatMap String.toList

/-- Names with two leading underscores and not two at the end belong to the class that they stand in. -/
def privateName (className : String) (name : String) : String :=
  let owner := className.toList.dropWhile (· = '_')
  if name.startsWith "__" && !name.endsWith "__" && !owner.isEmpty then
    "_" ++ String.ofList owner ++ name
  else name

/-- One accessor as it was read: its cache field, its own name, the visibility that its decorator is given, and what
fills the field. -/
structure Member where
  field : String
  property : String
  visibility : String
  fill : Expr
  deriving Repr

def visibilityOf : List Expr → Option String
  | [.call _ (.name _ "component_accessor") [.text _ visibility] []] => some visibility
  | _ => none

/-- The body of an accessor: on a condition, one assignment; then its answer. -/
def fillOf : List Stmt → Option Expr
  | [.block _ .conditional [.mk .suite _ [.assign [_] fill]], .other] => fill
  | _ => none

def Member.isSound (m : Member) : Bool :=
  m.field ≠ constantName && m.property ≠ constantName && m.fill.mayStand

def membersOf : List Stmt → Option (List Member)
  | [] => some []
  | .assign [.name _ field] _ :: .function property decorators body :: rest => do
    let m : Member := ⟨field, property, ← visibilityOf decorators, ← fillOf body⟩
    if m.isSound then return m :: (← membersOf rest) else none
  | _ => none

/-- The name of the mixin and its members; nothing if the text is not a class of that shape. -/
def readMixin (name : String) (accessors : List Accessor) : Option (String × List Member) :=
  match readModule (mixinText name accessors) with
  | some [.classDef _ className _ body] =>
    if className = constantName then none
    else if accessors.isEmpty then some (className, []) else (membersOf body).map (className, ·)
  | _ => none

/-- What a name of the class body that is read there stands for so far. -/
def ownSlot (slots : Ledger Slot) (name : String) : Slot := (Ledger.get? slots name).getD .unresolved

/-- Slots in the order in which the body defines them. Nothing if the helper that makes accessors has been
hidden by an accessor of its name. -/
def mixinSlots (origin : Origin) : Ledger Slot → List Member → Option (Ledger Slot)
  | slots, [] => some slots
  | slots, m :: rest =>
    let field := privateName origin.ownerName m.field
    let slots := Ledger.put field (ownSlot slots "UNRESOLVED") slots
    if Ledger.has slots "component_accessor" then none
    else
      let property := privateName origin.ownerName m.property
      mixinSlots origin (Ledger.put property (.accessor m.visibility (.lookup field m.fill origin)) slots) rest

/-- Names that refer to the class around an accessor. -/
def ownerNames : List String := ["__class__", "super"]

/-- The name under which a class body hands on the place of its own class, if an accessor refers to it. -/
def cellName : String := "__classcell__"

def slotsOf (origin : Origin) (members : List Member) : Option (Ledger Slot) :=
  (mixinSlots origin [] members).map fun slots =>
    if members.any fun m => m.fill.names.any ownerNames.contains then Ledger.erase slots cellName else slots

end AccessorForge.Hosting
