import AccessorForge.Hosting.Reach
/-! Objects: their attributes, the accessors among them, and the components that hosts keep. -/
namespace AccessorForge.Hosting

/-! The components of a host. -/

def attachmentField : String := "_components"

namespace Reach

/-- The elements of a value that are known. An accessor for them never gives any, whatever its fault. -/
def componentsIn (r : Reach) (d : Datum) : Act (List Datum) := do
  tryCatchThe Fault (r.refuse d ["__iter__"]) fun _ => throw .badType
  r.refuse d ["__getitem__"]
  ofOption (Operation.elements? d)

def firstOf (r : Reach) (items : List Datum) (type : Datum) : Act Datum := do
  return (← items.findM? fun x => r.isOfType x Datum.maxDepth type).getD .nothing

/-- What a host keeps its components in; the first use makes an empty list. It is one of the host's own
attributes, which an accessor or its cache field may hide as a whole. -/
def attachmentOf (r : Reach) (o : ObjectId) : Act Datum := do
  let w ← get
  if let some getter := w.accessor? o "__dict__" then
    discard (r.run o getter)
    throw .badAttribute
  if (w.slot? o "__dict__").any (!·.isStandard) then throw .badAttribute
  match w.cell? o attachmentField with
  | none | some .nothing =>
    set (w.setCell o attachmentField (.list []))
    return .list []
  | some d => return d

def attachment (r : Reach) (o : ObjectId) : Act Datum := do
  match ← r.read o HostMethod.attachedComponents.name with
  | .method p .attachedComponents => r.attachmentOf p
  | _ => throw .badType

def applyMethod (r : Reach) (o : ObjectId) (m : HostMethod) (given : Given) : Act Datum := do
  match m with
  | .attachedComponents => if given.isEmpty then r.attachmentOf o else throw .badType
  | .getComponent =>
    let type ← ofOption (given.only? "component_type")
    r.firstOf (← r.componentsIn (← r.attachment o)) type
  | .addComponent =>
    let x ← ofOption (given.only? "component")
    match ← r.attachment o with
    | .list items =>
      modify fun w => w.setCell o attachmentField (.list (items ++ [x]))
      return .nothing
    | kept =>
      discard (r.attributeOf kept "append")
      throw .badType
  | .removeComponent =>
    let x ← ofOption (given.only? "component")
    let kept ← r.attachment o
    let items ← r.componentsIn kept
    if !items.any (Datum.same x) then return .flag false
    match kept with
    | .list items =>
      modify fun w => w.setCell o attachmentField (.list (items.eraseP (Datum.same x)))
      return .flag true
    | _ => throw .badType

end Reach

/-! Attributes. -/

/-- An attribute that an object has besides those of its own and of its class's slots. -/
def commonAttribute (w : World) (o : ObjectId) (name : String) : Answered :=
  let c := w.classOf o
  let isRoot := c = ClassTable.base
  match name with
  | "__class__" => .ok (.cls c)
  | "__dict__" =>
    if isRoot then .error .badAttribute
    else .ok (.mapping (((w.objects[o]?).map (·.cells)).getD [] |>.map fun (n, d) => (.text n, d)))
  | "__weakref__" => if isRoot then .error .badAttribute else .ok .nothing
  | "__module__" => if isRoot then .error .badAttribute else .ok (.text "builtins")
  | "__doc__" => Operation.classAttribute w c name
  | _ => if Ambient.objectAttributes.contains name then .ok (.other "method-wrapper") else .error .badAttribute

namespace Reach

/-- Attribute assignment; accessors and views refuse it, and so does an instance of the root class. What every object
has cannot be assigned unless its class has something of its own in that place. -/
def assign (r : Reach) (o : ObjectId) (name : String) (d : Datum) : Act Unit := do
  let w ← get
  if let some getter := w.accessor? o "__setattr__" then r.runInstead o getter
  if (w.slot? o name).any Slot.isGuarding then throw .badAttribute
  if name = "__class__" && (w.slot? o name).isNone then throw .badType
  if w.classOf o = ClassTable.base then throw .badAttribute
  if name = "__dict__" && (w.slot? o name).all Slot.isStandard then throw .badType
  if name = "__weakref__" && (w.slot? o name).all Slot.isStandard then throw .badAttribute
  set (w.setCell o name d)

/-- Run an accessor: while its cache field holds nothing yet, it is filled first. -/
def runGetter (r : Reach) (o : ObjectId) (getter : Getter) : Act Datum := do
  match getter with
  | .nothing => return .nothing
  | .lookup field fill origin =>
    if fill.yields then return .other "generator"
    let f : Frame := ⟨o, origin, (fill.bindings true).map (privateName origin.ownerName), []⟩
    let bound : Ledger Datum := [("self", .object o)]
    let cached ← r.read o field
    if Datum.same cached (← ofAnswer (f.value bound "UNRESOLVED")) then
      r.assign o field (← (r.evaluate f fill).run' bound)
    r.read o field

/-- Accessors and views win over the object's own attributes, which win over the rest of its class. -/
def readOwn (r : Reach) (o : ObjectId) (name : String) : Act Datum := do
  let w ← get
  match w.slot? o name with
  | some (.accessor _ getter) => r.run o getter
  | some .componentsView => return .tuple (← r.componentsIn (← r.attachment o))
  | slot =>
    match w.cell? o name, slot with
    | some d, _ => return d
    | none, some (.method m) => return .method o m
    | none, some .standard | none, none => ofAnswer (commonAttribute w o name)
    | none, some s => return Operation.ofSlot s

/-- Attribute access. What is missing goes to an accessor for missing attributes, if there is one, and all goes
to an accessor for every attribute. -/
def readThrough (r : Reach) (o : ObjectId) (name : String) : Act Datum := do
  let w ← get
  if let some getter := w.accessor? o "__getattribute__" then r.runInstead o getter
  match w.accessor? o "__getattr__" with
  | none => r.readOwn o name
  | some getter =>
    tryCatchThe Fault (r.readOwn o name) fun
      | .badAttribute => r.runInstead o getter
      | fault => throw fault

def create (r : Reach) (label : String) (c : ClassId) : Act ObjectId := do
  let w ← get
  if (w.classes.accessor? c "__new__").isSome || ((w.classes[c]?).any (·.isAbstract)) then throw .badType
  let o := w.objects.length
  set (w.push label c)
  if let some getter := w.classes.accessor? c "__init__" then r.runInstead o getter
  return o

end Reach

end AccessorForge.Hosting
