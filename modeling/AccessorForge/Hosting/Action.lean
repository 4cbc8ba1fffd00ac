import AccessorForge.Hosting.Evaluation
import AccessorForge.Text.Surrogate
/-! The run-time world in action: classes are made and decorated, hosts get their components, and accessors
look a component up once. Every action gives an answer or a fault, and the world after it. -/
namespace AccessorForge.Hosting

inductive Action
  | defineClass (name : String) (bases : List String) (equalsAll : Bool)
  | defineMixin (name : String) (accessors : List Accessor)
  | plainAccessor (cls name : String)
  | require (cls : String) (types : List String)
  | markGroup (cls : String) (arguments : List Value)
  | markGroupBare (cls : String)
  | requireOne (cls type : String) (arguments : List Value)
  | required (cls : String)
  | accessors (cls : String)
  | create (label cls : String)
  | add (host component : String)
  | remove (host component : String)
  | find (host cls : String)
  | components (host : String)
  | read (host name : String)
  | assign (host name component : String)
  deriving Repr

inductive Answer
  | nothing
  | flag (b : Bool)
  | text (s : String)
  | object (label : String)
  | objects (labels : List String)
  | unresolved
  | requirements (types : List String) (visibility : Value)
  | accessorList (accessors : List (String × String))
  deriving Repr

inductive Decoration
  | require (types : List ClassId)
  /-- Name and visibility are for those who read the source: nothing becomes of them here. -/
  | requireOne (type : ClassId) (name visibility : Value)
  | markGroup (visibility : Value)
  deriving Repr

namespace Act

def answerOf (d : Datum) : Act Answer := do
  let w ← get
  match d with
  | .unresolved => return .unresolved
  | .flag b => return .flag b
  | .text s => return .text s
  | .object o => return .object (w.label o)
  | .tuple items | .list items => return .objects ((Datum.objects items).map w.label)
  | _ => return .nothing

def register (name : String) (c : ClassId) : Act Unit :=
  modify fun w => { w with names := Ledger.put name c w.names }

def addClass (name : String) (parents : List ClassId) (slots : Ledger Slot) (equalsAll : Bool) : Act Answer := do
  let (table, c) ← ofOption ((← get).classes.define name parents slots equalsAll)
  modify fun w => { w with classes := table }
  register name c
  return .nothing

/-- Text that can be read at all has neither half of a surrogate pair nor a NUL character in it. -/
def requireReadable (text : List Char) : Act Unit := do
  if Text.Surrogate.areBroken text then throw .unencodable
  if text.contains '\x00' then throw .badValue

def defineClass (name : String) (bases : List String) (equalsAll : Bool) : Act Answer := do
  let parents ← bases.mapM classNamed
  requireReadable name.toList
  addClass name parents [] equalsAll

/-- The text of a mixin is read first; then its body runs, which sees all classes and the mixin itself. The name
in the text has to be the name that was asked for. -/
def defineMixin (name : String) (accessors : List Accessor) : Act Answer := do
  requireReadable (mixinText name accessors)
  match readMixin name accessors with
  | none => throw .badText
  | some (className, members) =>
    let w ← get
    let self := w.classes.length
    let slots ← ofOption (slotsOf ⟨self, className, Ledger.put className self w.names⟩ members)
    if className ≠ name then throw (.unknownKey name)
    addClass name [] slots false

/-- Classes can be changed, except the root of all. -/
def changeable (c : ClassId) : Act ClassId := if c = ClassTable.base then throw .badType else return c

def changeClasses (f : ClassTable → ClassTable) : Act Unit :=
  modify fun w => { w with classes := f w.classes }

def markGroup (c : ClassId) (visibility : Value) : Act Answer := do
  let c ← changeable c
  changeClasses fun t => t.markGroup c visibility
  return .flag true

/-- Record required types; what is recorded already comes first. -/
def require (c : ClassId) (types : List ClassId) : Act Answer := do
  let t ← ofOption ((← get).classes.require? c types)
  let _ ← changeable c
  changeClasses fun _ => t
  return .flag true

def decorate (c : ClassId) : Decoration → Act Answer
  | .require types => require c types
  | .requireOne type _ _ => require c [type]
  | .markGroup visibility => markGroup c visibility

/-- Attributes that a class keeps in another form, which an accessor does not have. -/
def typedNames : List String := ["__name__", "__qualname__", "__bases__", "__class__"]

/-- Attributes that a class does not let anyone set. -/
def fixedNames : List String :=
  ["__dict__", "__mro__", "__base__", "__basicsize__", "__itemsize__", "__flags__", "__dictoffset__",
    "__weakrefoffset__", "__text_signature__"]

/-- A class with this attribute has no instances. -/
def abstractName : String := "__abstractmethods__"

def plainAccessor (c : ClassId) (name : String) : Act Answer := do
  let c ← changeable c
  if typedNames.contains name then throw .badType
  if fixedNames.contains name then throw .badAttribute
  changeClasses fun t => t.setSlot c name (.accessor publicVisibility .nothing)
  if name = abstractName then changeClasses fun t => t.modify c fun k => { k with isAbstract := true }
  return .nothing

def readNamed (o : ObjectId) (name : String) : Act Datum := (reach maxNesting).read o name

def callMethod (method x : Datum) : Act Datum :=
  match method with
  | .method o m => (reach maxNesting).applyMethod o m ⟨[x], []⟩
  | _ => throw .badType

def perform : Action → Act Answer
  | .defineClass name bases equalsAll => defineClass name bases equalsAll
  | .defineMixin name accessors => defineMixin name accessors
  | .plainAccessor cls name => do plainAccessor (← classNamed cls) name
  | .require cls types => do
    let c ← classNamed cls
    decorate c (.require (← types.mapM classNamed))
  | .markGroup cls arguments => do
    let c ← classNamed cls
    match arguments with
    | [] => decorate c (.markGroup (.text publicVisibility))
    | [v] => decorate c (.markGroup v)
    | _ => throw .badType
  | .markGroupBare cls => do decorate (← classNamed cls) (.markGroup (.text publicVisibility))
  | .requireOne cls type arguments => do
    let c ← classNamed cls
    let type ← classNamed type
    match arguments with
    | [name] => decorate c (.requireOne type name (.text publicVisibility))
    | [name, visibility] => decorate c (.requireOne type name visibility)
    | _ => throw .badType
  | .required cls => do
    let c ← classNamed cls
    let t := (← get).classes
    let types ← ofOption (t.required? c)
    return .requirements (types.map t.nameOf) ((t.groupVisibility c).getD .null)
  | .accessors cls => do
    let c ← classNamed cls
    return .accessorList ((← get).classes.accessors c)
  | .create label cls => do
    let o ← (reach maxNesting).create label (← classNamed cls)
    modify fun w => { w with labels := Ledger.put label o w.labels }
    return .nothing
  | .add host component => do
    let method ← readNamed (← objectNamed host) "add_component"
    let _ ← callMethod method (.object (← objectNamed component))
    return .nothing
  | .remove host component => do
    let method ← readNamed (← objectNamed host) "remove_component"
    answerOf (← callMethod method (.object (← objectNamed component)))
  | .find host cls => do
    let method ← readNamed (← objectNamed host) "get_component"
    answerOf (← callMethod method (.cls (← classNamed cls)))
  | .components host => do
    let shown ← readNamed (← objectNamed host) "components"
    answerOf (.list (← (reach maxNesting).componentsIn shown))
  | .read host name => do answerOf (← readNamed (← objectNamed host) name)
  | .assign host name component => do
    let o ← objectNamed host
    let x ← objectNamed component
    (reach maxNesting).assign o name (.object x)
    return .nothing

end Act

/-- One action: its answer or fault, and the world after it. -/
def World.step (w : World) (a : Action) : Except Fault Answer × World := (Act.perform a).run.run w

end AccessorForge.Hosting
