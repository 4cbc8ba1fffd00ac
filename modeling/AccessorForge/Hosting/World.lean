import AccessorForge.Hosting.Classes
/-! The state of the run-time world: classes, objects and the names under which both are known. -/
namespace AccessorForge.Hosting

structure Object where
  label : String
  cls : ClassId
  cells : Ledger Datum := []
  deriving Repr

structure World where
  classes : ClassTable := ClassTable.initial
  names : Ledger ClassId := [("object", ClassTable.base), ("ComponentHost", ClassTable.host)]
  objects : List Object := []
  labels : Ledger ObjectId := []
  deriving Repr

inductive Fault
  | unknownKey (key : String)
  /-- A mapping has no such key, which is shown in words. -/
  | missingEntry (shown : String)
  | undefinedName (name : String)
  /-- A name of the accessor's own that has no value yet. -/
  | unboundName (name : String)
  | badAttribute
  | badType
  | badValue
  | badText
  | unencodable
  | division (message : String)
  /-- An index beyond the end of something of this kind. -/
  | outOfRange (kind : String)
  /-- Elements on demand have come to their end. -/
  | exhausted
  /-- Accessors that read each other without end. -/
  | endless
  deriving DecidableEq, Repr

abbrev Act := ExceptT Fault (StateM World)

namespace World

def classOf (w : World) (o : ObjectId) : ClassId := ((w.objects[o]?).map (·.cls)).getD ClassTable.base

def cell? (w : World) (o : ObjectId) (name : String) : Option Datum :=
  (w.objects[o]?).bind fun x => Ledger.get? x.cells name

def setCell (w : World) (o : ObjectId) (name : String) (d : Datum) : World :=
  { w with objects := w.objects.modify o fun x => { x with cells := Ledger.put name d x.cells } }

def slot? (w : World) (o : ObjectId) (name : String) : Option Slot := w.classes.slot? (w.classOf o) name

def accessor? (w : World) (o : ObjectId) (name : String) : Option Getter := w.classes.accessor? (w.classOf o) name

def label (w : World) (o : ObjectId) : String := ((w.objects[o]?).map (·.label)).getD ""

def isInstance (w : World) (o : ObjectId) (c : ClassId) : Bool := w.classes.isSubclass (w.classOf o) c

def equalsAll (w : World) (o : ObjectId) : Bool :=
  (w.classes.search (w.classOf o) fun k => if k.equalsAll then some () else none).isSome

def push (w : World) (label : String) (c : ClassId) : World := { w with objects := w.objects ++ [⟨label, c, []⟩] }

end World

namespace Act

def classNamed (name : String) : Act ClassId := do
  match Ledger.get? (← get).names name with
  | some c => return c
  | none => throw (.unknownKey name)

def objectNamed (label : String) : Act ObjectId := do
  match Ledger.get? (← get).labels label with
  | some o => return o
  | none => throw (.unknownKey label)

end Act

end AccessorForge.Hosting
