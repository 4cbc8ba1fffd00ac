import AccessorForge.Proofs.Memoization
/-! Hosts at work. An instance that has the host's own methods in place, and whose components tell their class
themselves, keeps a list of components: adding and removing change the list, and a lookup finds the first of its
members that is an instance of the class, and leaves it as it is. -/
namespace AccessorForge.Hosting
open Running Syntax

namespace World
variable {w v : World} {x y : ObjectId}

def attached (w : World) (x : ObjectId) : List Datum :=
  match w.cell? x attachmentField with
  | some (.list items) => items
  | _ => []

def opened (w : World) (x : ObjectId) : World :=
  match w.cell? x attachmentField with
  | some (.list _) => w
  | _ => w.setCell x attachmentField (.list [])

def isOf (w : World) (c : ClassId) : Datum → Bool
  | .object y => w.isInstance y c
  | _ => false

/-- The first component of a host that is an instance of a class. -/
def found (w : World) (x : ObjectId) (c : ClassId) : Datum := ((w.attached x).find? (w.isOf c)).getD .nothing

/-- An object of which neither an accessor nor an attribute tells another class than its own. -/
structure Plain (w : World) (y : ObjectId) : Prop where
  free : w.accessor? y "__getattribute__" = none
  slot : w.slot? y "__class__" = none
  cell : w.cell? y "__class__" = none

instance : Decidable (w.Plain y) :=
  decidable_of_iff (w.accessor? y "__getattribute__" = none ∧ w.slot? y "__class__" = none ∧ w.cell? y "__class__" = none)
    ⟨fun ⟨free, slot, cell⟩ => ⟨free, slot, cell⟩, fun plain => ⟨plain.free, plain.slot, plain.cell⟩⟩

/-! Worlds that differ in what instances hold. -/

/-- The second world differs from the first one only in the instances' own attributes. -/
structure Refilled (w v : World) : Prop where
  classes : v.classes = w.classes
  names : v.names = w.names
  labels : v.labels = w.labels
  length : v.objects.length = w.objects.length
  classOf : ∀ y, v.classOf y = w.classOf y
  label : ∀ y, v.label y = w.label y

namespace Refilled

theorem refl (w : World) : Refilled w w := ⟨rfl, rfl, rfl, rfl, fun _ => rfl, fun _ => rfl⟩

theorem trans {u : World} (first : Refilled w v) (second : Refilled v u) : Refilled w u where
  classes := second.classes.trans first.classes
  names := second.names.trans first.names
  labels := second.labels.trans first.labels
  length := second.length.trans first.length
  classOf y := (second.classOf y).trans (first.classOf y)
  label y := (second.label y).trans (first.label y)

theorem setCell (w : World) (x : ObjectId) (name : String) (d : Datum) : Refilled w (w.setCell x name d) := by
  have object (y : ObjectId) : (w.setCell x name d).objects[y]? =
      w.objects[y]?.map fun o => if x = y then { o with cells := Ledger.put name d o.cells } else o := by
    rw [World.setCell, List.getElem?_modify]
    rfl
  refine ⟨rfl, rfl, rfl, List.length_modify _ _ _, fun y => ?_, fun y => ?_⟩
  · rw [World.classOf, World.classOf, object]
    cases w.objects[y]? with
    | none => rfl
    | some o => by_cases here : x = y <;> simp [here]
  · rw [World.label, World.label, object]
    cases w.objects[y]? with
    | none => rfl
    | some o => by_cases here : x = y <;> simp [here]

theorem opened (w : World) (x : ObjectId) : Refilled w (w.opened x) := by
  unfold World.opened
  split
  · exact refl w
  · exact setCell w x _ _

variable (same : Refilled w v)
include same

theorem slot (y : ObjectId) (name : String) : v.slot? y name = w.slot? y name := by
  rw [World.slot?, World.slot?, same.classes, same.classOf]

theorem accessor (y : ObjectId) (name : String) : v.accessor? y name = w.accessor? y name := by
  rw [World.accessor?, World.accessor?, same.classes, same.classOf]

theorem isOf (c : ClassId) (d : Datum) : v.isOf c d = w.isOf c d := by
  cases d with
  | object y => rw [World.isOf, World.isOf, World.isInstance, World.isInstance, same.classes, same.classOf]
  | _ => rfl

end Refilled

theorem cellSet (alive : x < w.objects.length) (field name : String) (d : Datum) :
    (w.setCell x field d).cell? x name = if name = field then some d else w.cell? x name := by
  rw [cell?, cell?, setCell, List.getElem?_modify, List.getElem?_eq_getElem alive]
  simp [Ledger.getPut]

theorem cellKept {field name : String} (apart : name ≠ field) (d : Datum) :
    (w.setCell x field d).cell? y name = w.cell? y name := by
  rw [cell?, cell?, setCell, List.getElem?_modify]
  cases w.objects[y]? with
  | none => rfl
  | some o => by_cases here : x = y <;> simp [here, Ledger.getPut, apart]

theorem plainSet (plain : w.Plain y) {field : String} (apart : "__class__" ≠ field) (d : Datum) :
    (w.setCell x field d).Plain y := by
  have same := Refilled.setCell w x field d
  exact ⟨same.accessor y _ ▸ plain.free, same.slot y _ ▸ plain.slot, (cellKept apart d).trans plain.cell⟩

theorem plainOpened (plain : w.Plain y) (x : ObjectId) : (w.opened x).Plain y := by
  unfold opened
  split
  · exact plain
  · exact plainSet plain (by decide) _

theorem attachedOpened (alive : x < w.objects.length) : (w.opened x).attached x = w.attached x := by
  unfold opened
  split
  · rfl
  · next other =>
    have empty : w.attached x = [] := by
      unfold attached
      split
      · next items held => exact (other items held).elim
      · rfl
    rw [empty, attached, cellSet alive]
    rfl

theorem attachedKept (alive : x < w.objects.length) (items : List Datum) :
    (w.setCell x attachmentField (.list items)).attached x = items := by
  rw [attached, cellSet alive, if_pos rfl]

theorem attachedStored {field : String} (apart : attachmentField ≠ field) (d : Datum) :
    (w.setCell x field d).attached x = w.attached x := by
  rw [attached, cellKept apart, attached]

end World

/-! The class that an object says it is of. -/

section
variable {w : World} {y : ObjectId} (plain : w.Plain y)
include plain

theorem saidOwn (n : Nat) : ((reach (n + 1)).read y "__class__").runIn w = (.ok (.cls (w.classOf y)), w) := by
  refine Reach.readThroughOf plain.free ?_
  unfold Reach.readOwn
  rw [bindOf (getIn w), plain.slot]
  dsimp only
  rw [plain.cell]
  rfl

theorem typeAsked (n depth : Nat) (c : ClassId) :
    ((reach (n + 1)).isOfType (.object y) (depth + 2) (.cls c)).runIn w = (.ok (w.isInstance y c), w) := by
  have asked : Operation.isOfType w (.object y) (.cls c) = .ok (w.isInstance y c) := rfl
  unfold Reach.isOfType
  rw [bindOf (getIn w)]
  dsimp only
  rw [asked]
  cases own : w.isInstance y c with
  | true => rfl
  | false =>
    have said : ((reach (n + 1)).saidClass y).runIn w = (.ok (.cls (w.classOf y)), w) := by
      unfold Reach.saidClass
      rw [catchIn, saidOwn plain]
    have again : Operation.isInstance w (.cls (w.classOf y)) (depth + 1) (.cls c) = .ok (w.isInstance y c) := rfl
    change ((reach (n + 1)).saidClass y >>= _ : Act Bool).runIn w = _
    rw [bindOf said]
    change (ofAnswer (Operation.isInstance w (.cls (w.classOf y)) (depth + 1) (.cls c))).runIn w = _
    rw [again, own]
    rfl

end

/-- Components that tell their class themselves are looked through without a trace. -/
theorem firstFound {w : World} {items : List Datum} (plain : ∀ d ∈ items, ∃ y, d = .object y ∧ w.Plain y) (n : Nat)
    (c : ClassId) : ((reach (n + 1)).firstOf items (.cls c)).runIn w =
      (.ok ((items.find? (w.isOf c)).getD .nothing), w) := by
  have looked : (items.findM? fun d => (reach (n + 1)).isOfType d Datum.maxDepth (.cls c)).runIn w =
      (.ok (items.find? (w.isOf c)), w) := by
    induction items with
    | nil => rfl
    | cons d rest ih =>
      obtain ⟨y, rfl, own⟩ := plain d List.mem_cons_self
      have later := ih fun e member => plain e (List.mem_cons_of_mem _ member)
      have asked : ((reach (n + 1)).isOfType (.object y) Datum.maxDepth (.cls c)).runIn w = (.ok (w.isInstance y c), w) :=
        typeAsked own n 998 c
      rw [List.findM?, bindOf asked, List.find?_cons]
      change (match w.isInstance y c with
        | true => pure (some (Datum.object y))
        | false => rest.findM? _ : Act (Option Datum)).runIn w = (.ok (match w.isInstance y c with
        | true => _
        | false => _), w)
      cases w.isInstance y c with
      | true => rfl
      | false => exact later
  unfold Reach.firstOf
  rw [bindOf looked]
  rfl

/-! The host's own methods. -/

/-- What a class defines itself. -/
def ClassTable.ownSlots (t : ClassTable) (c : ClassId) : Ledger Slot := ((t[c]?).map (·.slots)).getD []

theorem ClassTable.slotSearched (t : ClassTable) (c : ClassId) (name : String) :
    t.slot? c name = (t.order c).findSome? fun d => Ledger.get? (t.ownSlots d) name := by
  unfold ClassTable.slot? ClassTable.search
  congr 1
  funext d
  unfold ClassTable.ownSlots
  cases t[d]? with
  | none => rfl
  | some k => rfl

/-- What the host mixin defines, as it comes. -/
def hostSlots : Ledger Slot := ClassTable.initial.ownSlots ClassTable.host

/-- Attributes that everything is read and written through. -/
def passageNames : List String := ["__getattribute__", "__setattr__"]

/-- Attributes that hold what a host is and has. -/
def stateNames : List String := [attachmentField, "__class__"] ++ hostSlots.keys

/-- A host whose own methods are in place, with components that tell their class themselves. -/
structure World.Serves (w : World) (x : ObjectId) : Prop where
  alive : x < w.objects.length
  own : ∀ m : HostMethod, w.slot? x m.name = some (.method m) ∧ w.cell? x m.name = none
  view : w.slot? x "components" = some .componentsView
  /-- Nothing stands in the place of its attributes as a whole. -/
  whole : (w.slot? x "__dict__").all Slot.isStandard = true
  apart : ∀ name visibility getter, w.slot? x name = some (.accessor visibility getter) →
    name ∉ passageNames ++ hostSlots.keys
  kept : w.cell? x attachmentField = none ∨ ∃ items, w.cell? x attachmentField = some (.list items)
  plain : ∀ d ∈ w.attached x, ∃ y, d = .object y ∧ w.Plain y

namespace World.Serves
variable {w : World} {x : ObjectId} (serves : w.Serves x)
include serves

theorem free {name : String} (taken : name ∈ passageNames ++ hostSlots.keys) : w.accessor? x name = none := by
  cases found : w.accessor? x name with
  | none => rfl
  | some g =>
    obtain ⟨v, slot⟩ := World.accessorSlot found
    exact (serves.apart name v g slot taken).elim

theorem method (n : Nat) (m : HostMethod) : ((reach (n + 1)).read x m.name).runIn w = (.ok (.method x m), w) := by
  refine Reach.readThroughOf (serves.free (by decide)) ?_
  unfold Reach.readOwn
  rw [bindOf (getIn w), (serves.own m).1]
  dsimp only
  rw [(serves.own m).2]
  rfl

theorem attachmentIs (r : Reach) : (r.attachmentOf x).runIn w = (.ok (.list (w.attached x)), w.opened x) := by
  have whole : (w.slot? x "__dict__").any (!·.isStandard) = false := by
    have whole := serves.whole
    cases held : w.slot? x "__dict__" with
    | none => rfl
    | some s =>
      rw [held] at whole
      simpa using whole
  unfold Reach.attachmentOf World.attached World.opened
  rw [bindOf (getIn w), serves.free (by decide)]
  dsimp only
  rw [whole]
  rcases serves.kept with empty | ⟨items, held⟩
  · rw [empty]
    rfl
  · rw [held]
    rfl

theorem attachment (n : Nat) : ((reach (n + 1)).attachment x).runIn w = (.ok (.list (w.attached x)), w.opened x) := by
  unfold Reach.attachment
  rw [bindOf (serves.method n .attachedComponents)]
  exact serves.attachmentIs _

omit serves in
theorem listed (r : Reach) (v : World) (items : List Datum) : (r.componentsIn (.list items)).runIn v = (.ok items, v) := rfl

theorem lookup (n : Nat) (c : ClassId) :
    ((reach (n + 1)).applyMethod x .getComponent ⟨[.cls c], []⟩).runIn w = (.ok (w.found x c), w.opened x) := by
  have plain : ∀ d ∈ w.attached x, ∃ y, d = .object y ∧ (w.opened x).Plain y := by
    intro d member
    obtain ⟨y, same, plain⟩ := serves.plain d member
    exact ⟨y, same, World.plainOpened plain x⟩
  have answer : (w.opened x).isOf c = w.isOf c := funext fun d => (Refilled.opened w x).isOf c d
  change ((reach (n + 1)).attachment x >>= fun kept => (reach (n + 1)).componentsIn kept >>= fun items =>
    (reach (n + 1)).firstOf items (.cls c) : Act Datum).runIn w = _
  rw [bindOf (serves.attachment n), bindOf (listed _ _ _), firstFound plain, answer]
  rfl

theorem adds (n : Nat) (d : Datum) : ((reach (n + 1)).applyMethod x .addComponent ⟨[d], []⟩).runIn w =
    (.ok .nothing, (w.opened x).setCell x attachmentField (.list (w.attached x ++ [d]))) := by
  change ((reach (n + 1)).attachment x >>= _ : Act Datum).runIn w = _
  rw [bindOf (serves.attachment n)]
  rfl

theorem removes (n : Nat) (d : Datum) : ((reach (n + 1)).applyMethod x .removeComponent ⟨[d], []⟩).runIn w =
    if (w.attached x).any (Datum.same d) then
      (.ok (.flag true), (w.opened x).setCell x attachmentField (.list ((w.attached x).eraseP (Datum.same d))))
    else (.ok (.flag false), w.opened x) := by
  change ((reach (n + 1)).attachment x >>= fun kept => (reach (n + 1)).componentsIn kept >>= _ : Act Datum).runIn w = _
  rw [bindOf (serves.attachment n), bindOf (listed _ _ _)]
  cases known : (w.attached x).any (Datum.same d) with
  | true =>
    simp only [Bool.not_true, Bool.false_eq_true, if_false, if_true]
    rfl
  | false =>
    simp only [Bool.not_false, if_true, Bool.false_eq_true, if_false]
    rfl

theorem shows (n : Nat) : ((reach (n + 2)).read x "components").runIn w = (.ok (.tuple (w.attached x)), w.opened x) := by
  refine Reach.readThroughOf (serves.free (by decide)) ?_
  unfold Reach.readOwn
  rw [bindOf (getIn w), serves.view]
  dsimp only
  rw [bindOf (serves.attachment n), bindOf (listed _ _ _)]
  rfl

/-! What is written to a host. -/

theorem wrote {field : String} {d : Datum} (apart : ∀ m : HostMethod, m.name ≠ field)
    (kept : (w.setCell x field d).cell? x attachmentField = none ∨
      ∃ items, (w.setCell x field d).cell? x attachmentField = some (.list items))
    (plain : ∀ e ∈ (w.setCell x field d).attached x, ∃ y, e = .object y ∧ (w.setCell x field d).Plain y) :
    (w.setCell x field d).Serves x := by
  have same := Refilled.setCell w x field d
  refine ⟨same.length ▸ serves.alive, fun m => ?_, ?_, ?_, fun name visibility getter slot => ?_, kept, plain⟩
  · rw [same.slot, World.cellKept (apart m)]
    exact serves.own m
  · rw [same.slot]
    exact serves.view
  · rw [same.slot]
    exact serves.whole
  · rw [same.slot] at slot
    exact serves.apart name visibility getter slot

theorem keeps {items : List Datum} (plain : ∀ d ∈ items, ∃ y, d = .object y ∧ w.Plain y) :
    (w.setCell x attachmentField (.list items)).Serves x := by
  refine serves.wrote (fun m => by cases m <;> decide) (.inr ⟨items, ?_⟩) ?_
  · rw [World.cellSet serves.alive, if_pos rfl]
  · rw [World.attachedKept serves.alive]
    intro d member
    obtain ⟨y, same, own⟩ := plain d member
    exact ⟨y, same, World.plainSet own (by decide) _⟩

theorem opens : (w.opened x).Serves x := by
  unfold World.opened
  split
  · exact serves
  · exact serves.keeps (by simp)

theorem stores {field : String} (apart : field ∉ stateNames) (d : Datum) : (w.setCell x field d).Serves x := by
  have other {name : String} (taken : name ∈ stateNames) : name ≠ field := fun same => apart (same ▸ taken)
  refine serves.wrote (fun m => other (by cases m <;> decide)) ?_ ?_
  · rw [World.cellKept (other (by decide))]
    exact serves.kept
  · rw [World.attachedStored (other (by decide))]
    intro e member
    obtain ⟨y, same, own⟩ := serves.plain e member
    exact ⟨y, same, World.plainSet own (other (by decide)) _⟩

end World.Serves

/-! Reads of an accessor on a host. -/

theorem Reach.assignOf {r : Reach} {w : World} {o : ObjectId} {name : String} (open' : w.accessor? o "__setattr__" = none)
    (unguarded : (w.slot? o name).any Slot.isGuarding = false) (apart : name ∉ ["__class__", "__dict__", "__weakref__"])
    (below : w.classOf o ≠ ClassTable.base) (d : Datum) : (r.assign o name d).runIn w = (.ok (), w.setCell o name d) := by
  simp only [List.mem_cons, List.not_mem_nil, or_false, not_or] at apart
  unfold Reach.assign
  rw [bindOf (getIn w), open']
  dsimp only
  simp only [unguarded, apart, below, Bool.false_eq_true, if_false]
  rfl

namespace Memo
variable {m : Memo} {w v : World} {x : ObjectId}

/-- The accessor is what the property of the host means, its field is the mark for nothing found, and neither another
accessor nor the host itself has that field. -/
structure Seated (m : Memo) (w : World) (x : ObjectId) : Prop where
  plain : m.type.yields = false ∧ m.type.bindings true = []
  found : ∃ visibility, w.slot? x m.property = some (.accessor visibility m.getter)
  marked : w.slot? x m.field = some .unresolved
  visible : Ledger.get? m.origin.scope "UNRESOLVED" = none
  alone : ∀ name visibility field fill origin,
    w.slot? x name = some (.accessor visibility (.lookup field fill origin)) → name ≠ m.property → field ≠ m.field
  room : m.field ∉ stateNames

namespace Seated
variable (seated : m.Seated w x)
include seated

theorem other {name : String} (taken : name ∈ stateNames) : name ≠ m.field := fun same => seated.room (same ▸ taken)

theorem keptBy (slots : ∀ name, v.slot? x name = w.slot? x name) : m.Seated v x where
  plain := seated.plain
  found := slots _ ▸ seated.found
  marked := slots _ ▸ seated.marked
  visible := seated.visible
  alone := fun name visibility field fill origin slot =>
    seated.alone name visibility field fill origin (slots name ▸ slot)
  room := seated.room

/-- Accessors of an instance that share a field are one, and look up one class. -/
theorem sameClass {n : Memo} (other : n.Seated w x) (shared : m.field = n.field) {c d : ClassId} (mine : m.Names c)
    (yours : n.Names d) : d = c := by
  obtain ⟨_, slot⟩ := seated.found
  obtain ⟨_, found⟩ := other.found
  have property : n.property = m.property := by
    by_contra apart
    exact seated.alone _ _ _ _ _ found apart shared.symm
  rw [property, slot] at found
  simp only [getter, fill, Option.some.injEq, Slot.accessor.injEq, Getter.lookup.injEq, Expr.call.injEq, List.cons.injEq] at found
  obtain ⟨-, -, ⟨-, -, ⟨type, -⟩, -⟩, origin⟩ := found
  obtain ⟨_, _, named, _, known⟩ := mine
  obtain ⟨_, _, called, _, held⟩ := yours
  rw [← type, named, Expr.name.injEq] at called
  rw [← origin, ← called.2, known] at held
  exact Option.some.inj held.symm

/-- The first read of the property gives what is found among the components and keeps it; later reads give what is
kept. -/
theorem readsHost (serves : w.Serves x) (below : w.classOf x ≠ ClassTable.base) {c : ClassId} (named : m.Names c)
    (k : Nat) : ((reach (k + 5)).read x m.property).runIn w =
      if (w.held x m.field).isUnresolved then (.ok (w.found x c), (w.opened x).setCell x m.field (w.found x c))
      else (.ok (w.held x m.field), w) := by
  obtain ⟨_, slot⟩ := seated.found
  have asks : w.AsksHost x := serves.own .getComponent
  have open' : w.accessor? x "__getattribute__" = none := serves.free (by decide)
  have through {d : Datum} {v : World}
      (ran : ((reach (k + 3)).runGetter x m.getter).runIn w = (.ok d, v)) :
      ((reach (k + 5)).read x m.property).runIn w = (.ok d, v) :=
    Reach.readThroughOf open' ((readOwnRuns slot (k + 3)).trans ran)
  have runs := runMarked open' seated.marked seated.plain seated.visible (k + 2)
  cases unread : (w.held x m.field).isUnresolved with
  | false => exact through (by rw [runs, unread]; rfl)
  | true =>
    have same := World.Refilled.opened w x
    have later := serves.opens
    have marked : (w.opened x).slot? x m.field = some .unresolved := (same.slot x m.field).trans seated.marked
    have apart : ∀ name ∈ ["__class__", "__dict__", "__weakref__"], name ∈ stateNames := by decide
    have looked : (m.lookup (k + 3) x).runIn w = (.ok (w.found x c), w.opened x) :=
      (lookupIs open' asks named).trans (serves.lookup k c)
    have assigned := Reach.assignOf (r := reach (k + 3)) (later.free (by decide)) (by rw [marked]; rfl)
      (fun listed => seated.room (apart _ listed)) (same.classOf x ▸ below) (w.found x c)
    have after := World.Refilled.setCell (w.opened x) x m.field (w.found x c)
    have again := readMarked ((later.stores seated.room _).free (by decide)) ((after.slot x m.field).trans marked) (k + 2)
    refine through ?_
    rw [runs, unread, if_pos rfl, bindOf looked, store, bindOf assigned, again, World.setCellSelf later.alive]

end Seated

end Memo

/-! Actions on a host. -/

theorem objectUnknown {w : World} {label : String} (unnamed : Ledger.get? w.labels label = none) :
    (Act.objectNamed label).runIn w = (.error (.unknownKey label), w) := by
  unfold Act.objectNamed
  rw [bindOf (getIn w), unnamed]
  rfl

section
variable {w : World} {x : ObjectId} {host : String} (serves : w.Serves x) (named : Ledger.get? w.labels host = some x)
include serves named

theorem methodRead {α : Type} (m : HostMethod) (f : Datum → Act α) :
    (do f (← Act.readNamed (← Act.objectNamed host) m.name) : Act α).runIn w = (f (.method x m)).runIn w := by
  have read : (Act.readNamed x m.name).runIn w = (.ok (.method x m), w) := serves.method 2999 m
  rw [bindOf (objectKnown named), bindOf read]

theorem stepAdd (component : String) : w.step (.add host component) =
    match Ledger.get? w.labels component with
    | some y => (.ok .nothing, (w.opened x).setCell x attachmentField (.list (w.attached x ++ [.object y])))
    | none => (.error (.unknownKey component), w) := by
  refine (methodRead serves named .addComponent _).trans ?_
  cases known : Ledger.get? w.labels component with
  | none => rw [bindIn, objectUnknown known]
  | some y =>
    have added : (Act.callMethod (.method x .addComponent) (.object y)).runIn w =
        (.ok .nothing, (w.opened x).setCell x attachmentField (.list (w.attached x ++ [.object y]))) :=
      serves.adds 2999 (.object y)
    rw [bindOf (objectKnown known), bindOf added]
    rfl

theorem stepRemove (component : String) : w.step (.remove host component) =
    match Ledger.get? w.labels component with
    | some y =>
      if (w.attached x).any (Datum.same (.object y)) then
        (.ok (.flag true), (w.opened x).setCell x attachmentField (.list ((w.attached x).eraseP (Datum.same (.object y)))))
      else (.ok (.flag false), w.opened x)
    | none => (.error (.unknownKey component), w) := by
  refine (methodRead serves named .removeComponent _).trans ?_
  cases known : Ledger.get? w.labels component with
  | none => rw [bindIn, objectUnknown known]
  | some y =>
    have removed : (Act.callMethod (.method x .removeComponent) (.object y)).runIn w =
      if (w.attached x).any (Datum.same (.object y)) then
        (.ok (.flag true), (w.opened x).setCell x attachmentField (.list ((w.attached x).eraseP (Datum.same (.object y)))))
      else (.ok (.flag false), w.opened x) := serves.removes 2999 (.object y)
    rw [bindOf (objectKnown known)]
    dsimp only
    split at removed
    · next there =>
      rw [bindOf removed, if_pos there]
      rfl
    · next gone =>
      rw [bindOf removed, if_neg gone]
      rfl

theorem stepFind (cls : String) : w.step (.find host cls) =
    match Ledger.get? w.names cls with
    | some c => (Act.answerOf (w.found x c)).runIn (w.opened x)
    | none => (.error (.unknownKey cls), w) := by
  refine (methodRead serves named .getComponent _).trans ?_
  cases known : Ledger.get? w.names cls with
  | none =>
    have missing : (Act.classNamed cls).runIn w = (.error (.unknownKey cls), w) := by
      unfold Act.classNamed
      rw [bindOf (getIn w), known]
      rfl
    rw [bindIn, missing]
  | some c =>
    have met : (Act.classNamed cls).runIn w = (.ok c, w) := by
      unfold Act.classNamed
      rw [bindOf (getIn w), known]
      rfl
    have looked : (Act.callMethod (.method x .getComponent) (.cls c)).runIn w = (.ok (w.found x c), w.opened x) :=
      serves.lookup 2999 c
    rw [bindOf met, bindOf looked]

theorem stepComponents : w.step (.components host) =
    (.ok (.objects ((Datum.objects (w.attached x)).map w.label)), w.opened x) := by
  have shown : (Act.readNamed x "components").runIn w = (.ok (.tuple (w.attached x)), w.opened x) := serves.shows 2998
  have listed : ((reach maxNesting).componentsIn (.tuple (w.attached x))).runIn (w.opened x) =
    (.ok (w.attached x), w.opened x) := rfl
  have labels : (w.opened x).label = w.label := funext (World.Refilled.opened w x).label
  change (Act.objectNamed host >>= fun o => Act.readNamed o "components" >>= fun shown =>
    (reach maxNesting).componentsIn shown >>= fun items => Act.answerOf (.list items) : Act Answer).runIn w = _
  rw [bindOf (objectKnown named), bindOf shown, bindOf listed, ← labels]
  rfl

end

/-! Runs. -/

/-- Uses of one host: its methods, its components, and reads of some properties. -/
def Action.Visits (host : String) (properties : List String) : Action → Prop
  | .add h _ | .remove h _ | .find h _ | .components h => h = host
  | .read h name => h = host ∧ name ∈ properties
  | _ => False

/-- What a lookup may give: nothing, or an instance of the class that has been seen. -/
def World.Supplies (w : World) (seen : Datum → Prop) (c : ClassId) (d : Datum) : Prop :=
  d = .nothing ∨ ∃ y, d = .object y ∧ w.isInstance y c = true ∧ seen d

/-- After some uses of a host that had neither components nor results before: it works as before, its components have
been seen, and each of its accessors has kept nothing yet or what its lookup may give. -/
structure Served (w : World) (x : ObjectId) (seen : Datum → Prop) (v : World) : Prop where
  same : w.Refilled v
  serves : v.Serves x
  plain : ∀ label y, Ledger.get? w.labels label = some y → v.Plain y
  attached : ∀ d ∈ v.attached x, seen d
  held : ∀ (m : Memo) c, m.Seated w x → m.Names c →
    v.held x m.field = .unresolved ∨ w.Supplies seen c (v.held x m.field)

namespace Served
variable {w v : World} {x : ObjectId} {seen later : Datum → Prop}

theorem suppliesMore (more : ∀ d, seen d → later d) {c : ClassId} {d : Datum} (supplies : w.Supplies seen c d) :
    w.Supplies later c d :=
  supplies.imp_right fun ⟨y, same, own, known⟩ => ⟨y, same, own, more d known⟩

variable (served : Served w x seen v)
include served

theorem more (more : ∀ d, seen d → later d) : Served w x later v :=
  ⟨served.same, served.serves, served.plain, fun d member => more d (served.attached d member),
    fun m c seated names => (served.held m c seated names).imp_right (suppliesMore more)⟩

theorem found (c : ClassId) : w.Supplies seen c (v.found x c) := by
  unfold World.found
  cases first : (v.attached x).find? (v.isOf c) with
  | none => exact .inl rfl
  | some d =>
    have member := List.mem_of_find?_eq_some first
    have own := List.find?_some first
    obtain ⟨y, rfl, _⟩ := served.serves.plain d member
    rw [served.same.isOf] at own
    exact .inr ⟨y, rfl, own, served.attached _ member⟩

theorem keeps {items : List Datum} (plain : ∀ d ∈ items, ∃ y, d = .object y ∧ v.Plain y) (known : ∀ d ∈ items, seen d) :
    Served w x seen (v.setCell x attachmentField (.list items)) where
  same := served.same.trans (World.Refilled.setCell v x _ _)
  serves := served.serves.keeps plain
  plain := fun label y labelled => World.plainSet (served.plain label y labelled) (by decide) _
  attached := by
    rw [World.attachedKept served.serves.alive]
    exact known
  held := fun m c seated names => by
    rw [World.setCellOther v _ fun _ => seated.other (by decide)]
    exact served.held m c seated names

theorem opens : Served w x seen (v.opened x) := by
  unfold World.opened
  split
  · exact served
  · exact served.keeps (by simp) (by simp)

theorem stores {m : Memo} {c : ClassId} (seated : m.Seated w x) (names : m.Names c) {d : Datum}
    (supplies : w.Supplies seen c d) : Served w x seen (v.setCell x m.field d) where
  same := served.same.trans (World.Refilled.setCell v x _ _)
  serves := served.serves.stores seated.room d
  plain := fun label y labelled => World.plainSet (served.plain label y labelled) (seated.other (by decide)) _
  attached := by
    rw [World.attachedStored (seated.other (by decide))]
    exact served.attached
  held := fun n e another others => by
    by_cases here : m.field = n.field
    · rw [← here, World.setCellSelf served.serves.alive, seated.sameClass another here names others]
      exact .inr supplies
    · rw [World.setCellOther v _ fun _ => here]
      exact served.held n e another others

theorem step {host : String} {properties : List String} (below : w.classOf x ≠ ClassTable.base)
    (named : Ledger.get? w.labels host = some x)
    (seated : ∀ p ∈ properties, ∃ m c, Memo.property m = p ∧ m.Seated w x ∧ m.Names c) {a : Action}
    (visits : a.Visits host properties) (more : ∀ d, seen d → later d)
    (new : ∀ d ∈ (v.step a).2.attached x, later d) : Served w x later (v.step a).2 := by
  have known : Ledger.get? v.labels host = some x := served.same.labels ▸ named
  have plain (d : Datum) (member : d ∈ v.attached x) : ∃ y, d = .object y ∧ (v.opened x).Plain y := by
    obtain ⟨y, same, own⟩ := served.serves.plain d member
    exact ⟨y, same, World.plainOpened own x⟩
  have opened := (served.more more).opens
  have listed {items : List Datum} : ((v.opened x).setCell x attachmentField (.list items)).attached x = items :=
    World.attachedKept opened.serves.alive items
  cases a with
  | add h component =>
    obtain rfl : h = host := visits
    rw [stepAdd served.serves known] at new ⊢
    cases labelled : Ledger.get? v.labels component with
    | none => exact served.more more
    | some y =>
      rw [labelled] at new
      refine opened.keeps (List.forall_mem_append.mpr ⟨plain, ?_⟩) fun d member => new d (listed.symm ▸ member)
      rw [List.forall_mem_singleton]
      exact ⟨y, rfl, World.plainOpened (served.plain component y (served.same.labels ▸ labelled)) x⟩
  | remove h component =>
    obtain rfl : h = host := visits
    rw [stepRemove served.serves known] at new ⊢
    cases labelled : Ledger.get? v.labels component with
    | none => exact served.more more
    | some y =>
      simp only [labelled] at new
      dsimp only
      split at new
      · next there =>
        rw [if_pos there]
        exact opened.keeps (fun d member => plain d (List.mem_of_mem_eraseP member)) fun d member =>
          new d (listed.symm ▸ member)
      · next gone =>
        rw [if_neg gone]
        exact opened
  | find h cls =>
    obtain rfl : h = host := visits
    rw [stepFind served.serves known]
    cases Ledger.get? v.names cls with
    | none => exact served.more more
    | some c => exact answerOfKeeps (I := Served w x later) _ _ opened
  | components h =>
    obtain rfl : h = host := visits
    rw [stepComponents served.serves known]
    exact opened
  | read h name =>
    obtain ⟨rfl, listed⟩ := visits
    obtain ⟨m, c, rfl, seats, names⟩ := seated name listed
    have now : m.Seated v x := seats.keptBy (served.same.slot x)
    have read := now.readsHost served.serves (served.same.classOf x ▸ below) names 2995
    split at read
    · rw [readStep known read]
      exact opened.stores seats names (suppliesMore more (served.found c))
    · rw [readStep known read]
      exact served.more more
  | _ => exact visits.elim

end Served

/-! Reads in a run. -/

section
variable {w : World} {x : ObjectId} {host : String} {properties : List String}

/-- A new host, with accessors that look up classes under some properties. -/
structure World.Opens (w : World) (x : ObjectId) (host : String) (properties : List String) : Prop where
  serves : w.Serves x
  below : w.classOf x ≠ ClassTable.base
  named : Ledger.get? w.labels host = some x
  fresh : ∀ name, w.cell? x name = none
  plain : ∀ label y, Ledger.get? w.labels label = some y → w.Plain y
  seated : ∀ p ∈ properties, ∃ m c, Memo.property m = p ∧ m.Seated w x ∧ m.Names c

/-- A component that the host has had up to some moment of a run. -/
def World.Seen (w : World) (x : ObjectId) (run : List Action) (i : Nat) (d : Datum) : Prop :=
  ∃ j ≤ i, d ∈ (w.moment run j).attached x

variable (opens : w.Opens x host properties) {run : List Action} (visits : ∀ a ∈ run, a.Visits host properties)
include opens visits

theorem visitsServed (i : Nat) : Served w x (w.Seen x run i) (w.moment run i) := by
  have further (i : Nat) (d : Datum) (seen : w.Seen x run i d) : w.Seen x run (i + 1) d := by
    obtain ⟨j, order, member⟩ := seen
    exact ⟨j, Nat.le_succ_of_le order, member⟩
  induction i with
  | zero =>
    refine ⟨World.Refilled.refl w, opens.serves, opens.plain, fun d member => ⟨0, Nat.le_refl 0, member⟩, fun m c _ _ => ?_⟩
    exact .inl (by rw [World.moment, List.take_zero, World.after, List.foldl_nil, World.held, opens.fresh]; rfl)
  | succ i ih =>
    cases next : run[i]? with
    | none =>
      rw [momentEnded next]
      exact ih.more (further i)
    | some a =>
      have step := momentNext (w := w) next
      rw [step]
      refine ih.step opens.below opens.named opens.seated (visits a (List.mem_of_getElem? next)) (further i) ?_
      rw [← step]
      exact fun d member => ⟨i + 1, Nat.le_refl _, member⟩

theorem componentsShown (i : Nat) : ((w.moment run i).step (.components host)).1 =
    .ok (.objects ((Datum.objects ((w.moment run i).attached x)).map w.label)) := by
  have served := visitsServed opens visits i
  rw [stepComponents served.serves (served.same.labels ▸ opens.named), funext served.same.label]

/-- A read of one of the properties gives nothing or an instance of its class that the host has had, and leaves the
host its components. -/
theorem readSupplied {i : Nat} {m : Memo} {c : ClassId} (seated : m.Seated w x) (names : m.Names c)
    (reads : run[i]? = some (.read host m.property)) :
    ∃ d, (Act.readNamed x m.property).runIn (w.moment run i) = (.ok d, w.moment run (i + 1)) ∧
      w.Supplies (w.Seen x run i) c d ∧ (w.moment run (i + 1)).attached x = (w.moment run i).attached x := by
  have served := visitsServed opens visits i
  have now : m.Seated (w.moment run i) x := seated.keptBy (served.same.slot x)
  have read := now.readsHost served.serves (served.same.classOf x ▸ opens.below) names 2995
  have known : Ledger.get? (w.moment run i).labels host = some x := served.same.labels ▸ opens.named
  have step := momentNext (w := w) reads
  split at read
  · rw [step, readStep known read]
    refine ⟨_, read, served.found c, ?_⟩
    rw [World.attachedStored (seated.other (by decide)), World.attachedOpened served.serves.alive]
  · next kept =>
    rw [step, readStep known read]
    refine ⟨_, read, ?_, rfl⟩
    rcases served.held m c seated names with unread | supplies
    · rw [unread] at kept
      exact (kept rfl).elim
    · exact supplies

end

end AccessorForge.Hosting
