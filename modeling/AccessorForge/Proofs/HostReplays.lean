import AccessorForge.Proofs.ClassChanges
import AccessorForge.Proofs.Hosts
/-! Many hosts at once. Wherever else an object is attached, and how often, a host has what its own additions and
removals leave: a removal takes the first place of that very object, and a lookup finds the first object of a class.
Whether objects compare equal plays no part. -/
namespace AccessorForge.Hosting
open Act Running

/-! What the components of a host should be. -/

inductive Exchange
  | attach (y : ObjectId)
  | detach (y : ObjectId)

def Exchange.after (items : List ObjectId) : Exchange → List ObjectId
  | .attach y => items ++ [y]
  | .detach y => items.erase y

/-- The object that an action tells to take another or to give it up. -/
def World.exchange? (w : World) : Action → Option (ObjectId × Exchange)
  | .add host component => do
    let x ← Ledger.get? w.labels host
    let y ← Ledger.get? w.labels component
    some (x, .attach y)
  | .remove host component => do
    let x ← Ledger.get? w.labels host
    let y ← Ledger.get? w.labels component
    some (x, .detach y)
  | _ => none

/-- What an action should leave of the components of one host. -/
def World.exchanged (w : World) (a : Action) (x : ObjectId) (items : List ObjectId) : List ObjectId :=
  match w.exchange? a with
  | some (y, e) => if y = x then e.after items else items
  | none => items

/-- The additions and removals of one host, one after the other, from what it has at first. -/
def World.replay (w : World) (x : ObjectId) (run : List Action) : Nat → List ObjectId
  | 0 => Datum.objects (w.attached x)
  | i + 1 =>
    match run[i]? with
    | some a => (w.moment run i).exchanged a x (w.replay x run i)
    | none => w.replay x run i

/-! Classes. -/

/-- Attributes that hosts work through. -/
def guardedNames : List String := passageNames ++ stateNames ++ ["__getattr__", "__init__"]

/-- The host mixin has its own methods, and no other class has anything of their names that not every class has. -/
structure ClassTable.Shipped (t : ClassTable) : Prop where
  host : ∀ name ∈ guardedNames, Ledger.get? (t.ownSlots ClassTable.host) name = Ledger.get? hostSlots name
  others : ∀ c ≠ ClassTable.host, ∀ name ∈ guardedNames, ∀ s, Ledger.get? (t.ownSlots c) name = some s →
    s.isStandard = true ∧ name ∈ standardNames true

namespace ClassTable.Shipped
variable {t u : ClassTable} (shipped : t.Shipped) {c : ClassId} {name : String} {s : Slot}
include shipped

theorem source (guarded : name ∈ guardedNames) (found : t.slot? c name = some s) :
    ClassTable.host ∈ t.order c ∧ Ledger.get? hostSlots name = some s ∨
      s.isStandard = true ∧ name ∈ standardNames true := by
  rw [slotSearched] at found
  obtain ⟨d, ancestor, held⟩ := List.exists_of_findSome?_eq_some found
  by_cases here : d = ClassTable.host
  · exact .inl ⟨here ▸ ancestor, shipped.host name guarded ▸ here ▸ held⟩
  · exact .inr (shipped.others d here name guarded s held)

theorem absent (guarded : name ∈ guardedNames) (proper : name ∉ standardNames true)
    (other : ClassTable.host ∈ t.order c → Ledger.get? hostSlots name = none) : t.slot? c name = none := by
  cases found : t.slot? c name with
  | none => rfl
  | some s =>
    rcases shipped.source guarded found with ⟨above, held⟩ | ⟨_, standard⟩
    · cases (other above).symm.trans held
    · exact (proper standard).elim

theorem hosted (above : ClassTable.host ∈ t.order c) (guarded : name ∈ guardedNames)
    (proper : name ∉ standardNames true) (held : Ledger.get? hostSlots name = some s) : t.slot? c name = some s := by
  have there : (t.slot? c name).isSome := by
    rw [slotSearched, List.findSome?_isSome_iff]
    exact ⟨ClassTable.host, above, by rw [shipped.host name guarded, held]; rfl⟩
  obtain ⟨s', found⟩ := Option.isSome_iff_exists.mp there
  rcases shipped.source guarded found with ⟨_, own⟩ | ⟨_, standard⟩
  · exact found.trans (own.symm.trans held)
  · exact (proper standard).elim

theorem noAccessor (guarded : name ∈ guardedNames) {visibility : String} {getter : Getter} :
    t.slot? c name ≠ some (.accessor visibility getter) := by
  intro found
  rcases shipped.source guarded found with ⟨_, held⟩ | ⟨standard, _⟩
  · have bare : ∀ e ∈ hostSlots, e.2.isAccessor = false := by decide
    cases bare _ (Ledger.memberOfGet held)
  · cases standard

theorem standard (guarded : name ∈ guardedNames) (listed : name ∈ standardNames true) :
    (t.slot? c name).all Slot.isStandard = true := by
  have ours : ∀ n ∈ standardNames true, (Ledger.get? hostSlots n).all Slot.isStandard := by decide
  cases found : t.slot? c name with
  | none => rfl
  | some s =>
    rcases shipped.source guarded found with ⟨_, held⟩ | ⟨standard, _⟩
    · have standard := ours name listed
      rwa [held] at standard
    · exact standard

theorem setSlot (c : ClassId) {other : String} (free : other ∉ guardedNames) (s : Slot) :
    (t.setSlot c other s).Shipped := by
  have same (d : ClassId) (name : String) (guarded : name ∈ guardedNames) :
      Ledger.get? ((t.setSlot c other s).ownSlots d) name = Ledger.get? (t.ownSlots d) name := by
    have apart : name ≠ other := fun here => free (here ▸ guarded)
    unfold ClassTable.ownSlots ClassTable.setSlot
    rw [List.getElem?_modify]
    cases t[d]? with
    | none => rfl
    | some k => by_cases here : c = d <;> simp [here, Ledger.get?_put_of_ne _ _ apart]
  refine ⟨fun name guarded => (same _ name guarded).trans (shipped.host name guarded),
    fun d apart name guarded s held => ?_⟩
  exact shipped.others d apart name guarded s (same d name guarded ▸ held)

theorem known : ClassTable.host < t.length := by
  by_contra unknown
  have held := shipped.host "components" (by decide)
  rw [ClassTable.ownSlots, List.getElem?_eq_none (Nat.le_of_not_lt unknown)] at held
  cases held

theorem grown (grows : t.Grows u []) : u.Shipped := by
  obtain ⟨k, isFirst, rfl, same, _⟩ := grows.added
  have before {d : ClassId} (earlier : d < t.length) : ClassTable.ownSlots (t ++ [k]) d = t.ownSlots d := by
    unfold ClassTable.ownSlots
    rw [List.getElem?_append_left earlier]
  refine ⟨fun name guarded => ?_, fun d apart name guarded s held => ?_⟩
  · rw [before shipped.known]
    exact shipped.host name guarded
  · by_cases earlier : d < t.length
    · exact shipped.others d apart name guarded s (before earlier ▸ held)
    · have plain : ∀ e ∈ ClassTable.ownSlots (t ++ [k]) d, e.2.isStandard = true ∧ e.1 ∈ standardNames true := by
        unfold ClassTable.ownSlots
        rw [List.getElem?_append_right (Nat.le_of_not_lt earlier)]
        cases found : [k][d - t.length]? with
        | none => simp
        | some j =>
          obtain ⟨_, rfl⟩ := List.getElem?_eq_some_iff.mp found
          have each : ∀ isFirst, ∀ e ∈ withStandard isFirst [], e.2.isStandard = true ∧ e.1 ∈ standardNames true := by
            decide
          simpa [same] using each isFirst
      exact plain _ (Ledger.memberOfGet held)

end ClassTable.Shipped

theorem initialShipped : ClassTable.initial.Shipped := by
  refine ⟨fun _ _ => rfl, fun c apart name _ s held => ?_⟩
  match c with
  | 0 | c + 2 => cases held
  | 1 => exact (apart rfl).elim

/-! Worlds of hosts and other objects. -/

/-- No class but the host mixin, and no object itself, has anything of the names that hosts work through, and what is
attached to an object are objects. -/
structure World.Ready (w : World) : Prop where
  whole : w.Whole
  shipped : w.classes.Shipped
  classed : ∀ o ∈ w.objects, o.cls < w.classes.length
  labelled : ∀ label y, Ledger.get? w.labels label = some y → y < w.objects.length
  bare : ∀ y, ∀ name ∈ guardedNames, name ≠ attachmentField → w.cell? y name = none
  kept : ∀ y, w.cell? y attachmentField = none ∨
    ∃ items : List ObjectId, w.cell? y attachmentField = some (.list (items.map .object))

/-- An object whose class derives from the host mixin. -/
def World.Hosts (w : World) (x : ObjectId) : Prop := x < w.objects.length ∧ w.isInstance x ClassTable.host = true

instance (w : World) (x : ObjectId) : Decidable (w.Hosts x) := by unfold World.Hosts; infer_instance

/-- The objects attached to an object. -/
def World.items (w : World) (x : ObjectId) : List ObjectId := Datum.objects (w.attached x)

theorem objectsOf (items : List ObjectId) : Datum.objects (items.map .object) = items := by
  induction items with
  | nil => rfl
  | cons y rest ih =>
    change y :: Datum.objects (rest.map .object) = _
    rw [ih]

namespace World.Ready
variable {w : World} (ready : w.Ready)
include ready

theorem attachedItems (x : ObjectId) : w.attached x = (w.items x).map .object := by
  unfold World.items World.attached
  rcases ready.kept x with empty | ⟨items, held⟩
  · rw [empty]
    rfl
  · rw [held]
    exact congrArg _ (objectsOf items).symm

theorem noAccessor {name : String} (guarded : name ∈ guardedNames) (y : ObjectId) : w.accessor? y name = none := by
  cases found : w.accessor? y name with
  | none => rfl
  | some g =>
    obtain ⟨v, slot⟩ := World.accessorSlot found
    exact (ready.shipped.noAccessor guarded slot).elim

theorem plain (y : ObjectId) : w.Plain y where
  free := ready.noAccessor (by decide) y
  slot := ready.shipped.absent (by decide) (by decide) fun _ => rfl
  cell := ready.bare y _ (by decide) (by decide)

theorem serves {x : ObjectId} (host : w.Hosts x) : w.Serves x := by
  have above : ClassTable.host ∈ w.classes.order (w.classOf x) := List.contains_iff_mem.mp host.2
  have guarded {name : String} (there : name ∈ stateNames) : name ∈ guardedNames :=
    List.mem_append_left _ (List.mem_append_right _ there)
  refine ⟨host.1, fun m => ⟨?_, ?_⟩, ?_, ?_, fun name visibility getter slot taken => ?_, ?_, ?_⟩
  · exact ready.shipped.hosted above (by cases m <;> decide) (by cases m <;> decide) (by cases m <;> rfl)
  · exact ready.bare x _ (by cases m <;> decide) (by cases m <;> decide)
  · exact ready.shipped.hosted above (by decide) (by decide) rfl
  · exact ready.shipped.standard (by decide) (by decide)
  · have names : ∀ n ∈ passageNames ++ hostSlots.keys, n ∈ guardedNames := by decide
    exact ready.shipped.noAccessor (names name taken) slot
  · exact (ready.kept x).imp_right fun ⟨items, held⟩ => ⟨_, held⟩
  · rw [ready.attachedItems]
    intro d member
    obtain ⟨y, _, rfl⟩ := List.mem_map.mp member
    exact ⟨y, rfl, ready.plain y⟩

theorem missing {x : ObjectId} {name : String}
    (called : name ∈ ["components", "add_component", "remove_component", "get_component"])
    (other : w.isInstance x ClassTable.host = false) : (Act.readNamed x name).runIn w = (.error .badAttribute, w) := by
  have names : ∀ n ∈ ["components", "add_component", "remove_component", "get_component"],
      n ∈ guardedNames ∧ n ∉ standardNames true ∧ n ≠ attachmentField := by decide
  obtain ⟨guarded, proper, apart⟩ := names name called
  have below : ClassTable.host ∉ w.classes.order (w.classOf x) := by
    simpa [World.isInstance, ClassTable.isSubclass] using other
  have slot : w.slot? x name = none := ready.shipped.absent guarded proper fun above => (below above).elim
  change ((reach 2999).readThrough x name).runIn w = _
  unfold Reach.readThrough
  rw [bindOf (getIn w), ready.noAccessor (by decide)]
  dsimp only
  rw [ready.noAccessor (by decide)]
  unfold Reach.readOwn
  rw [bindOf (getIn w), slot]
  dsimp only
  rw [ready.bare x name guarded apart]
  simp only [List.mem_cons, List.not_mem_nil, or_false] at called
  rcases called with rfl | rfl | rfl | rfl <;> rfl

end World.Ready

/-! Calls. -/

def World.call (w : World) (x : ObjectId) (m : HostMethod) (d : Datum) : Except Fault Datum × World :=
  (do Act.callMethod (← Act.readNamed x m.name) d : Act Datum).runIn w

/-- The second world differs from the first one at most in what is attached to one object. -/
structure World.Settles (w v : World) (x : ObjectId) (items : List ObjectId) : Prop where
  same : w.Refilled v
  own : v.cell? x attachmentField = none ∧ items = [] ∨ v.cell? x attachmentField = some (.list (items.map .object))
  others : ∀ y name, y ≠ x ∨ name ≠ attachmentField → v.cell? y name = w.cell? y name

namespace World.Settles
variable {w v : World} {x : ObjectId} {items : List ObjectId} (settles : w.Settles v x items)
include settles

theorem ownItems : v.items x = items := by
  unfold World.items World.attached
  rcases settles.own with ⟨empty, rfl⟩ | held
  · rw [empty]
    rfl
  · rw [held]
    exact objectsOf items

theorem elsewhere {y : ObjectId} (other : y ≠ x) : v.items y = w.items y := by
  unfold World.items World.attached
  rw [settles.others y _ (.inl other)]

theorem hosts (y : ObjectId) : v.Hosts y ↔ w.Hosts y := by
  unfold World.Hosts World.isInstance
  rw [settles.same.length, settles.same.classes, settles.same.classOf]

theorem ready (before : w.Ready) : v.Ready where
  whole := sameClassesWhole before.whole settles.same.classes settles.same.names
  shipped := settles.same.classes ▸ before.shipped
  classed := by
    intro o member
    obtain ⟨y, here⟩ := List.getElem?_of_mem member
    have within : y < w.objects.length := settles.same.length ▸ (List.getElem?_eq_some_iff.mp here).1
    have same := settles.same.classOf y
    unfold World.classOf at same
    rw [here, List.getElem?_eq_getElem within] at same
    rw [settles.same.classes]
    exact (show o.cls = _ from same) ▸ before.classed _ (List.getElem_mem within)
  labelled := fun label y named => settles.same.length ▸ before.labelled label y (settles.same.labels ▸ named)
  bare := fun y name guarded apart => (settles.others y name (.inr apart)).trans (before.bare y name guarded apart)
  kept := fun y => by
    by_cases here : y = x
    · subst here
      exact settles.own.imp And.left fun held => ⟨items, held⟩
    · rw [settles.others y _ (.inl here)]
      exact before.kept y

end World.Settles

theorem cellElsewhere {w : World} {x y : ObjectId} {field name : String} (other : y ≠ x ∨ name ≠ field) (d : Datum) :
    (w.setCell x field d).cell? y name = w.cell? y name := by
  by_cases apart : name = field
  · have away : x ≠ y := fun here => other.elim (fun far => far here.symm) fun far => far apart
    unfold World.cell? World.setCell
    rw [List.getElem?_modify]
    cases w.objects[y]? with
    | none => rfl
    | some o => simp [away]
  · exact World.cellKept apart d

section
variable {w : World} {x : ObjectId}

theorem settlesSet {v : World} {items : List ObjectId} (settles : w.Settles v x items) (alive : x < w.objects.length)
    (others : List ObjectId) : w.Settles (v.setCell x attachmentField (.list (others.map .object))) x others where
  same := settles.same.trans (World.Refilled.setCell v x _ _)
  own := .inr ((World.cellSet (settles.same.length ▸ alive) _ _ _).trans (if_pos rfl))
  others := fun y name other => (cellElsewhere other _).trans (settles.others y name other)

theorem attachedSame (y : ObjectId) (items : List ObjectId) :
    (items.map Datum.object).any (Datum.same (.object y)) = decide (y ∈ items) := by
  induction items with
  | nil => rfl
  | cons z rest ih =>
    rw [List.map_cons, List.any_cons, ih]
    by_cases here : y = z <;> simp [Datum.same, here]

theorem detachedSame (y : ObjectId) (items : List ObjectId) :
    (items.map Datum.object).eraseP (Datum.same (.object y)) = (items.erase y).map .object := by
  induction items with
  | nil => rfl
  | cons z rest ih =>
    rw [List.map_cons, List.eraseP_cons, ih, List.erase_cons]
    by_cases here : y = z
    · simp [Datum.same, here]
    · have other : (z == y) = false := by simpa using fun same : z = y => here same.symm
      simp [Datum.same, here, other]

variable (ready : w.Ready)
include ready

theorem itemsHeld (x : ObjectId) : w.cell? x attachmentField = none ∧ w.items x = [] ∨
    w.cell? x attachmentField = some (.list ((w.items x).map .object)) := by
  unfold World.items World.attached
  rcases ready.kept x with empty | ⟨items, held⟩
  · rw [empty]
    exact .inl ⟨rfl, rfl⟩
  · rw [held]
    exact .inr (by rw [objectsOf])

theorem settlesSelf (x : ObjectId) : w.Settles w x (w.items x) :=
  ⟨World.Refilled.refl w, itemsHeld ready x, fun _ _ _ => rfl⟩

theorem settlesOpened (alive : x < w.objects.length) : w.Settles (w.opened x) x (w.items x) := by
  unfold World.opened
  rcases itemsHeld ready x with ⟨empty, none⟩ | held
  · rw [empty, none]
    exact settlesSet (none ▸ settlesSelf ready x) alive []
  · rw [held]
    exact settlesSelf ready x

theorem settlesAttached (alive : x < w.objects.length) (y : ObjectId) :
    w.Settles ((w.opened x).setCell x attachmentField (.list (w.attached x ++ [.object y]))) x (w.items x ++ [y]) := by
  rw [ready.attachedItems, ← List.map_singleton, ← List.map_append]
  exact settlesSet (settlesOpened ready alive) alive _

theorem settlesDetached {α : Type} (alive : x < w.objects.length) (y : ObjectId) (yes no : α) : ∃ v,
    (if (w.attached x).any (Datum.same (.object y)) then
      (yes, (w.opened x).setCell x attachmentField (.list ((w.attached x).eraseP (Datum.same (.object y)))))
    else (no, w.opened x)) = (if y ∈ w.items x then yes else no, v) ∧ w.Settles v x ((w.items x).erase y) := by
  have opened := settlesOpened ready alive
  rw [ready.attachedItems, attachedSame, detachedSame]
  by_cases there : y ∈ w.items x
  · rw [if_pos (decide_eq_true there), if_pos there]
    exact ⟨_, rfl, settlesSet opened alive _⟩
  · rw [if_neg (by simpa using there), if_neg there, List.erase_of_not_mem there]
    exact ⟨_, rfl, opened⟩

variable (host : w.Hosts x)
include host

theorem callOf (m : HostMethod) (d : Datum) :
    w.call x m d = ((reach maxNesting).applyMethod x m ⟨[d], []⟩).runIn w := by
  have read : (Act.readNamed x m.name).runIn w = (.ok (.method x m), w) := (ready.serves host).method 2999 m
  exact bindOf read

theorem callAdd (y : ObjectId) : ∃ v, w.call x .addComponent (.object y) = (.ok .nothing, v) ∧
    w.Settles v x (w.items x ++ [y]) :=
  ⟨_, (callOf ready host _ _).trans ((ready.serves host).adds 2999 _), settlesAttached ready host.1 y⟩

theorem callRemove (y : ObjectId) : ∃ v,
    w.call x .removeComponent (.object y) = (.ok (.flag (decide (y ∈ w.items x))), v) ∧
      w.Settles v x ((w.items x).erase y) := by
  have removed := (callOf ready host _ _).trans ((ready.serves host).removes 2999 (.object y))
  obtain ⟨v, ends, settles⟩ :=
    @settlesDetached w x ready (Except Fault Datum) host.1 y (.ok (.flag true)) (.ok (.flag false))
  refine ⟨v, removed.trans (ends.trans ?_), settles⟩
  by_cases there : y ∈ w.items x <;> simp [there]

theorem callFind (c : ClassId) : w.call x .getComponent (.cls c) =
    (.ok (((w.items x).find? (w.isInstance · c)).elim .nothing .object), w.opened x) := by
  have first : w.found x c = ((w.items x).find? (w.isInstance · c)).elim .nothing .object := by
    unfold World.found
    rw [ready.attachedItems, List.find?_map]
    change (((w.items x).find? (w.isInstance · c)).map Datum.object).getD .nothing = _
    cases (w.items x).find? (w.isInstance · c) <;> rfl
  rw [← first]
  exact (callOf ready host _ _).trans ((ready.serves host).lookup 2999 c)

theorem componentsRead : (Act.readNamed x "components").runIn w =
    (.ok (.tuple ((w.items x).map .object)), w.opened x) := by
  rw [← ready.attachedItems]
  exact (ready.serves host).shows 2998

end

/-! Actions. -/

/-- The object that an action calls a method of. -/
def Action.receiver? : Action → Option String
  | .add host _ | .remove host _ | .find host _ | .components host => some host
  | _ => none

theorem exchangedUnnamed {w : World} {a : Action} (unnamed : w.exchange? a = none) (x : ObjectId)
    (items : List ObjectId) : w.exchanged a x items = items := by
  rw [World.exchanged, unnamed]

theorem exchangedOwn {w : World} {a : Action} {x : ObjectId} {e : Exchange} (named : w.exchange? a = some (x, e))
    (items : List ObjectId) : w.exchanged a x items = e.after items := by
  rw [World.exchanged, named]
  exact if_pos rfl

theorem hostSettles {w : World} (ready : w.Ready) {a : Action} {label : String} (called : a.receiver? = some label)
    {x : ObjectId} (named : Ledger.get? w.labels label = some x) (host : w.Hosts x) :
    w.Settles (w.step a).2 x (w.exchanged a x (w.items x)) := by
  have serves := ready.serves host
  have opened := settlesOpened ready host.1
  cases a with
  | add h component =>
    cases called
    rw [stepAdd serves named]
    cases labelled : Ledger.get? w.labels component with
    | none =>
      rw [exchangedUnnamed (by simp [World.exchange?, labelled])]
      exact settlesSelf ready x
    | some y =>
      have told : w.exchange? (.add label component) = some (x, .attach y) := by
        simp [World.exchange?, named, labelled]
      rw [exchangedOwn told]
      exact settlesAttached ready host.1 y
  | remove h component =>
    cases called
    rw [stepRemove serves named]
    cases labelled : Ledger.get? w.labels component with
    | none =>
      rw [exchangedUnnamed (by simp [World.exchange?, labelled])]
      exact settlesSelf ready x
    | some y =>
      have told : w.exchange? (.remove label component) = some (x, .detach y) := by
        simp [World.exchange?, named, labelled]
      obtain ⟨v, ends, settles⟩ :=
        @settlesDetached w x ready (Except Fault Answer) host.1 y (.ok (.flag true)) (.ok (.flag false))
      dsimp only
      rw [exchangedOwn told, ends]
      exact settles
  | find h cls =>
    cases called
    rw [stepFind serves named]
    cases Ledger.get? w.names cls with
    | none => exact settlesSelf ready x
    | some c => exact answerOfKeeps (I := fun v => w.Settles v x (w.items x)) _ _ opened
  | components h =>
    cases called
    rw [stepComponents serves named]
    exact opened
  | _ => cases called

theorem otherStill {w : World} (ready : w.Ready) {a : Action} {label : String} (called : a.receiver? = some label)
    (other : ∀ x, Ledger.get? w.labels label = some x → w.isInstance x ClassTable.host = false) : (w.step a).2 = w := by
  have failed {α : Type} {name : String}
      (method : name ∈ ["components", "add_component", "remove_component", "get_component"]) (f : Datum → Act α) :
      ((do f (← Act.readNamed (← Act.objectNamed label) name) : Act α).runIn w).2 = w := by
    cases named : Ledger.get? w.labels label with
    | none => rw [bindIn, objectUnknown named]
    | some x => rw [bindOf (objectKnown named), bindIn, ready.missing method (other x named)]
  cases a with
  | add | remove | find | components =>
    cases called
    exact failed (by decide) _
  | _ => cases called

/-! Class definitions and decorators. -/

theorem requireShipped (c : ClassId) (types : List ClassId) :
    Act.Keeps (fun v => v.classes.Shipped) (Act.require c types) :=
  recordKeeps fun _ _ shipped => shipped.setSlot c (by decide) _

theorem markGroupShipped (c : ClassId) (visibility : Value) :
    Act.Keeps (fun v => v.classes.Shipped) (Act.markGroup c visibility) :=
  changeableKeeps c fun _ =>
    keepsBind (keepsModify fun _ shipped => shipped.setSlot c (by decide) _) fun _ => keepsPure _

theorem defineClassShipped {w : World} (whole : w.Whole) (shipped : w.classes.Shipped) (name : String)
    (bases : List String) (equalsAll : Bool) :
    ((Act.defineClass name bases equalsAll).runIn w).2.classes.Shipped := by
  rcases defineClassAdds whole name bases equalsAll with same | grows
  · exact same ▸ shipped
  · exact shipped.grown grows

section
variable (objects : List Object) (labels : Ledger ObjectId)

theorem requireAway (c : ClassId) (types : List ClassId) :
    Act.Keeps (fun v => v.objects = objects ∧ v.labels = labels) (Act.require c types) :=
  keepsSeen fun _ _ => keepsBind (keepsOption _) fun _ => changeableKeeps c fun _ =>
    keepsBind (keepsModify fun _ same => same) fun _ => keepsPure _

theorem markGroupAway (c : ClassId) (visibility : Value) :
    Act.Keeps (fun v => v.objects = objects ∧ v.labels = labels) (Act.markGroup c visibility) :=
  changeableKeeps c fun _ => keepsBind (keepsModify fun _ same => same) fun _ => keepsPure _

theorem defineClassAway (name : String) (bases : List String) (equalsAll : Bool) :
    Act.Keeps (fun v => v.objects = objects ∧ v.labels = labels) (Act.defineClass name bases equalsAll) :=
  keepsBind ((keepsClosed _).mapM keepsClassNamed bases) fun _ => keepsBind (keepsRequireReadable _) fun _ =>
    keepsSeen fun _ _ => keepsBind (keepsOption _) fun _ => keepsBind (keepsModify fun _ same => same) fun _ =>
      keepsBind (keepsModify fun _ same => same) fun _ => keepsPure _

end

theorem declaresAway {w : World} (whole : w.Whole) {a : Action} (declares : a.Declares) :
    (w.step a).2.objects = w.objects ∧ (w.step a).2.labels = w.labels :=
  declaresKeeps (I := fun v => v.objects = w.objects ∧ v.labels = w.labels)
    (fun v name bases equalsAll _ same => defineClassAway w.objects w.labels name bases equalsAll v same)
    (requireAway w.objects w.labels) (markGroupAway w.objects w.labels) declares whole ⟨rfl, rfl⟩

/-! New objects. -/

section
variable (w : World) (label : String) (c : ClassId) (y : ObjectId)

theorem pushedCell (name : String) : (w.push label c).cell? y name = w.cell? y name := by
  unfold World.cell? World.push
  rw [List.getElem?_append]
  split
  · rfl
  · next later =>
    rw [List.getElem?_eq_none (Nat.le_of_not_lt later)]
    cases found : [(⟨label, c, []⟩ : Object)][y - w.objects.length]? with
    | none => rfl
    | some o =>
      obtain ⟨_, rfl⟩ := List.getElem?_eq_some_iff.mp found
      simp [Ledger.get?]

theorem pushedItems : (w.push label c).items y = w.items y := by
  rw [World.items, World.attached, pushedCell, World.items, World.attached]

end

theorem createOf {w : World} (ready : w.Ready) (label : String) (c : ClassId) :
    ((reach maxNesting).create label c).runIn w = (.error .badType, w) ∨
      ((reach maxNesting).create label c).runIn w = (.ok w.objects.length, w.push label c) := by
  have free : w.classes.accessor? c "__init__" = none := by
    unfold ClassTable.accessor?
    split
    · next found => exact (ready.shipped.noAccessor (by decide) found).elim
    · rfl
  unfold Reach.create
  rw [bindOf (getIn w), guardIn]
  split
  · exact .inl rfl
  · have stored : (set (w.push label c) : Act PUnit).runIn w = (.ok ⟨⟩, w.push label c) := rfl
    rw [bindOf stored, free]
    exact .inr rfl

theorem createStep {w : World} (ready : w.Ready) (label cls : String) : (w.step (.create label cls)).2 = w ∨
    ∃ c < w.classes.length, (w.step (.create label cls)).2 =
      { w.push label c with labels := Ledger.put label w.objects.length w.labels } := by
  have step : w.step (.create label cls) = (classNamed cls >>= fun c => (reach maxNesting).create label c >>= fun o =>
      modify (fun v => { v with labels := Ledger.put label o v.labels }) >>= fun _ => pure Answer.nothing :
        Act Answer).runIn w := rfl
  rw [step, bindIn]
  cases ran : (classNamed cls).runIn w with
  | mk result v =>
    cases result with
    | error f =>
      have still := keepsClassNamed (I := (· = w)) cls w rfl
      rw [ran] at still
      exact .inl still
    | ok c =>
      obtain ⟨named, rfl⟩ := classNamedOk ran
      dsimp only
      rcases createOf ready label c with failed | made
      · rw [bindIn, failed]
        exact .inl rfl
      · rw [bindOf made]
        exact .inr ⟨c, ready.whole.names cls c named, rfl⟩

/-! One step. -/

/-- Actions that define and decorate classes, make objects, list what classes have, and call the methods of hosts. -/
def Action.Works : Action → Prop
  | .defineClass .. | .require .. | .requireOne .. | .markGroup .. | .markGroupBare .. | .required .. | .accessors ..
  | .create .. | .add .. | .remove .. | .find .. | .components .. => True
  | .defineMixin .. | .plainAccessor .. | .read .. | .assign .. => False

/-- The second world is what such an action should leave of the first one. -/
structure World.Advances (w v : World) (a : Action) : Prop where
  ready : v.Ready
  longer : w.objects.length ≤ v.objects.length
  hosts : ∀ x < w.objects.length, v.Hosts x → w.Hosts x
  own : ∀ x, w.Hosts x → v.items x = w.exchanged a x (w.items x)
  fresh : ∀ x, w.objects.length ≤ x → v.items x = []

theorem itemsUnknown {w : World} {x : ObjectId} (unknown : w.objects.length ≤ x) : w.items x = [] := by
  unfold World.items World.attached World.cell?
  rw [List.getElem?_eq_none unknown]
  rfl

theorem exchangeReceived {w : World} {a : Action} {x : ObjectId} {e : Exchange} (told : w.exchange? a = some (x, e)) :
    ∃ label, a.receiver? = some label ∧ Ledger.get? w.labels label = some x := by
  cases a with
  | add host component | remove host component =>
    simp only [World.exchange?, Option.bind_eq_bind, Option.bind_eq_some_iff] at told
    obtain ⟨y, named, _, _, same⟩ := told
    cases same
    exact ⟨host, rfl, named⟩
  | _ => cases told

theorem exchangedOther {w : World} {a : Action} {x : ObjectId}
    (other : ∀ label, a.receiver? = some label → Ledger.get? w.labels label ≠ some x) (items : List ObjectId) :
    w.exchanged a x items = items := by
  unfold World.exchanged
  cases told : w.exchange? a with
  | none => rfl
  | some p =>
    obtain ⟨y, e⟩ := p
    obtain ⟨label, called, named⟩ := exchangeReceived told
    refine if_neg fun here => other label called ?_
    rw [← here]
    exact named

section
variable {w : World} (ready : w.Ready)
include ready

theorem advancesStill {a : Action} (apart : ∀ x, w.Hosts x → w.exchanged a x (w.items x) = w.items x) :
    w.Advances w a :=
  ⟨ready, Nat.le_refl _, fun _ _ host => host, fun x host => (apart x host).symm, fun _ => itemsUnknown⟩

theorem callAdvances {a : Action} {label : String} (called : a.receiver? = some label) : w.Advances (w.step a).2 a := by
  have alone {x : ObjectId} (named : Ledger.get? w.labels label = some x) {y : ObjectId} (other : y ≠ x)
      (items : List ObjectId) : w.exchanged a y items = items := by
    refine exchangedOther (fun l received again => ?_) items
    cases called.symm.trans received
    exact other (Option.some.inj (again.symm.trans named))
  by_cases received : ∃ x, Ledger.get? w.labels label = some x ∧ w.isInstance x ClassTable.host = true
  · obtain ⟨x, named, derives⟩ := received
    have host : w.Hosts x := ⟨ready.labelled label x named, derives⟩
    have settles := hostSettles ready called named host
    refine ⟨settles.ready ready, Nat.le_of_eq settles.same.length.symm, fun y _ => (settles.hosts y).mp,
      fun y _ => ?_, fun y unknown => ?_⟩
    · by_cases here : y = x
      · rw [here, settles.ownItems]
      · rw [settles.elsewhere here, alone named here]
    · have other : y ≠ x := fun here => Nat.not_lt.mpr unknown (here ▸ host.1)
      rw [settles.elsewhere other, itemsUnknown unknown]
  · have still := otherStill ready called fun x named => by
      by_contra derives
      exact received ⟨x, named, by simpa using derives⟩
    rw [still]
    refine advancesStill ready fun y host => exchangedOther (fun l again named => received ?_) _
    cases called.symm.trans again
    exact ⟨y, named, host.2⟩

theorem declaresAdvances {a : Action} (declares : a.Declares) : w.Advances (w.step a).2 a := by
  obtain ⟨objects, labels⟩ := declaresAway ready.whole declares
  have shipped : (w.step a).2.classes.Shipped := declaresKeeps (I := fun v => v.classes.Shipped)
    (fun _ name bases equalsAll whole shipped => defineClassShipped whole shipped name bases equalsAll) requireShipped
    markGroupShipped declares ready.whole ready.shipped
  have cell (y : ObjectId) (name : String) : (w.step a).2.cell? y name = w.cell? y name := by
    rw [World.cell?, objects, World.cell?]
  have items (y : ObjectId) : (w.step a).2.items y = w.items y := by
    rw [World.items, World.attached, cell, World.items, World.attached]
  refine ⟨⟨stepWhole ready.whole a, shipped, ?_, ?_, ?_, ?_⟩, ?_, ?_, ?_, ?_⟩
  · rw [objects]
    exact fun o member => (stepOrder ready.whole a (ready.classed o member)).2
  · rw [objects, labels]
    exact ready.labelled
  · exact fun y name guarded apart => (cell y name).trans (ready.bare y name guarded apart)
  · intro y
    rw [cell]
    exact ready.kept y
  · exact Nat.le_of_eq (congrArg _ objects.symm)
  · intro x alive host
    refine ⟨alive, ?_⟩
    have known := ready.classed _ (List.getElem_mem alive)
    have same : (w.step a).2.classOf x = w.classOf x := by rw [World.classOf, objects, World.classOf]
    have own : w.classOf x = w.objects[x].cls := by
      rw [World.classOf, List.getElem?_eq_getElem alive]
      rfl
    have derives := host.2
    rw [World.isInstance, ClassTable.isSubclass, same, (stepOrder ready.whole a (own ▸ known)).1] at derives
    exact derives
  · intro x host
    rw [items, exchangedUnnamed]
    cases a with
    | add | remove => exact declares.elim
    | _ => rfl
  · exact fun x unknown => (items x).trans (itemsUnknown unknown)

theorem createAdvances (label cls : String) : w.Advances (w.step (.create label cls)).2 (.create label cls) := by
  have whole := stepWhole ready.whole (.create label cls)
  rcases createStep ready label cls with still | ⟨c, known, made⟩
  · rw [still]
    exact advancesStill ready fun _ _ => rfl
  · rw [made] at whole ⊢
    have longer : (w.push label c).objects.length = w.objects.length + 1 := List.length_append
    refine ⟨⟨whole, ready.shipped, ?_, ?_, ?_, ?_⟩, ?_, ?_, fun x _ => pushedItems w label c x, ?_⟩
    · intro o member
      rcases List.mem_append.mp member with old | new
      · exact ready.classed o old
      · exact List.mem_singleton.mp new ▸ known
    · intro l y named
      rw [Ledger.getPut] at named
      refine longer ▸ ?_
      split at named
      · cases named
        exact Nat.lt_succ_self _
      · exact Nat.lt_succ_of_lt (ready.labelled l y named)
    · exact fun y name guarded apart => (pushedCell w label c y name).trans (ready.bare y name guarded apart)
    · intro y
      exact (pushedCell w label c y attachmentField).symm ▸ ready.kept y
    · exact longer ▸ Nat.le_succ _
    · intro x alive host
      refine ⟨alive, ?_⟩
      have derives := host.2
      unfold World.isInstance World.classOf at derives ⊢
      rwa [show _[x]? = w.objects[x]? from World.pushedObject alive label c] at derives
    · exact fun x unknown => (pushedItems w label c x).trans (itemsUnknown unknown)

theorem stepAdvances {a : Action} (works : a.Works) : w.Advances (w.step a).2 a := by
  have alike {b : Action} (quiet : w.exchange? b = none) (still : (w.step b).2 = w) : w.Advances (w.step b).2 b := by
    rw [still]
    exact advancesStill ready fun x _ => exchangedUnnamed quiet x _
  cases a with
  | required cls =>
    refine alike rfl (keepsBind (I := (· = w)) (keepsClassNamed cls) (fun c => keepsSeen fun _ _ =>
      keepsBind (keepsOption _) fun _ => keepsPure _) w rfl)
  | accessors cls =>
    exact alike rfl (keepsBind (I := (· = w)) (keepsClassNamed cls) (fun c => keepsSeen fun _ _ => keepsPure _) w rfl)
  | create label cls => exact createAdvances ready label cls
  | add | remove | find | components => exact callAdvances ready rfl
  | defineClass | require | requireOne | markGroup | markGroupBare => exact declaresAdvances ready trivial
  | _ => exact works.elim

end

/-! Runs. -/

theorem initialReady : World.Ready {} where
  whole := initialWhole
  shipped := initialShipped
  classed := by simp
  labelled := fun _ _ named => by cases named
  bare := fun _ _ _ _ => rfl
  kept := fun _ => .inl rfl

theorem momentReplayed {w : World} (ready : w.Ready) {run : List Action} (works : ∀ a ∈ run, a.Works) (i : Nat) :
    (w.moment run i).Ready ∧ (∀ x, (w.moment run i).Hosts x → (w.moment run i).items x = w.replay x run i) ∧
      ∀ x, (w.moment run i).objects.length ≤ x → w.replay x run i = [] := by
  -- A host that comes later has an empty replay until then: no label names it yet.
  induction i with
  | zero => exact ⟨ready, fun _ _ => rfl, fun x unknown => itemsUnknown unknown⟩
  | succ i ih =>
    obtain ⟨before, same, absent⟩ := ih
    cases next : run[i]? with
    | none =>
      have still (x : ObjectId) : w.replay x run (i + 1) = w.replay x run i := by rw [World.replay, next]
      rw [momentEnded next]
      exact ⟨before, fun x host => (same x host).trans (still x).symm,
        fun x unknown => (still x).trans (absent x unknown)⟩
    | some a =>
      have replayed (x : ObjectId) :
          w.replay x run (i + 1) = (w.moment run i).exchanged a x (w.replay x run i) := by rw [World.replay, next]
      have unnamed (x : ObjectId) (unknown : (w.moment run i).objects.length ≤ x) : w.replay x run (i + 1) = [] := by
        rw [replayed, absent x unknown]
        exact exchangedOther (fun label _ named => Nat.not_lt.mpr unknown (before.labelled label x named)) []
      have advances := stepAdvances before (works a (List.mem_of_getElem? next))
      rw [momentNext next]
      refine ⟨advances.ready, fun x host => ?_, fun x unknown => unnamed x (Nat.le_trans advances.longer unknown)⟩
      by_cases alive : x < (w.moment run i).objects.length
      · have earlier := advances.hosts x alive host
        rw [advances.own x earlier, replayed, same x earlier]
      · have unknown := Nat.le_of_not_lt alive
        rw [advances.fresh x unknown, unnamed x unknown]

/-- At every moment of a run of such actions, on any number of hosts, each host has what its own additions and removals
leave. It gives up an object if and only if it has that very object, and the earliest object whose class has a class
among its ancestors is found under that class, or nothing if there is none. -/
theorem hostsReplay {w : World} (ready : w.Ready) {run : List Action} (works : ∀ a ∈ run, a.Works) (i : Nat)
    {x : ObjectId} (host : (w.moment run i).Hosts x) :
    (w.moment run i).attached x = (w.replay x run i).map .object ∧
    ((Act.readNamed x "components").runIn (w.moment run i)).1 = .ok (.tuple ((w.replay x run i).map .object)) ∧
    (∀ c, ((w.moment run i).call x .getComponent (.cls c)).1 =
      .ok (((w.replay x run i).find? ((w.moment run i).isInstance · c)).elim .nothing .object)) ∧
    (∀ y, ((w.moment run i).call x .removeComponent (.object y)).1 = .ok (.flag (decide (y ∈ w.replay x run i)))) ∧
    ∀ y, ((w.moment run i).call x .addComponent (.object y)).1 = .ok .nothing := by
  obtain ⟨now, same, _⟩ := momentReplayed ready works i
  rw [← same x host]
  refine ⟨now.attachedItems x, ?_, fun c => ?_, fun y => ?_, fun y => ?_⟩
  · rw [componentsRead now host]
  · rw [callFind now host]
  · obtain ⟨v, removed, _⟩ := callRemove now host y
    rw [removed]
  · obtain ⟨v, added, _⟩ := callAdd now host y
    rw [added]

/-- Two hosts that share an object, one of them with another object twice; all objects compare equal to everything. -/
def sharing : List Action :=
  [.defineClass "Part" [] true, .defineClass "Wheel" ["Part"] true, .defineClass "Cart" ["ComponentHost"] false,
    .create "h" "Cart", .create "k" "Cart", .create "a" "Part", .create "b" "Wheel", .add "h" "a", .add "h" "b",
    .add "k" "b", .add "h" "a", .add "h" "b", .remove "h" "a", .remove "k" "a", .remove "h" "b"]

theorem hostsReplaySharing : World.Ready {} ∧ (∀ a ∈ sharing, a.Works) ∧ (World.moment {} sharing 15).Hosts 0 ∧
    (World.moment {} sharing 15).attached 0 = [.object 2, .object 3] ∧
    ((World.moment {} sharing 15).call 0 .getComponent (.cls 3)).1 = .ok (.object 3) ∧
    (World.moment {} sharing 15).Hosts 1 ∧
    ((World.moment {} sharing 15).call 1 .removeComponent (.object 2)).1 = .ok (.flag false) := by
  have works : ∀ a ∈ sharing, a.Works := by simp [sharing, Action.Works]
  have host : (World.moment {} sharing 15).Hosts 0 := by decide +kernel
  have other : (World.moment {} sharing 15).Hosts 1 := by decide +kernel
  have left : World.replay {} 0 sharing 15 = [2, 3] := by decide +kernel
  have shared : World.replay {} 1 sharing 15 = [3] := by decide +kernel
  have first : [2, 3].find? ((World.moment {} sharing 15).isInstance · 3) = some 3 := by decide +kernel
  obtain ⟨attached, _, found, _⟩ := hostsReplay initialReady works 15 host
  obtain ⟨_, _, _, removed, _⟩ := hostsReplay initialReady works 15 other
  rw [left] at attached found
  have looked := found 3
  rw [first] at looked
  have refused := removed 2
  rw [shared] at refused
  exact ⟨initialReady, works, host, attached, looked, other, refused⟩

end AccessorForge.Hosting
