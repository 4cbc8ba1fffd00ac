import AccessorForge.Proofs.Hosts
import AccessorForge.Proofs.MixinClasses
/-! Hosts that derive from the class of a container's accessors. The accessors share the instance with the host's own
state: as long as none of those that are read has a name of the host, as its property or as its field, they look up the
components of their types, and leave the host its components. -/
namespace AccessorForge.Hosting
open Act Running Syntax Syntax.Reader

/-! What a class finds among its ancestors. -/

namespace ClassTable

def spares (taken : List String) (e : String × Slot) : Bool :=
  if e.2.isStandard then (standardNames true).contains e.1 else !e.2.isAccessor && !taken.contains e.1

/-- A class that has the host mixin before another mixin among its ancestors, the rest of which leave the names of
hosts and of that mixin alone. -/
structure Hosts (t : ClassTable) (c mixin : ClassId) : Prop where
  first : (t.order c).find? (fun d => d = host || d = mixin) = some host
  second : mixin ∈ t.order c
  others : ∀ d ∈ t.order c, d ≠ host → d ≠ mixin → ∀ e ∈ t.ownSlots d,
    spares (hostSlots.keys ++ (t.ownSlots mixin).keys) e = true

instance (t : ClassTable) (c mixin : ClassId) : Decidable (t.Hosts c mixin) :=
  decidable_of_iff ((t.order c).find? (fun d => d = host || d = mixin) = some host ∧ mixin ∈ t.order c ∧
      ∀ d ∈ t.order c, d ≠ host → d ≠ mixin → ∀ e ∈ t.ownSlots d,
        spares (hostSlots.keys ++ (t.ownSlots mixin).keys) e = true)
    ⟨fun ⟨first, second, others⟩ => ⟨first, second, others⟩, fun hosts => ⟨hosts.first, hosts.second, hosts.others⟩⟩

namespace Hosts
variable {t : ClassTable} {c mixin : ClassId} (hosts : t.Hosts c mixin)
include hosts

/-- What is found comes from the host mixin, or if that has nothing of the name from the other one; or it is something
that the rest of the ancestors may have. -/
theorem source (own : t.ownSlots host = hostSlots) {name : String} {s : Slot} (found : t.slot? c name = some s) :
    spares (hostSlots.keys ++ (t.ownSlots mixin).keys) (name, s) = true ∨ Ledger.get? hostSlots name = some s ∨
      name ∉ hostSlots.keys ∧ Ledger.get? (t.ownSlots mixin) name = some s := by
  rw [slotSearched, List.findSome?_eq_some_iff] at found
  obtain ⟨before, d, after, order, held, missed⟩ := found
  have there : d ∈ t.order c := order ▸ by simp
  by_cases other : d = host
  · subst other
    exact .inr (.inl (own ▸ held))
  by_cases second : d = mixin
  · subst second
    refine .inr (.inr ⟨?_, held⟩)
    have first := hosts.first
    rw [order, List.find?_append, List.find?_cons_of_pos (by simp)] at first
    cases early : before.find? fun e => e = host || e = d with
    | none =>
      rw [early] at first
      exact (other (Option.some.inj first)).elim
    | some e =>
      rw [early] at first
      cases Option.some.inj first
      rw [← Ledger.getNoneIff, ← own]
      exact missed host (List.mem_of_find?_eq_some early)
  · exact .inl (hosts.others d there other second _ (Ledger.memberOfGet held))

theorem slot (own : t.ownSlots host = hostSlots) {name : String} {s : Slot} (proper : name ∉ standardNames true)
    (held : (Ledger.get? hostSlots name).or (Ledger.get? (t.ownSlots mixin) name) = some s) :
    t.slot? c name = some s := by
  have known := Option.or_eq_some_iff.mp held
  have there : (t.slot? c name).isSome := by
    rw [slotSearched, List.findSome?_isSome_iff]
    rcases known with shared | ⟨_, added⟩
    · exact ⟨host, List.mem_of_find?_eq_some hosts.first, by rw [own, shared]; rfl⟩
    · exact ⟨mixin, hosts.second, by rw [added]; rfl⟩
  obtain ⟨s', found⟩ := Option.isSome_iff_exists.mp there
  rw [found]
  rcases hosts.source own found with spared | shared | ⟨free, added⟩
  · have taken : name ∈ hostSlots.keys ++ (t.ownSlots mixin).keys := by
      rcases known with shared | ⟨_, added⟩
      · exact List.mem_append_left _ (List.mem_map.mpr ⟨_, Ledger.memberOfGet shared, rfl⟩)
      · exact List.mem_append_right _ (List.mem_map.mpr ⟨_, Ledger.memberOfGet added, rfl⟩)
    unfold spares at spared
    split at spared
    · simp [proper] at spared
    · simp [List.mem_append.mp taken] at spared
  · rwa [shared] at held
  · rwa [Ledger.getNoneIff.mpr free, added] at held

theorem accessor (own : t.ownSlots host = hostSlots) {name visibility : String} {getter : Getter}
    (found : t.slot? c name = some (.accessor visibility getter)) :
    name ∉ hostSlots.keys ∧ Ledger.get? (t.ownSlots mixin) name = some (.accessor visibility getter) := by
  rcases hosts.source own found with spared | shared | added
  · simp [spares, Slot.isStandard, Slot.isAccessor] at spared
  · have bare : ∀ e ∈ hostSlots, e.2.isAccessor = false := by decide
    cases bare _ (Ledger.memberOfGet shared)
  · exact added

theorem standard (own : t.ownSlots host = hostSlots) {name : String} (listed : name ∈ standardNames true) :
    (t.slot? c name).all Slot.isStandard = true := by
  have shipped : ∀ n ∈ standardNames true, n ∈ hostSlots.keys ∧ (Ledger.get? hostSlots n).all Slot.isStandard := by decide
  obtain ⟨taken, standard⟩ := shipped name listed
  cases found : t.slot? c name with
  | none => rfl
  | some s =>
    rw [Option.all_some]
    rcases hosts.source own found with spared | shared | ⟨free, _⟩
    · unfold spares at spared
      split at spared
      · assumption
      · simp [taken] at spared
    · rwa [shared] at standard
    · exact (free taken).elim

end Hosts

end ClassTable

/-! The host and its accessors. -/

/-- There is room for an accessor beside what a host is and has, and its type is the name of a class where it was
written, which refers to that class there. -/
structure Fits (owner : String) (scope : Ledger ClassId) (a : Accessor) (type : ClassId) : Prop where
  property : a.property ∉ hostSlots.keys
  field : readIn owner a.cacheField ∉ stateNames
  simple : Naming.Stands a.typeName
  unowned : privateName owner a.typeName = a.typeName
  proper : a.typeName ∉ ["self", "__class__"]
  known : Ledger.get? scope a.typeName = some type

theorem namedSimply {type : String} (stands : Naming.Stands type) {e : Expr} (dotted : dottedName e = some type) :
    ∃ span, e = .name span type := by
  unfold dottedName at dotted
  split at dotted
  · next span id =>
    cases dotted
    exact ⟨span, rfl⟩
  · next value last =>
    obtain ⟨first, _, rfl⟩ := Option.map_eq_some_iff.mp dotted
    have there : '.' ∈ (first ++ "." ++ last).toList := by simp
    exact absurd (Lexer.identifierChars stands.identifier '.' there) (by decide)
  · cases dotted

/-- An object of some class that has just been made, and has no attributes of its own yet. -/
structure World.Newborn (t v : World) (x : ObjectId) (label : String) (c : ClassId) : Prop where
  object : v.objects[x]? = some ⟨label, c, []⟩
  classes : v.classes = t.classes
  labelled : Ledger.get? v.labels label = some x

namespace World.Newborn
variable {t v : World} {x : ObjectId} {label : String} {c : ClassId} (newborn : t.Newborn v x label c)
include newborn

theorem alive : x < v.objects.length := (List.getElem?_eq_some_iff.mp newborn.object).1

theorem classOf : v.classOf x = c := by
  rw [World.classOf, newborn.object]
  rfl

theorem slots (name : String) : v.slot? x name = t.classes.slot? c name := by
  rw [World.slot?, newborn.classOf, newborn.classes]

theorem fresh (name : String) : v.cell? x name = none := by
  rw [World.cell?, newborn.object]
  rfl

end World.Newborn

theorem createdNewborn {t v : World} {label cls : String} {answer : Answer} {c : ClassId}
    (known : Ledger.get? t.names cls = some c) (created : t.step (.create label cls) = (.ok answer, v)) :
    ∃ x, t.Newborn v x label c := by
  obtain ⟨d, s, named, made⟩ := bindOk created
  obtain ⟨found, rfl⟩ := classNamedOk named
  cases Option.some.inj (known.symm.trans found)
  obtain ⟨o, u, pushed, done⟩ := bindOk made
  have last : o = s.objects.length ∧ u = s.push label c := by
    unfold Reach.create at pushed
    rw [bindOf (getIn s)] at pushed
    dsimp only at pushed
    rw [guardIn] at pushed
    split_ifs at pushed
    · cases pushed
    · have stored : (set (s.push label c) : Act PUnit).runIn s = (.ok ⟨⟩, s.push label c) := rfl
      rw [bindOf stored] at pushed
      split at pushed
      · obtain ⟨_, _, ran, _⟩ := bindOk pushed
        obtain ⟨_, _, _, failed⟩ := bindOk ran
        cases failed
      · cases pushed
        exact ⟨rfl, rfl⟩
  obtain ⟨rfl, rfl⟩ := last
  cases done
  exact ⟨s.objects.length, List.getElem?_concat_length, rfl, Ledger.get?_put_self _ _ _⟩

/-! A host at its beginning. -/

/-- The ancestors of a host's class in which its names are found: the host mixin as it comes, and the class of some
accessors. -/
structure World.Mixes (t : World) (c mixin : ClassId) (origin : Origin) (accessors : List Accessor) (members : List Member) :
    Prop where
  hosts : t.classes.Hosts c mixin
  shipped : t.classes.ownSlots ClassTable.host = hostSlots
  made : t.classes.ownSlots mixin = withStandard true (bodySlots origin members)
  unique : (bodySlots origin members).keys.Nodup
  each : List.Forall₂ Member.ReadFrom accessors members
  reads : ReadsApart origin.ownerName accessors
  distinct : accessors.Pairwise Accessor.Apart
  clear : ∀ a ∈ accessors, a.property ∉ passageNames

theorem standardTaken : ∀ name ∈ standardNames true, name ∈ hostSlots.keys := by decide

namespace World.Mixes
variable {t : World} {c mixin : ClassId} {origin : Origin} {accessors : List Accessor} {members : List Member}
  (mixes : t.Mixes c mixin origin accessors members)
include mixes

theorem hostSlot {name : String} {s : Slot} (there : Ledger.get? hostSlots name = some s)
    (proper : name ∉ standardNames true) : t.classes.slot? c name = some s := by
  refine mixes.hosts.slot mixes.shipped proper ?_
  rw [there]
  rfl

theorem mixinSlot {name : String} {s : Slot} (there : (name, s) ∈ bodySlots origin members) (proper : s ≠ .standard)
    (room : name ∉ hostSlots.keys) : t.classes.slot? c name = some s := by
  refine mixes.hosts.slot mixes.shipped (fun listed => room (standardTaken name listed)) ?_
  rw [Ledger.getNoneIff.mpr room, Option.none_or, mixes.made]
  exact (standardSlot mixes.unique proper).mpr there

theorem accessor {name visibility : String} {getter : Getter}
    (found : t.classes.slot? c name = some (.accessor visibility getter)) :
    name ∉ passageNames ++ hostSlots.keys ∧ ∃ a ∈ accessors, name = a.property ∧
      ∃ fill, getter = .lookup (readIn origin.ownerName a.cacheField) fill origin := by
  obtain ⟨free, held⟩ := mixes.hosts.accessor mixes.shipped found
  rw [mixes.made, standardSlot mixes.unique (by simp)] at held
  obtain ⟨a, planned, rfl, looks⟩ := mixes.reads.slotPlanned rfl mixes.each held
  exact ⟨List.not_mem_append (mixes.clear a planned) free, a, planned, rfl, looks⟩

theorem seats {v : World} {x : ObjectId} (slots : ∀ name, v.slot? x name = t.classes.slot? c name)
    (visible : Ledger.get? origin.scope "UNRESOLVED" = none) {a : Accessor} (planned : a ∈ accessors) {type : ClassId}
    (fits : Fits origin.ownerName origin.scope a type) :
    ∃ m : Memo, m.property = a.property ∧ m.Seated v x ∧ m.Names type := by
  obtain ⟨_, ⟨call, method, self, e, rfl, dotted⟩, written⟩ := mixes.reads.propertySlot rfl mixes.each planned
  obtain ⟨span, rfl⟩ := namedSimply fits.simple dotted
  have room := fits.field
  have apart : readIn origin.ownerName a.cacheField ∉ hostSlots.keys := fun taken => room (List.mem_append_right _ taken)
  have found := mixes.mixinSlot written (by simp) fits.property
  have marked := mixes.mixinSlot (ReadsApart.fieldSlot rfl mixes.each planned) (by simp) apart
  have alone : ∀ name visibility field fill origin',
      v.slot? x name = some (.accessor visibility (.lookup field fill origin')) → name ≠ a.property →
        field ≠ readIn origin.ownerName a.cacheField := by
    intro name visibility field fill origin' found other shared
    rw [slots] at found
    obtain ⟨_, b, also, rfl, _, looks⟩ := mixes.accessor found
    have same : readIn origin.ownerName a.cacheField = readIn origin.ownerName b.cacheField :=
      shared.symm.trans (Getter.lookup.inj looks).1
    exact other (congrArg Accessor.property (mixes.reads.sameField mixes.distinct planned also same).symm)
  rw [← slots] at found marked
  clear apart
  generalize readIn origin.ownerName a.cacheField = field at found marked alone room
  refine ⟨⟨a.property, field, .name span a.typeName, call, method, self, origin⟩, rfl,
    ⟨Memo.dottedPlain dotted, ⟨a.visibility, found⟩, marked, visible, alone, room⟩, span, a.typeName, rfl, ?_, ?_⟩
  · rw [fits.unowned]
    exact fits.proper
  · rw [fits.unowned]
    exact fits.known

/-- A new instance of the class is a host whose accessors look up components, as far as they fit. -/
theorem opens (rooted : t.Rooted) (visible : Ledger.get? origin.scope "UNRESOLVED" = none) {v : World} {x : ObjectId}
    {host : String} (newborn : t.Newborn v x host c)
    (plain : ∀ label y, Ledger.get? v.labels label = some y → v.Plain y) {heard : List Accessor}
    (fits : ∀ a ∈ heard, a ∈ accessors ∧ ∃ type, Fits origin.ownerName origin.scope a type) :
    v.Opens x host (heard.map (·.property)) := by
  have apart : ∀ name visibility getter, v.slot? x name = some (.accessor visibility getter) →
      name ∉ passageNames ++ hostSlots.keys :=
    fun name visibility getter found => (mixes.accessor (newborn.slots name ▸ found)).1
  have fresh := newborn.fresh
  refine ⟨⟨newborn.alive, fun m => ⟨?_, fresh _⟩, ?_, ?_, apart, .inl (fresh _), ?_⟩, ?_, newborn.labelled, fresh,
    plain, ?_⟩
  · rw [newborn.slots]
    exact mixes.hostSlot (by cases m <;> rfl) (by cases m <;> decide)
  · rw [newborn.slots]
    exact mixes.hostSlot rfl (by decide)
  · rw [newborn.slots]
    exact mixes.hosts.standard mixes.shipped (by decide)
  · rw [World.attached, fresh]
    simp
  · rw [newborn.classOf]
    rintro rfl
    have first := mixes.hosts.first
    rw [ClassTable.order, rooted] at first
    exact absurd (List.mem_of_find?_eq_some first) (by decide)
  · intro property member
    obtain ⟨a, listed, rfl⟩ := List.mem_map.mp member
    obtain ⟨planned, type, fit⟩ := fits a listed
    obtain ⟨m, same, seated, names⟩ := mixes.seats newborn.slots visible planned fit
    exact ⟨m, type, same, seated, names⟩

end World.Mixes

/-- A world in which the host mixin is as it comes, and another mixin is just this class. -/
structure World.Provides (t : World) (mixin : ClassId) (made : Option Class) : Prop where
  reached : t.Reachable
  shipped : t.classes[ClassTable.host]? = ClassTable.initial[ClassTable.host]?
  mixin : t.classes[mixin]? = made

/-- Two components that have accessors under names of their own. -/
def carText : String :=
  "@require_component_getter(Engine, \"engine\")\n@require_component_getter(Wheel, \"wheel\", \"protected\")\n" ++
    "class Car: pass\n"

def carAccessors : List Accessor := [⟨"public", "Engine", "engine"⟩, ⟨"protected", "Wheel", "wheel"⟩]

def carParts : World := World.after {} [.defineClass "Engine" [] false, .defineClass "Wheel" [] false]

def carMixin : World := carParts.after [.defineMixin "CarGetters" carAccessors]

def carFactory : World := carMixin.after
  [.defineClass "Car" ["ComponentHost", "CarGetters"] false, .create "engine" "Engine", .create "wheel" "Wheel"]

def carTrip : List Action :=
  [.add "car" "wheel", .add "car" "engine", .read "car" "engine", .remove "car" "engine", .read "car" "engine"]

theorem afterOne (w : World) (a : Action) : w.after [a] = (w.step a).2 := rfl

theorem ranOf {p : Except Fault Answer × World} {answer : Answer} (ok : p.1.toOption = some answer) : p = (.ok answer, p.2) :=
  Prod.ext (okOf ok) rfl

theorem carReady : carParts.classes.length = 4 ∧ carMixin.classes[4]?.isSome ∧
    Ledger.get? carFactory.names "Car" = some 5 ∧ carFactory.classes.Hosts 5 4 ∧ (carFactory.step (.create "car" "Car")).1.toOption.isSome ∧
    ∀ e ∈ (carFactory.step (.create "car" "Car")).2.labels, (carFactory.step (.create "car" "Car")).2.Plain e.2 := by
  decide +kernel

theorem carProvides : carFactory.Provides 4 carMixin.classes[4]? := by
  have mixed : carMixin.Reachable := reachableAfter ⟨_, rfl⟩ _
  refine ⟨reachableAfter mixed _, ?_, ?_⟩
  · obtain ⟨k, initial⟩ : ∃ k, ClassTable.initial[ClassTable.host]? = some k := ⟨_, rfl⟩
    have parts : carParts.classes[ClassTable.host]? = some k :=
      ordinaryKeepsClass ⟨[], rfl⟩ (by simp [Action.IsOrdinary]) initial
    have made : carMixin.classes[ClassTable.host]? = some k :=
      ordinaryKeepsClass ⟨_, rfl⟩ (by simp [Action.IsOrdinary]) parts
    rw [initial]
    exact ordinaryKeepsClass mixed (by simp [Action.IsOrdinary]) made
  · obtain ⟨k, made⟩ := Option.isSome_iff_exists.mp carReady.2.1
    rw [made]
    exact ordinaryKeepsClass mixed (by simp [Action.IsOrdinary]) made

/-- An accessor whose field has the name of the list of components. -/
def listedText : String := "@require_component_getter(Engine, \"Components\")\nclass Car: pass\n"

def isList : Datum → Bool
  | .list _ => true
  | _ => false

def listedCar (accessors : List Accessor) : World := carParts.after
  [.defineMixin "CarGetters" accessors, .defineClass "Car" ["ComponentHost", "CarGetters"] false, .create "car" "Car",
    .create "engine" "Engine", .add "car" "engine"]

end AccessorForge.Hosting
