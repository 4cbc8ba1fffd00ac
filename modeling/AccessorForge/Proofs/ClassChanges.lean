import AccessorForge.Proofs.Decorators
import AccessorForge.Proofs.Memoization
/-! What actions do to the classes. A requirement decorator puts a record of types on its class and does nothing
else. Any other action leaves the records that are there, puts something else in the place of one, or adds a class
without one. -/
namespace AccessorForge.Hosting
open Act Running

def Slot.types? : Slot → Option (List ClassId)
  | .required types => some types
  | _ => none

namespace ClassTable
variable {t u : ClassTable} {c : ClassId}

/-- What a class has itself under the name of its required types. -/
def record? (t : ClassTable) (c : ClassId) : Option Slot := (t[c]?).bind fun k => Ledger.get? k.slots requiredName

theorem requiredSought (t : ClassTable) (c : ClassId) :
    t.required? c = (((t.order c).findSome? t.record?).map Slot.types?).getD (some []) := by
  have same : t.slot? c requiredName = (t.order c).findSome? t.record? := rfl
  unfold required?
  rw [same]
  cases (t.order c).findSome? t.record? with
  | none => rfl
  | some s => cases s <;> rfl

theorem recordKnown {s : Slot} (own : t.record? c = some s) : c < t.length := by
  obtain ⟨_, found, _⟩ := Option.bind_eq_some_iff.mp own
  exact (List.getElem?_eq_some_iff.mp found).1

theorem requiredOwn {above : List ClassId} (order : t.order c = c :: above) {s : Slot} (own : t.record? c = some s) :
    t.required? c = s.types? := by
  rw [requiredSought, order, List.findSome?_cons_of_isSome (by rw [own]; rfl), own]
  rfl

theorem setSlotRecord (t : ClassTable) (c d : ClassId) (s : Slot) :
    (t.setSlot c requiredName s).record? d = if c = d then (t[d]?).map fun _ => s else t.record? d := by
  unfold record? setSlot
  rw [List.getElem?_modify]
  cases t[d]? with
  | none => split <;> rfl
  | some k => by_cases here : c = d <;> simp [here, Ledger.get?_put_self]

theorem setSlotRecordOther (t : ClassTable) (c d : ClassId) {name : String} (apart : requiredName ≠ name) (s : Slot) :
    (t.setSlot c name s).record? d = t.record? d := by
  unfold record? setSlot
  rw [List.getElem?_modify]
  cases t[d]? with
  | none => rfl
  | some k => by_cases here : c = d <;> simp [here, Ledger.get?_put_of_ne _ _ apart]

/-- The table with a record of all that has been seen on a class and of more types. -/
def recording (t : ClassTable) (c : ClassId) (seen types : List ClassId) : ClassTable :=
  t.setSlot c requiredName (.required (mergeTypes (mergeTypes [] seen) types))

theorem recordingRecord (t : ClassTable) (c d : ClassId) (seen types : List ClassId) :
    (t.recording c seen types).record? d =
      if c = d then (t[d]?).map fun _ => .required (mergeTypes (mergeTypes [] seen) types) else t.record? d :=
  setSlotRecord t c d _

theorem recordingOwn (known : c < t.length) (seen types : List ClassId) :
    (t.recording c seen types).record? c = some (.required (mergeTypes (mergeTypes [] seen) types)) := by
  rw [recordingRecord, if_pos rfl, List.getElem?_eq_getElem known]
  rfl

theorem recordingOther {d : ClassId} (other : c ≠ d) (seen types : List ClassId) :
    (t.recording c seen types).record? d = t.record? d := by
  rw [recordingRecord, if_neg other]

/-! Changes that record nothing. -/

/-- The same classes with the same ancestors. Each has what it had in the place of its record, or something that
records no types. -/
structure Amends (t u : ClassTable) : Prop where
  length : u.length = t.length
  order : ∀ c, u.order c = t.order c
  record : ∀ c, u.record? c = t.record? c ∨ ∃ s, u.record? c = some s ∧ s.types? = none

namespace Amends

theorem refl (t : ClassTable) : Amends t t := ⟨rfl, fun _ => rfl, fun _ => .inl rfl⟩

theorem trans {v : ClassTable} (first : Amends t u) (second : Amends u v) : Amends t v where
  length := second.length.trans first.length
  order c := (second.order c).trans (first.order c)
  record c := by
    rcases second.record c with same | other
    · exact same ▸ first.record c
    · exact .inr other

theorem modify (t : ClassTable) (c : ClassId) {f : Class → Class} (ordered : ∀ k, (f k).order = k.order)
    (recorded : ∀ k, Ledger.get? (f k).slots requiredName = Ledger.get? k.slots requiredName ∨
      ∃ s, Ledger.get? (f k).slots requiredName = some s ∧ s.types? = none) : Amends t (t.modify c f) := by
  refine ⟨List.length_modify _ _ _, fun d => ?_, fun d => ?_⟩
  · unfold ClassTable.order
    rw [List.getElem?_modify]
    cases t[d]? with
    | none => rfl
    | some k => by_cases here : c = d <;> simp [here, ordered]
  · unfold record?
    rw [List.getElem?_modify]
    cases t[d]? with
    | none => exact .inl rfl
    | some k =>
      by_cases here : c = d
      · simpa [here] using recorded k
      · exact .inl (by simp [here])

theorem setSlot (t : ClassTable) (c : ClassId) (name : String) {s : Slot} (bare : s.types? = none) :
    Amends t (t.setSlot c name s) := by
  refine modify t c (fun _ => rfl) fun k => ?_
  by_cases here : requiredName = name
  · exact .inr ⟨s, here ▸ Ledger.get?_put_self _ _ _, bare⟩
  · exact .inl (Ledger.get?_put_of_ne _ _ here)

end Amends

/-- One more class, with a linear order of its ancestors, that defines these slots and what every class does. -/
structure Grows (t u : ClassTable) (slots : Ledger Slot) : Prop where
  added : ∃ k isFirst, u = t ++ [k] ∧ k.slots = withStandard isFirst slots ∧
    ∃ bases, (∀ c ∈ bases, c < t.length) ∧ orderOf t.length bases (bases.map t.order) = some k.order

namespace Grows
variable {slots : Ledger Slot} (grows : Grows t u slots)
include grows

theorem length : u.length = t.length + 1 := by
  obtain ⟨k, _, rfl, _⟩ := grows.added
  exact List.length_append

theorem order (known : c < t.length) : u.order c = t.order c := by
  obtain ⟨k, _, rfl, _⟩ := grows.added
  unfold ClassTable.order
  rw [List.getElem?_append_left known]

theorem record (known : c < t.length) : u.record? c = t.record? c := by
  obtain ⟨k, _, rfl, _⟩ := grows.added
  unfold record?
  rw [List.getElem?_append_left known]

theorem last : ∃ bases, (∀ c ∈ bases, c < t.length) ∧
    orderOf t.length bases (bases.map t.order) = some (u.order t.length) := by
  obtain ⟨k, _, rfl, _, bases, known, ordered⟩ := grows.added
  refine ⟨bases, known, ?_⟩
  unfold ClassTable.order at ordered ⊢
  simpa using ordered

theorem ownRecord (unknown : t.length ≤ c) {s : Slot} (own : u.record? c = some s) :
    ∃ isFirst, Ledger.get? (withStandard isFirst slots) requiredName = some s := by
  obtain ⟨k, isFirst, rfl, same, _⟩ := grows.added
  unfold record? at own
  obtain ⟨j, found, here⟩ := Option.bind_eq_some_iff.mp own
  rw [List.getElem?_append_right unknown] at found
  obtain ⟨_, rfl⟩ := List.getElem?_eq_some_iff.mp found
  exact ⟨isFirst, same ▸ by simpa using here⟩

end Grows

end ClassTable

/-! New classes. -/

/-- Slots that record no types. -/
def Bare (slots : Ledger Slot) : Prop := ∀ e ∈ slots, e.2.types? = none

theorem bareGet {slots : Ledger Slot} (bare : Bare slots) {name : String} {s : Slot}
    (found : Ledger.get? slots name = some s) : s.types? = none := bare (name, s) (Ledger.memberOfGet found)

theorem barePut {slots : Ledger Slot} (bare : Bare slots) (name : String) {s : Slot} (none : s.types? = none) :
    Bare (Ledger.put name s slots) := by
  induction slots with
  | nil => exact List.forall_mem_singleton.mpr none
  | cons head rest ih =>
    obtain ⟨first, others⟩ := List.forall_mem_cons.mp bare
    unfold Ledger.put
    split
    · exact List.forall_mem_cons.mpr ⟨none, others⟩
    · exact List.forall_mem_cons.mpr ⟨first, ih others⟩

theorem bareStandard {slots : Ledger Slot} (bare : Bare slots) (isFirst : Bool) :
    Bare (withStandard isFirst slots) := by
  unfold withStandard
  induction standardNames isFirst generalizing slots with
  | nil => exact bare
  | cons name rest ih =>
    rw [List.foldl_cons]
    split
    · exact ih bare
    · exact ih (barePut bare name rfl)

theorem mixinSlotsBare {origin : Origin} {members : List Member} {before slots : Ledger Slot} (bare : Bare before)
    (made : mixinSlots origin before members = some slots) : Bare slots := by
  induction members generalizing before with
  | nil =>
    cases made
    exact bare
  | cons m rest ih =>
    refine ih (barePut (barePut bare _ ?_) _ rfl) (mixinSlotsNext made)
    unfold ownSlot
    cases found : Ledger.get? before "UNRESOLVED" with
    | none => rfl
    | some s => exact bareGet bare found

theorem slotsOfBare {origin : Origin} {members : List Member} {slots : Ledger Slot}
    (made : slotsOf origin members = some slots) : Bare slots := by
  obtain ⟨whole, all, rfl⟩ := Option.map_eq_some_iff.mp made
  have bare := mixinSlotsBare (by simp [Bare]) all
  split
  · exact fun e listed => bare e (List.mem_filter.mp listed).1
  · exact bare

theorem defineGrows {w : World} (whole : w.Whole) {name : String} {bases : List ClassId} {slots : Ledger Slot}
    {equalsAll : Bool} {made : ClassTable} {self : ClassId} (known : ∀ c ∈ bases, c < w.classes.length)
    (defined : w.classes.define name bases slots equalsAll = some (made, self)) : w.classes.Grows made slots := by
  obtain ⟨k, made, _, ⟨isFirst, slots⟩, ordered⟩ := defineOk defined
  exact ⟨k, isFirst, made, slots, _, groundsKnown whole known, ordered⟩

/-! Actions. -/

/-- The class and the types of a requirement decorator whose names are all known. -/
def World.decoration? (w : World) : Action → Option (ClassId × List ClassId)
  | .require cls types => do
    let c ← Ledger.get? w.names cls
    let types ← types.mapM (Ledger.get? w.names)
    some (c, types)
  | .requireOne cls type arguments => do
    let c ← Ledger.get? w.names cls
    let type ← Ledger.get? w.names type
    if arguments.length = 1 ∨ arguments.length = 2 then some (c, [type]) else none
  | _ => none

theorem classesKnown {w : World} {names : List String} {cs : List ClassId}
    (named : names.mapM (Ledger.get? w.names) = some cs) : (names.mapM classNamed).runIn w = (.ok cs, w) := by
  induction names generalizing cs with
  | nil =>
    cases named
    rfl
  | cons name rest ih =>
    simp only [List.mapM_cons, Option.bind_eq_bind, Option.bind_eq_some_iff] at named
    obtain ⟨c, first, ds, others, same⟩ := named
    cases same
    rw [List.mapM_cons, bindOf (classKnown first), bindOf (ih others)]
    rfl

theorem classesNamedAs {w v : World} {names : List String} {cs : List ClassId}
    (ok : (names.mapM classNamed).runIn w = (.ok cs, v)) : names.mapM (Ledger.get? w.names) = some cs := by
  induction names generalizing cs v with
  | nil =>
    cases ok
    rfl
  | cons name rest ih =>
    rw [List.mapM_cons] at ok
    obtain ⟨c, u, first, more⟩ := bindOk ok
    obtain ⟨found, back⟩ := classNamedOk first
    obtain ⟨ds, t, others, done⟩ := bindOk (back ▸ more)
    cases done
    rw [List.mapM_cons, found, ih others]
    rfl

/-- A class that has nothing else under the name of its required types gets its record, unless it is the root of
all. -/
theorem requireStep (w : World) (c : ClassId) (types : List ClassId) : (Act.require c types).runIn w =
    match w.classes.require? c types with
    | some t => if c = ClassTable.base then (.error .badType, w) else (.ok (.flag true), { w with classes := t })
    | none => (.error .badType, w) := by
  unfold Act.require
  rw [bindOf (getIn w)]
  cases w.classes.require? c types with
  | none => rfl
  | some t =>
    unfold changeable
    dsimp only
    by_cases root : c = ClassTable.base
    · rw [if_pos root, if_pos root]
      rfl
    · rw [if_neg root, if_neg root]
      rfl

theorem recordKeeps {P : ClassTable → Prop} {c : ClassId} {types : List ClassId}
    (records : ∀ t seen, P t → P (t.recording c seen types)) :
    Act.Keeps (fun v => P v.classes) (Act.require c types) := by
  intro w holds
  rw [requireStep, ClassTable.require?]
  cases w.classes.required? c with
  | none => exact holds
  | some seen =>
    dsimp only [Option.map_some]
    split
    · exact holds
    · exact records w.classes seen holds

theorem decorationStep {w : World} {a : Action} {c : ClassId} {types : List ClassId}
    (asked : w.decoration? a = some (c, types)) : w.step a = (Act.require c types).runIn w := by
  cases a with
  | require cls names =>
    simp only [World.decoration?, Option.bind_eq_bind, Option.bind_eq_some_iff] at asked
    obtain ⟨c', named, types', all, same⟩ := asked
    cases same
    change (classNamed cls >>= fun c => names.mapM classNamed >>= Act.require c : Act Answer).runIn w = _
    rw [bindOf (classKnown named), bindOf (classesKnown all)]
  | requireOne cls type arguments =>
    simp only [World.decoration?, Option.bind_eq_bind, Option.bind_eq_some_iff] at asked
    obtain ⟨c', named, type', typed, same⟩ := asked
    split at same
    · next fitting =>
      cases same
      refine (bindOf (classKnown named)).trans ((bindOf (classKnown typed)).trans ?_)
      match arguments, fitting with
      | [_], _ => rfl
      | [_, _], _ => rfl
    · cases same
  | _ => cases asked

theorem decorationNamed {w v : World} (same : v.names = w.names) (a : Action) : v.decoration? a = w.decoration? a := by
  cases a <;> simp only [World.decoration?, same]

theorem decorationKnown {w : World} (whole : w.Whole) {a : Action} {c : ClassId} {types : List ClassId}
    (asked : w.decoration? a = some (c, types)) : c < w.classes.length := by
  cases a with
  | require cls names =>
    simp only [World.decoration?, Option.bind_eq_bind, Option.bind_eq_some_iff] at asked
    obtain ⟨d, named, _, _, same⟩ := asked
    cases same
    exact whole.names cls _ named
  | requireOne cls type arguments =>
    simp only [World.decoration?, Option.bind_eq_bind, Option.bind_eq_some_iff] at asked
    obtain ⟨d, named, _, _, same⟩ := asked
    split at same
    · cases same
      exact whole.names cls _ named
    · cases same
  | _ => cases asked

theorem decorationCases {w : World} {a : Action} {c : ClassId} {types : List ClassId}
    (asked : w.decoration? a = some (c, types)) :
    (w.classes.required? c = none ∨ c = ClassTable.base) ∧ w.step a = (.error .badType, w) ∨
      ∃ seen, w.classes.required? c = some seen ∧ c ≠ ClassTable.base ∧
        w.step a = (.ok (.flag true), { w with classes := w.classes.recording c seen types }) := by
  rw [decorationStep asked, requireStep, ClassTable.require?]
  cases seen : w.classes.required? c with
  | none => exact .inl ⟨.inl rfl, rfl⟩
  | some types =>
    by_cases root : c = ClassTable.base
    · exact .inl ⟨.inr root, if_pos root⟩
    · exact .inr ⟨types, rfl, root, if_neg root⟩

/-- The second world has the classes of the first one, or those and one that defines these slots. -/
def World.Adds (slots : Ledger Slot) (w v : World) : Prop := v.classes = w.classes ∨ w.classes.Grows v.classes slots

/-- The second world has the classes of the first one as an action leaves them that records no types. -/
def World.Spares (w v : World) : Prop :=
  w.classes.Amends v.classes ∨ ∃ slots, Bare slots ∧ w.classes.Grows v.classes slots

theorem sparesSelf (w : World) : w.Spares w := .inl (.refl _)

theorem addsSpares {slots : Ledger Slot} {w v : World} (adds : w.Adds slots v) (bare : Bare slots) : w.Spares v := by
  rcases adds with same | grows
  · exact .inl (same.symm ▸ .refl _)
  · exact .inr ⟨slots, bare, grows⟩

theorem optionOk {α : Type} {x : Option α} {w v : World} {a : α} (ok : (ofOption x).runIn w = (.ok a, v)) :
    x = some a := by
  cases x with
  | none => cases ok
  | some b =>
    cases ok
    rfl

theorem changeClassesAmends (t : ClassTable) {f : ClassTable → ClassTable} (amended : ∀ u, ClassTable.Amends u (f u)) :
    Act.Keeps (fun v => t.Amends v.classes) (changeClasses f) :=
  keepsModify fun v before => before.trans (amended v.classes)

theorem markGroupAmends (t : ClassTable) (c : ClassId) (visibility : Value) :
    Act.Keeps (fun v => t.Amends v.classes) (Act.markGroup c visibility) :=
  changeableKeeps c fun _ => keepsBind (changeClassesAmends t fun u => .setSlot u c _ rfl) fun _ => keepsPure _

theorem plainAccessorAmends (t : ClassTable) (c : ClassId) (name : String) :
    Act.Keeps (fun v => t.Amends v.classes) (Act.plainAccessor c name) := by
  refine changeableKeeps c fun _ => keepsGuard fun _ => keepsGuard fun _ =>
    keepsBind (changeClassesAmends t fun u => .setSlot u c name rfl) fun _ => ?_
  split
  · exact keepsBind (changeClassesAmends t fun u => .modify u c (fun _ => rfl) fun _ => .inl rfl) fun _ => keepsPure _
  · exact keepsPure _

section
variable (t : ClassTable)

theorem stillLasting : Lasting (fun _ _ => True) fun v => v.classes = t :=
  ⟨fun _ _ same => same, fun _ _ same => same, fun _ _ => trivial⟩

theorem stillKeeping : (reach maxNesting).Keeping (fun _ _ => True) fun v => v.classes = t :=
  reachKeepsStored (fun _ _ _ _ same => same) (fun _ _ _ same => same) maxNesting

theorem usesStill {a : Action} (uses : a.IsUse) : Act.Keeps (fun v => v.classes = t) (perform a) :=
  usesKeeps (stillLasting t) (stillKeeping t) (fun _ _ same => same) uses

theorem assignStill (host name component : String) :
    Act.Keeps (fun v => v.classes = t) (perform (.assign host name component)) :=
  assignsKeep (stillLasting t) (stillKeeping t) host name component fun _ _ _ same => same

end

section
variable {w : World} (whole : w.Whole)
include whole

theorem addClassAdds {parents : List ClassId} (known : ∀ c ∈ parents, c < w.classes.length) (name : String)
    (slots : Ledger Slot) (equalsAll : Bool) : w.Adds slots ((addClass name parents slots equalsAll).runIn w).2 := by
  unfold addClass
  rw [bindOf (getIn w)]
  cases defined : w.classes.define name parents slots equalsAll with
  | none => exact .inl rfl
  | some p => exact .inr (defineGrows whole known defined)

theorem defineClassAdds (name : String) (bases : List String) (equalsAll : Bool) :
    w.Adds [] ((Act.defineClass name bases equalsAll).runIn w).2 := by
  refine afterReading ((keepsClosed _).mapM keepsClassNamed bases) (.inl rfl) fun parents looked =>
    afterReading (keepsRequireReadable _) (.inl rfl) fun _ _ => ?_
  obtain ⟨known, _⟩ := classesNamedOk looked
  refine addClassAdds whole (fun c member => ?_) name [] _
  obtain ⟨base, found⟩ := known c member
  exact whole.names base c found

theorem defineMixinSpares (name : String) (accessors : List Accessor) :
    w.Spares ((Act.defineMixin name accessors).runIn w).2 := by
  refine afterReading (keepsRequireReadable _) (sparesSelf w) fun _ _ => ?_
  split
  · exact sparesSelf w
  · refine afterReading (fun v same => same) (sparesSelf w) fun seen _ =>
      afterReading (keepsOption _) (sparesSelf w) fun slots made => ?_
    have added := @addClassAdds w whole [] (by simp) name slots false
    split
    · exact sparesSelf w
    · exact addsSpares added (slotsOfBare (optionOk made))

/-- Any action but a requirement decorator that knows its classes leaves every record of types as it is, puts something
else in its place, or adds a class without one. -/
theorem otherSpares {a : Action} (other : w.decoration? a = none) : w.Spares (w.step a).2 := by
  have still {v : World} (same : v.classes = w.classes) : w.Spares v := .inl (same.symm ▸ .refl _)
  cases a with
  | defineClass name bases equalsAll => exact addsSpares (defineClassAdds whole name bases equalsAll) (by simp [Bare])
  | defineMixin name accessors => exact defineMixinSpares whole name accessors
  | plainAccessor cls name =>
    exact .inl (keepsBind (keepsClassNamed cls) (plainAccessorAmends w.classes · name) w (.refl w.classes))
  | require cls types =>
    refine afterReading (keepsClassNamed cls) (sparesSelf w) fun c named =>
      afterReading ((keepsClosed _).mapM keepsClassNamed types) (sparesSelf w) fun ts all => ?_
    simp [World.decoration?, (classNamedOk named).1, classesNamedAs all] at other
  | markGroup cls arguments =>
    refine .inl (keepsBind (I := fun v => w.classes.Amends v.classes) (keepsClassNamed cls) (fun c => ?_) w (.refl _))
    split
    · exact markGroupAmends w.classes c _
    · exact markGroupAmends w.classes c _
    · exact keepsThrow _
  | markGroupBare cls =>
    exact .inl (keepsBind (keepsClassNamed cls) (markGroupAmends w.classes · _) w (.refl w.classes))
  | requireOne cls type arguments =>
    refine afterReading (keepsClassNamed cls) (sparesSelf w) fun c named =>
      afterReading (keepsClassNamed type) (sparesSelf w) fun t typed => ?_
    simp only [World.decoration?, (classNamedOk named).1, (classNamedOk typed).1] at other
    split
    · simp at other
    · simp at other
    · exact sparesSelf w
  | assign host name component => exact still (assignStill w.classes host name component w rfl)
  | _ =>
    refine still (usesStill w.classes ?_ w rfl)
    exact trivial

end

/-- All that an action can do to the classes: it records types on one of them, or it records none. -/
theorem stepClasses {w : World} (whole : w.Whole) (a : Action) :
    (∃ c types seen, w.decoration? a = some (c, types) ∧ w.classes.required? c = some seen ∧
      (w.step a).2.classes = w.classes.recording c seen types) ∨ w.Spares (w.step a).2 := by
  cases asked : w.decoration? a with
  | some p =>
    obtain ⟨c, types⟩ := p
    rcases decorationCases asked with ⟨_, step⟩ | ⟨seen, shown, _, step⟩
    · rw [step]
      exact .inr (sparesSelf w)
    · rw [step]
      exact .inl ⟨c, types, seen, rfl, shown, rfl⟩
  | none => exact .inr (otherSpares whole asked)

theorem stepOrder {w : World} (whole : w.Whole) (a : Action) {c : ClassId} (known : c < w.classes.length) :
    (w.step a).2.classes.order c = w.classes.order c ∧ c < (w.step a).2.classes.length := by
  rcases stepClasses whole a with ⟨d, types, seen, _, _, step⟩ | amends | ⟨_, _, grows⟩
  · rw [step]
    exact ⟨setSlotOrder _ _ c _ _, (List.length_modify _ _ _).symm ▸ known⟩
  · exact ⟨amends.order c, amends.length ▸ known⟩
  · exact ⟨grows.order known, grows.length ▸ Nat.lt_succ_of_lt known⟩

/-! Class definitions and decorators. -/

def Action.Declares : Action → Prop
  | .defineClass .. | .require .. | .requireOne .. | .markGroup .. | .markGroupBare .. => True
  | _ => False

theorem declaresKeeps {I : World → Prop}
    (defined : ∀ v name bases equalsAll, v.Whole → I v → I ((Act.defineClass name bases equalsAll).runIn v).2)
    (required : ∀ c types, Act.Keeps I (Act.require c types))
    (marked : ∀ c visibility, Act.Keeps I (Act.markGroup c visibility)) {a : Action} (declares : a.Declares) {w : World}
    (whole : w.Whole) (holds : I w) : I (w.step a).2 := by
  cases a with
  | defineClass name bases equalsAll => exact defined w name bases equalsAll whole holds
  | require cls types =>
    exact keepsBind (keepsClassNamed cls) (fun c => keepsBind ((keepsClosed _).mapM keepsClassNamed types)
      (required c)) w holds
  | markGroup cls arguments =>
    refine keepsBind (keepsClassNamed cls) (fun c => ?_) w holds
    split
    · exact marked c _
    · exact marked c _
    · exact keepsThrow _
  | markGroupBare cls => exact keepsBind (keepsClassNamed cls) (marked · _) w holds
  | requireOne cls type arguments =>
    refine keepsBind (keepsClassNamed cls) (fun c => keepsBind (keepsClassNamed type) fun t => ?_) w holds
    split
    · exact required c _
    · exact required c _
    · exact keepsThrow _
  | _ => exact declares.elim

/-! Moments of a run. -/

theorem momentWhole {w : World} (whole : w.Whole) (run : List Action) (i : Nat) : (w.moment run i).Whole :=
  afterWhole whole _

/-- What holds at first and is kept by every action of a run holds at all of its moments. -/
theorem throughout {I : World → Prop} {w : World} (whole : w.Whole) (first : I w) {run : List Action}
    (step : ∀ a ∈ run, ∀ v : World, v.Whole → I v → I (v.step a).2) (i : Nat) : I (w.moment run i) := by
  induction i with
  | zero => exact first
  | succ i ih =>
    cases next : run[i]? with
    | some a =>
      rw [momentNext next]
      exact step a (List.mem_of_getElem? next) _ (momentWhole whole run i) ih
    | none => rwa [momentEnded next]

end AccessorForge.Hosting
