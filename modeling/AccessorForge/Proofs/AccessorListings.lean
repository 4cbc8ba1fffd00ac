import AccessorForge.Proofs.HiddenMarks
import AccessorForge.Proofs.MixinHosts
/-! The accessors that a class lists, and what its instances make of their names. A listing goes through all names
that a class and its ancestors define; what it tells of a name is what attribute access finds: the accessor, if the
nearest definition is one. Instances cannot assign such a name and read the accessor through it, whatever they hold
themselves, as long as nothing takes the place of assignment and of reading as a whole. -/
namespace AccessorForge.Hosting
open Act Running Text.Surrogate

/-! Listings. -/

theorem codesAscend {names : List String} (unique : names.Nodup) :
    ((names.mergeSort ClassTable.codeOrder).map codes).Pairwise (List.Lex (· < ·)) := by
  have before (a b : String) : ClassTable.codeOrder a b = true ↔ ¬ List.Lex (· < ·) (codes b) (codes a) := by
    rw [ClassTable.codeOrder, Bool.not_eq_true', ← Bool.not_eq_true, List.lex_eq_true_iff_lex]
    simp only [decide_eq_true_eq]
  have sorted : (names.mergeSort ClassTable.codeOrder).Pairwise fun a b => ClassTable.codeOrder a b = true := by
    refine List.pairwise_mergeSort (fun a b c first second => ?_) (fun a b => ?_) names
    · rw [before] at first second ⊢
      exact List.le_trans first second
    · rw [Bool.or_eq_true, before, before]
      exact List.le_total _ _
  have apart : (names.mergeSort ClassTable.codeOrder).Nodup := (List.mergeSort_perm _ _).nodup_iff.mpr unique
  rw [List.pairwise_map]
  refine (sorted.and apart).imp fun {a b} ⟨ordered, other⟩ => ?_
  by_contra unordered
  exact other (codes_injective (List.le_antisymm ((before a b).mp ordered) unordered))

namespace ClassTable
variable {t : ClassTable} {c : ClassId}

/-- The nearest of a class and its ancestors that defines a name defines it as this. -/
def Nearest (t : ClassTable) (c : ClassId) (name : String) (s : Slot) : Prop :=
  ∃ before k after, t.order c = before ++ k :: after ∧ Ledger.get? (t.ownSlots k) name = some s ∧
    ∀ d ∈ before, Ledger.get? (t.ownSlots d) name = none

theorem slotNearest {name : String} {s : Slot} : t.slot? c name = some s ↔ t.Nearest c name s := by
  rw [slotSearched, List.findSome?_eq_some_iff]
  rfl

theorem shownAccessor {name n v : String} {s : Slot} :
    shownSlot (name, s) = some (n, v) ↔ name = n ∧ ∃ g, s = .accessor v g := by
  cases s <;> simp [shownSlot, and_comm]

theorem listingAscends (t : ClassTable) (c : ClassId) :
    ((t.accessors c).map fun e => codes e.1).Pairwise (List.Lex (· < ·)) := by
  have unique : ((t.slotNames c).foldl appendNew []).Nodup := by
    rw [show ([] : List String) = [].eraseDups from rfl, foldlAppendNew]
    exact eraseDupsNodup _
  have ascending := codesAscend unique
  rw [List.pairwise_map] at ascending ⊢
  rw [listingShown]
  refine ascending.filterMap _ fun a b ordered (n, v) first (m, u) second => ?_
  obtain ⟨s, _, first⟩ := Option.bind_eq_some_iff.mp first
  obtain ⟨s', _, second⟩ := Option.bind_eq_some_iff.mp second
  rw [← (shownAccessor.mp first).1, ← (shownAccessor.mp second).1]
  exact ordered

theorem listedFound {name visibility : String} : (name, visibility) ∈ t.accessors c ↔
    (t.slot? c name).bind (fun s => shownSlot (name, s)) = some (name, visibility) := by
  rw [listingShown, List.mem_filterMap]
  constructor
  · rintro ⟨n, _, told⟩
    obtain ⟨s, found, shown⟩ := Option.bind_eq_some_iff.mp told
    obtain ⟨rfl, _⟩ := shownAccessor.mp shown
    exact told
  · intro told
    obtain ⟨s, found, _⟩ := Option.bind_eq_some_iff.mp told
    exact ⟨name, List.mem_mergeSort.mpr (memFoldlAppendNew.mpr (.inr (slotNamed found))), told⟩

/-- A listing tells an accessor exactly if the nearest definition of its name is that accessor. -/
theorem listedNearest {name visibility : String} :
    (name, visibility) ∈ t.accessors c ↔ ∃ g, t.Nearest c name (.accessor visibility g) := by
  simp only [listedFound, Option.bind_eq_some_iff, shownAccessor, true_and, slotNearest]
  constructor
  · rintro ⟨_, nearest, g, rfl⟩
    exact ⟨g, nearest⟩
  · rintro ⟨g, nearest⟩
    exact ⟨_, nearest, g, rfl⟩

end ClassTable

/-! What may happen to an instance. -/

/-- Actions that make no class and change none. -/
def Action.SparesClasses (a : Action) : Prop :=
  a.IsUse ∨ ∃ host name component, a = .assign host name component

theorem SameSlots.step {x : ObjectId} {w v : World} (same : SameSlots x w v) {a : Action} (spares : a.SparesClasses) :
    SameSlots x w (v.step a).2 := by
  have lasting : Lasting (fun _ _ => True) (SameSlots x w) :=
    ⟨fun o d same => same.stored o attachmentField d, fun label c same => same.pushed label c, fun _ _ => trivial⟩
  have keeping := reachSameSlots x w maxNesting
  rcases spares with uses | ⟨host, name, component, rfl⟩
  · exact usesKeeps lasting keeping (fun _ _ same => same) uses v same
  · exact assignsKeep lasting keeping host name component (fun _ o d same => same.stored o name d) v same

theorem SameSlots.after {x : ObjectId} {w v : World} (same : SameSlots x w v) {run : List Action}
    (spares : ∀ a ∈ run, a.SparesClasses) : SameSlots x w (v.after run) := by
  induction run generalizing v with
  | nil => exact same
  | cons a rest ih =>
    exact ih (same.step (spares a List.mem_cons_self)) fun b later => spares b (List.mem_cons_of_mem a later)

/-! Names of accessors on an instance. -/

namespace World
variable {w : World} {o : ObjectId} {name visibility : String} {g : Getter}

theorem slotless (free : w.slot? o name = none) : w.accessor? o name = none := by
  unfold World.slot? at free
  unfold World.accessor? ClassTable.accessor?
  rw [free]

/-- What running an accessor gives, where a read of its name runs it. -/
def ran (w : World) (o : ObjectId) (g : Getter) : Except Fault Datum × World :=
  ((reach (maxNesting - 2)).runGetter o g).runIn w

/-- A read of a name runs this accessor and gives what it gives. Only an attribute that it misses is left to the
accessor for missing attributes, if the class has one, which runs after it. -/
structure ReadsBy (w : World) (o : ObjectId) (name : String) (g : Getter) : Prop where
  given : (w.ran o g).1 ≠ .error .badAttribute ∨ w.slot? o "__getattr__" = none →
    (Act.readNamed o name).runIn w = w.ran o g
  missing : ∀ h, (w.ran o g).1 = .error .badAttribute → w.accessor? o "__getattr__" = some h →
    (Act.readNamed o name).runIn w = ((reach (maxNesting - 1)).runInstead o h).runIn (w.ran o g).2

theorem readsBy (readable : w.slot? o "__getattribute__" = none)
    (found : w.slot? o name = some (.accessor visibility g)) : w.ReadsBy o name g := by
  have own : ((reach (maxNesting - 1)).readOwn o name).runIn w = w.ran o g := by
    unfold Reach.readOwn
    rw [bindOf (getIn w), found]
    rfl
  have read : (Act.readNamed o name).runIn w = ((reach (maxNesting - 1)).readThrough o name).runIn w := rfl
  rw [Reach.readThrough, bindOf (getIn w), slotless readable] at read
  dsimp only at read
  constructor
  · intro proper
    rw [read]
    cases taken : w.accessor? o "__getattr__" with
    | none => exact own
    | some h =>
      have proper := proper.resolve_right fun free => by cases (slotless free).symm.trans taken
      dsimp only
      rw [catchIn, own]
      cases given : w.ran o g with
      | mk result v =>
        rw [given] at proper
        cases result with
        | ok d => rfl
        | error f =>
          dsimp only
          split
          · exact absurd rfl proper
          · rfl
  · intro h lacks taken
    rw [read, taken]
    dsimp only
    rw [catchIn, own]
    cases given : w.ran o g with
    | mk result v =>
      rw [given] at lacks
      cases lacks
      rfl

theorem assignRefused (writable : w.slot? o "__setattr__" = none)
    (found : w.slot? o name = some (.accessor visibility g)) {host component : String} {x : ObjectId}
    (named : Ledger.get? w.labels host = some o) (known : Ledger.get? w.labels component = some x) :
    w.step (.assign host name component) = (.error .badAttribute, w) := by
  have refused : ((reach maxNesting).assign o name (.object x)).runIn w = (.error .badAttribute, w) := by
    unfold Reach.assign
    rw [bindOf (getIn w), slotless writable, found]
    rfl
  change (Act.objectNamed host >>= fun p => Act.objectNamed component >>= fun y =>
    (reach maxNesting).assign p name (.object y) >>= fun _ => pure Answer.nothing : Act Answer).runIn w = _
  rw [bindOf (objectKnown named), bindOf (objectKnown known), bindIn, refused]

end World

/-- A class lists just the accessors that are the nearest definitions of their names, each name once and by its code
points. Whatever has been done to an instance and been assigned on it, assignment to such a name is refused and changes
nothing, unless something of the class takes the place of assignment; and a read runs the accessor, unless something
takes the place of reading. -/
theorem accessorsListed (w : World) (c : ClassId) :
    (∀ cls, Ledger.get? w.names cls = some c →
      w.step (.accessors cls) = (.ok (.accessorList (w.classes.accessors c)), w)) ∧
    ((w.classes.accessors c).map fun e => codes e.1).Pairwise (List.Lex (· < ·)) ∧
    (∀ name visibility, (name, visibility) ∈ w.classes.accessors c ↔
      ∃ g, w.classes.Nearest c name (.accessor visibility g)) ∧
    ∀ name visibility g, w.classes.Nearest c name (.accessor visibility g) →
      ∀ o < w.objects.length, w.classOf o = c → ∀ run : List Action, (∀ a ∈ run, a.SparesClasses) →
        (w.classes.slot? c "__setattr__" = none → ∀ host component x,
          Ledger.get? (w.after run).labels host = some o → Ledger.get? (w.after run).labels component = some x →
            (w.after run).step (.assign host name component) = (.error .badAttribute, w.after run)) ∧
        (w.classes.slot? c "__getattribute__" = none → (w.after run).ReadsBy o name g) := by
  refine ⟨fun _ => listingAnswered, ClassTable.listingAscends _ c, fun _ _ => ClassTable.listedNearest, ?_⟩
  intro name visibility g nearest o alive class' run spares
  have same : SameSlots o w (w.after run) := SameSlots.after ⟨alive, fun _ => rfl⟩ spares
  have slots (n : String) : (w.after run).slot? o n = w.classes.slot? c n := by
    rw [same.2, World.slot?, class']
  have found : (w.after run).slot? o name = some (.accessor visibility g) :=
    (slots name).trans (ClassTable.slotNearest.mpr nearest)
  constructor
  · intro writable host component x named known
    exact World.assignRefused ((slots _).trans writable) found named known
  · intro readable
    exact World.readsBy ((slots _).trans readable) found

/-- A car with an engine, which has an accessor. -/
def parked : World := carFactory.after [.create "car" "Car", .add "car" "engine"]

/-- Attributes of the car that are none of its accessors, one of them the field of an accessor. -/
def tinkering : List Action := [.assign "car" "colour" "wheel", .assign "car" "_engine" "wheel"]

theorem parkedReady :
    ((parked.classes.slot? 5 "engine").bind fun s => shownSlot ("engine", s)) = some ("engine", "public") ∧
    2 < parked.objects.length ∧ parked.classOf 2 = 5 ∧ (parked.classes.slot? 5 "__setattr__").isNone ∧
    (parked.classes.slot? 5 "__getattribute__").isNone ∧ Ledger.get? (parked.after tinkering).labels "car" = some 2 ∧
    Ledger.get? (parked.after tinkering).labels "wheel" = some 1 := by
  decide +kernel

theorem accessorsListedCar : ∃ g, parked.classes.Nearest 5 "engine" (.accessor "public" g) ∧
    (parked.after tinkering).step (.assign "car" "engine" "wheel") = (.error .badAttribute, parked.after tinkering) ∧
    (parked.after tinkering).ReadsBy 2 "engine" g := by
  have spares : ∀ a ∈ tinkering, a.SparesClasses := by simp [tinkering, Action.SparesClasses]
  have ready := parkedReady
  generalize parked = w at ready ⊢
  obtain ⟨listed, alive, class', writable, readable, named, known⟩ := ready
  obtain ⟨_, _, nearest, guards⟩ := accessorsListed w 5
  obtain ⟨g, nearest⟩ := (nearest _ _).mp (ClassTable.listedFound.mpr listed)
  obtain ⟨refuses, reads⟩ := guards _ _ g nearest 2 alive class' tinkering spares
  exact ⟨g, nearest, refuses (Option.isNone_iff_eq_none.mp writable) _ _ _ named known,
    reads (Option.isNone_iff_eq_none.mp readable)⟩

/-! An accessor in the place of assignment. -/

/-- A class with two accessors, of which one is what assignment goes through, and an instance of it. -/
def diverted : World := World.after {}
  [.defineClass "C" [] false, .plainAccessor "C" "__setattr__", .plainAccessor "C" "n", .create "x" "C"]

def isTypeError : Except Fault Answer → Bool
  | .error .badType => true
  | _ => false

theorem isTypeErrorOk {e : Except Fault Answer} (fails : isTypeError e = true) : e = .error .badType := by
  unfold isTypeError at fails
  split at fails
  · rfl
  · cases fails

/-- The class lists the other one, but what assignment to its name meets is not that the attribute is guarded. -/
theorem divertedAssignment : diverted.Reachable ∧ ("n", "public") ∈ diverted.classes.accessors 2 ∧
    Ledger.get? diverted.labels "x" = some 0 ∧ diverted.classOf 0 = 2 ∧
    (diverted.step (.assign "x" "n" "x")).1 = .error .badType ∧ Fault.badType ≠ .badAttribute := by
  have fails : isTypeError (diverted.step (.assign "x" "n" "x")).1 = true := by decide +kernel
  exact ⟨⟨_, rfl⟩, ClassTable.listedFound.mpr (by decide +kernel), by decide +kernel, by decide +kernel,
    isTypeErrorOk fails, by decide⟩

end AccessorForge.Hosting
