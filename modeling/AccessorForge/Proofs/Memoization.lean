import AccessorForge.Proofs.Lookups
import AccessorForge.Proofs.Worlds
/-! Accessors look a component up once. What the first read finds, an absent component too, is what every later
read gives, whatever is attached, detached, made or read in between. -/
namespace AccessorForge.Hosting
open Running Syntax

/-- Attributes of every host: those of the root of all, its own, and those of its instances. -/
def hostAttributes : List String :=
  Ambient.objectAttributes ++ ["__dict__", "__module__", "__weakref__", attachmentField, "_attached_components",
    "add_component", "components", "get_component", "remove_component"]

theorem ClassTable.slotNamed {t : ClassTable} {c : ClassId} {name : String} {s : Slot} (found : t.slot? c name = some s) :
    name ∈ t.slotNames c := by
  obtain ⟨d, ancestor, kept⟩ := List.exists_of_findSome?_eq_some found
  obtain ⟨k, there, held⟩ := Option.bind_eq_some_iff.mp kept
  refine List.mem_flatMap.mpr ⟨d, ancestor, ?_⟩
  rw [there]
  exact List.mem_map.mpr ⟨(name, s), Ledger.memberOfGet held, rfl⟩

namespace Memo
variable {m : Memo} {w v : World} {x : ObjectId}

def Unread (m : Memo) (w : World) (x : ObjectId) : Prop := w.held x m.field = .unresolved

/-- The accessor is what the property of the instance means, its field is the mark for nothing found, and no other
accessor of the instance gets in its way. -/
structure Standing (m : Memo) (w : World) (x : ObjectId) : Prop where
  alive : x < w.objects.length
  /-- The type is neither a yield nor does it bind a name. -/
  plain : m.type.yields = false ∧ m.type.bindings true = []
  found : ∃ visibility, w.slot? x m.property = some (.accessor visibility m.getter)
  /-- No accessor of the helper's name has hidden the mark from the class body. -/
  marked : w.slot? x m.field = some .unresolved
  /-- No class of the helper's name hides the mark from the accessor. -/
  visible : Ledger.get? m.origin.scope "UNRESOLVED" = none
  alone : ∀ name visibility field fill origin,
    w.slot? x name = some (.accessor visibility (.lookup field fill origin)) → name ≠ m.property → field ≠ m.field
  apart : ∀ name visibility getter, w.slot? x name = some (.accessor visibility getter) → name ∉ hostAttributes
  fieldApart : m.field ∉ hostAttributes

/-- Whether one of the slots that an instance finds leaves the accessor alone. -/
def spares (m : Memo) (name : String) : Option Slot → Bool
  | some (.accessor _ getter) => !hostAttributes.contains name && match getter with
    | .lookup field _ _ => name = m.property || field ≠ m.field
    | .nothing => true
  | _ => true

def stands (m : Memo) (w : World) (x : ObjectId) : Bool :=
  x < w.objects.length && !m.type.yields && (m.type.bindings true).isEmpty &&
    (w.slot? x m.field matches some .unresolved) && (Ledger.get? m.origin.scope "UNRESOLVED").isNone &&
    ((w.classes.slotNames (w.classOf x)).all fun name => m.spares name (w.slot? x name)) &&
    !hostAttributes.contains m.field

theorem standsSound {visibility : String} (found : w.slot? x m.property = some (.accessor visibility m.getter))
    (checked : m.stands w x = true) : m.Standing w x := by
  unfold stands at checked
  simp only [Bool.and_eq_true, Bool.not_eq_true', decide_eq_true_eq, List.isEmpty_iff, Option.isNone_iff_eq_none,
    List.all_eq_true] at checked
  obtain ⟨⟨⟨⟨⟨⟨alive, still⟩, unbound⟩, marked⟩, visible⟩, spared⟩, fieldApart⟩ := checked
  have sparing : ∀ name v g, w.slot? x name = some (.accessor v g) → m.spares name (some (.accessor v g)) = true := by
    intro name v g slot
    have spared := spared name (ClassTable.slotNamed slot)
    rw [slot] at spared
    exact spared
  refine ⟨alive, ⟨still, unbound⟩, ⟨visibility, found⟩, ?_, visible, ?_, ?_, ?_⟩
  · split at marked
    · assumption
    · cases marked
  · intro name v field fill origin slot other
    have spared := sparing name v _ slot
    simp [spares, other] at spared
    exact spared.2
  · intro name v g slot
    have spared := sparing name v g slot
    simp only [spares, Bool.and_eq_true, Bool.not_eq_true', List.contains_eq_mem, decide_eq_false_iff_not] at spared
    exact spared.1
  · simpa only [List.contains_eq_mem, decide_eq_false_iff_not] using fieldApart

/-! One read. -/

theorem Standing.free (standing : m.Standing w x) {name : String} (taken : name ∈ hostAttributes) :
    w.accessor? x name = none := by
  cases found : w.accessor? x name with
  | none => rfl
  | some g =>
    obtain ⟨v, slot⟩ := World.accessorSlot found
    exact (standing.apart name v g slot taken).elim

theorem Standing.keptBy (standing : m.Standing w x) (alive : x < v.objects.length)
    (slots : ∀ name, v.slot? x name = w.slot? x name) : m.Standing v x where
  alive := alive
  plain := standing.plain
  found := slots _ ▸ standing.found
  marked := slots _ ▸ standing.marked
  visible := standing.visible
  alone := fun name visibility field fill origin slot =>
    standing.alone name visibility field fill origin (slots name ▸ slot)
  apart := fun name visibility getter slot => standing.apart name visibility getter (slots name ▸ slot)
  fieldApart := standing.fieldApart

theorem readMarked (open' : w.accessor? x "__getattribute__" = none) (marked : w.slot? x m.field = some .unresolved)
    (n : Nat) : ((reach (n + 1)).read x m.field).runIn w = (.ok (w.held x m.field), w) :=
  Reach.readThroughOf open' (Reach.readOwnHeld marked)

/-- What is kept in the field is given again; nothing is looked up while there is something in it. -/
theorem runMarked (open' : w.accessor? x "__getattribute__" = none) (marked : w.slot? x m.field = some .unresolved)
    (plain : m.type.yields = false ∧ m.type.bindings true = [])
    (visible : Ledger.get? m.origin.scope "UNRESOLVED" = none) (n : Nat) :
    ((reach (n + 1)).runGetter x m.getter).runIn w =
      if (w.held x m.field).isUnresolved then (m.lookup (n + 1) x >>= m.store (n + 1) x).runIn w
      else (.ok (w.held x m.field), w) := by
  rw [getterRuns plain visible, bindOf (readMarked open' marked n)]
  split
  · rfl
  · exact readMarked open' marked n

theorem Standing.readField (standing : m.Standing w x) (n : Nat) :
    ((reach (n + 1)).read x m.field).runIn w = (.ok (w.held x m.field), w) :=
  readMarked (standing.free (by decide)) standing.marked n

theorem Standing.runIn (standing : m.Standing w x) (n : Nat) :
    ((reach (n + 1)).runGetter x m.getter).runIn w =
      if (w.held x m.field).isUnresolved then (m.lookup (n + 1) x >>= m.store (n + 1) x).runIn w
      else (.ok (w.held x m.field), w) :=
  runMarked (standing.free (by decide)) standing.marked standing.plain standing.visible n

theorem Standing.stores (standing : m.Standing w x) (n : Nat) (d : Datum) :
    (m.store (n + 1) x d).runIn w = (.ok d, w.setCell x m.field d) ∨
      ∃ f, (m.store (n + 1) x d).runIn w = (.error f, w) := by
  have stored : m.Standing (w.setCell x m.field d) x :=
    standing.keptBy (w.setCellAlive x m.field d ▸ standing.alive) fun name => w.setCellSlot x x m.field name d
  unfold store
  rcases (reach (n + 1)).assignCases (standing.free (by decide)) with ok | ⟨f, failed⟩
  · refine .inl ?_
    rw [bindOf ok, stored.readField n, World.setCellSelf standing.alive]
  · refine .inr ⟨f, ?_⟩
    rw [bindIn, failed]

/-! What all that happens leaves as it is. -/

/-- The instance has the slots that it had, and its field what it held or what a lookup has given since. -/
structure Since (m : Memo) (x : ObjectId) (w v : World) : Prop where
  alive : x < v.objects.length
  slots : ∀ name, v.slot? x name = w.slot? x name
  held : v.held x m.field = w.held x m.field ∨
    m.Unread w x ∧ ∃ u n, (∀ name, u.slot? x name = w.slot? x name) ∧ m.Unread u x ∧ m.Gives n u x (v.held x m.field)

theorem Standing.later (standing : m.Standing w x) (since : m.Since x w v) : m.Standing v x :=
  standing.keptBy since.alive since.slots

theorem sinceStart (standing : m.Standing w x) : m.Since x w w := ⟨standing.alive, fun _ => rfl, .inl rfl⟩

theorem Since.stored (since : m.Since x w v) {o : ObjectId} {field : String} (d : Datum)
    (other : o = x → field ≠ m.field) : m.Since x w (v.setCell o field d) where
  alive := v.setCellAlive o field d ▸ since.alive
  slots := fun name => (v.setCellSlot o x field name d).trans (since.slots name)
  held := v.setCellOther d other ▸ since.held

theorem Since.pushed (since : m.Since x w v) (label : String) (c : ClassId) : m.Since x w (v.push label c) where
  alive := World.pushAlive since.alive label c
  slots := fun name => (World.pushSlot since.alive label c name).trans (since.slots name)
  held := World.pushHeld since.alive label c m.field ▸ since.held

theorem Since.filled {u : World} {d : Datum} {n : Nat} (before : m.Since x w v) (unread : m.Unread v x)
    (gives : m.Gives n v x d) (after : m.Since x w u) : m.Since x w (u.setCell x m.field d) where
  alive := u.setCellAlive x m.field d ▸ after.alive
  slots := fun name => (u.setCellSlot x x m.field name d).trans (after.slots name)
  held := by
    rw [World.setCellSelf after.alive]
    refine .inr ⟨?_, v, n, before.slots, unread, gives⟩
    rcases before.held with same | ⟨start, _⟩
    · exact same.symm.trans unread
    · exact start

/-- The accessors that the instance has itself. -/
def Own (w : World) (x o : ObjectId) (g : Getter) : Prop := o = x → ∃ name v, w.slot? x name = some (.accessor v g)

theorem Standing.lasting (standing : m.Standing w x) : Lasting (Own w x) (m.Since x w) where
  attached := fun _ d since => since.stored d fun _ same =>
    standing.fieldApart (same ▸ by decide)
  pushed := fun label c since => since.pushed label c
  owned := by
    intro v o name g since found here
    obtain ⟨visibility, slot⟩ := World.accessorSlot found
    refine ⟨name, visibility, ?_⟩
    rw [← since.slots name, ← here]
    exact slot

/-- The read itself writes what the lookup gives at this very moment, or it leaves the field alone. -/
theorem Standing.runKeeps (standing : m.Standing w x) (n : Nat) (keeping : (reach n).Keeping (Own w x) (m.Since x w)) :
    Act.Keeps (m.Since x w) ((reach n).runGetter x m.getter) := by
  intro v since
  have now := standing.later since
  -- Nothing was found when the lookup began. It may have read the property itself and filled the field on its
  -- way; the last write counts then, and what it writes was given by a lookup from the world at the beginning.
  cases n with
  | zero =>
    rw [getterRuns standing.plain standing.visible]
    exact since
  | succ n =>
    rw [now.runIn n]
    split
    · rename_i unread
      rw [bindIn]
      cases ran : (m.lookup (n + 1) x).runIn v with
      | mk result u =>
        have after := (lookupKeeps keeping).ran ran since
        cases result with
        | error f => exact after
        | ok d =>
          have filled := Since.filled since (unresolvedIff.mp unread) ⟨u, ran⟩ after
          dsimp only
          rcases (standing.later after).stores n d with stored | ⟨f, failed⟩
          · rw [stored]
            exact filled
          · rw [failed]
            exact after
    · exact since

theorem Standing.reachSince (standing : m.Standing w x) : ∀ n, (reach n).Keeping (Own w x) (m.Since x w) := by
  refine reachKeeps standing.lasting fun n keeping o g mine => ?_
  -- Of the instance's accessors this one stores what it looked up, and the others have fields of their own.
  by_cases here : o = x
  · subst here
    obtain ⟨name, visibility, slot⟩ := mine rfl
    by_cases same : name = m.property
    · subst same
      obtain ⟨_, found⟩ := standing.found
      rw [found] at slot
      cases slot
      exact standing.runKeeps n keeping
    · refine Reach.runGetterKeeps standing.lasting keeping fun field fill origin lookup v d since => ?_
      exact since.stored d fun _ => standing.alone name visibility field fill origin (lookup ▸ slot) same
  · exact Reach.runGetterKeeps standing.lasting keeping fun field _ _ _ v d since =>
      since.stored d fun same => (here same).elim

/-! Reads of the property. -/

theorem readOwnRuns {visibility : String} (found : w.slot? x m.property = some (.accessor visibility m.getter))
    (n : Nat) : ((reach (n + 1)).readOwn x m.property).runIn w = ((reach n).runGetter x m.getter).runIn w := by
  unfold Reach.readOwn
  rw [bindOf (getIn w), found]
  rfl

theorem Standing.readLater (standing : m.Standing w x) (known : ¬ m.Unread w x) (n : Nat) :
    ((reach (n + 3)).read x m.property).runIn w = (.ok (w.held x m.field), w) := by
  obtain ⟨_, found⟩ := standing.found
  refine Reach.readThroughOf (standing.free (by decide)) ?_
  rw [readOwnRuns found (n + 1), standing.runIn n, if_neg fun unread => known (unresolvedIff.mp unread)]

theorem Standing.readFirst (standing : m.Standing w x) (unread : m.Unread w x) {n : Nat} {d : Datum}
    (ok : ((reach (n + 3)).read x m.property).runIn w = (.ok d, v)) :
    m.Gives (n + 1) w x d ∧ v.held x m.field = d := by
  obtain ⟨_, slot⟩ := standing.found
  have own := Reach.readThroughOk (r := reach (n + 2)) ok
  rw [readOwnRuns slot (n + 1), standing.runIn n, if_pos (unresolvedIff.mpr unread)] at own
  obtain ⟨found, u, looked, rest⟩ := bindOk own
  have after := (lookupKeeps (standing.reachSince (n + 1))).ran looked (sinceStart standing)
  rcases (standing.later after).stores n found with stored | ⟨f, failed⟩
  · rw [stored] at rest
    cases rest
    exact ⟨⟨u, looked⟩, World.setCellSelf after.alive m.field d⟩
  · rw [failed] at rest
    cases rest

/-! Runs. -/

theorem Since.step (standing : m.Standing w x) (since : m.Since x w v) (whole : v.Whole) {a : Action}
    (ordinary : a.IsOrdinary) : m.Since x w (v.step a).2 := by
  refine performKeeps standing.lasting (standing.reachSince maxNesting) ?_ ?_ ordinary whole since
  · intro u name k whole before admitted
    refine ⟨before.alive, fun other => ?_, before.held⟩
    obtain ⟨_, found⟩ := (standing.later before).found
    rw [withClassSlot whole (knownClass found), before.slots other]
  · intro u labels before
    exact ⟨before.alive, before.slots, before.held⟩

theorem Since.after (standing : m.Standing w x) (since : m.Since x w v) (whole : v.Whole) {actions : List Action}
    (ordinary : ∀ a ∈ actions, a.IsOrdinary) : m.Since x w (v.after actions) := by
  induction actions generalizing v with
  | nil => exact since
  | cons a rest ih =>
    have next := since.step standing whole (ordinary a List.mem_cons_self)
    exact ih next (stepWhole whole a) fun b member => ordinary b (List.mem_cons_of_mem a member)

theorem Since.known (since : m.Since x w v) (known : ¬ m.Unread w x) : v.held x m.field = w.held x m.field := by
  rcases since.held with same | ⟨unread, _⟩
  · exact same
  · exact (known unread).elim

end Memo

def World.moment (w : World) (run : List Action) (i : Nat) : World := w.after (run.take i)

theorem momentNext {w : World} {run : List Action} {i : Nat} {a : Action} (next : run[i]? = some a) :
    w.moment run (i + 1) = ((w.moment run i).step a).2 := by
  unfold World.moment World.after
  rw [List.take_add_one, next]
  simp

theorem momentEnded {w : World} {run : List Action} {i : Nat} (ended : run[i]? = none) :
    w.moment run (i + 1) = w.moment run i := by
  have short := List.getElem?_eq_none_iff.mp ended
  rw [World.moment, World.moment, List.take_of_length_le short, List.take_of_length_le (Nat.le_succ_of_le short)]

theorem momentLater {w : World} {run : List Action} {i j : Nat} (order : i ≤ j) :
    w.moment run j = (w.moment run i).after ((run.drop i).take (j - i)) := by
  have parts : run.take j = run.take i ++ (run.drop i).take (j - i) := by
    rw [← List.take_add, Nat.add_sub_cancel' order]
  unfold World.moment World.after
  rw [parts, List.foldl_append]

theorem readStep {w v : World} {x : ObjectId} {host name : String} {d : Datum}
    (named : Ledger.get? w.labels host = some x) (ok : (Act.readNamed x name).runIn w = (.ok d, v)) :
    (w.step (.read host name)).2 = v := by
  have shown : ((Act.answerOf d).runIn v).2 = v := answerOfKeeps (I := (· = v)) d v rfl
  change ((Act.objectNamed host >>= fun o => Act.readNamed o name >>= Act.answerOf).runIn w).2 = v
  rw [bindOf (objectKnown named), bindOf ok]
  exact shown

/-- At any moment of a run of ordinary actions, a read of the property that is the first to find something gives
what the lookup gives at that very moment, which for the name of a class is what the instance's own method gives.
Every later read gives just that and changes nothing, unless it was the mark itself. Once the field holds anything
but the mark, all reads give what it holds, and a lookup has given it. -/
theorem readsMemoized {w : World} {x : ObjectId} {m : Memo} (reached : w.Reachable) (standing : m.Standing w x)
    {run : List Action} (ordinary : ∀ a ∈ run, a.IsOrdinary) :
    (∀ i d v, m.Unread (w.moment run i) x →
      (Act.readNamed x m.property).runIn (w.moment run i) = (.ok d, v) →
        m.Gives (maxNesting - 2) (w.moment run i) x d ∧ v.held x m.field = d ∧
        ∀ c, m.Names c → (w.moment run i).AsksHost x →
          (∃ u, ((reach (maxNesting - 4)).applyMethod x .getComponent ⟨[.cls c], []⟩).runIn (w.moment run i) =
            (.ok d, u)) ∧ (c ≠ ClassTable.base → d ≠ .unresolved)) ∧
    (∀ i j host d v, run[i]? = some (.read host m.property) → Ledger.get? (w.moment run i).labels host = some x →
      (Act.readNamed x m.property).runIn (w.moment run i) = (.ok d, v) → d ≠ .unresolved → i < j →
        (Act.readNamed x m.property).runIn (w.moment run j) = (.ok d, w.moment run j)) ∧
    (∀ i j, i ≤ j → ¬ m.Unread (w.moment run i) x →
      (Act.readNamed x m.property).runIn (w.moment run j) =
        (.ok ((w.moment run i).held x m.field), w.moment run j)) ∧
    (∀ i, m.Unread w x → ¬ m.Unread (w.moment run i) x →
      ∃ u n, (∀ name, u.slot? x name = w.slot? x name) ∧ m.Unread u x ∧
        m.Gives n u x ((w.moment run i).held x m.field)) := by
  have whole : ∀ i, (w.moment run i).Whole := fun i => afterWhole (reachableWhole reached) _
  have since : ∀ i, m.Since x w (w.moment run i) := fun i =>
    (Memo.sinceStart standing).after standing (reachableWhole reached) fun a member =>
      ordinary a (List.mem_of_mem_take member)
  have stands : ∀ i, m.Standing (w.moment run i) x := fun i => standing.later (since i)
  have lasts : ∀ i j, i ≤ j → ¬ m.Unread (w.moment run i) x →
      (w.moment run j).held x m.field = (w.moment run i).held x m.field := by
    intro i j order known
    have onwards : m.Since x (w.moment run i) (w.moment run j) := by
      rw [momentLater order]
      exact (Memo.sinceStart (stands i)).after (stands i) (whole i) fun a member =>
        ordinary a (List.mem_of_mem_drop (List.mem_of_mem_take member))
    exact onwards.known known
  have again : ∀ i j, i ≤ j → ¬ m.Unread (w.moment run i) x →
      (Act.readNamed x m.property).runIn (w.moment run j) =
        (.ok ((w.moment run i).held x m.field), w.moment run j) := by
    intro i j order known
    have same := lasts i j order known
    have still : ¬ m.Unread (w.moment run j) x := fun unread => known (same.symm.trans unread)
    rw [← same]
    exact (stands j).readLater still (maxNesting - 3)
  refine ⟨?_, ?_, again, ?_⟩
  · intro i d v unread ok
    obtain ⟨gives, kept⟩ := (stands i).readFirst unread ok
    refine ⟨gives, kept, fun c named asks => ?_⟩
    obtain ⟨u, found⟩ := Memo.lookupNamed ((stands i).free (by decide)) asks named gives
    exact ⟨⟨u, found⟩, fun below => componentProper below found⟩
  · intro i j host d v reads named ok proper order
    have next : w.moment run (i + 1) = v := (momentNext reads).trans (readStep named ok)
    have kept : v.held x m.field = d := by
      by_cases unread : m.Unread (w.moment run i) x
      · exact ((stands i).readFirst unread ok).2
      · have same := (again i i (Nat.le_refl i) unread).symm.trans ok
        cases same
        rfl
    have known : ¬ m.Unread (w.moment run (i + 1)) x := by
      intro unread
      rw [next] at unread
      exact proper (kept.symm.trans unread)
    have later := again (i + 1) j order known
    rw [next, kept] at later
    exact later
  · intro i unread known
    rcases (since i).held with same | ⟨_, gave⟩
    · exact (known (same.trans unread)).elim
    · exact gave

/-- The accessor that a property of an instance means, if it looks up a component. -/
def World.memo? (w : World) (x : ObjectId) (property : String) : Option Memo :=
  (w.accessor? x property).bind (Memo.of? property)

theorem memoStanding {w : World} {x : ObjectId} {property : String} {m : Memo}
    (known : w.memo? x property = some m) (checked : m.stands w x = true) :
    m.property = property ∧ m.Standing w x := by
  obtain ⟨g, found, read⟩ := Option.bind_eq_some_iff.mp known
  obtain ⟨same, getter⟩ := Memo.ofSome read
  obtain ⟨visibility, slot⟩ := World.accessorSlot found
  subst same
  rw [getter] at slot
  exact ⟨rfl, Memo.standsSound slot checked⟩

/-- A host with a component. -/
def hosting : List Action :=
  [.defineClass "A" [] false, .defineMixin "M" [⟨"public", "A", "y"⟩], .defineClass "H" ["ComponentHost", "M"] false,
    .create "h" "H", .create "a" "A", .add "h" "a"]

def visit : List Action := [.read "h" "y", .remove "h" "a", .create "b" "A", .add "h" "b", .read "h" "y"]

def givesObject (o : ObjectId) (x : Act Datum) (w : World) : Bool :=
  match (x.runIn w).1 with
  | .ok (.object p) => p = o
  | _ => false

theorem givesObjectOk {o : ObjectId} {x : Act Datum} {w : World} (gives : givesObject o x w = true) :
    x.runIn w = (.ok (.object o), (x.runIn w).2) := by
  unfold givesObject at gives
  split at gives
  · rename_i p same
    rw [← of_decide_eq_true gives, ← same]
  · cases gives

theorem readsMemoizedVisit : ∃ m, (World.after {} hosting).memo? 0 "y" = some m ∧
    m.Gives (maxNesting - 2) (World.after {} hosting) 0 (.object 1) ∧
    ∀ j, 0 < j → (Act.readNamed 0 "y").runIn ((World.after {} hosting).moment visit j) =
      (.ok (.object 1), (World.after {} hosting).moment visit j) := by
  have checked : ((World.after {} hosting).memo? 0 "y").any (fun m => m.stands (World.after {} hosting) 0 &&
      ((World.after {} hosting).held 0 m.field).isUnresolved) = true := by decide +kernel
  have first : givesObject 1 (Act.readNamed 0 "y") (World.after {} hosting) = true := by decide +kernel
  have named : Ledger.get? (World.after {} hosting).labels "h" = some 0 := by decide +kernel
  have reached : (World.after {} hosting).Reachable := ⟨hosting, rfl⟩
  have ordinary : ∀ a ∈ visit, a.IsOrdinary := by simp [visit, Action.IsOrdinary]
  generalize World.after {} hosting = w at checked first named reached ⊢
  obtain ⟨m, known, checked⟩ := (Option.any_eq_true _ _).mp checked
  rw [Bool.and_eq_true] at checked
  obtain ⟨property, standing⟩ := memoStanding known checked.1
  have memoized := readsMemoized reached standing ordinary
  have read := givesObjectOk first
  rw [← property] at read
  refine ⟨m, known, (memoized.1 0 _ _ (unresolvedIff.mp checked.2) read).1, fun j later => ?_⟩
  have again := memoized.2.1 0 j "h" _ _ (property ▸ rfl) named read (by simp) later
  rw [property] at again
  exact again

end AccessorForge.Hosting
