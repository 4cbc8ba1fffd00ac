import AccessorForge.Hosting.Action
import AccessorForge.Proofs.Expressions
import AccessorForge.Proofs.Ledgers
/-! The worlds that actions lead to. In each of them the ancestors of every class are classes of the world, and
so a class that comes later changes nothing about those that are there. -/
namespace AccessorForge.Hosting
open Act Running

/-! Orders of ancestors. -/

theorem dropHeadSublist (c : ClassId) (l : List ClassId) : (dropHead c l).Sublist l := by
  unfold dropHead
  split
  · exact List.Sublist.refl _
  · split
    · exact List.sublist_cons_self _ _
    · exact List.Sublist.refl _

theorem goodHeadFound {lists : List (List ClassId)} {c : ClassId} (found : goodHead lists = some c) :
    ∃ l ∈ lists, c ∈ l := by
  obtain ⟨l, member, found⟩ := List.exists_of_findSome?_eq_some found
  refine ⟨l, member, ?_⟩
  split at found
  · cases found
  · split at found
    · cases found
    · cases found
      exact List.mem_cons_self

theorem mergeOrdersStep {fuel : Nat} {lists : List (List ClassId)} {order : List ClassId}
    (merged : mergeOrders (fuel + 1) lists = some order) :
    (lists.filter (!·.isEmpty) = [] ∧ order = []) ∨
      ∃ first rest, goodHead (lists.filter (!·.isEmpty)) = some first ∧
        mergeOrders fuel ((lists.filter (!·.isEmpty)).map (dropHead first)) = some rest ∧ order = first :: rest := by
  unfold mergeOrders at merged
  dsimp only at merged
  split at merged
  · next empty =>
    cases merged
    exact .inl ⟨List.isEmpty_iff.mp empty, rfl⟩
  · simp only [Option.bind_eq_bind, Option.bind_eq_some_iff] at merged
    obtain ⟨first, head, rest, tail, whole⟩ := merged
    cases whole
    exact .inr ⟨first, rest, head, tail, rfl⟩

theorem mergeOrdersWithin {fuel : Nat} {lists : List (List ClassId)} {order : List ClassId}
    (merged : mergeOrders fuel lists = some order) : ∀ c ∈ order, ∃ l ∈ lists, c ∈ l := by
  -- The lists get shorter by one head at a time, and each of them stays part of one given at first.
  induction fuel generalizing lists order with
  | zero => cases merged
  | succ fuel ih =>
    rcases mergeOrdersStep merged with ⟨_, rfl⟩ | ⟨first, rest, head, tail, rfl⟩
    · simp
    · intro c member
      rcases List.mem_cons.mp member with same | later
      · obtain ⟨l, within, here⟩ := goodHeadFound head
        exact ⟨l, (List.mem_filter.mp within).1, same ▸ here⟩
      · obtain ⟨l, within, here⟩ := ih tail c later
        obtain ⟨k, within, dropped⟩ := List.mem_map.mp within
        exact ⟨k, (List.mem_filter.mp within).1, (dropHeadSublist first k).mem (dropped ▸ here)⟩

theorem orderOfWithin {self : ClassId} {bases : List ClassId} {orders : List (List ClassId)} {order : List ClassId}
    (ordered : orderOf self bases orders = some order) :
    ∀ c ∈ order, c = self ∨ c ∈ bases ∨ ∃ l ∈ orders, c ∈ l := by
  unfold orderOf at ordered
  split at ordered
  · cases ordered
  · obtain ⟨above, merged, whole⟩ := Option.map_eq_some_iff.mp ordered
    cases whole
    intro c member
    rcases List.mem_cons.mp member with same | later
    · exact .inl same
    · obtain ⟨l, within, here⟩ := mergeOrdersWithin merged c later
      rcases List.mem_append.mp within with theirs | own
      · exact .inr (.inr ⟨l, theirs, here⟩)
      · exact .inr (.inl (List.mem_singleton.mp own ▸ here))

theorem orderOfFirst {self : ClassId} {bases : List ClassId} {orders : List (List ClassId)} {order : List ClassId}
    (ordered : orderOf self bases orders = some order) : order.head? = some self := by
  unfold orderOf at ordered
  split at ordered
  · cases ordered
  · obtain ⟨above, _, whole⟩ := Option.map_eq_some_iff.mp ordered
    cases whole
    rfl

/-! Worlds in which every class that is named is there. -/

structure World.Whole (w : World) : Prop where
  /-- The root of all comes first. -/
  rooted : 0 < w.classes.length
  orders : ∀ k ∈ w.classes, ∀ c ∈ k.order, c < w.classes.length
  /-- Every class is searched before its ancestors. -/
  ownFirst : ∀ (c : ClassId) (k : Class), w.classes[c]? = some k → k.order.head? = some c
  names : ∀ name c, Ledger.get? w.names name = some c → c < w.classes.length

def World.withClass (w : World) (name : String) (k : Class) : World :=
  { w with classes := w.classes ++ [k], names := Ledger.put name w.classes.length w.names }

/-- A class that comes first in its own order, before ancestors that are there. -/
def World.Admits (w : World) (k : Class) : Prop :=
  k.order.head? = some w.classes.length ∧ ∀ c ∈ k.order, c ≤ w.classes.length

theorem orderWithin {w : World} (whole : w.Whole) (c : ClassId) : ∀ d ∈ w.classes.order c, d < w.classes.length := by
  intro d member
  unfold ClassTable.order at member
  cases found : w.classes[c]? with
  | none =>
    rw [found] at member
    simp at member
  | some k =>
    rw [found] at member
    exact whole.orders k (List.mem_of_getElem? found) d member

theorem withClassWhole {w : World} (whole : w.Whole) (name : String) {k : Class} (admitted : w.Admits k) :
    (w.withClass name k).Whole := by
  have longer : (w.withClass name k).classes.length = w.classes.length + 1 := List.length_append
  refine ⟨?_, ?_, ?_, ?_⟩
  · rw [longer]
    exact Nat.succ_pos _
  · intro j member c ancestor
    rw [longer]
    rcases List.mem_append.mp member with old | new
    · exact Nat.lt_succ_of_lt (whole.orders j old c ancestor)
    · rw [List.mem_singleton.mp new] at ancestor
      exact Nat.lt_succ_of_le (admitted.2 c ancestor)
  · intro c j found
    change (w.classes ++ [k])[c]? = some j at found
    rw [List.getElem?_append] at found
    split at found
    · exact whole.ownFirst c j found
    · rename_i later
      obtain ⟨here, same⟩ := List.getElem?_eq_some_iff.mp found
      have last : c = w.classes.length :=
        Nat.le_antisymm (Nat.sub_eq_zero_iff_le.mp (Nat.lt_one_iff.mp here)) (Nat.le_of_not_lt later)
      subst last
      rw [← same]
      simpa using admitted.1
  · intro other c found
    rw [longer]
    change Ledger.get? (Ledger.put name w.classes.length w.names) other = some c at found
    rw [Ledger.getPut] at found
    split at found
    · cases found
      exact Nat.lt_succ_self _
    · exact Nat.lt_succ_of_lt (whole.names other c found)

theorem findSomeSame {α : Type} {l : List ClassId} {f g : ClassId → Option α} (same : ∀ c ∈ l, f c = g c) :
    l.findSome? f = l.findSome? g := by
  induction l with
  | nil => rfl
  | cons c rest ih =>
    rw [List.findSome?_cons, List.findSome?_cons, same c List.mem_cons_self,
      ih fun d member => same d (List.mem_cons_of_mem c member)]

theorem withClassSlot {w : World} (whole : w.Whole) {o : ObjectId} (known : w.classOf o < w.classes.length)
    (name : String) (k : Class) (slot : String) : (w.withClass name k).slot? o slot = w.slot? o slot := by
  have earlier : ∀ c < w.classes.length, (w.classes ++ [k])[c]? = w.classes[c]? := fun c within =>
    List.getElem?_append_left within
  have ordered : ClassTable.order (w.classes ++ [k]) (w.classOf o) = w.classes.order (w.classOf o) := by
    unfold ClassTable.order
    rw [earlier _ known]
  change ClassTable.slot? (w.classes ++ [k]) (w.classOf o) slot = _
  unfold World.slot? ClassTable.slot? ClassTable.search
  rw [ordered]
  refine findSomeSame fun c ancestor => ?_
  rw [earlier c (orderWithin whole _ c ancestor)]

theorem knownClass {w : World} {o : ObjectId} {name : String} {s : Slot} (found : w.slot? o name = some s) :
    w.classOf o < w.classes.length := by
  by_cases known : w.classOf o < w.classes.length
  · exact known
  · have missing : w.classes[w.classOf o]? = none := List.getElem?_eq_none (Nat.le_of_not_lt known)
    unfold World.slot? ClassTable.slot? ClassTable.search ClassTable.order at found
    rw [missing] at found
    cases found

/-- The bases of a class that is defined with some of them or with none. -/
def ClassTable.grounds (bases : List ClassId) : List ClassId := if bases.isEmpty then [ClassTable.base] else bases

theorem groundsKnown {w : World} (whole : w.Whole) {bases : List ClassId} (known : ∀ c ∈ bases, c < w.classes.length) :
    ∀ d ∈ ClassTable.grounds bases, d < w.classes.length := by
  unfold ClassTable.grounds
  split
  · exact List.forall_mem_singleton.mpr whole.rooted
  · exact known

theorem defineOk {t made : ClassTable} {name : String} {bases : List ClassId} {slots : Ledger Slot} {equalsAll : Bool}
    {self : ClassId} (defined : t.define name bases slots equalsAll = some (made, self)) :
    ∃ k, made = t ++ [k] ∧ self = t.length ∧ (∃ isFirst, k.slots = withStandard isFirst slots) ∧
      orderOf t.length (ClassTable.grounds bases) ((ClassTable.grounds bases).map t.order) = some k.order := by
  unfold ClassTable.define at defined
  generalize same : (if bases.isEmpty then [ClassTable.base] else bases) = grounded at defined
  simp only [Option.bind_eq_bind, Option.bind_eq_some_iff] at defined
  obtain ⟨order, ordered, defined⟩ := defined
  split at defined
  · cases defined
  · cases defined
    have grounds : ClassTable.grounds bases = grounded := same
    exact ⟨_, rfl, rfl, ⟨_, rfl⟩, grounds ▸ ordered⟩

theorem defineAdmits {w : World} (whole : w.Whole) {name : String} {bases : List ClassId} {slots : Ledger Slot}
    {equalsAll : Bool} {made : ClassTable} {self : ClassId} (known : ∀ c ∈ bases, c < w.classes.length)
    (defined : w.classes.define name bases slots equalsAll = some (made, self)) :
    ∃ k, w.Admits k ∧ made = w.classes ++ [k] ∧ self = w.classes.length := by
  obtain ⟨k, made, last, _, ordered⟩ := defineOk defined
  refine ⟨k, ⟨orderOfFirst ordered, fun c member => ?_⟩, made, last⟩
  rcases orderOfWithin ordered c member with same | base | ⟨l, theirs, here⟩
  · exact Nat.le_of_eq same
  · exact Nat.le_of_lt (groundsKnown whole known c base)
  · obtain ⟨d, _, same⟩ := List.mem_map.mp theirs
    rw [← same] at here
    exact Nat.le_of_lt (orderWithin whole d c here)

/-! Class bodies. -/

/-- The slots of a class body after one more member. -/
def Member.put (origin : Origin) (m : Member) (slots : Ledger Slot) : Ledger Slot :=
  Ledger.put (privateName origin.ownerName m.property)
    (.accessor m.visibility (.lookup (privateName origin.ownerName m.field) m.fill origin))
    (Ledger.put (privateName origin.ownerName m.field) (ownSlot slots "UNRESOLVED") slots)

theorem mixinSlotsNext {origin : Origin} {slots made : Ledger Slot} {m : Member} {rest : List Member}
    (ran : mixinSlots origin slots (m :: rest) = some made) : mixinSlots origin (m.put origin slots) rest = some made := by
  unfold mixinSlots at ran
  dsimp only at ran
  split at ran
  · cases ran
  · exact ran

/-! What single actions do. -/

theorem classNamedOk {w v : World} {name : String} {c : ClassId} (ok : (classNamed name).runIn w = (.ok c, v)) :
    Ledger.get? w.names name = some c ∧ v = w := by
  unfold classNamed at ok
  rw [bindOf (getIn w)] at ok
  split at ok
  · rename_i known found
    cases ok
    exact ⟨found, rfl⟩
  · cases ok

theorem classesNamedOk {w v : World} {names : List String} {cs : List ClassId}
    (ok : (names.mapM classNamed).runIn w = (.ok cs, v)) :
    (∀ c ∈ cs, ∃ name, Ledger.get? w.names name = some c) ∧ v = w := by
  induction names generalizing cs v with
  | nil =>
    cases ok
    exact ⟨by simp, rfl⟩
  | cons name rest ih =>
    rw [List.mapM_cons] at ok
    obtain ⟨c, u, first, more⟩ := bindOk ok
    obtain ⟨found, back⟩ := classNamedOk first
    obtain ⟨ds, t, others, done⟩ := bindOk (back ▸ more)
    obtain ⟨known, rfl⟩ := ih others
    cases done
    refine ⟨fun d member => ?_, rfl⟩
    rcases List.mem_cons.mp member with same | later
    · exact ⟨name, same ▸ found⟩
    · exact known d later

variable {α β : Type} {I : World → Prop}

theorem afterReading {x : Act α} {f : α → Act β} {w : World} (still : Act.Keeps (· = w) x) (holds : I w)
    (next : ∀ a, x.runIn w = (.ok a, w) → I ((f a).runIn w).2) : I ((x >>= f).runIn w).2 := by
  have same := still w rfl
  rw [bindIn]
  cases ran : x.runIn w with
  | mk result v =>
    rw [ran] at same
    subst same
    cases result with
    | error e => exact holds
    | ok a => exact next a ran

theorem keepsClassNamed (name : String) : Act.Keeps I (classNamed name) := by
  refine keepsSeen fun w _ => ?_
  split
  · exact keepsPure _
  · exact keepsThrow _

theorem keepsObjectNamed (label : String) : Act.Keeps I (objectNamed label) := by
  refine keepsSeen fun w _ => ?_
  split
  · exact keepsPure _
  · exact keepsThrow _

theorem classKnown {w : World} {name : String} {c : ClassId} (named : Ledger.get? w.names name = some c) :
    (classNamed name).runIn w = (.ok c, w) := by
  unfold classNamed
  rw [bindOf (getIn w), named]
  rfl

theorem objectKnown {w : World} {label : String} {y : ObjectId} (named : Ledger.get? w.labels label = some y) :
    (objectNamed label).runIn w = (.ok y, w) := by
  unfold objectNamed
  rw [bindOf (getIn w), named]
  rfl

theorem keepsRequireReadable (text : List Char) : Act.Keeps I (requireReadable text) :=
  keepsGuard fun _ => by
    split
    · exact keepsThrow _
    · exact keepsPure _

/-- A property that a new class leaves as it is, if its ancestors are there. -/
def Admitting (I : World → Prop) : Prop :=
  ∀ w name k, w.Whole → I w → w.Admits k → I (w.withClass name k)

theorem addClassKeeps (admitting : Admitting I) {w : World} (whole : w.Whole) (holds : I w) {parents : List ClassId}
    (known : ∀ c ∈ parents, c < w.classes.length) (name : String) (slots : Ledger Slot) (equalsAll : Bool) :
    I ((addClass name parents slots equalsAll).runIn w).2 := by
  unfold addClass
  rw [bindOf (getIn w)]
  cases defined : w.classes.define name parents slots equalsAll with
  | none => exact holds
  | some p =>
    obtain ⟨made, self⟩ := p
    obtain ⟨k, admitted, rfl, rfl⟩ := defineAdmits whole known defined
    exact admitting w name k whole holds admitted

theorem defineClassKeeps (admitting : Admitting I) {w : World} (whole : w.Whole) (holds : I w) (name : String)
    (bases : List String) (equalsAll : Bool) : I ((Act.defineClass name bases equalsAll).runIn w).2 := by
  refine afterReading ((keepsClosed _).mapM keepsClassNamed bases) holds fun parents looked =>
    afterReading (keepsRequireReadable _) holds fun _ _ => ?_
  obtain ⟨known, _⟩ := classesNamedOk looked
  refine addClassKeeps admitting whole holds (fun c member => ?_) name _ _
  obtain ⟨base, found⟩ := known c member
  exact whole.names base c found

theorem defineMixinKeeps (admitting : Admitting I) {w : World} (whole : w.Whole) (holds : I w) (name : String)
    (accessors : List Accessor) : I ((Act.defineMixin name accessors).runIn w).2 := by
  refine afterReading (keepsRequireReadable _) holds fun _ _ => ?_
  split
  · exact holds
  · rename_i className members _
    refine afterReading (fun v same => same) holds fun seen _ => afterReading (keepsOption _) holds fun slots _ => ?_
    have added : I ((addClass name [] slots false).runIn w).2 :=
      addClassKeeps admitting whole holds (by simp) name slots false
    split
    · exact holds
    · exact added

/-! Actions. -/

/-- Actions that neither change a class that is there nor assign an attribute. -/
def Action.IsOrdinary : Action → Prop
  | .defineClass .. | .defineMixin .. | .required .. | .accessors .. | .create .. | .add .. | .remove .. | .find ..
  | .components .. | .read .. => True
  | .plainAccessor .. | .require .. | .markGroup .. | .markGroupBare .. | .requireOne .. | .assign .. => False

/-- Those of them that make no class either. -/
def Action.IsUse : Action → Prop
  | .required .. | .accessors .. | .create .. | .add .. | .remove .. | .find .. | .components .. | .read .. => True
  | _ => False

section
variable {own : ObjectId → Getter → Prop} (lasting : Lasting own I) (keeping : (reach maxNesting).Keeping own I)
include lasting keeping

omit lasting in
theorem readNamedKeeps (o : ObjectId) (name : String) : Act.Keeps I (readNamed o name) := keeping.read o name

theorem callMethodKeeps (method x : Datum) : Act.Keeps I (callMethod method x) := by
  unfold callMethod
  split
  · exact Reach.applyMethodKeeps lasting keeping _ _ _
  · exact keepsThrow _

omit lasting keeping in
theorem answerOfKeeps (d : Datum) : Act.Keeps I (answerOf d) := by
  refine keepsSeen fun w _ => ?_
  split <;> exact keepsPure _

/-- What the writes of evaluation keep, new labels too, is kept by every action that makes no class. -/
theorem usesKeeps (relabelled : ∀ w labels, I w → I { w with labels := labels }) {a : Action} (uses : a.IsUse) :
    Act.Keeps I (perform a) := by
  have read := readNamedKeeps keeping
  have called := callMethodKeeps lasting keeping
  cases a with
  | required cls =>
    exact keepsBind (keepsClassNamed cls) fun c => keepsSeen fun _ _ => keepsBind (keepsOption _) fun _ => keepsPure _
  | accessors cls => exact keepsBind (keepsClassNamed cls) fun c => keepsSeen fun _ _ => keepsPure _
  | create label cls =>
    refine keepsBind (keepsClassNamed cls) fun c => ?_
    exact keepsBind (Reach.createKeeps lasting keeping label c) fun o =>
      keepsBind (keepsModify fun v => relabelled v _) fun _ => keepsPure _
  | add host component =>
    refine keepsBind (keepsObjectNamed host) fun o => keepsBind (read o _) fun method => ?_
    exact keepsBind (keepsObjectNamed component) fun x => keepsBind (called method _) fun _ => keepsPure _
  | remove host component =>
    refine keepsBind (keepsObjectNamed host) fun o => keepsBind (read o _) fun method => ?_
    exact keepsBind (keepsObjectNamed component) fun x => keepsBind (called method _) answerOfKeeps
  | find host cls =>
    refine keepsBind (keepsObjectNamed host) fun o => keepsBind (read o _) fun method => ?_
    exact keepsBind (keepsClassNamed cls) fun c => keepsBind (called method _) answerOfKeeps
  | components host =>
    refine keepsBind (keepsObjectNamed host) fun o => keepsBind (read o _) fun shown => ?_
    exact keepsBind (Reach.componentsInKeeps lasting keeping shown) fun _ => answerOfKeeps _
  | read host name => exact keepsBind (keepsObjectNamed host) fun o => keepsBind (read o name) answerOfKeeps
  | _ => exact uses.elim

theorem assignsKeep (host name component : String) (stored : ∀ w o d, I w → I (w.setCell o name d)) :
    Act.Keeps I (perform (.assign host name component)) :=
  keepsBind (keepsObjectNamed host) fun o => keepsBind (keepsObjectNamed component) fun _ =>
    keepsBind (Reach.assignKeeps lasting keeping o name _ fun w => stored w o _) fun _ => keepsPure _

/-- What the writes of evaluation keep, new labels and new classes too, is kept by every ordinary action. -/
theorem performKeeps (admitting : Admitting I) (relabelled : ∀ w labels, I w → I { w with labels := labels })
    {a : Action} (ordinary : a.IsOrdinary) {w : World} (whole : w.Whole) (holds : I w) :
    I ((perform a).runIn w).2 := by
  cases a with
  | defineClass name bases equalsAll => exact defineClassKeeps admitting whole holds name bases equalsAll
  | defineMixin name accessors => exact defineMixinKeeps admitting whole holds name accessors
  | plainAccessor | require | markGroup | markGroupBare | requireOne | assign => exact ordinary.elim
  | _ =>
    refine usesKeeps lasting keeping relabelled ?_ w holds
    exact trivial

end

/-! Runs. -/

def World.after (w : World) (actions : List Action) : World := actions.foldl (fun w a => (w.step a).2) w

/-- A world that actions lead to from the first one. -/
def World.Reachable (w : World) : Prop := ∃ actions, w = World.after {} actions

theorem initialWhole : World.Whole {} := by
  refine ⟨by decide, by decide, fun c k found => ?_, fun name c found => ?_⟩
  · match c with
    | 0 | 1 =>
      cases found
      rfl
    | c + 2 => cases found
  have ids : ∀ e ∈ ({} : World).names, e.2 < ({} : World).classes.length := by decide
  exact ids (name, c) (Ledger.memberOfGet found)

theorem sameClassesWhole {w v : World} (whole : w.Whole) (classes : v.classes = w.classes) (names : v.names = w.names) :
    v.Whole := by
  refine ⟨?_, ?_, ?_, ?_⟩
  · exact classes ▸ whole.rooted
  · exact classes ▸ whole.orders
  · exact classes ▸ whole.ownFirst
  · exact names ▸ classes ▸ whole.names

theorem modifiedWhole {w : World} (whole : w.Whole) (c : ClassId) {f : Class → Class}
    (ordered : ∀ k, (f k).order = k.order) : World.Whole { w with classes := w.classes.modify c f } := by
  have length : (w.classes.modify c f).length = w.classes.length := List.length_modify _ _ _
  refine ⟨?_, fun k member d ancestor => ?_, fun d k found => ?_, fun name d found => ?_⟩
  · exact length ▸ whole.rooted
  · rw [length]
    obtain ⟨i, found⟩ := List.getElem?_of_mem member
    rw [List.getElem?_modify] at found
    obtain ⟨k', there, same⟩ := Option.map_eq_some_iff.mp found
    refine whole.orders k' (List.mem_of_getElem? there) d ?_
    split at same
    · rw [← ordered k', same]
      exact ancestor
    · rw [same]
      exact ancestor
  · rw [List.getElem?_modify] at found
    obtain ⟨k', there, same⟩ := Option.map_eq_some_iff.mp found
    have first := whole.ownFirst d k' there
    split at same
    · rw [← same, ordered k']
      exact first
    · rw [← same]
      exact first
  · rw [length]
    exact whole.names name d found

theorem setSlotWhole {w : World} (whole : w.Whole) (c : ClassId) (name : String) (s : Slot) :
    World.Whole { w with classes := w.classes.setSlot c name s } := modifiedWhole whole c fun _ => rfl

theorem changeableKeeps {f : ClassId → Act α} (c : ClassId) (next : c ≠ ClassTable.base → Act.Keeps I (f c)) :
    Act.Keeps I (changeable c >>= f) := by
  unfold changeable
  split
  · exact fun _ holds => holds
  · next below => exact next below

/-- A property of worlds that nothing in any action changes: neither the writes of evaluation, nor new objects, labels
and classes, nor what is recorded on a class below the root of all. -/
structure Durable (I : World → Prop) : Prop where
  stored : ∀ w o name d, I w → I (w.setCell o name d)
  pushed : ∀ w label c, I w → I (w.push label c)
  relabelled : ∀ w labels, I w → I { w with labels := labels }
  admitted : Admitting I
  amended : ∀ w c (f : Class → Class), c ≠ ClassTable.base → (∀ k, (f k).order = k.order) → I w →
    I { w with classes := w.classes.modify c f }

section
variable (durable : Durable I)
include durable

theorem markGroupKeeps (c : ClassId) (visibility : Value) : Act.Keeps I (Act.markGroup c visibility) :=
  changeableKeeps c fun below => keepsBind (keepsModify fun w => durable.amended w c _ below fun _ => rfl) fun _ =>
    keepsPure _

theorem requireKeeps (c : ClassId) (types : List ClassId) : Act.Keeps I (Act.require c types) := by
  intro w holds
  unfold Act.require
  rw [bindOf (getIn w)]
  cases required : w.classes.require? c types with
  | none => exact holds
  | some t =>
    obtain ⟨seen, _, recorded⟩ := Option.map_eq_some_iff.mp required
    refine afterReading (keepsOption (some t)) holds fun got ok => ?_
    cases ok
    unfold changeable
    split
    · exact holds
    · next below => exact recorded ▸ durable.amended w c _ below (fun _ => rfl) holds

theorem plainAccessorKeeps (c : ClassId) (name : String) : Act.Keeps I (Act.plainAccessor c name) := by
  refine changeableKeeps c fun below => keepsGuard fun _ => keepsGuard fun _ =>
    keepsBind (keepsModify fun w => durable.amended w c _ below fun _ => rfl) fun _ => ?_
  split
  · exact keepsBind (keepsModify fun w => durable.amended w c _ below fun _ => rfl) fun _ => keepsPure _
  · exact keepsPure _

theorem stepKeeps {w : World} (whole : w.Whole) (holds : I w) (a : Action) : I (w.step a).2 := by
  have lasting : Lasting (fun _ _ => True) I :=
    ⟨fun o d => durable.stored _ o attachmentField d, fun label c => durable.pushed _ label c, fun _ _ => trivial⟩
  have keeping := reachKeepsStored durable.stored durable.pushed maxNesting
  by_cases ordinary : a.IsOrdinary
  · exact performKeeps lasting keeping durable.admitted durable.relabelled ordinary whole holds
  · cases a with
    | plainAccessor cls name => exact keepsBind (keepsClassNamed cls) (plainAccessorKeeps durable · name) w holds
    | require cls types =>
      exact keepsBind (keepsClassNamed cls) (fun c => keepsBind ((keepsClosed _).mapM keepsClassNamed types)
        fun ids => requireKeeps durable c ids) w holds
    | markGroup cls arguments =>
      refine keepsBind (keepsClassNamed cls) (fun c => ?_) w holds
      split
      · exact markGroupKeeps durable c _
      · exact markGroupKeeps durable c _
      · exact keepsThrow _
    | markGroupBare cls => exact keepsBind (keepsClassNamed cls) (markGroupKeeps durable · _) w holds
    | requireOne cls type arguments =>
      refine keepsBind (keepsClassNamed cls) (fun c => keepsBind (keepsClassNamed type) fun t => ?_) w holds
      split
      · exact requireKeeps durable c _
      · exact requireKeeps durable c _
      · exact keepsThrow _
    | assign host name component =>
      exact assignsKeep lasting keeping host name component (durable.stored · · name) w holds
    | _ => exact absurd trivial ordinary

end

theorem durableWhole : Durable World.Whole where
  stored := fun _ _ _ _ whole => sameClassesWhole whole rfl rfl
  pushed := fun _ _ _ whole => sameClassesWhole whole rfl rfl
  relabelled := fun _ _ whole => sameClassesWhole whole rfl rfl
  admitted := fun _ name _ whole _ admits => withClassWhole whole name admits
  amended := fun _ c _ _ ordered whole => modifiedWhole whole c ordered

theorem stepWhole {w : World} (whole : w.Whole) (a : Action) : (w.step a).2.Whole :=
  stepKeeps durableWhole whole whole a

theorem afterWhole {w : World} (whole : w.Whole) (actions : List Action) : (w.after actions).Whole := by
  induction actions generalizing w with
  | nil => exact whole
  | cons a rest ih => exact ih (stepWhole whole a)

theorem reachableWhole {w : World} (reached : w.Reachable) : w.Whole := by
  obtain ⟨actions, rfl⟩ := reached
  exact afterWhole initialWhole actions

theorem reachableAfter {w : World} (reached : w.Reachable) (actions : List Action) : (w.after actions).Reachable := by
  obtain ⟨before, rfl⟩ := reached
  exact ⟨before ++ actions, List.foldl_append.symm⟩

theorem ordinaryKeepsClass {w : World} (reached : w.Reachable) {actions : List Action}
    (ordinary : ∀ a ∈ actions, a.IsOrdinary) {c : ClassId} {k : Class} (there : w.classes[c]? = some k) :
    (w.after actions).classes[c]? = some k := by
  have lasting : Lasting (fun _ _ => True) fun v => v.classes[c]? = some k :=
    ⟨fun _ _ there => there, fun _ _ there => there, fun _ _ => trivial⟩
  have keeping := reachKeepsStored (I := fun v => v.classes[c]? = some k) (fun _ _ _ _ there => there)
    (fun _ _ _ there => there) maxNesting
  have admitting : Admitting fun v => v.classes[c]? = some k := fun v _ _ _ there _ =>
    (List.getElem?_append_left (List.getElem?_eq_some_iff.mp there).1).trans there
  have whole := reachableWhole reached
  clear reached
  induction actions generalizing w with
  | nil => exact there
  | cons a rest ih =>
    have step := performKeeps lasting keeping admitting (fun _ _ there => there) (ordinary a List.mem_cons_self) whole there
    exact ih (fun b member => ordinary b (List.mem_cons_of_mem a member)) step (stepWhole whole a)

theorem reachableKeeps (durable : Durable I) (first : I {}) {w : World} (reached : w.Reachable) : I w := by
  obtain ⟨actions, rfl⟩ := reached
  have kept : ∀ v : World, v.Whole → I v → I (v.after actions) := by
    induction actions with
    | nil => exact fun _ _ holds => holds
    | cons a rest ih => exact fun v whole holds => ih _ (stepWhole whole a) (stepKeeps durable whole holds a)
  exact kept {} initialWhole first

/-- The root of all as it was at first: nothing is ever recorded on it. -/
def World.Rooted (w : World) : Prop := w.classes[ClassTable.base]? = some ⟨"object", [ClassTable.base], [], [], false, false⟩

theorem durableRooted : Durable World.Rooted where
  stored := fun _ _ _ _ rooted => rooted
  pushed := fun _ _ _ rooted => rooted
  relabelled := fun _ _ rooted => rooted
  admitted := fun _ _ _ whole rooted _ => (List.getElem?_append_left whole.rooted).trans rooted
  amended := fun w c f below _ rooted => by
    change (w.classes.modify c f)[ClassTable.base]? = _
    rw [List.getElem?_modify, rooted]
    simp [below]

theorem reachableRooted {w : World} (reached : w.Reachable) : w.Rooted := reachableKeeps durableRooted rfl reached

end AccessorForge.Hosting
