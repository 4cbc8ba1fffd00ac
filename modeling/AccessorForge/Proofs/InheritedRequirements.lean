import AccessorForge.Proofs.Linearization
/-! Required types and inheritance. A class that gets its decorators before another derives from it sees what they
require and what the first of its ancestors with a record has recorded; what the ancestors behind that one require
does not reach it, unless that one derives from them. -/
namespace AccessorForge.Hosting

/-- Every class gets its requirement decorators before another class derives from it. -/
def DecoratedFirst (run : List Action) : Prop :=
  ∀ i < run.length, ∀ a ∈ run[i]?, ∀ p ∈ (World.moment {} run i).decoration? a,
    ∀ d < (World.moment {} run i).classes.length, (World.moment {} run i).classes.isSubclass d p.1 = true → d = p.1

instance (run : List Action) : Decidable (DecoratedFirst run) := by unfold DecoratedFirst; infer_instance

/-- A decorator among the first actions of a run requires a type on a class. -/
def RequiredOn (run : List Action) (i : Nat) (c type : ClassId) : Prop :=
  ∃ j < i, ∃ a types, run[j]? = some a ∧ (World.moment {} run j).decoration? a = some (c, types) ∧ type ∈ types

theorem requiredNext {run : List Action} {i : Nat} {a : Action} (next : run[i]? = some a) {c type : ClassId} :
    RequiredOn run (i + 1) c type ↔ RequiredOn run i c type ∨
      ∃ types, (World.moment {} run i).decoration? a = some (c, types) ∧ type ∈ types := by
  constructor
  · rintro ⟨j, within, b, types, here, asked, named⟩
    rcases Nat.lt_succ_iff_lt_or_eq.mp within with earlier | rfl
    · exact .inl ⟨j, earlier, b, types, here, asked, named⟩
    · cases next.symm.trans here
      exact .inr ⟨types, asked, named⟩
  · rintro (⟨j, within, rest⟩ | ⟨types, asked, named⟩)
    · exact ⟨j, Nat.lt_succ_of_lt within, rest⟩
    · exact ⟨i, Nat.lt_succ_self i, a, types, next, asked, named⟩

namespace ClassTable
variable {t u : ClassTable} {c d : ClassId}

/-- What the first ancestor with a record has recorded. -/
def inherited (t : ClassTable) (c : ClassId) : List ClassId :=
  (((t.order c).tail.findSome? t.record?).bind Slot.types?).getD []

theorem inheritedSame (order : u.order c = t.order c) (record : ∀ d ∈ (t.order c).tail, u.record? d = t.record? d) :
    u.inherited c = t.inherited c := by
  unfold inherited
  rw [order, findSomeSame record]

theorem requiredFrom (clear : t.Clear) {above : List ClassId} (order : t.order c = c :: above) :
    t.required? c = ((t.record? c).map Slot.types?).getD (some (t.inherited c)) := by
  cases own : t.record? c with
  | some s => exact requiredOwn order own
  | none =>
    unfold inherited
    rw [requiredSought, order, List.findSome?_cons, own, List.tail_cons]
    cases sought : above.findSome? t.record? with
    | none => rfl
    | some s =>
      obtain ⟨d, _, held⟩ := List.exists_of_findSome?_eq_some sought
      obtain ⟨types, recorded⟩ := Option.isSome_iff_exists.mp (clear d s held)
      simp [recorded]

end ClassTable

/-! One step. -/

/-- Up to a moment, the records name what is required and what is inherited, and nothing is required on a class without
one. -/
structure Told (run : List Action) (i : Nat) (t : ClassTable) : Prop where
  recorded : ∀ c s types, t.record? c = some s → s.types? = some types →
    ∀ k, k ∈ types ↔ RequiredOn run i c k ∨ k ∈ t.inherited c
  bare : ∀ c, t.record? c = none → ∀ k, ¬ RequiredOn run i c k

section
variable {run : List Action} {i : Nat}

theorem Told.seen {t : ClassTable} (told : Told run i t) (clear : t.Clear) {c : ClassId} {above : List ClassId}
    (order : t.order c = c :: above) {types : List ClassId} (shown : t.required? c = some types) (k : ClassId) :
    k ∈ types ↔ RequiredOn run i c k ∨ k ∈ t.inherited c := by
  rw [ClassTable.requiredFrom clear order] at shown
  cases own : t.record? c with
  | some s =>
    rw [own] at shown
    exact told.recorded c s types own shown k
  | none =>
    rw [own] at shown
    cases shown
    exact (or_iff_right (told.bare c own k)).symm

theorem stepTaken {w : World} (whole : w.Whole) (a : Action) {c : ClassId} {s : Slot}
    (own : w.classes.record? c = some s) (taken : s.types? = none) :
    ∃ r, (w.step a).2.classes.record? c = some r ∧ r.types? = none := by
  have known := ClassTable.recordKnown own
  rcases stepClasses whole a with ⟨d, types, seen, _, shown, step⟩ | amends | ⟨_, _, grows⟩
  · by_cases here : d = c
    · subst here
      obtain ⟨above, order⟩ := ownOrder whole known
      cases (shown.symm.trans (ClassTable.requiredOwn order own)).trans taken
    · exact step ▸ ⟨s, (ClassTable.recordingOther here seen types).trans own, taken⟩
  · rcases amends.record c with same | other
    · exact ⟨s, same.trans own, taken⟩
    · exact other
  · exact ⟨s, (grows.record known).trans own, taken⟩

theorem clearBefore {w : World} (whole : w.Whole) {a : Action} (clear : (w.step a).2.classes.Clear) :
    w.classes.Clear := by
  intro c s own
  by_contra taken
  obtain ⟨r, held, none⟩ := stepTaken whole a own (by simpa using taken)
  have := clear c r held
  rw [none] at this
  cases this

theorem toldDecorated {w : World} (whole : w.Whole) (linear : w.classes.Linear) (clear : w.classes.Clear)
    (told : Told run i w.classes) {c : ClassId} {types seen : List ClassId} (known : c < w.classes.length)
    (shown : w.classes.required? c = some seen)
    (first : ∀ d < w.classes.length, w.classes.isSubclass d c = true → d = c)
    (more : ∀ d k, RequiredOn run (i + 1) d k ↔ RequiredOn run i d k ∨ d = c ∧ k ∈ types) :
    Told run (i + 1) (w.classes.recording c seen types) := by
  have order (d : ClassId) : (w.classes.recording c seen types).order d = w.classes.order d := setSlotOrder _ _ d _ _
  have record (d : ClassId) (other : d ≠ c) : (w.classes.recording c seen types).record? d = w.classes.record? d :=
    ClassTable.recordingOther other.symm seen types
  have below (d : ClassId) : c ∉ (w.classes.order d).tail := by
    intro ancestor
    have known : d < w.classes.length := by
      by_contra unknown
      rw [orderUnknown (Nat.le_of_not_lt unknown)] at ancestor
      cases ancestor
    have alone := first d known (List.contains_iff_mem.mpr (List.mem_of_mem_tail ancestor))
    exact Nat.lt_irrefl _ (alone ▸ orderShorter whole linear ancestor)
  have inherits (d : ClassId) : (w.classes.recording c seen types).inherited d = w.classes.inherited d :=
    ClassTable.inheritedSame (order d) fun e ancestor => record e fun same => below d (same ▸ ancestor)
  obtain ⟨above, own⟩ := ownOrder whole known
  refine ⟨fun d s all held named k => ?_, fun d bare k required => ?_⟩
  · rw [inherits, more]
    by_cases here : d = c
    · subst here
      rw [ClassTable.recordingOwn known] at held
      cases held
      cases named
      rw [memMergeTypes, memMergeTypes, told.seen clear own shown]
      simp
      tauto
    · rw [record d here] at held
      rw [told.recorded d s all held named]
      simp [here]
  · by_cases here : d = c
    · rw [here, ClassTable.recordingOwn known] at bare
      cases bare
    · rw [record d here] at bare
      rcases (more d k).mp required with before | ⟨same, _⟩
      · exact told.bare d bare k before
      · exact here same

theorem toldSpared {w v : World} (whole : w.Whole) (clear : v.classes.Clear) (spares : w.Spares v)
    (told : Told run i w.classes) (same : ∀ d k, RequiredOn run (i + 1) d k ↔ RequiredOn run i d k) :
    Told run (i + 1) v.classes := by
  rcases spares with amends | ⟨slots, bare, grows⟩
  · have record (d : ClassId) : v.classes.record? d = w.classes.record? d := by
      rcases amends.record d with same | ⟨s, other, none⟩
      · exact same
      · have recorded := clear d s other
        rw [none] at recorded
        cases recorded
    have inherits (d : ClassId) : v.classes.inherited d = w.classes.inherited d :=
      ClassTable.inheritedSame (amends.order d) fun e _ => record e
    refine ⟨fun d s all held named k => ?_, fun d bare k => ?_⟩
    · rw [inherits, same]
      exact told.recorded d s all (record d ▸ held) named k
    · rw [same]
      exact told.bare d (record d ▸ bare) k
  · refine ⟨fun d s all held named k => ?_, fun d empty k => ?_⟩
    · by_cases known : d < w.classes.length
      · have inherits : v.classes.inherited d = w.classes.inherited d :=
          ClassTable.inheritedSame (grows.order known) fun e ancestor =>
            grows.record (orderWithin whole d e (List.mem_of_mem_tail ancestor))
        rw [inherits, same]
        exact told.recorded d s all (grows.record known ▸ held) named k
      · obtain ⟨isFirst, listed⟩ := grows.ownRecord (Nat.le_of_not_lt known) held
        cases (bareGet (bareStandard bare isFirst) listed).symm.trans named
    · rw [same]
      by_cases known : d < w.classes.length
      · exact told.bare d (grows.record known ▸ empty) k
      · refine told.bare d ?_ k
        by_contra held
        obtain ⟨s, held⟩ := Option.ne_none_iff_exists'.mp held
        exact known (ClassTable.recordKnown held)

end

/-! Runs. -/

theorem momentHost (run : List Action) (i : Nat) :
    (World.moment {} run i).classes.order ClassTable.host = [ClassTable.host, ClassTable.base] ∧
      ClassTable.host < (World.moment {} run i).classes.length :=
  throughout (I := fun w => w.classes.order ClassTable.host = [ClassTable.host, ClassTable.base] ∧
    ClassTable.host < w.classes.length) initialWhole ⟨rfl, by decide⟩
    (fun a _ w whole held => (stepOrder whole a held.2).imp_left (·.trans held.1)) i

/- The induction is on the moments of the run. A decorator comes before all that derives from its class, so what it records
is inherited by nobody yet; any other action spares the records. -/
theorem momentTold {run : List Action} (first : DecoratedFirst run) {i : Nat}
    (clear : (World.moment {} run i).classes.Clear) : Told run i (World.moment {} run i).classes := by
  induction i with
  | zero =>
    refine ⟨fun c s types own => ?_, fun c _ k ⟨j, within, _⟩ => (Nat.not_lt_zero j within).elim⟩
    cases (initialRecord c).symm.trans own
  | succ i ih =>
    have whole := momentWhole initialWhole run i
    cases next : run[i]? with
    | none =>
      rw [momentEnded next] at clear ⊢
      refine toldSpared whole clear (sparesSelf _) (ih clear) fun d k => ⟨?_, ?_⟩
      · rintro ⟨j, within, a, types, here, rest⟩
        rcases Nat.lt_succ_iff_lt_or_eq.mp within with earlier | rfl
        · exact ⟨j, earlier, a, types, here, rest⟩
        · cases next.symm.trans here
      · exact fun ⟨j, within, rest⟩ => ⟨j, Nat.lt_succ_of_lt within, rest⟩
    | some a =>
      rw [momentNext next] at clear ⊢
      have before := clearBefore whole clear
      have told := ih before
      cases asked : (World.moment {} run i).decoration? a with
      | none =>
        exact toldSpared whole clear (otherSpares whole asked) told fun d k => by simp [requiredNext next, asked]
      | some p =>
        obtain ⟨c, types⟩ := p
        have within : i < run.length := (List.getElem?_eq_some_iff.mp next).1
        have alone := first i within a next (c, types) asked
        have more (d k : ClassId) : RequiredOn run (i + 1) d k ↔ RequiredOn run i d k ∨ d = c ∧ k ∈ types := by
          rw [requiredNext next, asked]
          simp [eq_comm, and_assoc]
        rcases decorationCases asked with ⟨missing | rfl, _⟩ | ⟨seen, shown, _, step⟩
        · obtain ⟨seen, shown⟩ := ClassTable.requiredClear before c
          cases missing.symm.trans shown
        · obtain ⟨order, known⟩ := momentHost run i
          cases alone ClassTable.host known (by rw [ClassTable.isSubclass, order]; rfl)
        · rw [step]
          exact toldDecorated whole (momentLinear run i) before told (decorationKnown whole asked) shown alone more

/-! Ancestors in a chain. -/

/-- Of any two classes with a record among a class and its ancestors, one derives from the other. -/
def ClassTable.Chained (t : ClassTable) (c : ClassId) : Prop :=
  ∀ d ∈ t.order c, ∀ e ∈ t.order c, (t.record? d).isSome → (t.record? e).isSome →
    t.isSubclass d e = true ∨ t.isSubclass e d = true

instance (t : ClassTable) (c : ClassId) : Decidable (t.Chained c) := by unfold ClassTable.Chained; infer_instance

theorem ClassTable.nearest {t : ClassTable} {above : List ClassId} {d : ClassId} (higher : d ∈ above)
    (recorded : (t.record? d).isSome) : ∃ before e behind s, above = before ++ e :: behind ∧
      above.findSome? t.record? = some s ∧ t.record? e = some s ∧ d ∉ before := by
  have there : (above.findSome? t.record?).isSome := by
    rw [List.findSome?_isSome_iff]
    exact ⟨d, higher, recorded⟩
  obtain ⟨s, sought⟩ := Option.isSome_iff_exists.mp there
  obtain ⟨before, e, behind, parts, held, bare⟩ := List.findSome?_eq_some_iff.mp sought
  refine ⟨before, e, behind, s, parts, sought, held, fun early => ?_⟩
  rw [bare d early] at recorded
  cases recorded

/-- In a chain, what is required on any of the classes reaches the last one. -/
theorem chainSeen {run : List Action} {i : Nat} {w : World} (whole : w.Whole) (linear : w.classes.Linear)
    (clear : w.classes.Clear) (told : Told run i w.classes) {c : ClassId} (known : c < w.classes.length)
    (chained : w.classes.Chained c) {d k : ClassId} (ancestor : d ∈ w.classes.order c)
    (required : RequiredOn run i d k) {types : List ClassId} (shown : w.classes.required? c = some types) : k ∈ types := by
  -- The first ancestor with a record derives from all others with one, and its order is part of that of the class.
  induction size : (w.classes.order c).length using Nat.strongRecOn generalizing c types with
  | ind n ih =>
    subst size
    obtain ⟨above, order⟩ := ownOrder whole known
    rw [told.seen clear order shown]
    rcases List.mem_cons.mp (order ▸ ancestor) with rfl | higher
    · exact .inl required
    · refine .inr ?_
      have recorded : (w.classes.record? d).isSome := by
        by_contra bare
        exact told.bare d (by simpa using bare) k required
      obtain ⟨before, e, behind, s, parts, sought, held, late⟩ := ClassTable.nearest higher recorded
      obtain ⟨all, named⟩ := Option.isSome_iff_exists.mp (clear e s held)
      have inherits : w.classes.inherited c = all := by
        rw [ClassTable.inherited, order, List.tail_cons, sought, Option.bind_some, named]
        rfl
      have nearer : e ∈ (w.classes.order c).tail := by simp [order, parts]
      have further := List.mem_of_mem_tail nearer
      have there := orderWithin whole c e further
      obtain ⟨_, own⟩ := ownOrder whole there
      have derives : w.classes.isSubclass e d = true := by
        rcases List.mem_append.mp (parts ▸ higher) with early | rest
        · exact (late early).elim
        · rcases List.mem_cons.mp rest with rfl | later
          · simp [ClassTable.isSubclass, own]
          · have joined : w.classes.order c = (c :: before) ++ e :: behind := by rw [order, parts, List.cons_append]
            have apart := behindApart whole linear joined later
            exact (chained d ancestor e further recorded (by simp [held])).resolve_left (by simp [apart])
      have part := linear.sorted c e further
      rw [inherits]
      exact ih _ (orderShorter whole linear nearer) there
        (fun a first b second => chained a (part.subset first) b (part.subset second))
        (List.contains_iff_mem.mp derives) ((ClassTable.requiredOwn own held).trans named) rfl

/-- When every class gets its decorators before another derives from it, and nothing but records stands in their place,
a class sees just what is required on itself and what the first of its ancestors with a record has recorded. In a
chain that is all that is required on it and its ancestors. -/
theorem requirementsInherited {run : List Action} (first : DecoratedFirst run) {i : Nat}
    (clear : (World.moment {} run i).classes.Clear) {c : ClassId}
    (known : c < (World.moment {} run i).classes.length) :
    ∃ types, (World.moment {} run i).classes.required? c = some types ∧
      (∀ k, k ∈ types ↔ RequiredOn run i c k ∨ k ∈ (World.moment {} run i).classes.inherited c) ∧
      ((World.moment {} run i).classes.Chained c →
        ∀ d ∈ (World.moment {} run i).classes.order c, ∀ k, RequiredOn run i d k → k ∈ types) := by
  have whole := momentWhole initialWhole run i
  have told := momentTold first clear
  obtain ⟨above, order⟩ := ownOrder whole known
  obtain ⟨types, shown⟩ := ClassTable.requiredClear clear c
  refine ⟨types, shown, told.seen clear order shown, fun chained d ancestor k required => ?_⟩
  exact chainSeen whole (momentLinear run i) clear told known chained ancestor required shown

/-- One line of decorated classes, next to a class without decorators, under one class. -/
def layeredUnit : List Action :=
  [.defineClass "Body" [] false, .defineClass "Health" [] false, .defineClass "Unit" [] false,
    .require "Unit" ["Body"], .defineClass "Moving" ["Unit"] false, .defineClass "Armed" ["Unit"] false,
    .requireOne "Armed" "Health" [.text "health"], .defineClass "Turret" ["Moving", "Armed"] false]

theorem requirementsInheritedLayered : DecoratedFirst layeredUnit ∧ (World.moment {} layeredUnit 8).classes.Clear ∧
    (World.moment {} layeredUnit 8).classes.Chained 7 ∧ RequiredOn layeredUnit 8 4 2 ∧ RequiredOn layeredUnit 8 6 3 ∧
    ∃ types, (World.moment {} layeredUnit 8).classes.required? 7 = some types ∧ 2 ∈ types ∧ 3 ∈ types := by
  have first : DecoratedFirst layeredUnit := by decide +kernel
  have clear : (World.moment {} layeredUnit 8).classes.Clear := momentClear (by simp [layeredUnit, Action.Declares]) 8
  have chained : (World.moment {} layeredUnit 8).classes.Chained 7 := by decide +kernel
  have body : RequiredOn layeredUnit 8 4 2 := ⟨3, by decide, _, [2], rfl, by decide +kernel, by decide⟩
  have health : RequiredOn layeredUnit 8 6 3 := ⟨6, by decide, _, [3], rfl, by decide +kernel, by decide⟩
  obtain ⟨types, shown, _, all⟩ := @requirementsInherited layeredUnit first 8 clear 7 (by decide +kernel)
  exact ⟨first, clear, chained, body, health, types, shown, all chained 4 (by decide +kernel) 2 body,
    all chained 6 (by decide +kernel) 3 health⟩

/-- Two decorated classes, neither of which derives from the other, under one class. -/
def pairedUnit : List Action :=
  [.defineClass "Body" [] false, .defineClass "Health" [] false, .defineClass "Moving" [] false,
    .require "Moving" ["Body"], .defineClass "Armed" [] false, .require "Armed" ["Health"],
    .defineClass "Turret" ["Moving", "Armed"] false]

/-- What the second of two bases requires does not reach the class when the first has requirements of its own. -/
theorem secondBaseUnseen : DecoratedFirst pairedUnit ∧ (∀ a ∈ pairedUnit, a.Declares) ∧
    (World.moment {} pairedUnit 7).classes.order 6 = [6, 4, 5, 0] ∧ RequiredOn pairedUnit 7 5 3 ∧
    (World.moment {} pairedUnit 7).classes.required? 6 = some [2] := by
  refine ⟨by decide +kernel, by simp [pairedUnit, Action.Declares], by decide +kernel, ?_, by decide +kernel⟩
  exact ⟨5, by decide, _, [3], rfl, by decide +kernel, by decide⟩

end AccessorForge.Hosting
