import AccessorForge.Proofs.ClassChanges
/-! Required types as decorators record them. A record has no type twice; it goes on from what was seen on the class
just before, in the order in which the decorator names the types that are new. Naming them again changes nothing, at
that moment or at any later one, and only the class and those that derive from it see anything of it. -/
namespace AccessorForge.Hosting
open Act Running

namespace ClassTable
variable {t : ClassTable} {c d : ClassId}

/-! Merging. -/

theorem mergeAdds (old new : List ClassId) : mergeTypes old new = old ++ (new.filter (· ∉ old)).eraseDups := by
  induction new generalizing old with
  | nil => simp [mergeTypes]
  | cons c rest ih =>
    unfold mergeTypes at ih ⊢
    rw [List.foldl_cons, ih]
    by_cases known : c ∈ old
    · simp [known]
    · have fewer : rest.filter (· ∉ old ++ [c]) = (rest.filter (· ∉ old)).filter fun k => !k == c := by
        rw [List.filter_filter]
        refine List.filter_congr fun k _ => ?_
        by_cases here : k = c <;> simp [here, known]
      rw [if_neg known, fewer, List.filter_cons_of_pos (by simpa using known), List.eraseDups_cons,
        List.append_assoc, List.singleton_append]

theorem mergeNodup {old : List ClassId} (unique : old.Nodup) (new : List ClassId) : (mergeTypes old new).Nodup := by
  unfold mergeTypes
  induction new generalizing old with
  | nil => exact unique
  | cons c rest ih =>
    rw [List.foldl_cons]
    split
    · exact ih unique
    · next new => exact ih (List.nodup_append.mpr ⟨unique, List.nodup_singleton c, by grind⟩)

theorem mergeApart {old new : List ClassId} (apart : (old ++ new).Nodup) : mergeTypes old new = old ++ new := by
  unfold mergeTypes
  induction new generalizing old with
  | nil => simp
  | cons c rest ih =>
    have new : c ∉ old := by grind
    rw [List.foldl_cons, if_neg new, ih (by simpa using apart), List.append_assoc, List.singleton_append]

theorem mergeFresh {old : List ClassId} (unique : old.Nodup) : mergeTypes [] old = old := mergeApart unique

theorem mergeKnown {old new : List ClassId} (known : ∀ c ∈ new, c ∈ old) : mergeTypes old new = old := by
  rw [mergeAdds, List.filter_eq_nil_iff.mpr (by simpa using known), List.eraseDups_nil, List.append_nil]

/-! Records. -/

/-- No record has a type twice. -/
def Distinct (t : ClassTable) : Prop := ∀ c s types, t.record? c = some s → s.types? = some types → types.Nodup

/-- Nothing but a record stands in the place of one. -/
def Clear (t : ClassTable) : Prop := ∀ c s, t.record? c = some s → s.types?.isSome

theorem requiredClear (clear : t.Clear) (c : ClassId) : ∃ types, t.required? c = some types := by
  rw [requiredSought]
  cases sought : (t.order c).findSome? t.record? with
  | none => exact ⟨[], rfl⟩
  | some s =>
    obtain ⟨d, _, own⟩ := List.exists_of_findSome?_eq_some sought
    exact Option.isSome_iff_exists.mp (clear d s own)

theorem requiredDistinct (distinct : t.Distinct) {types : List ClassId} (seen : t.required? c = some types) :
    types.Nodup := by
  rw [requiredSought] at seen
  cases sought : (t.order c).findSome? t.record? with
  | none =>
    rw [sought] at seen
    cases seen
    exact List.nodup_nil
  | some s =>
    rw [sought] at seen
    obtain ⟨d, _, own⟩ := List.exists_of_findSome?_eq_some sought
    exact distinct d s types own seen

/-- A record that names these types, among others, or something else in its place. -/
def Holds (t : ClassTable) (c : ClassId) (types : List ClassId) : Prop :=
  ∃ s, t.record? c = some s ∧ ∀ all, s.types? = some all → types ⊆ all

theorem recordingDistinct (distinct : t.Distinct) (c : ClassId) (seen types : List ClassId) :
    (t.recording c seen types).Distinct := by
  intro d s all own shown
  rw [recordingRecord] at own
  split at own
  · obtain ⟨_, _, rfl⟩ := Option.map_eq_some_iff.mp own
    cases shown
    exact mergeNodup (mergeNodup List.nodup_nil seen) types
  · exact distinct d s all own shown

theorem recordingClear (clear : t.Clear) (c : ClassId) (seen types : List ClassId) :
    (t.recording c seen types).Clear := by
  intro d s own
  rw [recordingRecord] at own
  split at own
  · obtain ⟨_, _, rfl⟩ := Option.map_eq_some_iff.mp own
    rfl
  · exact clear d s own

theorem recordingFrame (apart : t.isSubclass d c = false) (seen types : List ClassId) :
    (t.recording c seen types).required? d = t.required? d := by
  have order : (t.recording c seen types).order d = t.order d := setSlotOrder t c d _ _
  have same : (t.order d).findSome? (t.recording c seen types).record? = (t.order d).findSome? t.record? := by
    refine findSomeSame fun k ancestor => ?_
    have other : c ≠ k := fun here => by simp [isSubclass, here, ancestor] at apart
    exact recordingOther other seen types
  rw [requiredSought, requiredSought, order, same]

theorem setSlotSame {name : String} {s : Slot} (own : ((t[c]?).bind fun k => Ledger.get? k.slots name) = some s) :
    t.setSlot c name s = t := by
  obtain ⟨k, found, held⟩ := Option.bind_eq_some_iff.mp own
  refine List.ext_getElem? fun i => ?_
  unfold setSlot
  rw [List.getElem?_modify]
  by_cases here : c = i
  · simp [← here, found, Ledger.putSame held]
  · simp [here]

end ClassTable

/-! Steps. -/

theorem stepDistinct {w : World} (whole : w.Whole) (a : Action) (distinct : w.classes.Distinct) :
    (w.step a).2.classes.Distinct := by
  rcases stepClasses whole a with ⟨c, types, seen, _, _, step⟩ | amends | ⟨slots, bare, grows⟩
  · exact step ▸ ClassTable.recordingDistinct distinct c seen types
  · intro c s types own shown
    rcases amends.record c with same | ⟨r, other, none⟩
    · exact distinct c s types (same ▸ own) shown
    · cases other.symm.trans own
      cases none.symm.trans shown
  · intro c s types own shown
    by_cases known : c < w.classes.length
    · exact distinct c s types (grows.record known ▸ own) shown
    · obtain ⟨isFirst, listed⟩ := grows.ownRecord (Nat.le_of_not_lt known) own
      cases (bareGet (bareStandard bare isFirst) listed).symm.trans shown

theorem stepHolds {w : World} (whole : w.Whole) (a : Action) {c : ClassId} {types : List ClassId}
    (holds : w.classes.Holds c types) : (w.step a).2.classes.Holds c types := by
  obtain ⟨s, own, named⟩ := holds
  have known := ClassTable.recordKnown own
  rcases stepClasses whole a with ⟨d, more, seen, _, shown, step⟩ | amends | ⟨_, _, grows⟩
  · rw [step]
    by_cases here : d = c
    · subst here
      obtain ⟨above, order⟩ := ownOrder whole known
      refine ⟨_, ClassTable.recordingOwn known seen more, fun all same k member => ?_⟩
      cases same
      have before := named seen ((ClassTable.requiredOwn order own).symm.trans shown)
      rw [memMergeTypes, memMergeTypes]
      exact .inl (.inr (before member))
    · exact ⟨s, (ClassTable.recordingOther here seen more).trans own, named⟩
  · rcases amends.record c with same | ⟨r, other, none⟩
    · exact ⟨s, same.trans own, named⟩
    · exact ⟨r, other, fun all shown => by cases none.symm.trans shown⟩
  · exact ⟨s, (grows.record known).trans own, named⟩

theorem stillWhenHeld {w : World} (whole : w.Whole) (distinct : w.classes.Distinct) {a : Action} {c : ClassId}
    {types : List ClassId} (asked : w.decoration? a = some (c, types)) (holds : w.classes.Holds c types) :
    (w.step a).2 = w := by
  obtain ⟨s, own, named⟩ := holds
  rcases decorationCases asked with ⟨_, step⟩ | ⟨seen, shown, _, step⟩
  · rw [step]
  · obtain ⟨above, order⟩ := ownOrder whole (ClassTable.recordKnown own)
    have same : s.types? = some seen := (ClassTable.requiredOwn order own).symm.trans shown
    have all : s = .required seen := by
      cases s <;> simp_all [Slot.types?]
    have unique := distinct c s seen own same
    have merged : ClassTable.mergeTypes (ClassTable.mergeTypes [] seen) types = seen := by
      rw [ClassTable.mergeFresh unique, ClassTable.mergeKnown (named seen same)]
    have back : w.classes.recording c seen types = w.classes := by
      rw [ClassTable.recording, merged, ← all, ClassTable.setSlotSame own]
    rw [step, back]

/-- A decorator that gets its class back has left a record there that goes on from what was seen before. -/
theorem recordLeft {w : World} (distinct : w.classes.Distinct) (whole : w.Whole) {a : Action} {c : ClassId}
    {types : List ClassId} (asked : w.decoration? a = some (c, types)) (answered : (w.step a).1 = .ok (.flag true)) :
    ∃ before, w.classes.required? c = some before ∧ before.Nodup ∧ c ≠ ClassTable.base ∧
      (w.step a).2.classes.record? c = some (.required (ClassTable.mergeTypes before types)) ∧
      (w.step a).2.decoration? a = some (c, types) := by
  rcases decorationCases asked with ⟨_, step⟩ | ⟨before, shown, below, step⟩
  · rw [step] at answered
    cases answered
  · have unique := ClassTable.requiredDistinct distinct shown
    rw [step]
    refine ⟨before, shown, unique, below, ?_, (decorationNamed rfl a).trans asked⟩
    rw [ClassTable.recordingOwn (decorationKnown whole asked), ClassTable.mergeFresh unique]

theorem stepAgain {w : World} (whole : w.Whole) (distinct : w.classes.Distinct) {a : Action} {c : ClassId}
    {types all : List ClassId} (asked : w.decoration? a = some (c, types)) (below : c ≠ ClassTable.base)
    (own : w.classes.record? c = some (.required all)) (named : types ⊆ all) :
    w.step a = (.ok (.flag true), w) := by
  have still := stillWhenHeld whole distinct asked ⟨_, own, fun _ same => by cases same; exact named⟩
  obtain ⟨above, order⟩ := ownOrder whole (ClassTable.recordKnown own)
  rcases decorationCases asked with ⟨missing | root, _⟩ | ⟨_, _, _, step⟩
  · cases (ClassTable.requiredOwn order own).symm.trans missing
  · exact (below root).elim
  · exact Prod.ext (by rw [step]) still

/-! Runs of class definitions and decorators. -/

theorem markGroupClear (c : ClassId) (visibility : Value) :
    Act.Keeps (fun v => v.classes.Clear) (Act.markGroup c visibility) := by
  refine changeableKeeps c fun _ => keepsBind (keepsModify fun w clear d s own => ?_) fun _ => keepsPure _
  exact clear d s ((ClassTable.setSlotRecordOther _ _ _ (by decide) _).symm.trans own)

theorem defineClassClear {w : World} (whole : w.Whole) (clear : w.classes.Clear) (name : String)
    (bases : List String) (equalsAll : Bool) : ((Act.defineClass name bases equalsAll).runIn w).2.classes.Clear := by
  rcases defineClassAdds whole name bases equalsAll with same | grows
  · exact same ▸ clear
  · intro c s own
    by_cases known : c < w.classes.length
    · exact clear c s (grows.record known ▸ own)
    · obtain ⟨isFirst, listed⟩ := grows.ownRecord (Nat.le_of_not_lt known) own
      have free : Ledger.get? (withStandard isFirst []) ClassTable.requiredName = none := by cases isFirst <;> rfl
      cases free.symm.trans listed

theorem stepClear {w : World} (whole : w.Whole) {a : Action} (declares : a.Declares) (clear : w.classes.Clear) :
    (w.step a).2.classes.Clear :=
  declaresKeeps (I := fun v => v.classes.Clear)
    (fun _ name bases equalsAll whole clear => defineClassClear whole clear name bases equalsAll)
    (fun c types => recordKeeps fun _ seen before => ClassTable.recordingClear before c seen types) markGroupClear
    declares whole clear

/-! Moments of a run. -/

theorem initialRecord (c : ClassId) : ClassTable.initial.record? c = none := by
  match c with
  | 0 | 1 | c + 2 => rfl

theorem momentDistinct (run : List Action) (i : Nat) : (World.moment {} run i).classes.Distinct := by
  refine throughout (I := fun w => w.classes.Distinct) initialWhole (fun c s types own _ => ?_)
    (fun a _ w whole => stepDistinct whole a) i
  cases (initialRecord c).symm.trans own

theorem momentClear {run : List Action} (declared : ∀ a ∈ run, a.Declares) (i : Nat) :
    (World.moment {} run i).classes.Clear := by
  refine throughout (I := fun w => w.classes.Clear) initialWhole (fun c s own => ?_)
    (fun a member w whole => stepClear whole (declared a member)) i
  cases (initialRecord c).symm.trans own

theorem laterHolds {run : List Action} {i j : Nat} (order : i ≤ j) {c : ClassId} {types : List ClassId}
    (holds : (World.moment {} run i).classes.Holds c types) : (World.moment {} run j).classes.Holds c types := by
  induction order with
  | refl => exact holds
  | @step j _ ih =>
    cases next : run[j]? with
    | some a =>
      rw [momentNext next]
      exact stepHolds (momentWhole initialWhole run j) a ih
    | none => rwa [momentEnded next]

/-- At any moment of a run, a requirement decorator gets its class back if the run has only classes and decorators. If
it does, the record that it leaves on the class starts with what was seen there just before, goes on with the types
that are new in the order in which they are first named, and has none twice; the same decorator changes nothing then,
nor does any of the same types at any later moment. What is seen on a class that does not derive from the decorated one
stays as it was. -/
theorem requirementsRecorded {run : List Action} {i : Nat} {a : Action} (next : run[i]? = some a) {c : ClassId}
    {types : List ClassId} (asked : (World.moment {} run i).decoration? a = some (c, types)) :
    ((∀ b ∈ run, b.Declares) → c ≠ ClassTable.base → ((World.moment {} run i).step a).1 = .ok (.flag true)) ∧
    (((World.moment {} run i).step a).1 = .ok (.flag true) → ∃ before tuple,
      (World.moment {} run i).classes.required? c = some before ∧ before.Nodup ∧
      tuple = before ++ (types.filter (· ∉ before)).eraseDups ∧ tuple.Nodup ∧
      (World.moment {} run (i + 1)).classes.record? c = some (.required tuple) ∧
      (World.moment {} run (i + 1)).classes.required? c = some tuple ∧
      (World.moment {} run (i + 1)).step a = (.ok (.flag true), World.moment {} run (i + 1)) ∧
      ∀ j b, i < j → (World.moment {} run j).decoration? b = some (c, types) →
        ((World.moment {} run j).step b).2 = World.moment {} run j) ∧
    ∀ d, (World.moment {} run i).classes.isSubclass d c = false →
      (World.moment {} run (i + 1)).classes.required? d = (World.moment {} run i).classes.required? d := by
  have here := momentWhole initialWhole run i
  have after := @momentNext {} _ _ _ next
  refine ⟨fun declared below => ?_, fun answered => ?_, fun d apart => ?_⟩
  · obtain ⟨seen, shown⟩ := ClassTable.requiredClear (momentClear declared i) c
    rcases decorationCases asked with ⟨missing | root, _⟩ | ⟨_, _, _, step⟩
    · cases shown.symm.trans missing
    · exact (below root).elim
    · rw [step]
  · obtain ⟨before, shown, unique, below, record, again⟩ := recordLeft (momentDistinct run i) here asked answered
    rw [← after] at record again
    have now := momentWhole initialWhole run (i + 1)
    have named : types ⊆ ClassTable.mergeTypes before types := fun k member => memMergeTypes.mpr (.inr member)
    obtain ⟨above, order⟩ := ownOrder now (ClassTable.recordKnown record)
    refine ⟨before, _, shown, unique, ClassTable.mergeAdds before types, ClassTable.mergeNodup unique types, record,
      ClassTable.requiredOwn order record, stepAgain now (momentDistinct run (i + 1)) again below record named,
      fun j b later asked => ?_⟩
    refine stillWhenHeld (momentWhole initialWhole run j) (momentDistinct run j) asked (laterHolds later ?_)
    exact ⟨_, record, fun all same => by cases same; exact named⟩
  · rcases decorationCases asked with ⟨_, step⟩ | ⟨seen, _, _, step⟩
    · rw [after, step]
    · rw [after, step]
      exact ClassTable.recordingFrame apart seen types

def layered : List Action :=
  [.defineClass "Body" [] false, .defineClass "Health" [] false, .defineClass "Unit" [] false,
    .require "Unit" ["Body", "Body"], .defineClass "Turret" ["Unit"] false,
    .require "Turret" ["Health", "Body", "Health"]]

theorem requirementsRecordedLayered : layered[5]? = some (.require "Turret" ["Health", "Body", "Health"]) ∧
    (World.moment {} layered 5).decoration? (.require "Turret" ["Health", "Body", "Health"]) = some (5, [3, 2, 3]) ∧
    ((World.moment {} layered 5).step (.require "Turret" ["Health", "Body", "Health"])).1 = .ok (.flag true) ∧
    (World.moment {} layered 6).classes.required? 5 = some [2, 3] ∧
    (World.moment {} layered 5).classes.isSubclass 4 5 = false ∧
    (World.moment {} layered 6).classes.required? 4 = (World.moment {} layered 5).classes.required? 4 := by
  have asked : (World.moment {} layered 5).decoration? (.require "Turret" ["Health", "Body", "Health"]) =
    some (5, [3, 2, 3]) := by decide +kernel
  have apart : (World.moment {} layered 5).classes.isSubclass 4 5 = false := by decide +kernel
  obtain ⟨answers, records, outside⟩ := @requirementsRecorded layered 5 _ rfl 5 [3, 2, 3] asked
  have answered := answers (by simp [layered, Action.Declares]) (by decide)
  obtain ⟨before, tuple, seen, _, whole, _, _, shown, _⟩ := records answered
  have inherited : (World.moment {} layered 5).classes.required? 5 = some [2] := by decide +kernel
  cases inherited.symm.trans seen
  have recorded : tuple = [2, 3] := whole.trans (by decide)
  exact ⟨rfl, asked, answered, recorded ▸ shown, apart, outside 4 apart⟩

end AccessorForge.Hosting
