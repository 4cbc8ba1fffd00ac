import AccessorForge.Proofs.Plans
/-! Which annotations decide what a container is generated with: of the group markers the last one, of the
well-formed overrides of a type the last one. The others leave no trace but the place of their type. -/
namespace AccessorForge
namespace Container

/-- The container before anything is merged, with these annotations. -/
def afresh (c : Container) (as : List Annotation) : Container :=
  { c with annotations := as, defaults := none, overrides := [] }

def settings (c : Container) : Option String × Ledger OverrideEntry := (c.defaults, c.overrides)

end Container

/-- Whether the annotation takes part in the merging. -/
def Annotation.counts : Annotation → Bool
  | .group _ _ => true
  | .override o => o.isWellFormed

/-- A well-formed request for an accessor of the type `t`, with the name and the visibility of `e`. -/
structure Override.Requests (o : Override) (t : String) (e : OverrideEntry) : Prop where
  sound : o.isWellFormed = true
  type : o.typeName = some t
  name : o.name = some e.name
  visibility : o.visibility = e.visibility

/-- No group marker follows the one with this visibility. -/
def LastMarker (as : List Annotation) (visibility : String) : Prop :=
  ∃ before place after, as = before ++ .group visibility place :: after ∧ ∀ v p, .group v p ∉ after

/-- No well-formed override of the type follows the one with this entry. -/
def LastOverride (as : List Annotation) (t : String) (e : OverrideEntry) : Prop :=
  ∃ before o after, as = before ++ .override o :: after ∧ o.Requests t e ∧
    ∀ later, .override later ∈ after → ∀ f, ¬ later.Requests t f

/-! Last ones. -/

theorem lastKept {α β : Type} (f : α → Option β) (xs : List α) (y : β) : (xs.filterMap f).getLast? = some y ↔
    ∃ before x after, xs = before ++ x :: after ∧ f x = some y ∧ ∀ z ∈ after, f z = none := by
  rw [List.getLast?_filterMap, List.findSome?_eq_some_iff]
  constructor
  · rintro ⟨after, x, before, split, kept, last⟩
    refine ⟨before.reverse, x, after.reverse, ?_, kept, fun z later => last z (List.mem_reverse.mp later)⟩
    rw [← List.reverse_reverse xs, split, List.reverse_append, List.reverse_cons, List.append_assoc,
      List.singleton_append]
  · rintro ⟨before, x, after, rfl, kept, last⟩
    refine ⟨after.reverse, x, before.reverse, ?_, kept, fun z later => last z (List.mem_reverse.mp later)⟩
    rw [List.reverse_append, List.reverse_cons, List.append_assoc, List.singleton_append]

theorem lastMarkerIff (as : List Annotation) (visibility : String) :
    (as.filterMap groupText).getLast? = some visibility ↔ LastMarker as visibility := by
  have marker (a : Annotation) (v : String) : groupText a = some v ↔ ∃ place, a = .group v place := by
    cases a <;> simp [groupText]
  have other (a : Annotation) : groupText a = none ↔ ∀ v place, a ≠ .group v place := by
    cases a <;> simp [groupText]
  rw [lastKept]
  constructor
  · rintro ⟨before, a, after, split, kept, last⟩
    obtain ⟨place, rfl⟩ := (marker a visibility).mp kept
    exact ⟨before, place, after, split, fun v p later => (other _).mp (last _ later) v p rfl⟩
  · rintro ⟨before, place, after, split, last⟩
    exact ⟨before, _, after, split, rfl, fun a later => (other a).mpr fun v p same => last v p (same ▸ later)⟩

theorem requestsIff (o : Override) (t : String) (e : OverrideEntry) :
    o.Requests t e ↔ o.isWellFormed = true ∧ o.typeName = some t ∧ o.entry.2 = e := by
  constructor
  · rintro ⟨sound, type, name, visibility⟩
    exact ⟨sound, type, by simp [Override.entry, name, visibility]⟩
  · rintro ⟨sound, type, rfl⟩
    refine ⟨sound, type, ?_, rfl⟩
    have named : o.name.isSome = true := by
      simp only [Override.isWellFormed, Bool.and_eq_true] at sound
      cases known : o.name <;> simp_all
    obtain ⟨name, known⟩ := Option.isSome_iff_exists.mp named
    simp [Override.entry, known]

theorem lastOverrideIff (as : List Annotation) (t : String) (e : OverrideEntry) :
    Ledger.get? (Ledger.putAll [] (entriesIn as)) t = some e ↔ LastOverride as t e := by
  have request (a : Annotation) (o : Override) : (soundOverride a).filter (·.typeName = some t) = some o ↔
      a = .override o ∧ o.Requests t o.entry.2 := by
    simp [Option.filter_eq_some_iff, soundIff, requestsIff, and_assoc]
  rw [entriesLast, Option.map_eq_some_iff, List.filter_filterMap]
  simp only [lastKept]
  constructor
  · rintro ⟨o, ⟨before, a, after, split, kept, last⟩, rfl⟩
    obtain ⟨rfl, requests⟩ := (request a o).mp kept
    refine ⟨before, o, after, split, requests, fun later inside f also => ?_⟩
    obtain ⟨sound, type, rfl⟩ := (requestsIff later t f).mp also
    exact absurd ((request _ later).mpr ⟨rfl, also⟩) (by simp [last _ inside])
  · rintro ⟨before, o, after, split, requests, last⟩
    obtain ⟨sound, type, rfl⟩ := (requestsIff o t e).mp requests
    refine ⟨o, ⟨before, _, after, split, (request _ o).mpr ⟨rfl, requests⟩, fun a inside => ?_⟩, rfl⟩
    rw [Option.eq_none_iff_forall_ne_some]
    intro later kept
    obtain ⟨rfl, also⟩ := (request a later).mp kept
    exact last later inside _ also

/-! Annotations that do not take part, and those that do not see each other. -/

theorem markersCounted (as : List Annotation) :
    (as.filter Annotation.counts).filterMap groupText = as.filterMap groupText := by
  rw [List.filterMap_filter]
  refine List.filterMap_congr fun a _ => ?_
  cases a with
  | group visibility place => rfl
  | override o => simp [groupText]

theorem entriesCounted (as : List Annotation) : entriesIn (as.filter Annotation.counts) = entriesIn as := by
  unfold entriesIn
  rw [List.filterMap_filter]
  congr 1
  refine List.filterMap_congr fun a _ => ?_
  cases a with
  | group visibility place => rfl
  | override o => by_cases sound : o.isWellFormed <;> simp [ Annotation.counts, soundOverride, sound]

namespace Container

theorem aggregatedAfresh (c : Container) (as : List Annotation) : (c.afresh as).aggregate =
    { c.afresh as with
      defaults := (as.filterMap groupText).getLast?
      overrides := Ledger.putAll [] (entriesIn as) } := by
  rw [aggregate, mergedAs]
  simp [afresh]

theorem settingsAfresh (c : Container) (as : List Annotation) :
    (c.afresh as).aggregate.settings = ((as.filterMap groupText).getLast?, Ledger.putAll [] (entriesIn as)) := by
  rw [aggregatedAfresh]
  rfl

theorem sameCounted (c : Container) {as others : List Annotation}
    (same : others.filter Annotation.counts = as.filter Annotation.counts) :
    (c.afresh others).aggregate.settings = (c.afresh as).aggregate.settings := by
  rw [settingsAfresh, settingsAfresh, ← markersCounted others, ← entriesCounted others, same, markersCounted,
    entriesCounted]

theorem sameSwapped (c : Container) (before after : List Annotation) (visibility : String) (place : Location)
    (o : Override) :
    (c.afresh (before ++ .override o :: .group visibility place :: after)).aggregate.settings =
      (c.afresh (before ++ .group visibility place :: .override o :: after)).aggregate.settings := by
  rw [settingsAfresh, settingsAfresh]
  simp only [entriesIn, List.filterMap_append, List.filterMap_cons, groupText, soundOverride]

theorem aggregatedTwice (c : Container) (as : List Annotation) :
    (c.afresh as).aggregate.aggregate = (c.afresh as).aggregate := by
  have again := Ledger.putAllAgain (entriesIn as) []
  rw [List.append_nil] at again
  rw [aggregate, mergedAs, aggregatedAfresh]
  simp [afresh, again]

/-- What merging makes of a container on which nothing was merged before, told from its annotations. -/
theorem lastAnnotationsSettle (c : Container) (as : List Annotation) :
    let merged := (c.afresh as).aggregate
    merged = { c.afresh as with defaults := merged.defaults, overrides := merged.overrides } ∧
    (∀ visibility, merged.defaults = some visibility ↔ LastMarker as visibility) ∧
    (merged.defaults = none ↔ ∀ visibility place, .group visibility place ∉ as) ∧
    merged.overrides.keys = ((as.filterMap soundOverride).filterMap (·.typeName)).eraseDups ∧
    (∀ t e, Ledger.get? merged.overrides t = some e ↔ LastOverride as t e) ∧
    (∀ others, others.filter Annotation.counts = as.filter Annotation.counts →
      (c.afresh others).aggregate.settings = merged.settings) ∧
    (∀ before visibility place o after, as = before ++ .group visibility place :: .override o :: after →
      (c.afresh (before ++ .override o :: .group visibility place :: after)).aggregate.settings = merged.settings) ∧
    merged.aggregate = merged := by
  intro merged
  have marked : merged.defaults = (as.filterMap groupText).getLast? := congrArg (·.defaults) (c.aggregatedAfresh as)
  have put : merged.overrides = Ledger.putAll [] (entriesIn as) := congrArg (·.overrides) (c.aggregatedAfresh as)
  refine ⟨?_, ?_, ?_, ?_, ?_, fun others same => c.sameCounted same, ?_, c.aggregatedTwice as⟩
  · rw [marked, put]
    exact c.aggregatedAfresh as
  · intro visibility
    rw [marked, lastMarkerIff]
  · rw [marked, List.getLast?_eq_none_iff, List.filterMap_eq_nil_iff]
    constructor
    · intro unmarked visibility place member
      cases unmarked _ member
    · intro absent a member
      cases a with
      | group visibility place => exact absurd member (absent visibility place)
      | override o => rfl
  · rw [put, entriesTypes]
  · intro t e
    rw [put, lastOverrideIff]
  · rintro before visibility place o after rfl
    exact c.sameSwapped before after visibility place o

end Container
end AccessorForge
