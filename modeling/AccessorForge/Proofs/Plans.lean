import AccessorForge.Proofs.Suppression
/-! The accessors planned for a container, told from its annotations alone, and what giving precedence to the
overrides leaves of them. The checks see the plan before overridden types are dropped, the module is written
after it. Nothing is said here about whether a plan is free of clashes. -/
namespace AccessorForge

/-! Merging. -/

def groupText : Annotation → Option String
  | .group visibility _ => some visibility
  | .override _ => none

def soundOverride : Annotation → Option Override
  | .group _ _ => none
  | .override o => if o.isWellFormed then some o else none

def Override.entry (o : Override) : String × OverrideEntry := (o.typeName.getD "", ⟨o.name.getD "", o.visibility⟩)

def entriesIn (as : List Annotation) : List (String × OverrideEntry) :=
  (as.filterMap soundOverride).map Override.entry

theorem mergeOverride (c : Container) (o : Override) : c.merge (.override o) =
    if o.isWellFormed then { c with overrides := Ledger.put o.entry.1 o.entry.2 c.overrides } else c := by
  obtain ⟨typeName, name, visibility, text, place⟩ := o
  cases typeName with
  | none => simp [Container.merge, Override.isWellFormed]
  | some typeName =>
    cases name with
    | none => simp [Container.merge, Override.isWellFormed]
    | some name => by_cases empty : name = "" <;> simp [Container.merge, Override.isWellFormed, Override.entry, empty]

/-- Only the two settings change: the last marker counts, and every well-formed override is put in. -/
theorem mergedAs (c : Container) (as : List Annotation) : as.foldl Container.merge c =
    { c with
      defaults := (as.filterMap groupText).getLast?.or c.defaults
      overrides := Ledger.putAll c.overrides (entriesIn as) } := by
  induction as generalizing c with
  | nil => rfl
  | cons a rest ih =>
    rw [List.foldl_cons, ih]
    cases a with
    | group visibility place =>
      have last : ((visibility :: rest.filterMap groupText).getLast?).or c.defaults =
          (rest.filterMap groupText).getLast?.or (some visibility) := by
        rw [List.getLast?_cons]
        cases (rest.filterMap groupText).getLast? <;> rfl
      simp only [Container.merge, List.filterMap_cons, groupText, last]
      rfl
    | override o =>
      rw [mergeOverride]
      by_cases sound : o.isWellFormed <;> simp [entriesIn, soundOverride, groupText, sound, Ledger.putAll]

theorem mergedRequired (c : Container) (as : List Annotation) : (as.foldl Container.merge c).required = c.required := by
  rw [mergedAs]

theorem mergedAnnotations (c : Container) (as : List Annotation) :
    (as.foldl Container.merge c).annotations = c.annotations := by
  rw [mergedAs]

theorem mergedDefaults (c : Container) (as : List Annotation) :
    (as.foldl Container.merge c).defaults = (as.filterMap groupText).getLast?.or c.defaults := by
  rw [mergedAs]

theorem mergedOverrides (c : Container) (as : List Annotation) :
    (as.foldl Container.merge c).overrides = Ledger.putAll c.overrides (entriesIn as) := by
  rw [mergedAs]

/-! From the first class on. -/

/-- What can happen to a container before it is checked. -/
inductive Filling
  | require (typeName : String)
  | annotate (a : Annotation)
  | report (d : Diagnostic)
  | aggregate

namespace Filling

def types : Filling → List String
  | .require typeName => [typeName]
  | _ => []

def annotations : Filling → List Annotation
  | .annotate a => [a]
  | _ => []

end Filling

namespace Container

def fill (c : Container) : Filling → Container
  | .require typeName => c.require typeName
  | .annotate a => c.annotate a
  | .report d => c.report d
  | .aggregate => c.aggregate

def filledBy (c : Container) (fs : List Filling) : Container := fs.foldl fill c

/-- An aggregation on the way has seen the annotations that were there by then. -/
structure Filled (c : Container) (ts : List String) (as : List Annotation) : Prop where
  required : c.required = ts.eraseDups
  annotations : c.annotations = as
  seen : ∃ before after, as = before ++ after ∧ c.overrides = Ledger.putAll [] (entriesIn before) ∧
    c.defaults = (before.filterMap groupText).getLast?

/-- A container whose settings are those that all its annotations amount to. -/
structure Aggregated (c : Container) (ts : List String) (as : List Annotation) : Prop where
  required : c.required = ts.eraseDups
  annotations : c.annotations = as
  overrides : c.overrides = Ledger.putAll [] (entriesIn as)
  defaults : c.defaults = (as.filterMap groupText).getLast?

variable {c : Container} {ts : List String} {as : List Annotation}

theorem Filled.aggregate (filled : c.Filled ts as) : c.aggregate.Aggregated ts as := by
  obtain ⟨before, after, whole, overrides, defaults⟩ := filled.seen
  constructor
  · exact (mergedRequired c c.annotations).trans filled.required
  · exact (mergedAnnotations c c.annotations).trans filled.annotations
  · unfold Container.aggregate entriesIn
    rw [mergedOverrides, filled.annotations, overrides, whole, entriesIn, entriesIn, List.filterMap_append, List.map_append,
      Ledger.putAllAgain]
  · unfold Container.aggregate
    rw [mergedDefaults, filled.annotations, defaults, whole, List.filterMap_append, List.getLast?_append]
    cases (after.filterMap groupText).getLast? <;> cases (before.filterMap groupText).getLast? <;> rfl

theorem Filled.fill (filled : c.Filled ts as) (f : Filling) :
    (c.fill f).Filled (ts ++ f.types) (as ++ f.annotations) := by
  obtain ⟨before, after, whole, overrides, defaults⟩ := filled.seen
  cases f with
  | require typeName =>
    have required : (c.require typeName).required = (ts ++ [typeName]).eraseDups := by
      simp [Container.require, filled.required, eraseDupsConcat]
    simp only [Filling.annotations, List.append_nil]
    exact ⟨required, filled.annotations, before, after, whole, overrides, defaults⟩
  | annotate a =>
    have annotations : (c.annotate a).annotations = as ++ [a] := by simp [Container.annotate, filled.annotations]
    simp only [Filling.types, List.append_nil]
    exact ⟨filled.required, annotations, before, after ++ [a], by simp [whole, Filling.annotations], overrides, defaults⟩
  | report d =>
    simp only [Filling.types, Filling.annotations, List.append_nil]
    exact ⟨filled.required, filled.annotations, before, after, whole, overrides, defaults⟩
  | aggregate =>
    have aggregated := filled.aggregate
    simp only [Filling.types, Filling.annotations, List.append_nil]
    exact ⟨aggregated.required, aggregated.annotations, as, [], by simp, aggregated.overrides, aggregated.defaults⟩

theorem Filled.filledBy (filled : c.Filled ts as) (fs : List Filling) :
    (c.filledBy fs).Filled (ts ++ fs.flatMap Filling.types) (as ++ fs.flatMap Filling.annotations) := by
  induction fs generalizing c ts as with
  | nil => simpa [Container.filledBy] using filled
  | cons f rest ih => simpa [Container.filledBy] using ih (filled.fill f)

theorem openedFilled (u : SourceUnit) (d : Declaration) : (u.opened d).Filled [] [] :=
  ⟨rfl, rfl, [], [], rfl, rfl, rfl⟩

theorem filledAggregated (u : SourceUnit) (d : Declaration) (fs : List Filling) :
    ((u.opened d).filledBy fs).aggregate.Aggregated (fs.flatMap Filling.types) (fs.flatMap Filling.annotations) := by
  have filled := (openedFilled u d).filledBy fs
  simpa using filled.aggregate

/-! The plan. -/

theorem plannedTypes (c : Container) : c.planned.map (·.typeName) =
    (c.defaultTypes.filter (· ∉ c.overrides.keys)) ++ c.overrides.keys := by
  have custom : c.customNamed.map (·.typeName) = c.overrides.keys := by simp [customNamed, Ledger.keys]
  have auto : c.autoNamed.map (·.typeName) = c.defaultTypes.filter (· ∉ c.overrides.keys) := by
    unfold autoNamed defaultTypes
    cases c.defaults with
    | none => rfl
    | some visibility => simp [Ledger.hasKeys, Function.comp_def]
  rw [planned, List.map_append, auto, custom]

theorem plannedOnce (c : Container) (required : c.required.Nodup) (overrides : c.overrides.keys.Nodup) :
    (c.planned.map (·.typeName)).Nodup := by
  have auto : c.defaultTypes.Nodup := by
    unfold defaultTypes
    split
    · exact required
    · exact List.nodup_nil
  rw [plannedTypes, List.nodup_append]
  refine ⟨auto.filter _, overrides, fun t kept o overridden same => ?_⟩
  simp [same, overridden] at kept

theorem plannedAs (c : Container) (overrides : c.overrides.keys.Nodup) {a : Accessor} (member : a ∈ c.planned) :
    (a.typeName ∈ c.overrides.keys ∧ Ledger.get? c.overrides a.typeName = some ⟨a.property, a.visibility⟩) ∨
      (a.typeName ∉ c.overrides.keys ∧ a.property = Naming.defaultProperty a.typeName ∧
        c.defaults = some a.visibility) := by
  rcases List.mem_append.mp member with auto | custom
  · unfold autoNamed at auto
    cases marked : c.defaults with
    | none => simp [marked] at auto
    | some visibility =>
      simp only [marked, List.mem_map, List.mem_filter] at auto
      obtain ⟨t, ⟨_, free⟩, rfl⟩ := auto
      exact .inr ⟨by simpa [Ledger.hasKeys] using free, rfl, rfl⟩
  · obtain ⟨⟨t, e⟩, held, rfl⟩ := List.mem_map.mp custom
    exact .inl ⟨List.mem_map.mpr ⟨_, held, rfl⟩, Ledger.getOfMember overrides held⟩

theorem precedenceTwice (c : Container) : c.applyPrecedence.applyPrecedence = c.applyPrecedence := by
  simp [applyPrecedence, List.filter_filter]

theorem judgedPlan (warningsAsErrors : Bool) (c : Container) (scope : ImportScope) :
    (Verdict.judge warningsAsErrors c).container.blocks scope = c.blocks scope := by
  have after (e : Container) : e.applyPrecedence.blocks scope = e.blocks scope := by
    unfold Container.blocks
    rw [precedencePlanned]
    rfl
  unfold Verdict.judge
  simp only
  split
  · rfl
  · exact after c.examine

end Container

theorem soundIff {a : Annotation} {o : Override} :
    soundOverride a = some o ↔ a = .override o ∧ o.isWellFormed = true := by
  cases a with
  | group visibility place => simp [soundOverride]
  | override request =>
    by_cases whole : request.isWellFormed
    · simp only [soundOverride, whole, if_true, Option.some.injEq, Annotation.override.injEq]
      exact ⟨fun same => ⟨same, same ▸ whole⟩, And.left⟩
    · simp only [soundOverride, whole, Bool.false_eq_true, if_false, Annotation.override.injEq]
      exact ⟨fun none => (by cases none), fun ⟨same, sound⟩ => absurd (same ▸ sound) whole⟩

theorem memSound {as : List Annotation} {o : Override} :
    o ∈ as.filterMap soundOverride ↔ .override o ∈ as ∧ o.isWellFormed = true := by
  simp [List.mem_filterMap, soundIff]

theorem soundTyped {as : List Annotation} {o : Override} (member : o ∈ as.filterMap soundOverride) :
    ∃ typeName name, o.typeName = some typeName ∧ o.name = some name ∧ name ≠ "" := by
  have whole := (memSound.mp member).2
  simp only [Override.isWellFormed, Bool.and_eq_true, Option.isSome_iff_exists, Option.any_eq_true,
    decide_eq_true_eq] at whole
  obtain ⟨⟨t, typed⟩, n, named, given⟩ := whole
  exact ⟨t, n, typed, named, given⟩

/-! What is put in, in terms of the overrides themselves. -/

theorem entriesTypes (as : List Annotation) : Ledger.keys (Ledger.putAll [] (entriesIn as)) =
    ((as.filterMap soundOverride).filterMap (·.typeName)).eraseDups := by
  rw [Ledger.keysPutAllEmpty, entriesIn, List.map_map]
  congr 1
  rw [← List.filterMap_eq_map]
  refine List.filterMap_congr fun o member => ?_
  obtain ⟨t, _, typed, _⟩ := soundTyped member
  simp [Override.entry, typed]

theorem entriesLast (as : List Annotation) (t : String) : Ledger.get? (Ledger.putAll [] (entriesIn as)) t =
    (((as.filterMap soundOverride).filter (·.typeName = some t)).getLast?).map (·.entry.2) := by
  have same : ((as.filterMap soundOverride).filter fun o => o.entry.1 = t) =
      (as.filterMap soundOverride).filter (·.typeName = some t) := by
    refine List.filter_congr fun o member => ?_
    obtain ⟨u, _, typed, _⟩ := soundTyped member
    simp [Override.entry, typed]
  rw [Ledger.getPutAll, entriesIn, List.filter_map, List.getLast?_map, Option.map_map, ← same]
  exact Option.or_none

namespace Container.Aggregated
variable {c : Container} {ts : List String} {as : List Annotation}

theorem overridden (aggregated : c.Aggregated ts as) :
    c.overrides.keys = ((as.filterMap soundOverride).filterMap (·.typeName)).eraseDups := by
  rw [aggregated.overrides, entriesTypes]

theorem held (aggregated : c.Aggregated ts as) {t : String} {e : OverrideEntry}
    (found : Ledger.get? c.overrides t = some e) :
    ∃ o, ((as.filterMap soundOverride).filter (·.typeName = some t)).getLast? = some o ∧
      o.name = some e.name ∧ o.visibility = e.visibility := by
  rw [aggregated.overrides, entriesLast, Option.map_eq_some_iff] at found
  obtain ⟨o, last, rfl⟩ := found
  obtain ⟨_, n, _, named, _⟩ := soundTyped (List.mem_filter.mp (List.mem_of_getLast? last)).1
  exact ⟨o, last, by simp [Override.entry, named], rfl⟩

end Container.Aggregated

/-! The scanned containers are filled in this way. -/

theorem gainFilled (c : Container) (as : List Annotation) (ts : List String) :
    c.gain as ts = c.filledBy (as.map .annotate ++ ts.map .require) := by
  have annotated (as : List Annotation) (c : Container) : c.filledBy (as.map .annotate) = c.gain as [] := by
    induction as generalizing c with
    | nil => exact (gainNothing c).symm
    | cons a rest ih =>
      rw [List.map_cons, Container.filledBy, List.foldl_cons, ← Container.filledBy, ih]
      simp [Container.gain, Container.fill, Container.annotate]
  have required (ts : List String) (c : Container) : c.filledBy (ts.map .require) = c.gain [] ts := by
    induction ts generalizing c with
    | nil => exact (gainNothing c).symm
    | cons t rest ih =>
      rw [List.map_cons, Container.filledBy, List.foldl_cons, ← Container.filledBy, ih]
      simp [Container.gain, Container.fill, Container.require]
  calc c.gain as ts = (c.gain as []).gain [] ts := by simp [Container.gain]
    _ = (c.filledBy (as.map .annotate)).filledBy (ts.map .require) := by rw [annotated, required]
    _ = c.filledBy (as.map .annotate ++ ts.map .require) := by simp [Container.filledBy]

theorem scannedFilled {units : List SourceUnit} {c : Container} (member : c ∈ scannedContainers units) :
    ∃ u d fs, c = ((SourceUnit.opened u d).filledBy fs).aggregate := by
  obtain ⟨entry, inside, rfl⟩ := List.mem_map.mp member
  obtain ⟨⟨name, raw⟩, listed, rfl⟩ := List.mem_map.mp inside
  have found := Ledger.getOfMember (scanKeysNodup units) listed
  rw [scanCollects, Ledger.getCollect] at found
  cases group : (markedSites units).filter (Site.fullName · = name) with
  | nil => simp [group, Ledger.gathered] at found
  | cons first rest =>
    simp only [group, Ledger.gathered, Site.absorbedAll, Option.some.injEq] at found
    exact ⟨first.unit, first.declaration, _, by rw [← found, gainFilled]; rfl⟩

/-- The plan of a container after aggregation, whatever happened to it before. Every type has one accessor: the
overridden ones are planned as their last override has it, in the order in which they first came, and behind the
other required ones, which are planned only if there is a group marker. Giving precedence to the overrides
removes the overridden types from the required ones and changes nothing about the plan, so what is checked before
is what is written after it. -/
theorem planFollowsAnnotations (u : SourceUnit) (d : Declaration) (fs : List Filling) :
    let c := ((u.opened d).filledBy fs).aggregate
    let sound := (fs.flatMap Filling.annotations).filterMap soundOverride
    let marks := (fs.flatMap Filling.annotations).filterMap groupText
    let overridden := (sound.filterMap (·.typeName)).eraseDups
    let p := c.applyPrecedence
    c.required = (fs.flatMap Filling.types).eraseDups ∧ c.overrides.keys = overridden ∧
    c.planned.map (·.typeName) = (if marks = [] then [] else c.required.filter (· ∉ overridden)) ++ overridden ∧
    (c.planned.map (·.typeName)).Nodup ∧
    (∀ t, t ∈ c.planned.map (·.typeName) ↔ t ∈ overridden ∨ (marks ≠ [] ∧ t ∈ fs.flatMap Filling.types)) ∧
    (∀ a ∈ c.planned,
      (a.typeName ∈ overridden ∧ ∃ o, (sound.filter (·.typeName = some a.typeName)).getLast? = some o ∧
        o.name = some a.property ∧ o.visibility = a.visibility) ∨
      (a.typeName ∉ overridden ∧ a.property = Naming.defaultProperty a.typeName ∧
        marks.getLast? = some a.visibility)) ∧
    p.required = c.required.filter (· ∉ overridden) ∧ p.required.Disjoint p.overrides.keys ∧
    p.overrides = c.overrides ∧ p.applyPrecedence = p ∧ p.planned = c.planned ∧
    p.checkAccessorNames = c.checkAccessorNames ∧
    ∀ warningsAsErrors scope, (Verdict.judge warningsAsErrors c).container.blocks scope =
      c.planned.map (c.accessorBlock (c.localNames (c.copiedImports scope))) := by
  intro c sound marks overridden p
  have aggregated : c.Aggregated _ _ := Container.filledAggregated u d fs
  have keys : c.overrides.keys = overridden := aggregated.overridden
  have unique : c.overrides.keys.Nodup := keys ▸ eraseDupsNodup _
  have defaults : c.defaults = marks.getLast? := aggregated.defaults
  have automatic : c.defaultTypes = if marks = [] then [] else c.required := by
    unfold Container.defaultTypes
    rw [defaults]
    by_cases none : marks = [] <;> simp [none]
  have types : c.planned.map (·.typeName) =
      (if marks = [] then [] else c.required.filter (· ∉ overridden)) ++ overridden := by
    rw [c.plannedTypes, automatic, keys]
    by_cases none : marks = [] <;> simp [none]
  have plan : p.planned = c.planned := precedencePlanned c
  have remaining : p.required = c.required.filter (· ∉ overridden) := by
    simp [p, Container.applyPrecedence, Ledger.hasKeys, keys]
  refine ⟨aggregated.required, keys, types, ?once, ?members, ?each, remaining, ?disjoint, rfl, c.precedenceTwice, plan,
    ?checked, fun warningsAsErrors scope => c.judgedPlan warningsAsErrors scope⟩
  case once =>
    have required : c.required.Nodup := aggregated.required ▸ eraseDupsNodup _
    exact c.plannedOnce required unique
  case members =>
    intro t
    have required : t ∈ c.required ↔ t ∈ fs.flatMap Filling.types := by rw [aggregated.required, List.mem_eraseDups]
    rw [types, List.mem_append, ← required]
    by_cases renamed : t ∈ overridden <;> by_cases none : marks = [] <;> simp [renamed, none]
  case each =>
    intro a member
    rw [← keys, ← defaults]
    rcases c.plannedAs unique member with ⟨renamed, held⟩ | auto
    · exact .inl ⟨renamed, aggregated.held held⟩
    · exact .inr auto
  case disjoint =>
    intro t kept renamed
    rw [remaining, List.mem_filter] at kept
    have renamed : t ∈ overridden := keys ▸ renamed
    simp [renamed] at kept
  case checked =>
    unfold Container.checkAccessorNames
    rw [plan]
    rfl

end AccessorForge
