import AccessorForge.Proofs.Footprints
import Mathlib.Data.List.TakeWhile
/-! Classes of one full name. They share one module, and it goes next to the file of the first of them. Two files can
give their classes the same full names, since those depend on packages and not on where the files lie. -/
namespace AccessorForge
open Job Running
variable {w v : Workspace} {r : Request} {g : Generation} {p : Path}

/-! The last part of a full name. -/

theorem Naming.lastSegmentEnds (before : List Char) {name : List Char} (plain : '.' ∉ name) :
    defaultPropertyChars (before ++ '.' :: name) = name ∧ defaultPropertyChars name = name := by
  have passes : ∀ c ∈ name.reverse, decide (c ≠ '.') = true := by
    intro c member
    have other : c ≠ '.' := fun same => plain (same ▸ List.mem_reverse.mp member)
    simpa using other
  unfold defaultPropertyChars
  rw [List.reverse_append, List.reverse_cons, List.append_assoc, List.takeWhile_append_of_pos passes,
    List.takeWhile_eq_self_iff.mpr passes]
  simp

theorem Site.lastSegment {s : Site} (plain : Naming.IsPlain s.name) : Naming.lastSegment s.fullName = s.name := by
  have ends := Naming.lastSegmentEnds s.surroundings.toList (plain '.' (.inl rfl))
  unfold Naming.lastSegment Naming.defaultProperty Site.fullName
  split
  · rw [ends.2, String.ofList_toList]
  · rw [String.toList_append, String.toList_append, List.append_assoc]
    exact (congrArg String.ofList ends.1).trans String.ofList_toList

section
variable {warningsAsErrors : Bool} {units : List SourceUnit} {c e : Container} {s : Site}

/-! What a full name tells. -/

/-- The file of the first marked class of a full name. -/
def homeOf (units : List SourceUnit) (name : String) : Option Path :=
  ((markedSites units).find? (·.fullName = name)).bind (·.unit.path)

theorem markedUnit (marked : s ∈ markedSites units) : s.unit ∈ units ∧ s.toPlace ∈ placesInAll s.unit.tree := by
  obtain ⟨u, known, sited⟩ := List.mem_flatMap.mp (List.mem_filter.mp marked).1
  obtain ⟨place, placed, rfl⟩ := List.mem_map.mp sited
  exact ⟨known, placed⟩

theorem markedEnds (read : ∀ u ∈ units, u.IsRead) (marked : s ∈ markedSites units) :
    Naming.lastSegment s.fullName = s.name := by
  obtain ⟨known, placed⟩ := markedUnit marked
  obtain ⟨source, parsed⟩ := read s.unit known
  exact Site.lastSegment (readPlain parsed s.toPlace placed)

theorem markedScanned (marked : s ∈ markedSites units) : ∃ c ∈ scannedContainers units, c.fullName = s.fullName := by
  have known : s.fullName ∈ (scannedContainers units).map (·.fullName) := by
    rw [scannedNames, scanKeys, List.mem_eraseDups]
    exact List.mem_map_of_mem marked
  exact List.mem_map.mp known

theorem scannedHome (read : ∀ u ∈ units, u.IsRead) (scanned : c ∈ scannedContainers units) :
    c.name = Naming.lastSegment c.fullName ∧ c.unit.path = homeOf units c.fullName := by
  obtain ⟨first, found, name, unit⟩ := scannedSite scanned
  have same : first.fullName = c.fullName := by simpa using List.find?_some found
  rw [← same, markedEnds read (List.mem_of_find?_eq_some found)]
  refine ⟨name, ?_⟩
  unfold homeOf
  rw [same, found, unit]
  rfl

/-! Containers without problems. -/

theorem PassResult.silentIf {pass : PassResult} (clean : pass.errorCount = 0) (quiet : pass.warningCount = 0) :
    pass.diagnostics = [] := by
  unfold errorCount Diagnostic.errors at clean
  unfold warningCount Diagnostic.warnings at quiet
  rw [List.length_eq_zero_iff, List.filter_eq_nil_iff] at clean quiet
  refine List.eq_nil_iff_forall_not_mem.mpr fun d member => ?_
  have other := quiet d member
  simp [clean d member] at other

theorem unreported {i : Nat} (silent : (Analysis.ofUnits warningsAsErrors units).diagnostics = [])
    (there : (scannedContainers units)[i]? = some c) : c.fullName ∉ suppressedNames warningsAsErrors units ∧
      ¬ SecondAmong (scannedContainers units) (suppressedNames warningsAsErrors units) i c := by
  obtain ⟨w, found, settled⟩ := verdictAt warningsAsErrors units there
  have none : w.container.diagnostics = [] := List.flatMap_eq_nil_iff.mp silent w (List.mem_of_getElem? found)
  have reported := settled.reported
  rw [suppressedWhen warningsAsErrors units there, ← or_assoc]
  generalize w.container.diagnostics = ds at none reported
  cases reported with
  | errors first =>
    have fine := c.findingsFine.mp none
    have alone := first.resolve_left fine
    exact ⟨fun either => either.elim fine fun second => alone second.2, alone⟩
  | warned fine after d code warning location => simp at none

theorem outputsDistinct (silent : (Analysis.ofUnits warningsAsErrors units).diagnostics = [])
    (first : c ∈ scannedContainers units) (second : e ∈ scannedContainers units)
    (same : Naming.outputName c.name = Naming.outputName e.name) : c = e := by
  obtain ⟨i, here⟩ := List.mem_iff_getElem?.mp first
  obtain ⟨j, there⟩ := List.mem_iff_getElem?.mp second
  obtain ⟨kept, alone⟩ := unreported silent here
  obtain ⟨keptToo, aloneToo⟩ := unreported silent there
  rcases Nat.lt_trichotomy i j with before | rfl | after
  · exact absurd ⟨i, c, before, here, kept, same⟩ aloneToo
  · exact Option.some.inj (here.symm.trans there)
  · exact absurd ⟨j, e, after, there, keptToo, same.symm⟩ alone

theorem unreportedKept (silent : (Analysis.ofUnits warningsAsErrors units).diagnostics = []) :
    suppressedNames warningsAsErrors units = [] := by
  have within : suppressedNames warningsAsErrors units ⊆ (scannedContainers units).map (·.fullName) := by
    rw [← settledNames warningsAsErrors]
    exact (List.filter_sublist.map _).subset
  refine List.eq_nil_iff_forall_not_mem.mpr fun name listed => ?_
  obtain ⟨c, known, rfl⟩ := List.mem_map.mp (within listed)
  obtain ⟨i, there⟩ := List.mem_iff_getElem?.mp known
  exact (unreported silent there).1 listed

theorem handedAll {options : PassOptions} {m : GeneratedSource}
    (kept : suppressedNames options.warningsAsErrors units = []) :
    m ∈ Output.handed options units ↔
      ∃ c ∈ scannedContainers units, c.generate options.importScope options.runtimeModule = m := by
  unfold Output.handed
  rw [handedModules, kept, List.mem_filter, List.mem_map]
  simp

end

namespace Completed

theorem moduleFilled (run : Completed r w g v) (sound : w.Sound) (ran : (generate r false).runIn w = (.ok (.ok g), v))
    (accepted : g.pass.writeErrors = []) {m : GeneratedSource} (member : m ∈ run.modules) :
    v.Filled (run.start.spot run.ready m) := by
  obtain ⟨_, _, _, told⟩ := generateLeaves sound ran
  refine told.filled g rfl rfl accepted _ ?_
  rw [placesAre false (prepareRun run.load run.resolve run.scan) run.aim]
  exact List.mem_map_of_mem member

theorem unitsRead (run : Completed r w g v) (sound : w.Sound) :
    ∀ u ∈ g.forest.units, u.path.isSome = true ∧ u.IsRead := by
  intro u known
  obtain ⟨q, _, path, read⟩ := Forest.loadRead (run.readySound sound).1 run.rootsStraight run.scan u known
  exact ⟨by rw [path]; rfl, read⟩

theorem nothingReported (run : Completed r w g v) (clean : g.pass.errorCount = 0) (quiet : g.pass.warningCount = 0) :
    (Analysis.ofUnits run.settings.passOptions.warningsAsErrors g.forest.units).diagnostics = [] := by
  obtain ⟨d, _, _, _, told⟩ := Output.passStages run.pass
  have none := PassResult.silentIf clean quiet
  rw [told] at none
  exact none

end Completed

/-- The run has the module for a class that belongs next to the file of the class. -/
def Generation.Serves (g : Generation) (s : Site) : Prop :=
  ∃ m ∈ g.pass.sources, m.origin = s.unit.path.map Path.text ∧ m.name = Naming.outputName s.name

instance (g : Generation) (s : Site) : Decidable (g.Serves s) :=
  inferInstanceAs (Decidable (∃ m ∈ g.pass.sources, m.origin = s.unit.path.map Path.text ∧ m.name = Naming.outputName s.name))

/-- In a run without errors and warnings that puts modules next to their sources, there is one module for all marked
classes of one full name, and it stands next to the file of the first. The others are served exactly if they are in
that file too. -/
theorem firstNamesakeTakesModule (r : Request) (w v : Workspace) (g : Generation) (sound : w.Sound)
    (named : w.tree.Named) (ran : (generate r false).runIn w = (.ok (.ok g), v))
    (fine : Generation.hasErrors (.ok g) = false) (quiet : g.pass.warningCount = 0) (beside : g.output.directory = none) :
    ∀ s ∈ markedSites g.forest.units, ∃ p, homeOf g.forest.units s.fullName = some p ∧
      (∃ m ∈ g.pass.sources, m.container = s.fullName ∧ m.origin = some p.text ∧ m.name = Naming.outputName s.name) ∧
      (v.tree.bytes? (p.parent.child (Naming.outputName s.name)).parts).isSome = true ∧
      (g.Serves s ↔ s.unit.path = some p) := by
  intro s marked
  obtain ⟨none, clean, accepted⟩ := fineGeneration.mp fine
  obtain ⟨run⟩ := completed ran none
  have silent := run.nothingReported clean quiet
  obtain ⟨_, settled, handed⟩ := run.settled sound accepted
  have scan := Forest.loadRead (run.readySound sound).1 run.rootsStraight run.scan
  have read : ∀ u ∈ g.forest.units, u.IsRead := fun u known => (run.unitsRead sound u known).2
  obtain ⟨c, known, shared⟩ := markedScanned marked
  obtain ⟨name, home⟩ := scannedHome read known
  obtain ⟨q, scanned, path, _⟩ := scan s.unit (markedUnit marked).1
  obtain ⟨first, found, _, unit⟩ := scannedSite known
  obtain ⟨p, scannedToo, placed, _⟩ := scan first.unit (markedUnit (List.mem_of_find?_eq_some found)).1
  rw [← unit] at placed
  set m := c.generate run.settings.passOptions.importScope run.settings.passOptions.runtimeModule with generated
  have member : m ∈ run.modules := (handedAll (unreportedKept silent)).mpr ⟨c, known, rfl⟩
  have origin : m.origin = some p.text := by
    rw [generated]
    unfold Container.generate
    rw [placed]
    rfl
  have output : m.name = Naming.outputName s.name := by
    rw [← markedEnds read marked, ← shared, ← name]
    rfl
  refine ⟨p, by rw [← shared, ← home, placed], ⟨m, handed ▸ member, shared, origin, output⟩, ?_, ?_⟩
  · have unaimed : run.start.directory = Option.none := by
      rw [← settled.aims.1, ← (run.cleared sound accepted).directory, beside]
    have target : run.start.target m = p.parent.child (Naming.outputName s.name) := by
      unfold Output.target
      rw [unaimed, origin, output]
      exact congrArg (fun q : Path => q.parent.child (Naming.outputName s.name)) (run.scannedText sound named scannedToo).2
    have stands := (run.moduleFilled sound ran accepted member).stands
    unfold Output.spot at stands
    rwa [(run.targetStraight sound named member).1.absolute, target] at stands
  · constructor
    · -- Since no output is reported twice, the module of that name is the one of the first class.
      rintro ⟨n, taken, here, called⟩
      rw [handed] at taken
      obtain ⟨e, other, rfl⟩ := (handedAll (unreportedKept silent)).mp taken
      have alike : e = c := outputsDistinct silent other known (called.trans output.symm)
      subst alike
      rw [path] at here ⊢
      have text : q.text = p.text := Option.some.inj (here.symm.trans origin)
      rw [← (run.scannedText sound named scanned).2, text, (run.scannedText sound named scannedToo).2]
    · intro here
      exact ⟨m, handed ▸ member, by rw [here]; exact origin, output⟩

/-- Two files of one name, in two directories that are no packages, and in each a class of one name. -/
def twins : Workspace :=
  let encoded (text : String) : List UInt8 := Text.Utf8.encode text.toList
  { tree := [
      (["c.yml"], .file (encoded "sources: [x/a.py, y/a.py]\n")),
      (["x"], .directory),
      (["x", "a.py"], .file (encoded "@require_component_getters\nclass A: pass\n")),
      (["y"], .directory),
      (["y", "a.py"], .file (encoded "@require_component_getters\nclass A: pass\n"))] }

theorem twinsRun : ∃ g v, (generate bySettings false).runIn twins = (.ok (.ok g), v) ∧
    Generation.hasErrors (.ok g) = false ∧ g.pass.warningCount = 0 ∧ g.output.directory = none ∧
    (markedSites g.forest.units).length = 2 ∧
    (∃ s ∈ markedSites g.forest.units, s.unit.path = some ⟨"/", ["y", "a.py"]⟩ ∧ ¬ g.Serves s) ∧
    v.tree.bytes? ["y", "a_getters.py"] = none := by
  have checked : (generate bySettings false).endsWith twins (fun g v =>
      decide (Generation.hasErrors (.ok g) = false ∧ g.pass.warningCount = 0 ∧ g.output.directory = none ∧
        (markedSites g.forest.units).length = 2 ∧
        (∃ s ∈ markedSites g.forest.units, s.unit.path = some ⟨"/", ["y", "a.py"]⟩ ∧ ¬ g.Serves s) ∧
        v.tree.bytes? ["y", "a_getters.py"] = none)) = true := by
    decide +kernel
  obtain ⟨g, v, ran, told⟩ := endsIf checked
  exact ⟨g, v, ran, of_decide_eq_true told⟩

theorem firstNamesakeTakesModuleTwins : ∃ g v s p, twins.Sound ∧ twins.tree.Named ∧
    (generate bySettings false).runIn twins = (.ok (.ok g), v) ∧ Generation.hasErrors (.ok g) = false ∧
    g.pass.warningCount = 0 ∧ g.output.directory = none ∧ (markedSites g.forest.units).head? = some s ∧
    s.unit.path = some p ∧ g.Serves s ∧ (v.tree.bytes? (p.parent.child (Naming.outputName s.name)).parts).isSome = true := by
  have sound : twins.Sound := ⟨FileTree.soundIf (by decide +kernel), rfl⟩
  have named : twins.tree.Named := FileTree.namedIf (by decide +kernel)
  obtain ⟨g, v, ran, fine, quiet, beside, both, _⟩ := twinsRun
  cases sites : markedSites g.forest.units with
  | nil => simp [sites] at both
  | cons s rest =>
    obtain ⟨p, home, _, stands, serves⟩ :=
      firstNamesakeTakesModule bySettings twins v g sound named ran fine quiet beside s (by simp [sites])
    have placed : s.unit.path = some p := by simpa [homeOf, sites] using home
    exact ⟨g, v, s, p, sound, named, ran, fine, quiet, beside, by rw [sites, List.head?_cons], placed,
      serves.mpr placed, stands⟩

/-- The second of them gets nothing, and nothing is said about it. -/
theorem secondNamesakeUnserved : ∃ g v, bySettings.isFull = true ∧
    (generate bySettings false).runIn twins = (.ok (.ok g), v) ∧ Generation.hasErrors (.ok g) = false ∧
    g.pass.warningCount = 0 ∧ g.output.directory = none ∧
    (∃ s ∈ markedSites g.forest.units, s.unit.path = some ⟨"/", ["y", "a.py"]⟩ ∧ ¬ g.Serves s) ∧
    v.tree.bytes? ["y", "a_getters.py"] = none := by
  obtain ⟨g, v, ran, fine, quiet, beside, _, unserved, nothing⟩ := twinsRun
  exact ⟨g, v, rfl, ran, fine, quiet, beside, unserved, nothing⟩

end AccessorForge
