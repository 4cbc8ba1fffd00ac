import AccessorForge.Proofs.Namesakes
/-! Runs over given paths. Such a run removes what it meets of the modules whose classes it does not find, even if it
meets them in the output directory, which it does not search. -/
namespace AccessorForge
open Job Running
variable {w v u x : Workspace} {r q : Request} {g d : Generation}

theorem Output.targetAlike {o p : Output} {m n : GeneratedSource} (directory : o.directory = p.directory)
    (name : m.name = n.name) (origin : m.origin = n.origin) (placed : n.origin.isSome = true) :
    o.target m = p.target n := by
  obtain ⟨path, there⟩ := Option.isSome_iff_exists.mp placed
  unfold target
  rw [directory, name, origin, there]
  cases p.directory <;> rfl

namespace Completed

theorem suppressedSame (run : Completed r w g v) :
    g.pass.suppressed = suppressedNames run.settings.passOptions.warningsAsErrors g.forest.units := by
  obtain ⟨_, _, _, _, told⟩ := Output.passStages run.pass
  rw [told]
  rfl

end Completed

namespace Generation

/-- A run that hands over a module for every class it finds, and each to where another run would have put it: both put
modules into one directory, and find the first class of a full name in one file. -/
structure Retraces (d g : Generation) : Prop where
  directory : d.output.directory = g.output.directory
  kept : d.pass.suppressed = []
  homes : ∀ s ∈ markedSites d.forest.units, homeOf d.forest.units s.fullName = homeOf g.forest.units s.fullName

/-- Every generated module that a run has met is one of an earlier run, for a class that it has found as well. -/
def Covers (d g : Generation) (v : Workspace) : Prop :=
  ∀ p ∈ d.forest.generated, ∃ m ∈ g.pass.sources, (g.output.target m).absolute v.cwd = p ∧
    ∃ s ∈ markedSites d.forest.units, s.fullName = m.container

instance (d g : Generation) : Decidable (d.Retraces g) :=
  decidable_of_iff (d.output.directory = g.output.directory ∧ d.pass.suppressed = [] ∧
      ∀ s ∈ markedSites d.forest.units, homeOf d.forest.units s.fullName = homeOf g.forest.units s.fullName)
    ⟨fun ⟨directory, kept, homes⟩ => ⟨directory, kept, homes⟩, fun again => ⟨again.directory, again.kept, again.homes⟩⟩

instance (d g : Generation) (v : Workspace) : Decidable (d.Covers g v) :=
  inferInstanceAs (Decidable (∀ p ∈ d.forest.generated, ∃ m ∈ g.pass.sources, (g.output.target m).absolute v.cwd = p ∧
    ∃ s ∈ markedSites d.forest.units, s.fullName = m.container))

theorem Retraces.target (again : d.Retraces g) (read : ∀ u ∈ d.forest.units, u.IsRead)
    (before : ∀ u ∈ g.forest.units, u.path.isSome = true ∧ u.IsRead) {c e : Container}
    (found : c ∈ scannedContainers d.forest.units) (known : e ∈ scannedContainers g.forest.units)
    (same : c.fullName = e.fullName) (scope scope' : ImportScope) (runtime runtime' : String) :
    d.output.target (c.generate scope runtime) = g.output.target (e.generate scope' runtime') := by
  obtain ⟨first, leads, _, unit⟩ := scannedSite known
  obtain ⟨site, here, _, _⟩ := scannedSite found
  obtain ⟨name, home⟩ := scannedHome read found
  obtain ⟨name', home'⟩ := scannedHome (fun u member => (before u member).2) known
  have placed := (before first.unit (markedUnit (List.mem_of_find?_eq_some leads)).1).1
  have full : site.fullName = c.fullName := by simpa using List.find?_some here
  have agree := again.homes site (List.mem_of_find?_eq_some here)
  rw [full, ← home, same, ← home'] at agree
  refine Output.targetAlike again.directory ?_ ?_ ?_
  · exact congrArg Naming.outputName (name.trans (same ▸ name'.symm))
  · exact congrArg (Option.map Path.text) agree
  · unfold Container.generate
    rw [unit, Option.isSome_map]
    exact placed

theorem Retraces.registers (again : d.Retraces g) (read : ∀ u ∈ d.forest.units, u.IsRead)
    (before : ∀ u ∈ g.forest.units, u.path.isSome = true ∧ u.IsRead) {options options' : PassOptions}
    (kept : suppressedNames options.warningsAsErrors d.forest.units = [])
    (keptToo : suppressedNames options'.warningsAsErrors g.forest.units = []) {m : GeneratedSource}
    (made : m ∈ Output.handed options' g.forest.units) {s : Site} (found : s ∈ markedSites d.forest.units)
    (same : s.fullName = m.container) : ∃ n ∈ Output.handed options d.forest.units, d.output.target n = g.output.target m := by
  obtain ⟨e, known, rfl⟩ := (handedAll keptToo).mp made
  obtain ⟨c, scanned, shared⟩ := markedScanned found
  exact ⟨_, (handedAll kept).mpr ⟨c, scanned, rfl⟩, again.target read before scanned known (shared.trans same) _ _ _ _⟩

theorem Retraces.known (again : d.Retraces g) (read : ∀ u ∈ d.forest.units, u.path.isSome = true ∧ u.IsRead)
    (before : ∀ u ∈ g.forest.units, u.path.isSome = true ∧ u.IsRead) {options options' : PassOptions}
    (kept : suppressedNames options.warningsAsErrors d.forest.units = [])
    (keptToo : suppressedNames options'.warningsAsErrors g.forest.units = []) {n : GeneratedSource}
    (made : n ∈ Output.handed options d.forest.units) : ∃ m ∈ Output.handed options' g.forest.units,
      d.output.target n = g.output.target m ∧ ∃ s ∈ markedSites d.forest.units, s.fullName = m.container := by
  obtain ⟨c, scanned, rfl⟩ := (handedAll kept).mp made
  obtain ⟨site, here, _, unit⟩ := scannedSite scanned
  have marked := List.mem_of_find?_eq_some here
  have full : site.fullName = c.fullName := by simpa using List.find?_some here
  have home : (homeOf g.forest.units c.fullName).isSome = true := by
    rw [← full, ← again.homes site marked]
    unfold homeOf
    rw [full, here]
    exact (read site.unit (markedUnit marked).1).1
  unfold homeOf at home
  cases found : (markedSites g.forest.units).find? (·.fullName = c.fullName) with
  | none => simp [found] at home
  | some other =>
    obtain ⟨e, known, shared⟩ := markedScanned (List.mem_of_find?_eq_some found)
    have alike : other.fullName = c.fullName := by simpa using List.find?_some found
    have same : c.fullName = e.fullName := alike.symm.trans shared.symm
    exact ⟨_, (handedAll keptToo).mpr ⟨e, known, rfl⟩,
      again.target (fun u member => (read u member).2) before scanned known same _ _ _ _, site, marked, full.trans same⟩

end Generation

namespace Completed

theorem metIsModule (run : Completed q u d x) (sound : u.Sound) (accepted : d.pass.writeErrors = [])
    (given : q.isFull = false) {p : Path} (met : p ∈ d.forest.generated)
    (keeps : ∀ s, (u.tree.bytes? s).isSome = true → (x.tree.bytes? s).isSome = true) : p.parts ∈ run.spots := by
  obtain ⟨loadedSound, readySound, ready, loaded⟩ := run.readySound sound
  have usable := (Forest.loadUsable loadedSound run.rootsStraight run.scan p met).1
  have candidate : p ∈ run.candidates := by
    rcases obsoleteOk run.list with ⟨same, _, _⟩ | ⟨_, _, _, full, _, _⟩
    · exact same ▸ met
    · rw [given] at full
      cases full
  by_contra outside
  have held : (u.tree.bytes? p.parts).isSome = true := by
    rw [← loaded.holds p.parts (by simp), ← ready.holds p.parts (by simp)]
    exact (Forest.loadHolds run.scan p met).bytes readySound usable.straight
  have still := keeps p.parts held
  simp [run.goneAfter sound accepted candidate outside] at still

theorem coveredBy (run : Completed q u d x) (sound : u.Sound) (accepted : d.pass.writeErrors = [])
    (again : d.Retraces g) (before : ∀ u ∈ g.forest.units, u.path.isSome = true ∧ u.IsRead) {options : PassOptions}
    (kept : suppressedNames options.warningsAsErrors g.forest.units = []) {p : Path} (met : p ∈ d.forest.generated)
    (inside : p.parts ∈ run.spots) : ∃ m ∈ Output.handed options g.forest.units,
      (g.output.target m).absolute u.cwd = p ∧ ∃ s ∈ markedSites d.forest.units, s.fullName = m.container := by
  have usable := (Forest.loadUsable (run.readySound sound).1 run.rootsStraight run.scan p met).1
  obtain ⟨_, _, _, _, last⟩ := run.constant sound accepted
  obtain ⟨_, _, handed⟩ := run.settled sound accepted
  obtain ⟨n, fresh, place⟩ := run.ofSpot sound accepted usable inside
  obtain ⟨m, made, target, s, found, same⟩ := again.known (run.unitsRead sound) before
    (run.suppressedSame.symm.trans again.kept) kept (handed ▸ fresh)
  refine ⟨m, made, ?_, s, found, same⟩
  rw [← target, ← last.cwd, place, usable.straight.absolute]

end Completed

/-- After a run without errors and warnings, a run over given paths that retraces it removes nothing if the classes of all
the modules that it meets are among those that it finds; and if it ends without errors, only then. One that ends with a
message or a failure removes nothing. -/
theorem partialScanKeepsFound (r q : Request) (dryRun : Bool) (w v u x : Workspace) (g : Generation)
    (result : Except Failure (Outcome Generation)) (sound : w.Sound)
    (ran : (generate r false).runIn w = (.ok (.ok g), v)) (fine : Generation.hasErrors (.ok g) = false)
    (quiet : g.pass.warningCount = 0) (soundToo : u.Sound) (cwd : u.cwd = v.cwd) (given : q.isFull = false)
    (later : (generate q dryRun).runIn u = (result, x)) :
    match result with
    | .ok (.ok d) => d.Retraces g →
      (d.Covers g v → d.output.removed = [] ∧ ∀ s, (u.tree.bytes? s).isSome = true → (x.tree.bytes? s).isSome = true) ∧
      (dryRun = false → Generation.hasErrors (.ok d) = false → d.output.removed = [] → d.Covers g v)
    | _ => ∀ s, (u.tree.bytes? s).isSome = true → (x.tree.bytes? s).isSome = true := by
  obtain ⟨none, clean, accepted⟩ := fineGeneration.mp fine
  obtain ⟨run⟩ := completed ran none
  have before := run.unitsRead sound
  have keptBefore := unreportedKept (run.nothingReported clean quiet)
  have handed : g.pass.sources = Output.handed run.settings.passOptions g.forest.units := by
    obtain ⟨_, _, sources⟩ := run.settled sound accepted
    exact sources
  obtain ⟨ps, gone, footprint, told⟩ := generateLeaves soundToo later
  have keeps (empty : gone = []) (s : Spot) (held : (u.tree.bytes? s).isSome = true) : (x.tree.bytes? s).isSome = true := by
    by_contra absent
    have member := (footprint.goneIff s).mpr ⟨held, by simpa using absent⟩
    simp [empty] at member
  cases result with
  | error f => exact keeps (told.early (by simp))
  | ok outcome =>
    cases outcome with
    | error message => exact keeps (told.early (by simp))
    | ok d =>
      intro again
      obtain ⟨_, removed, registered⟩ := told.noted d rfl
      refine ⟨fun covers => ?_, fun isReal ended empty p met => ?_⟩
      · -- What is removed was met, so its class was found, and its module is registered at that very path.
        have empty : gone = [] := by
          refine List.eq_nil_iff_forall_not_mem.mpr fun c taken => ?_
          obtain ⟨m, made, target, s, found, same⟩ := covers c (told.met given d rfl c taken)
          obtain ⟨options, suppressed, listed⟩ := told.handed d rfl
          obtain ⟨n, fresh, place⟩ := again.registers (told.read d rfl) before (suppressed.symm.trans again.kept)
            keptBefore (handed ▸ made) found same
          refine (footprint.each c taken).2.1 ?_
          rw [← registered, listed, ← target, ← cwd, ← place]
          exact List.mem_map_of_mem (List.mem_map_of_mem fresh)
        exact ⟨removed.trans empty, keeps empty⟩
      · -- What was met and is still there is registered, so it is a module of a class that was found.
        obtain ⟨stopped, _, acceptedToo⟩ := fineGeneration.mp ended
        subst isReal
        obtain ⟨next⟩ := completed later stopped
        obtain ⟨m, made, place, s, found, same⟩ := next.coveredBy soundToo acceptedToo again before keptBefore met
          (next.metIsModule soundToo acceptedToo given met (keeps (removed.symm.trans empty)))
        exact ⟨m, handed ▸ made, cwd ▸ place, s, found, same⟩

/-- Two classes, each in a file of its own. -/
def neighbours : Workspace :=
  let encoded (text : String) : List UInt8 := Text.Utf8.encode text.toList
  { tree := [
      (["a.py"], .file (encoded "@require_component_getters\nclass A: pass\n")),
      (["b.py"], .file (encoded "@require_component_getters\nclass B: pass\n")),
      (["c.yml"], .file (encoded "sources: [a.py, b.py]\n"))] }

def overPaths (ps : List Path) : Request := { bySettings with paths := ps }

theorem partialScanKeepsFoundNeighbours : ∃ g v d x, neighbours.Sound ∧
    (generate bySettings false).runIn neighbours = (.ok (.ok g), v) ∧ Generation.hasErrors (.ok g) = false ∧
    g.pass.warningCount = 0 ∧ (overPaths [⟨"/", ["a.py"]⟩, ⟨"/", ["a_getters.py"]⟩]).isFull = false ∧
    (generate (overPaths [⟨"/", ["a.py"]⟩, ⟨"/", ["a_getters.py"]⟩]) false).runIn v = (.ok (.ok d), x) ∧
    d.forest.generated = [⟨"/", ["a_getters.py"]⟩] ∧ d.Retraces g ∧ d.Covers g v ∧ d.output.removed = [] ∧
    ∀ s, (v.tree.bytes? s).isSome = true → (x.tree.bytes? s).isSome = true := by
  have checked : (generate bySettings false).endsWith neighbours (fun g v =>
      decide (Generation.hasErrors (.ok g) = false ∧ g.pass.warningCount = 0) &&
      (generate (overPaths [⟨"/", ["a.py"]⟩, ⟨"/", ["a_getters.py"]⟩]) false).endsWith v fun d _ =>
        decide (d.forest.generated = [⟨"/", ["a_getters.py"]⟩] ∧ d.Retraces g ∧ d.Covers g v)) = true := by
    decide +kernel
  have sound : neighbours.Sound := ⟨FileTree.soundIf (by decide +kernel), rfl⟩
  obtain ⟨g, v, ran, told⟩ := endsIf checked
  obtain ⟨first, second⟩ := Bool.and_eq_true_iff.mp told
  obtain ⟨fine, quiet⟩ := of_decide_eq_true first
  obtain ⟨d, x, later, last⟩ := endsIf second
  obtain ⟨met, again, covers⟩ := of_decide_eq_true last
  obtain ⟨_, _, footprint, _⟩ := generateLeaves sound ran
  obtain ⟨removed, keeps⟩ := (partialScanKeepsFound bySettings (overPaths [⟨"/", ["a.py"]⟩, ⟨"/", ["a_getters.py"]⟩]) false
    neighbours v v x g _ sound ran fine quiet footprint.sound rfl rfl later again).1 covers
  exact ⟨g, v, d, x, sound, ran, fine, quiet, rfl, later, met, again, covers, removed, keeps⟩

/-- A class whose module goes to a directory that is a source as well. -/
def shelved : Workspace :=
  let encoded (text : String) : List UInt8 := Text.Utf8.encode text.toList
  { tree := [
      (["a.py"], .file (encoded "@require_component_getters\nclass A: pass\n")),
      (["c.yml"], .file (encoded "sources: [a.py, lib]\noutput_dir: lib\n")),
      (["lib"], .directory)] }

/-- A run over that directory meets the module without its class. -/
theorem partialScanRemovesUnfound : ∃ g v d x, bySettings.isFull = true ∧
    (generate bySettings false).runIn shelved = (.ok (.ok g), v) ∧ Generation.hasErrors (.ok g) = false ∧
    g.pass.warningCount = 0 ∧ (v.tree.bytes? ["lib", "a_getters.py"]).isSome = true ∧
    (overPaths [⟨"/", ["lib"]⟩]).isFull = false ∧
    (generate (overPaths [⟨"/", ["lib"]⟩]) false).runIn v = (.ok (.ok d), x) ∧
    d.output.directory = g.output.directory ∧ d.output.removed = [⟨"/", ["lib", "a_getters.py"]⟩] ∧
    x.tree.bytes? ["lib", "a_getters.py"] = none := by
  have checked : (generate bySettings false).endsWith shelved (fun g v =>
      decide (Generation.hasErrors (.ok g) = false ∧ g.pass.warningCount = 0 ∧
        (v.tree.bytes? ["lib", "a_getters.py"]).isSome = true) &&
      (generate (overPaths [⟨"/", ["lib"]⟩]) false).endsWith v fun d x =>
        decide (d.output.directory = g.output.directory ∧ d.output.removed = [⟨"/", ["lib", "a_getters.py"]⟩] ∧
          x.tree.bytes? ["lib", "a_getters.py"] = none)) = true := by
    decide +kernel
  obtain ⟨g, v, ran, told⟩ := endsIf checked
  obtain ⟨first, second⟩ := Bool.and_eq_true_iff.mp told
  obtain ⟨fine, quiet, stands⟩ := of_decide_eq_true first
  obtain ⟨d, x, later, last⟩ := endsIf second
  obtain ⟨directory, removed, gone⟩ := of_decide_eq_true last
  exact ⟨g, v, d, x, rfl, ran, fine, quiet, stands, rfl, later, directory, removed, gone⟩

end AccessorForge
