import AccessorForge.Proofs.Completion
/-! No orphan stays behind. What a scan or a listing takes for a generated module after a real run was registered
by that run: any other file is as it was, so it was a candidate, and candidates are removed. -/
namespace AccessorForge
open Job Running
variable {w v : Workspace} {r : Request} {g : Generation}

namespace Completed

def spots (run : Completed r w g v) : List Spot := run.modules.map (run.start.spot run.ready)

/-- What no stage of a run changes. -/
structure Constant (w v : Workspace) : Prop where
  cwd : v.cwd = w.cwd
  refusals : v.refusals = w.refusals
  logFile : v.logFile = w.logFile

theorem constant (run : Completed r w g v) (sound : w.Sound) (accepted : g.pass.writeErrors = []) :
    Constant w run.loaded ∧ Constant w run.ready ∧ Constant w run.passed ∧ Constant w run.listed ∧ Constant w v := by
  obtain ⟨_, _, scanned, loaded⟩ := run.readySound sound
  obtain ⟨_, settled, _⟩ := run.settled sound accepted
  have passed := settled.apart
  have listed := (run.listedSound sound accepted).2
  have pruned := (run.cleared sound accepted).thinned
  have noted := Workspace.noteApart run.last run.pruned
  have first : Constant w run.loaded := ⟨loaded.cwd, loaded.refusals, loaded.logFile⟩
  have second : Constant w run.ready :=
    ⟨scanned.cwd.trans first.cwd, scanned.refusals.trans first.refusals, scanned.logFile.trans first.logFile⟩
  have third : Constant w run.passed :=
    ⟨passed.cwd.trans second.cwd, passed.refusals.trans second.refusals, passed.logFile.trans second.logFile⟩
  have fourth : Constant w run.listed :=
    ⟨listed.cwd.trans third.cwd, listed.refusals.trans third.refusals, listed.logFile.trans third.logFile⟩
  refine ⟨first, second, third, fourth, ?_⟩
  rw [run.noted]
  exact ⟨noted.cwd.trans (pruned.cwd.trans fourth.cwd), noted.refusals.trans (pruned.refusals.trans fourth.refusals),
    noted.logFile.trans (pruned.logFile.trans fourth.logFile)⟩

theorem lastSound (run : Completed r w g v) (sound : w.Sound) (accepted : g.pass.writeErrors = []) : v.Sound := by
  rw [run.noted]
  exact Workspace.noteSound _ (run.cleared sound accepted).sound

/-- A file that stands after a run and is none of its modules stood there all the time. -/
theorem unaltered (run : Completed r w g v) (sound : w.Sound) (accepted : g.pass.writeErrors = []) {s : Spot}
    {bytes : List UInt8} (unlogged : v.logFile ≠ some s) (outside : s ∉ run.spots)
    (still : v.tree.bytes? s = some bytes) :
    run.loaded.tree.bytes? s = some bytes ∧ run.passed.tree.bytes? s = some bytes := by
  obtain ⟨loaded, ready, passed, listed, last⟩ := run.constant sound accepted
  obtain ⟨_, settled, _⟩ := run.settled sound accepted
  have free : w.logFile ≠ some s := last.logFile ▸ unlogged
  have pruned : run.pruned.tree.bytes? s = some bytes := by
    have noted := Workspace.noteApart run.last run.pruned
    rw [run.noted, noted.same s (by simp) (noted.logFile ▸ run.noted ▸ unlogged)] at still
    exact still
  have before : run.listed.tree.bytes? s = some bytes := by
    rcases (run.cleared sound accepted).thinned.same s (listed.logFile ▸ free) with gone | same
    · cases gone.symm.trans pruned
    · exact same ▸ pruned
  have filled : run.passed.tree.bytes? s = some bytes := by
    have apart := (run.listedSound sound accepted).2
    rw [← apart.same s (by simp) (passed.logFile ▸ free)]
    exact before
  have scanned : run.ready.tree.bytes? s = some bytes := by
    rw [← settled.apart.same s outside (ready.logFile ▸ free)]
    exact filled
  have apart := (run.readySound sound).2.2.1
  refine ⟨?_, filled⟩
  rw [← apart.same s (by simp) (loaded.logFile ▸ free)]
  exact scanned

theorem registered (run : Completed r w g v) (sound : w.Sound) (accepted : g.pass.writeErrors = []) {p : Path}
    (anchored : p.anchor = "/") :
    p ∈ run.filled.registered ↔ p.parts ∈ run.spots := by
  obtain ⟨_, settled, _⟩ := run.settled sound accepted
  have listed : run.filled.registered = run.modules.map fun m => (run.start.target m).absolute run.ready.cwd := by
    rw [settled.registered]
    rfl
  rw [listed]
  exact Output.memSpots anchored

theorem target (run : Completed r w g v) (sound : w.Sound) (accepted : g.pass.writeErrors = []) (m : GeneratedSource) :
    g.output.target m = run.start.target m := by
  obtain ⟨_, settled, _⟩ := run.settled sound accepted
  have cleared := run.cleared sound accepted
  exact Output.targetSame ⟨cleared.directory.trans settled.aims.1, cleared.fallback.trans settled.aims.2.2⟩ m

theorem ofSpot (run : Completed r w g v) (sound : w.Sound) (accepted : g.pass.writeErrors = []) {p : Path}
    (usable : p.Usable) (inside : p.parts ∈ run.spots) :
    ∃ m ∈ g.pass.sources, (g.output.target m).absolute v.cwd = p.absolute v.cwd := by
  obtain ⟨_, ready, _, _, last⟩ := run.constant sound accepted
  obtain ⟨_, _, handed⟩ := run.settled sound accepted
  obtain ⟨m, member, same⟩ := List.mem_map.mp ((Output.memSpots usable.anchored).mpr inside)
  refine ⟨m, handed ▸ member, ?_⟩
  rw [run.target sound accepted, usable.straight.absolute, last.cwd, ← ready.cwd]
  exact same

theorem goneAfter (run : Completed r w g v) (sound : w.Sound) (accepted : g.pass.writeErrors = []) {c : Path}
    (candidate : c ∈ run.candidates) (outside : c.parts ∉ run.spots) : v.tree.bytes? c.parts = none := by
  have usable := (run.candidatesUsable sound accepted c candidate).1
  have cleared := run.cleared sound accepted
  have unregistered : c.absolute run.listed.cwd ∉ run.filled.registered := by
    rw [usable.straight.absolute, run.registered sound accepted usable.anchored]
    exact outside
  have gone := cleared.gone c candidate unregistered
  rw [usable.straight.absolute] at gone
  rw [run.noted]
  exact (Output.notedThinned [run.last] run.pruned).less _ gone

/-- What still stands after a run is one of its modules, unless it was no candidate. -/
theorem ofStanding (run : Completed r w g v) (sound : w.Sound) (accepted : g.pass.writeErrors = []) {p : Path}
    (there : (v.tree.bytes? p.parts).isSome = true) (candidate : p.parts ∉ run.spots → p ∈ run.candidates) :
    p.parts ∈ run.spots := by
  by_contra outside
  have gone := run.goneAfter sound accepted (candidate outside) outside
  simp [gone] at there

/-- A file that a scan finds after a run was found by the run itself, unless it is one of the run's modules. -/
theorem scannedThere (run : Completed r w g v) (sound : w.Sound) (accepted : g.pass.writeErrors = []) {p : Path}
    (unlogged : v.logFile ≠ some p.parts) (outside : p.parts ∉ run.spots)
    (found : p ∈ v.scanned run.patterns run.roots) :
    p ∈ run.loaded.scanned run.patterns run.roots ∧
      run.loaded.tree.bytes? p.parts = v.tree.bytes? p.parts := by
  obtain ⟨root, known, member⟩ := Workspace.memScanned.mp found
  obtain ⟨q, same, there, selected⟩ := (Workspace.memListed (run.lastSound sound accepted)).mp member
  obtain ⟨bytes, still⟩ := Option.isSome_iff_exists.mp there
  obtain ⟨before, _⟩ := run.unaltered sound accepted unlogged outside still
  refine ⟨Workspace.memScanned.mpr ⟨root, known, ?_⟩, before.trans still.symm⟩
  refine (Workspace.memListed (run.readySound sound).1).mpr ⟨q, same, ?_, selected⟩
  rw [before]
  rfl

theorem scannedBefore (run : Completed r w g v) (sound : w.Sound) (accepted : g.pass.writeErrors = []) {p : Path}
    (unlogged : v.logFile ≠ some p.parts) (outside : p.parts ∉ run.spots)
    (found : p ∈ v.scanned run.patterns run.roots)
    (marked : v.marked p = true) : p ∈ run.candidates := by
  obtain ⟨loaded, _, _, _, last⟩ := run.constant sound accepted
  obtain ⟨listed, before⟩ := run.scannedThere sound accepted unlogged outside found
  have judged : run.loaded.marked p = true := by
    rw [Workspace.markedSame (loaded.refusals.trans last.refusals.symm) before]
    exact marked
  have generated := (Forest.loadMarked (run.readySound sound).1 run.rootsStraight
    (loaded.logFile.trans last.logFile.symm ▸ unlogged) run.scan).mpr ⟨listed, judged⟩
  rcases obsoleteOk run.list with ⟨same, _, _⟩ | ⟨_, qs, _, _, _, same⟩
  · exact same ▸ generated
  · exact same ▸ List.mem_append_left _ generated

theorem headedBefore (run : Completed r w g v) (sound : w.Sound) (accepted : g.pass.writeErrors = [])
    (full : r.isFull = true) {d p : Path} (aimed : run.filled.directory = some d)
    (unlogged : v.logFile ≠ some p.parts) (outside : p.parts ∉ run.spots) (found : p ∈ v.headedIn d) :
    p ∈ run.candidates := by
  obtain ⟨_, _, passed, _, last⟩ := run.constant sound accepted
  obtain ⟨_, settled, _⟩ := run.settled sound accepted
  obtain ⟨named, headed⟩ := (Workspace.memHeaded (run.lastSound sound accepted)).mp found
  obtain ⟨bytes, still⟩ := Option.isSome_iff_exists.mp (Workspace.headedHolds headed)
  obtain ⟨_, before⟩ := run.unaltered sound accepted unlogged outside still
  have judged : run.passed.headed p = true := by
    rw [Workspace.headedSame (passed.refusals.trans last.refusals.symm) (before.trans still.symm)]
    exact headed
  have listed : p ∈ run.passed.headedIn d := (Workspace.memHeaded settled.sound).mpr ⟨named, judged⟩
  rcases obsoleteOk run.list with ⟨_, _, none⟩ | ⟨d', qs, aimed', _, ran, same⟩
  · cases aimed.symm.trans (none full)
  · cases aimed.symm.trans aimed'
    have free : run.passed.logFile ≠ some p.parts := passed.logFile.trans last.logFile.symm ▸ unlogged
    obtain ⟨_, headed⟩ := listingHeaded settled.sound (run.filledStraight sound accepted d aimed) ran
    rw [same]
    exact List.mem_append_right _ ((headed p free).mpr listed)

end Completed

/-- Whether a path is where one of the modules of a pass went. -/
def Generation.Owns (g : Generation) (v : Workspace) (p : Path) : Prop :=
  ∃ m ∈ g.pass.sources, (g.output.target m).absolute v.cwd = p.absolute v.cwd

/-- A module for a class that has lost its annotations. -/
def bared : Workspace :=
  let encoded (text : String) : List UInt8 := Text.Utf8.encode text.toList
  { tree := [
      (["a.py"], .file (encoded "class A: pass\n")),
      (["c.yml"], .file (encoded "sources: [a.py, a_getters.py]\n")),
      (["a_getters.py"], .file (encoded (generatedMarker ++ "\n")))] }

def bySettings : Request := { settingsFile := some ⟨"/", ["c.yml"]⟩ }

end AccessorForge
