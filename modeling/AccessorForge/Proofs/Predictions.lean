import AccessorForge.Proofs.Forecasts
import AccessorForge.Proofs.Orphans
import AccessorForge.Proofs.Targets
/-! Dry runs touch nothing and say what a real run does. Main statement: if a real run ends without an error and no
two of its modules have the same target, then a dry run from the same files names the modules that it writes, those
that it leaves and those that it removes. -/
namespace AccessorForge
open Job Running
variable {w v : Workspace} {r : Request} {g : Generation}

/-! What logging leaves as it was. -/

/-- All files and directories are the same, but for lines that were added to the log file. -/
structure Workspace.Unharmed (w v : Workspace) : Prop where
  logFile : v.logFile = w.logFile
  whole : w.logFile = none → v.tree = w.tree
  others : ∀ s, w.logFile ≠ some s → v.tree.get? s = w.tree.get? s
  lines : ∀ s, w.logFile = some s → v.tree.get? s = w.tree.get? s ∨
    ∃ bytes more, w.tree.get? s = some (.file bytes) ∧ v.tree.get? s = some (.file (bytes ++ more))

namespace Workspace

theorem Unharmed.refl (w : Workspace) : Unharmed w w := ⟨rfl, fun _ => rfl, fun _ _ => rfl, fun _ _ => .inl rfl⟩

theorem Unharmed.trans {u : Workspace} (earlier : Unharmed u v) (later : Unharmed v w) : Unharmed u w := by
  refine ⟨later.logFile.trans earlier.logFile, fun none => ?_, fun s free => ?_, fun s logged => ?_⟩
  · exact (later.whole (earlier.logFile.trans none)).trans (earlier.whole none)
  · exact (later.others s (earlier.logFile ▸ free)).trans (earlier.others s free)
  · rcases later.lines s (earlier.logFile.trans logged) with same | ⟨bytes, more, before, after⟩
    · rw [same]
      exact earlier.lines s logged
    · rcases earlier.lines s logged with same | ⟨first, added, known, grown⟩
      · exact .inr ⟨bytes, more, same ▸ before, after⟩
      · rw [grown] at before
        cases before
        exact .inr ⟨first, added ++ more, known, by rw [after, List.append_assoc]⟩

theorem noteUnharmed (r : Log.Record) (w : Workspace) : Unharmed w (w.note r) := by
  obtain ⟨_, _, logFile⟩ := noteKeeps r w
  rcases noteTree r w with same | ⟨s, bytes, more, logged, file, changed⟩
  · exact ⟨logFile, fun _ => same, fun s _ => by rw [same], fun s _ => .inl (by rw [same])⟩
  · refine ⟨logFile, fun none => ?_, fun t free => ?_, fun t known => ?_⟩
    · cases none.symm.trans logged
    · have other : t ≠ s := by
        rintro rfl
        exact free logged
      rw [changed, FileTree.get?_put_of_ne _ _ other]
    · cases known.symm.trans logged
      refine .inr ⟨bytes, more, file, ?_⟩
      rw [changed, FileTree.get?_put_self _ _ (spotBelow file)]

theorem notedUnharmed (rs : List Log.Record) (w : Workspace) : Unharmed w (w.noted rs) := by
  induction rs generalizing w with
  | nil => exact .refl w
  | cons r rest ih => exact (noteUnharmed r w).trans (ih (w.note r))

end Workspace

theorem calmUnharmed {α : Type} {x : Job α} (calm : x.Calm) (w : Workspace) : w.Unharmed (x.runIn w).2 := by
  obtain ⟨rs, same⟩ := calm w
  rw [same]
  exact Workspace.notedUnharmed rs w

/-! Runs from their stages. -/

theorem prepareRun {s : Settings} {ps : List Path} {f : Forest} {u : Workspace}
    (load : (Settings.load r.settingsFile true).runIn w = (.ok s, u)) (roots : (r.roots s).runIn u = (.ok ps, u))
    (scan : (Forest.load ps s.includePatterns s.excludePatterns).runIn u = (.ok f, v)) :
    r.prepare.runIn w = (.ok (s, f), v) := by
  unfold Request.prepare
  rw [bindOf load]
  unfold Request.roots at roots
  dsimp only
  split
  · rename_i full
    rw [if_pos full] at roots
    rw [bindOf roots, bindOf scan]
    rfl
  · rename_i given
    rw [if_neg given] at roots
    rw [bindOf roots, bindOf scan]
    rfl

theorem outputRun {s : Settings} {directory : Option Path} (dryRun : Bool)
    (aim : (r.aim s).runIn w = (.ok directory, w)) :
    (r.output s dryRun).runIn w = (.ok (Request.opened directory dryRun s), w) := by
  rw [outputAimed, bindOf aim]
  rfl

theorem generateEnds {dryRun : Bool} {s : Settings} {forest : Forest} {o p q : Output} {pass : PassResult}
    {cs : List Path} {t u x y z : Workspace} (ready : r.prepare.runIn w = (.ok (s, forest), t))
    (opened : (r.output s dryRun).runIn t = (.ok o, u))
    (passed : (passOnto o s.passOptions forest.units).runIn u = (.ok (pass, p), x))
    (listed : (r.obsoleteCandidates forest p).runIn x = (.ok cs, y)) (pruned : (p.prune cs).runIn y = (.ok (q, none), z)) :
    ∃ last, (generate r dryRun).runIn w = (.ok (.ok ⟨forest, pass, q, none⟩), z.note last) := by
  have settled : (attemptSettings r.prepare).runIn w = (.ok (.ok (s, forest)), t) := by
    unfold attemptSettings
    rw [resultIn, ready]
    rfl
  have tried : (attempt (r.obsoleteCandidates forest p)).runIn x = (.ok (.ok cs), y) := by
    rw [attemptIn, listed]
  unfold generate
  rw [bindOf settled]
  dsimp only
  rw [bindOf opened, bindOf passed]
  dsimp only
  rw [bindOf tried]
  dsimp only
  rw [bindOf pruned]
  exact ⟨_, rfl⟩

/-! Whether a path can be asked for does not change for the worse. -/

namespace Workspace

theorem answersBefore {p : Path} (cwd : v.cwd = w.cwd) (grown : w.tree.Grown v.tree) (answered : v.Answers p) :
    w.Answers p := by
  obtain ⟨e, told⟩ := answered
  unfold Answers FileTree.entry? at *
  split
  · exact ⟨none, rfl⟩
  · rename_i unflawed
    rw [if_neg unflawed] at told
    cases found : w.tree.entry w.cwd p with
    | ok d => exact ⟨some d, rfl⟩
    | error o =>
      cases o with
      | nameTooLong =>
        exfalso
        have long := FileTree.entryTooLong found
        have still : v.tree.locate v.cwd p = .error .nameTooLong := by
          unfold FileTree.locate at long ⊢
          split
          · rfl
          · rename_i fits
            rw [if_neg fits] at long
            rw [cwd]
            exact FileTree.walkTooLong grown long
        unfold FileTree.entry at told
        rw [still] at told
        cases told
      | _ => exact ⟨none, rfl⟩

theorem Holds.bytes {p : Path} (held : w.Holds p) (sound : w.Sound) (straight : p.Straight) :
    (w.tree.bytes? p.parts).isSome = true := by
  obtain ⟨s, bytes, located, file⟩ := held
  have same := sound.located located
  rw [straight.absolute] at same
  rw [(FileTree.bytesIff _ _ _).mpr (same ▸ file)]
  rfl

/-- The log file is not named as modules are. -/
def LogsAside (w : Workspace) : Prop := ∀ s, w.logFile = some s → isSourceName (s.getLastD "") = false

end Workspace

namespace Completed

theorem spotsUnlogged (run : Completed r w g v) (sound : w.Sound) (named : w.tree.Named) (aside : w.LogsAside) :
    ∀ s ∈ run.spots, run.ready.logFile ≠ some s := by
  intro s member logged
  obtain ⟨_, _, scanned, loaded⟩ := run.readySound sound
  obtain ⟨m, known, rfl⟩ := List.mem_map.mp member
  obtain ⟨straight, source⟩ := run.targetStraight sound named known
  rw [scanned.logFile, loaded.logFile] at logged
  have other := aside _ logged
  unfold Output.spot at other
  rw [straight.absolute, source] at other
  cases other

theorem spotsDistinct (run : Completed r w g v) (sound : w.Sound) (accepted : g.pass.writeErrors = [])
    (distinct : (g.pass.sources.map fun m => (g.output.target m).absolute v.cwd).Nodup) : run.spots.Nodup := by
  obtain ⟨_, ready, _, _, last⟩ := run.constant sound accepted
  obtain ⟨_, _, handed⟩ := run.settled sound accepted
  have spots : run.spots = (g.pass.sources.map fun m => (g.output.target m).absolute v.cwd).map Path.parts := by
    rw [List.map_map, handed]
    refine List.map_congr_left fun m _ => ?_
    unfold Output.spot
    rw [Function.comp_apply, run.target sound accepted, ready.cwd, last.cwd]
  rw [spots]
  refine List.Nodup.map_on ?_ distinct
  intro p first q second same
  obtain ⟨m, _, rfl⟩ := List.mem_map.mp first
  obtain ⟨n, _, rfl⟩ := List.mem_map.mp second
  exact Path.absoluteEq same

/-- A source path that no module of the run goes to. -/
def counts (run : Completed r w g v) (q : Path) : Bool :=
  decide (q.anchor = "/") && isSourceName (q.parts.getLastD "") && !run.filled.registered.contains q

theorem outdatedCounted (run : Completed r w g v) {ps : List Path}
    (usable : ∀ q ∈ ps, q.Usable ∧ isSourceName (q.parts.getLastD "") = true) :
    (ps.filter fun c => !run.filled.registered.contains c && !([] : List Path).contains c) = ps.filter run.counts := by
  refine List.filter_congr fun q member => ?_
  obtain ⟨own, source⟩ := usable q member
  simp only [counts, own.anchored, source, decide_true, Bool.true_and, List.contains_nil, Bool.not_false, Bool.and_true]

theorem countedUnlogged (run : Completed r w g v) (sound : w.Sound) (accepted : g.pass.writeErrors = [])
    (aside : w.LogsAside) {q : Path} (counted : run.counts q = true) : run.ready.logFile ≠ some q.parts := by
  intro logged
  simp only [counts, Bool.and_eq_true] at counted
  obtain ⟨_, constant, _⟩ := run.constant sound accepted
  have other := aside q.parts (constant.logFile ▸ logged)
  rw [counted.1.2] at other
  cases other

theorem countedHeaded (run : Completed r w g v) (sound : w.Sound) (accepted : g.pass.writeErrors = [])
    (aside : w.LogsAside) (rs : List Log.Record) {q : Path} (counted : run.counts q = true) :
    run.passed.headed q = (run.ready.noted rs).headed q := by
  obtain ⟨_, settled, _⟩ := run.settled sound accepted
  have before := Workspace.notedApart rs run.ready
  have unlogged := run.countedUnlogged sound accepted aside counted
  have outside : q.parts ∉ run.spots := by
    simp only [counts, Bool.and_eq_true, Bool.not_eq_true', decide_eq_true_eq] at counted
    rw [← run.registered sound accepted counted.1.1]
    simpa using counted.2
  refine Workspace.headedSame (settled.apart.refusals.trans before.refusals.symm) ?_
  rw [settled.apart.same _ outside unlogged, before.same _ (by simp) unlogged]

/-- The modules under the output directory are before the pass what they are after it, but for those of the run. -/
theorem listingForecast (run : Completed r w g v) (sound : w.Sound) (accepted : g.pass.writeErrors = [])
    (aside : w.LogsAside) (rs : List Log.Record) {d : Path} {qs : List Path} (aimed : run.filled.directory = some d)
    (listed : (generatedModulesIn d).runIn run.passed = (.ok qs, run.listed)) :
    ∃ ps later, (generatedModulesIn d).runIn (run.ready.noted rs) = (.ok ps, run.ready.noted (rs ++ later)) ∧
      (∀ c ∈ ps, c.Usable ∧ isSourceName (c.parts.getLastD "") = true) ∧
      (∀ c ∈ qs, c.Usable ∧ isSourceName (c.parts.getLastD "") = true) ∧
      ps.filter run.counts = qs.filter run.counts := by
  obtain ⟨_, ready, _, _⟩ := run.readySound sound
  obtain ⟨_, settled, _⟩ := run.settled sound accepted
  have straight := run.filledStraight sound accepted d aimed
  have still := Workspace.notedSound rs ready
  have before := Workspace.notedApart rs run.ready
  have answered : (run.ready.noted rs).Answers d := by
    refine Workspace.answersSame (Workspace.notedShape rs _) ?_
    exact Workspace.answersBefore settled.apart.cwd settled.apart.grown (generatedModulesAnswered listed)
  obtain ⟨ps, later, ran, usable, found⟩ := generatedModulesRun still straight answered
  obtain ⟨qs', _, again, usable', found'⟩ := generatedModulesRun settled.sound straight (generatedModulesAnswered listed)
  have same : qs = qs' := Except.ok.inj (Prod.mk.inj (listed.symm.trans again)).1
  subst same
  refine ⟨ps, later, by rw [ran, Workspace.notedTwice], usable, usable', ?_⟩
  have unlogged (q : Path) (counted : run.counts q = true) := run.countedUnlogged sound accepted aside counted
  rw [found run.counts fun q known => before.logFile ▸ unlogged q known,
    found' run.counts fun q known => settled.apart.logFile ▸ unlogged q known]
  exact (Workspace.headedAgree still settled.sound d run.counts
    fun q known => run.countedHeaded sound accepted aside rs known).symm

theorem candidatesForecast (run : Completed r w g v) (sound : w.Sound) (accepted : g.pass.writeErrors = [])
    (aside : w.LogsAside) (rs : List Log.Record) :
    ∃ cs later, (r.obsoleteCandidates g.forest run.filled.forecast).runIn (run.ready.noted rs) =
        (.ok cs, run.ready.noted (rs ++ later)) ∧
      (∀ c ∈ cs, c.Usable) ∧ run.filled.outdated [] cs = run.filled.outdated [] run.candidates := by
  obtain ⟨loaded, _⟩ := run.readySound sound
  have generated := Forest.loadUsable loaded run.rootsStraight run.scan
  have directory : run.filled.forecast.directory = run.filled.directory := rfl
  unfold Request.obsoleteCandidates
  rcases obsoleteOk run.list with ⟨same, _, none⟩ | ⟨d, qs, aimed, full, listed, same⟩
  · refine ⟨g.forest.generated, [], ?_, fun c member => (generated c member).1, by rw [same]⟩
    rw [directory, List.append_nil]
    cases given : r.isFull with
    | true =>
      rw [none given]
      rfl
    | false => cases run.filled.directory <;> rfl
  · obtain ⟨ps, later, ran, usable, usable', agree⟩ := run.listingForecast sound accepted aside rs aimed listed
    refine ⟨g.forest.generated ++ ps, later, ?_, ?_, ?_⟩
    · rw [directory, aimed, full]
      simp only [if_true]
      rw [bindOf ran]
      rfl
    · intro c member
      rcases List.mem_append.mp member with old | new
      · exact (generated c old).1
      · exact (usable c new).1
    · unfold Output.outdated
      rw [same, List.filter_append, List.filter_append, run.outdatedCounted usable, run.outdatedCounted usable', agree]

theorem candidatesStanding (run : Completed r w g v) (sound : w.Sound) (accepted : g.pass.writeErrors = []) :
    ∀ c ∈ run.candidates, c ∉ run.filled.registered → (run.listed.tree.bytes? c.parts).isSome = true := by
  intro c member outside
  have usable := (run.candidatesUsable sound accepted c member).1
  obtain ⟨_, ready, _, _⟩ := run.readySound sound
  obtain ⟨_, settled, _⟩ := run.settled sound accepted
  obtain ⟨listedSound, apart⟩ := run.listedSound sound accepted
  have generated (known : c ∈ g.forest.generated) : (run.listed.tree.bytes? c.parts).isSome = true := by
    rw [run.registered sound accepted usable.anchored] at outside
    rw [apart.holds _ (by simp), settled.apart.holds _ outside]
    exact (Forest.loadHolds run.scan c known).bytes ready usable.straight
  rcases obsoleteOk run.list with ⟨same, _, _⟩ | ⟨d, qs, _, _, listed, same⟩
  · exact generated (same ▸ member)
  · rw [same] at member
    rcases List.mem_append.mp member with old | new
    · exact generated old
    · exact ((generatedModulesHold listed).2 c new).bytes listedSound usable.straight

end Completed

/-- A class that has no module yet, and a module whose class is gone. -/
def replaced : Workspace :=
  let encoded (text : String) : List UInt8 := Text.Utf8.encode text.toList
  { tree := [
      (["a.py"], .file (encoded "@require_component_getter(B, \"b\")\nclass A: pass\n")),
      (["b_getters.py"], .file (encoded (generatedMarker ++ "\n"))),
      (["c.yml"], .file (encoded "sources: [a.py, b_getters.py]\n"))] }

end AccessorForge
