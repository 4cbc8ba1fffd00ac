import AccessorForge.Proofs.RealRuns
/-! Real runs that end without an error, with the workspaces that they pass through. -/
namespace AccessorForge
open Job Running
variable {w v : Workspace} {r : Request} {s : Settings}

theorem mapResolveOk {α : Type} {f : α → Path} {xs : List α} {ps : List Path}
    (ok : (xs.mapM fun a => resolve (f a)).runIn w = (.ok ps, v)) :
    v = w ∧ (∀ p ∈ ps, p.Straight) ∧
      ∀ u : Workspace, u.cwd = w.cwd → (xs.mapM fun a => resolve (f a)).runIn u = (.ok ps, u) := by
  induction xs generalizing ps w v with
  | nil =>
    rw [List.mapM_nil] at ok
    cases ok
    refine ⟨rfl, by simp, fun u _ => ?_⟩
    rw [List.mapM_nil]
    rfl
  | cons a rest ih =>
    rw [List.mapM_cons] at ok
    obtain ⟨q, x, resolved, later⟩ := bindOk ok
    obtain ⟨unflawed, whole, still⟩ := resolveOk resolved
    subst still
    obtain ⟨qs, y, others, last⟩ := bindOk later
    obtain ⟨still, straight, again⟩ := ih others
    subst still
    cases last
    refine ⟨rfl, ?_, fun u same => ?_⟩
    · intro p member
      rcases List.mem_cons.mp member with rfl | deeper
      · rw [whole]
        exact Path.straightAbsolute _ _
      · exact straight p deeper
    · have first : (resolve (f a)).runIn u = (.ok q, u) := by
        rw [resolveIn, unflawed, same, whole]
      rw [List.mapM_cons, bindOf first, bindOf (again u same)]
      rfl

namespace Request

def roots (r : Request) (s : Settings) : Job (List Path) :=
  if r.isFull then s.sourcePaths else r.paths.mapM Job.resolve

theorem rootsOk {ps : List Path} (ok : (r.roots s).runIn w = (.ok ps, v)) :
    v = w ∧ (∀ p ∈ ps, p.Straight) ∧ ∀ u : Workspace, u.cwd = w.cwd → (r.roots s).runIn u = (.ok ps, u) := by
  unfold roots at ok ⊢
  split at ok
  · rename_i full
    simp only [full, if_true]
    exact mapResolveOk ok
  · rename_i given
    simp only [given]
    exact mapResolveOk (f := id) ok

theorem prepareStages {f : Forest} (ok : r.prepare.runIn w = (.ok (s, f), v)) :
    ∃ u ps, (Settings.load r.settingsFile true).runIn w = (.ok s, u) ∧ (r.roots s).runIn u = (.ok ps, u) ∧
      (Forest.load ps s.includePatterns s.excludePatterns).runIn u = (.ok f, v) := by
  obtain ⟨settings, u, loaded, ok⟩ := bindOk ok
  have staged : ∃ ps x, (r.roots settings).runIn u = (.ok ps, x) ∧
      (do return (settings, ← Forest.load ps settings.includePatterns settings.excludePatterns) :
        Job (Settings × Forest)).runIn x = (.ok (s, f), v) := by
    dsimp only at ok
    unfold roots
    split at ok
    · rename_i full
      simp only [full, if_true]
      exact bindOk ok
    · rename_i given
      simp only [given]
      exact bindOk ok
  obtain ⟨ps, x, rooted, later⟩ := staged
  obtain ⟨forest, y, scanned, last⟩ := bindOk later
  cases last
  have still := (rootsOk rooted).1
  subst still
  exact ⟨x, ps, loaded, rooted, scanned⟩

theorem aimOk {directory : Option Path} (ok : (r.aim s).runIn w = (.ok directory, v)) :
    v = w ∧ (∀ d, directory = some d → d.Straight) ∧
      ∀ u : Workspace, u.cwd = w.cwd → (r.aim s).runIn u = (.ok directory, u) := by
  unfold aim at ok ⊢
  have single {p : Path} {directory : Option Path} {w v : Workspace}
      (ok : (do return some (← resolve p) : Job (Option Path)).runIn w = (.ok directory, v)) :
      v = w ∧ (∀ d, directory = some d → d.Straight) ∧ ∀ u : Workspace, u.cwd = w.cwd →
        (do return some (← resolve p) : Job (Option Path)).runIn u = (.ok directory, u) := by
    obtain ⟨q, x, resolved, last⟩ := bindOk ok
    obtain ⟨unflawed, whole, still⟩ := resolveOk resolved
    subst still
    cases last
    refine ⟨rfl, ?_, fun u same => ?_⟩
    · rintro d ⟨⟩
      rw [whole]
      exact Path.straightAbsolute _ _
    · have first : (resolve p).runIn u = (.ok q, u) := by
        rw [resolveIn, unflawed, same, whole]
      rw [bindOf first]
      rfl
  cases wanted : r.outputDir with
  | some d =>
    rw [wanted] at ok
    exact single ok
  | none =>
    simp only [wanted] at ok
    unfold Settings.outputPath at ok ⊢
    cases chosen : s.outputDir with
    | some d =>
      rw [chosen] at ok
      exact single ok
    | none =>
      rw [chosen] at ok
      cases ok
      exact ⟨rfl, by simp, fun u _ => rfl⟩

def opened (directory : Option Path) (dryRun : Bool) (s : Settings) : Output :=
  { directory, dryRun, fallback := s.root }

theorem outputOk {dryRun : Bool} {o : Output} (ok : (r.output s dryRun).runIn w = (.ok o, v)) :
    v = w ∧ ∃ directory, (r.aim s).runIn w = (.ok directory, w) ∧ o = opened directory dryRun s := by
  rw [outputAimed] at ok
  obtain ⟨directory, x, aimed, last⟩ := bindOk ok
  have still := (aimOk aimed).1
  subst still
  cases last
  exact ⟨rfl, directory, aimed, rfl⟩

end Request

/-- A real run that ends without an error, stage by stage. -/
structure Completed (r : Request) (w : Workspace) (g : Generation) (v : Workspace) where
  settings : Settings
  loaded : Workspace
  load : (Settings.load r.settingsFile true).runIn w = (.ok settings, loaded)
  roots : List Path
  resolve : (r.roots settings).runIn loaded = (.ok roots, loaded)
  ready : Workspace
  scan : (Forest.load roots settings.includePatterns settings.excludePatterns).runIn loaded = (.ok g.forest, ready)
  directory : Option Path
  aim : (r.aim settings).runIn ready = (.ok directory, ready)
  filled : Output
  passed : Workspace
  pass : (passOnto (Request.opened directory false settings) settings.passOptions g.forest.units).runIn ready =
    (.ok (g.pass, filled), passed)
  candidates : List Path
  listed : Workspace
  list : (r.obsoleteCandidates g.forest filled).runIn passed = (.ok candidates, listed)
  pruned : Workspace
  prune : (filled.prune candidates).runIn listed = (.ok (g.output, none), pruned)
  last : Log.Record
  noted : v = pruned.note last

abbrev Completed.patterns {g : Generation} (run : Completed r w g v) : Forest.Patterns :=
  Forest.patterns run.settings.includePatterns run.settings.excludePatterns

/-- Whether a command ends with an outcome, and a check holds of it and of what it leaves. -/
def Job.endsWith {α : Type} (x : Job (Outcome α)) (w : Workspace) (holds : α → Workspace → Bool) : Bool :=
  match x.runIn w with
  | (.ok (.ok outcome), v) => holds outcome v
  | _ => false

theorem endsIf {α : Type} {x : Job (Outcome α)} {holds : α → Workspace → Bool} (checked : x.endsWith w holds = true) :
    ∃ outcome v, x.runIn w = (.ok (.ok outcome), v) ∧ holds outcome v = true := by
  unfold Job.endsWith at checked
  split at checked
  · rename_i outcome v ran
    exact ⟨outcome, v, ran, checked⟩
  · cases checked

theorem completed {g : Generation} (ran : (generate r false).runIn w = (.ok (.ok g), v)) (fine : g.error = none) :
    Nonempty (Completed r w g v) := by
  obtain ⟨prepared, u, ready, ran⟩ := bindOk ran
  cases prepared with
  | error message => cases ran
  | ok pair =>
    obtain ⟨s, forest⟩ := pair
    obtain ⟨loaded, ps, load, resolved, scan⟩ := Request.prepareStages (attemptSettingsOk ready)
    obtain ⟨o, _, opened, ran⟩ := bindOk ran
    obtain ⟨rfl, directory, aimed, rfl⟩ := Request.outputOk opened
    obtain ⟨⟨pass, p⟩, x, passed, ran⟩ := bindOk ran
    obtain ⟨tried, y, attempted, ran⟩ := bindOk ran
    rcases Output.attemptOk attempted with ⟨cs, rfl, listed⟩ | ⟨f, rfl, unlisted⟩
    · obtain ⟨⟨p', failure⟩, z, pruned, ran⟩ := bindOk ran
      cases failure with
      | none =>
        obtain ⟨_, _, logged, done⟩ := bindOk ran
        cases logged
        cases done
        exact ⟨⟨s, loaded, load, ps, resolved, _, scan, directory, aimed, p, x, passed, cs, y, listed, z, pruned,
          _, rfl⟩⟩
      | some f =>
        cases f with
        | file f =>
          cases ran
          cases fine
        | _ => cases ran
    · obtain ⟨⟨p', failure⟩, z, kept, ran⟩ := bindOk ran
      cases kept
      cases ran
      cases fine

theorem obsoleteOk {f : Forest} {o : Output} {cs : List Path}
    (ok : (r.obsoleteCandidates f o).runIn w = (.ok cs, v)) :
    (cs = f.generated ∧ v = w ∧ (r.isFull = true → o.directory = none)) ∨
      ∃ d qs, o.directory = some d ∧ r.isFull = true ∧ (generatedModulesIn d).runIn w = (.ok qs, v) ∧
        cs = f.generated ++ qs := by
  unfold Request.obsoleteCandidates at ok
  split at ok
  · rename_i d directory
    split at ok
    · rename_i full
      obtain ⟨qs, u, listed, last⟩ := bindOk ok
      cases last
      exact .inr ⟨d, qs, directory, full, listed, rfl⟩
    · rename_i given
      cases ok
      exact .inl ⟨rfl, rfl, fun full => absurd full given⟩
  · rename_i directory
    cases ok
    exact .inl ⟨rfl, rfl, fun _ => directory⟩

namespace Completed
variable {g : Generation}

theorem readySound (run : Completed r w g v) (sound : w.Sound) :
    run.loaded.Sound ∧ run.ready.Sound ∧ run.loaded.Apart [] run.ready ∧ w.Apart [] run.loaded := by
  obtain ⟨loaded, first⟩ := calmSpares (Settings.calmLoad _ _) sound run.load
  obtain ⟨ready, second⟩ := calmSpares (Forest.calmLoad _ _ _) loaded run.scan
  exact ⟨loaded, ready, second, first⟩

theorem rootsStraight (run : Completed r w g v) : ∀ root ∈ run.roots, root.Straight := (Request.rootsOk run.resolve).2.1

def start (run : Completed r w g v) : Output := Request.opened run.directory false run.settings

def modules (run : Completed r w g v) : List GeneratedSource := Output.handed run.settings.passOptions g.forest.units

theorem settled (run : Completed r w g v) (sound : w.Sound) (accepted : g.pass.writeErrors = []) :
    ∃ d, Output.Settled run.start run.modules run.ready {} d run.filled run.passed ∧ g.pass.sources = run.modules :=
  Output.passReal (run.readySound sound).2.1 rfl run.pass accepted

theorem filledStraight (run : Completed r w g v) (sound : w.Sound) (accepted : g.pass.writeErrors = []) :
    ∀ d, run.filled.directory = some d → d.Straight := by
  intro d aimed
  obtain ⟨_, settled, _⟩ := run.settled sound accepted
  refine (Request.aimOk run.aim).2.1 d ?_
  rw [← aimed, settled.aims.1]
  rfl

theorem listedSound (run : Completed r w g v) (sound : w.Sound) (accepted : g.pass.writeErrors = []) :
    run.listed.Sound ∧ run.passed.Apart [] run.listed := by
  obtain ⟨d, settled, _⟩ := run.settled sound accepted
  exact calmSpares (r.calmObsoleteCandidates _ _) settled.sound run.list

theorem candidatesUsable (run : Completed r w g v) (sound : w.Sound) (accepted : g.pass.writeErrors = []) :
    ∀ c ∈ run.candidates, c.Usable ∧ c.Fits := by
  have forest := Forest.loadUsable (run.readySound sound).1 run.rootsStraight run.scan
  obtain ⟨d, settled, _⟩ := run.settled sound accepted
  rcases obsoleteOk run.list with ⟨same, _, _⟩ | ⟨directory, qs, aimed, _, listed, same⟩
  · rw [same]
    exact forest
  · rw [same]
    intro c member
    rcases List.mem_append.mp member with old | new
    · exact forest c old
    · obtain ⟨usable, _⟩ := listingHeaded settled.sound (run.filledStraight sound accepted directory aimed) listed
      obtain ⟨_, holds⟩ := generatedModulesHold listed
      obtain ⟨s, bytes, located, _⟩ := holds c new
      exact ⟨usable c new, (FileTree.locateFits located).1⟩

theorem cleared (run : Completed r w g v) (sound : w.Sound) (accepted : g.pass.writeErrors = []) :
    Output.Cleared run.filled run.candidates run.listed g.output run.pruned := by
  obtain ⟨d, settled, _⟩ := run.settled sound accepted
  have isReal : run.filled.dryRun = false := settled.aims.2.1
  exact Output.pruneReal (run.listedSound sound accepted).1 isReal (run.candidatesUsable sound accepted) (by simp)
    run.prune

end Completed

end AccessorForge
