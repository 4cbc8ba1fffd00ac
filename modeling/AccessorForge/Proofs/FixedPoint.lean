import AccessorForge.Proofs.Repetition
/-! A real run leaves nothing to do: a check finds everything up to date, and generating again writes and removes
nothing. This takes that no two modules share a file and that the run has spared what it reads. -/
namespace AccessorForge
open Job Running
variable {w v : Workspace} {r : Request} {g : Generation}

def Request.rootsIn (r : Request) (w : Workspace) : List Path :=
  match (do r.roots (← Settings.load r.settingsFile true) : Job (List Path)).runIn w with
  | (.ok roots, _) => roots
  | _ => []

/-- A run that spared what it reads and whose modules can be read back. -/
structure Steady (r : Request) (w : Workspace) (g : Generation) (v : Workspace) : Prop where
  /-- No two modules go to one file. -/
  distinct : (g.pass.sources.map fun m => (g.output.target m).absolute v.cwd).Nodup
  /-- The sources of the annotated classes are as they were. -/
  sources : ∀ s ∈ markedSites g.forest.units, ∀ p, s.unit.path = some p →
    v.tree.bytes? p.parts = w.tree.bytes? p.parts
  packages : ∀ s : Spot, (v.tree.bytes? (s ++ [packageMark])).isSome = (w.tree.bytes? (s ++ [packageMark])).isSome
  settings : Settings.Untouched r.settingsFile w v
  /-- It can still be told what stands at the roots. -/
  answered : ∀ root ∈ r.rootsIn w, v.Answers root
  readable : ∀ m ∈ g.pass.sources, (g.output.target m).text ∉ v.refusals.reading
  plain : ∀ m ∈ g.pass.sources, '\r' ∉ m.content.toList

namespace FileTree

/-- Whether two trees have the same files of a name. -/
def agreesOn (t u : FileTree) (n : String) : Bool :=
  (t ++ u).all fun (s, _) => s.getLast? ≠ some n || decide (u.bytes? s = t.bytes? s)

theorem agreesIf {t u : FileTree} {n : String} (checked : t.agreesOn u n = true) (s : Spot) :
    u.bytes? (s ++ [n]) = t.bytes? (s ++ [n]) := by
  have below : s ++ [n] ≠ [] := by simp
  have listed {e : Entry} (found : (s ++ [n], e) ∈ t ++ u) : u.bytes? (s ++ [n]) = t.bytes? (s ++ [n]) := by
    simpa using List.all_eq_true.mp checked _ found
  cases before : t.get? (s ++ [n]) with
  | some e => exact listed (List.mem_append_left _ (entryOf before below))
  | none =>
    cases after : u.get? (s ++ [n]) with
    | some e => exact listed (List.mem_append_right _ (entryOf after below))
    | none =>
      unfold bytes?
      rw [before, after]

end FileTree

def isSteady (r : Request) (w : Workspace) (g : Generation) (v : Workspace) : Bool :=
  let same (p : Path) : Bool := decide (v.tree.bytes? p.parts = w.tree.bytes? p.parts)
  decide (g.pass.sources.map fun m => (g.output.target m).absolute v.cwd).Nodup &&
    ((markedSites g.forest.units).all fun s => s.unit.path.all same) &&
    w.tree.agreesOn v.tree packageMark &&
    (r.settingsFile.all (fun p => same (p.absolute w.cwd)) && w.tree.agreesOn v.tree Settings.fileName) &&
    ((r.rootsIn w).all fun root => (v.tree.entry? v.cwd root).isOk) &&
    g.pass.sources.all fun m =>
      decide ((g.output.target m).text ∉ v.refusals.reading) && decide ('\r' ∉ m.content.toList)

theorem steadyIf (checked : isSteady r w g v = true) : Steady r w g v := by
  unfold isSteady at checked
  simp only [Bool.and_eq_true, decide_eq_true_eq, List.all_eq_true, Option.all_eq_true] at checked
  obtain ⟨⟨⟨⟨⟨distinct, sources⟩, packages⟩, chosen, nearest⟩, answered⟩, modules⟩ := checked
  refine ⟨distinct, sources, fun s => congrArg Option.isSome (FileTree.agreesIf packages s),
    ⟨chosen, FileTree.agreesIf nearest⟩, fun root known => ?_, fun m member => (modules m member).1,
    fun m member => (modules m member).2⟩
  unfold Workspace.Answers
  cases told : v.tree.entry? v.cwd root with
  | ok e => exact ⟨e, rfl⟩
  | error o =>
    have fine := answered root known
    rw [told] at fine
    cases fine

/-! Generated modules carry their marker. -/

theorem startsIntercalate (s a : String) (rest : List String) : a.toList <+: (s.intercalate (a :: rest)).toList := by
  cases rest with
  | nil => simp
  | cons b rest =>
    rw [String.intercalate_cons_cons, String.toList_append, String.toList_append, List.append_assoc]
    exact List.prefix_append _ _

theorem renderMarked (c : Container) (scope : ImportScope) (runtimeModule : String) :
    isGenerated (c.render scope runtimeModule) = true := by
  have marker : generatedMarker.toList <+: c.header.toList := by
    unfold Container.header
    simp only [String.toList_append, List.append_assoc]
    exact List.prefix_append _ _
  unfold isGenerated Container.render
  rw [List.isPrefixOf_iff_prefix]
  exact marker.trans (startsIntercalate _ _ _)

theorem handedMarked {options : PassOptions} {units : List SourceUnit} {m : GeneratedSource}
    (member : m ∈ Output.handed options units) : isGenerated m.content = true := by
  obtain ⟨c, _, rfl⟩ := List.mem_map.mp member
  exact renderMarked c _ _

namespace Workspace

theorem notedMarked (rs : List Log.Record) (unlogged : w.logFile = none) : (w.noted rs).marked = w.marked := by
  funext q
  exact markedSame (notedApart rs w).refusals (by rw [notedTree rs unlogged])

theorem notedScanned (rs : List Log.Record) (sound : w.Sound) (ps : Forest.Patterns) (roots : List Path) :
    (w.noted rs).scanned ps roots = w.scanned ps roots := by
  unfold scanned
  simp only [listedNoted sound]

end Workspace

namespace Completed

theorem rootsAgain (run : Completed r w g v) : r.rootsIn w = run.roots := by
  unfold Request.rootsIn
  rw [bindOf run.load, run.resolve]

/-- What a run leaves behind that the next one needs. -/
structure Left (run : Completed r w g v) : Prop where
  sound : v.Sound
  unlogged : v.logFile = none
  cwd : v.cwd = run.ready.cwd
  refusals : v.refusals = run.loaded.refusals
  stands : ∀ m ∈ run.modules, Output.Stands v (run.start.target m) m

theorem left (run : Completed r w g v) (sound : w.Sound) (named : w.tree.Named) (unlogged : w.logFile = none)
    (accepted : g.pass.writeErrors = []) (steady : Steady r w g v) : run.Left := by
  obtain ⟨loaded, ready, _, _, last⟩ := run.constant sound accepted
  obtain ⟨_, _, handed⟩ := run.settled sound accepted
  refine ⟨run.lastSound sound accepted, last.logFile.trans unlogged, last.cwd.trans ready.cwd.symm,
    last.refusals.trans loaded.refusals.symm, ?_⟩
  refine run.stands sound named unlogged accepted (run.spotsDistinct sound accepted steady.distinct) ?_ ?_
  · intro m member
    rw [← run.target sound accepted, ← last.refusals]
    exact steady.readable m (handed ▸ member)
  · exact fun m member => steady.plain m (handed ▸ member)

theorem ownText (run : Completed r w g v) (left : run.Left) {q : Path} (usable : q.Usable)
    (inside : q.parts ∈ run.spots) : ∃ text, v.text? q = some text ∧ isGenerated text = true := by
  obtain ⟨m, member, rfl⟩ := List.mem_map.mp ((Output.memSpots usable.anchored).mpr inside)
  have stands := left.stands m member
  rw [stands.usable.straight.absolute]
  exact ⟨m.content, stands.text, handedMarked member⟩

/-- A source that the run changed had no annotated class. -/
theorem sitesBefore (run : Completed r w g v) (sound : w.Sound) (unlogged : w.logFile = none)
    (accepted : g.pass.writeErrors = []) (steady : Steady r w g v) {q : Path}
    (member : q ∈ run.loaded.scanned run.patterns run.roots)
    (changed : v.tree.bytes? q.parts ≠ run.loaded.tree.bytes? q.parts) : run.loaded.sitesAt q = [] := by
  obtain ⟨loadedSound, _, _, _⟩ := run.readySound sound
  obtain ⟨loaded, _, _, _, _⟩ := run.constant sound accepted
  obtain ⟨_, tree, _⟩ := run.silent sound unlogged
  have found := (Forest.loadOk loadedSound run.rootsStraight (loaded.logFile.trans unlogged) run.scan).2
  refine List.eq_nil_iff_forall_not_mem.mpr fun s site => ?_
  obtain ⟨inside, marked⟩ := List.mem_filter.mp site
  obtain ⟨u, made, sited⟩ := List.mem_flatMap.mp inside
  have made := Option.mem_toList.mp made
  have path : s.unit.path = some q := by
    obtain ⟨_, _, rfl⟩ := List.mem_map.mp sited
    exact (unitRead made).1
  have known : s ∈ markedSites g.forest.units := by
    rw [found, Workspace.markedSitesAt]
    exact List.mem_flatMap.mpr ⟨q, member, site⟩
  have same := steady.sources s known q path
  rw [← tree] at same
  exact changed same

theorem sitesAfter (run : Completed r w g v) (sound : w.Sound) (accepted : g.pass.writeErrors = []) (left : run.Left)
    {q : Path} (member : q ∈ v.scanned run.patterns run.roots)
    (changed : v.tree.bytes? q.parts ≠ run.loaded.tree.bytes? q.parts) : v.sitesAt q = [] := by
  have inside : q.parts ∈ run.spots := by
    by_contra outside
    exact changed (run.scannedThere sound accepted (by simp [left.unlogged]) outside member).2.symm
  have usable := Forest.scannedUsable run.patterns left.sound run.rootsStraight q member
  obtain ⟨text, read, generated⟩ := run.ownText left usable inside
  unfold Workspace.sitesAt Workspace.unit?
  rw [read, Option.bind_some, if_pos generated]
  rfl

theorem sitesAgain (run : Completed r w g v) (sound : w.Sound) (unlogged : w.logFile = none)
    (accepted : g.pass.writeErrors = []) (left : run.Left) (steady : Steady r w g v) :
    markedSites ((v.scanned run.patterns run.roots).filterMap v.unit?) = markedSites g.forest.units := by
  obtain ⟨loadedSound, _, _, _⟩ := run.readySound sound
  obtain ⟨loaded, _, _, _, _⟩ := run.constant sound accepted
  obtain ⟨_, tree, _⟩ := run.silent sound unlogged
  have found := (Forest.loadOk loadedSound run.rootsStraight (loaded.logFile.trans unlogged) run.scan).2
  let counts (q : Path) : Bool := decide (v.tree.bytes? q.parts = run.loaded.tree.bytes? q.parts)
  have lists := Workspace.scannedAgree loadedSound left.sound run.patterns run.roots counts fun q counted => by
    rw [of_decide_eq_true counted]
  rw [found, Workspace.markedSitesAt, Workspace.markedSitesAt,
    Workspace.sitesCounted fun q member uncounted =>
      run.sitesBefore sound unlogged accepted steady member (of_decide_eq_false uncounted),
    Workspace.sitesCounted fun q member uncounted =>
      run.sitesAfter sound accepted left member (of_decide_eq_false uncounted), lists]
  refine List.flatMap_congr fun q member => ?_
  obtain ⟨scanned, counted⟩ := List.mem_filter.mp member
  unfold Workspace.sitesAt
  rw [Workspace.unitSame loadedSound left.sound (fun s => by rw [tree]; exact steady.packages s)
    (Forest.scannedUsable run.patterns loadedSound run.rootsStraight q scanned) left.refusals (of_decide_eq_true counted)]

theorem readsAgain (run : Completed r w g v) (sound : w.Sound) (unlogged : w.logFile = none)
    (accepted : g.pass.writeErrors = []) (left : run.Left) (steady : Steady r w g v) :
    ∀ q ∈ v.scanned run.patterns run.roots, v.Reads q := by
  obtain ⟨loadedSound, _, _, _⟩ := run.readySound sound
  obtain ⟨loaded, _, _, _, _⟩ := run.constant sound accepted
  obtain ⟨_, tree, _⟩ := run.silent sound unlogged
  intro q member
  have usable := Forest.scannedUsable run.patterns left.sound run.rootsStraight q member
  by_cases inside : q.parts ∈ run.spots
  · obtain ⟨text, read, generated⟩ := run.ownText left usable inside
    intro other known plain
    cases read.symm.trans known
    cases generated.symm.trans plain
  · obtain ⟨scanned, same⟩ := run.scannedThere sound accepted (by simp [left.unlogged]) inside member
    have known := Forest.loadReads loadedSound (loaded.logFile.trans unlogged) run.rootsStraight run.scan q scanned
    exact Workspace.readsSame loadedSound left.sound left.refusals (fun s => by rw [tree]; exact steady.packages s)
      usable same.symm known

theorem prepareAgain (run : Completed r w g v) (sound : w.Sound) (unlogged : w.logFile = none)
    (accepted : g.pass.writeErrors = []) (left : run.Left) (steady : Steady r w g v) :
    ∃ forest rs, r.prepare.runIn v = (.ok (run.settings, forest), v.noted rs) ∧
      markedSites forest.units = markedSites g.forest.units ∧
      forest.generated = (v.scanned run.patterns run.roots).filter v.marked := by
  obtain ⟨loaded, _, _, _, last⟩ := run.constant sound accepted
  have usable := Forest.scannedUsable run.patterns left.sound run.rootsStraight
  obtain ⟨rs, settings⟩ := Settings.loadAgain sound left.sound unlogged left.unlogged last.cwd last.refusals
    (run.grown sound accepted) steady.settings run.load
  have before := Workspace.notedApart rs v
  have still := Workspace.notedSound rs left.sound
  have quiet := before.logFile.trans left.unlogged
  have roots := (Request.rootsOk run.resolve).2.2 (v.noted rs) (before.cwd.trans (last.cwd.trans loaded.cwd.symm))
  have answered : ∀ root ∈ run.roots, (v.noted rs).Answers root := by
    intro root member
    refine Workspace.answersSame (Workspace.notedShape rs v) (steady.answered root ?_)
    rw [run.rootsAgain]
    exact member
  obtain ⟨forest, ss, scan⟩ := @Forest.loadRun (v.noted rs) run.roots run.settings.includePatterns
    run.settings.excludePatterns still run.rootsStraight answered (fun q _ => by simp [quiet]) (fun q member => by
      rw [Workspace.notedScanned rs left.sound] at member
      exact (Workspace.notedReads rs left.sound (by simp [left.unlogged]) (usable q member)).mpr
        (run.readsAgain sound unlogged accepted left steady q member))
  obtain ⟨generated, units⟩ := Forest.loadOk still run.rootsStraight quiet scan
  rw [Workspace.notedScanned rs left.sound] at generated units
  have made := List.filterMap_congr fun q (member : q ∈ v.scanned run.patterns run.roots) =>
    Workspace.unitSame left.sound still (fun s => by rw [Workspace.notedTree rs left.unlogged]) (usable q member)
      before.refusals (by rw [Workspace.notedTree rs left.unlogged])
  refine ⟨forest, rs ++ ss, ?_, ?_, ?_⟩
  · rw [Workspace.notedTwice]
    exact prepareRun settings roots scan
  · rw [units, made]
    exact run.sitesAgain sound unlogged accepted left steady
  · rw [generated, Workspace.notedMarked rs left.unlogged]

def afterwards (run : Completed r w g v) (dryRun : Bool) : Output :=
  (Request.opened run.directory dryRun run.settings).confirmed v run.modules

theorem passAgain (run : Completed r w g v) (sound : w.Sound) (accepted : g.pass.writeErrors = []) (left : run.Left)
    (dryRun : Bool) (rs : List Log.Record) {units : List SourceUnit} (same : markedSites units = markedSites g.forest.units) :
    ∃ ss, (passOnto (Request.opened run.directory dryRun run.settings) run.settings.passOptions units).runIn (v.noted rs) =
      (.ok (g.pass, run.afterwards dryRun), v.noted (rs ++ ss)) := by
  have before := Workspace.notedApart rs v
  have analysis := analysisSame same run.settings.passOptions.warningsAsErrors
  have handed : Output.handed run.settings.passOptions units = run.modules := by
    unfold Output.handed modules
    rw [analysis]
    rfl
  obtain ⟨ss, passed⟩ := Output.passCurrent run.settings.passOptions units
    (Request.opened run.directory dryRun run.settings) (Workspace.notedSound rs left.sound)
    (before.logFile.trans left.unlogged) (by
      rw [handed]
      exact fun m member => Output.standsNoted rs left.unlogged (left.stands m member))
  refine ⟨ss, ?_⟩
  rw [passed, handed, analysis, Workspace.notedTwice]
  have pass : (Analysis.ofUnits run.settings.passOptions.warningsAsErrors g.forest.units).result
      { sources := run.modules } = g.pass := by
    obtain ⟨d, u, _, _, told⟩ := Output.passStages run.pass
    obtain ⟨_, _, sources⟩ := run.settled sound accepted
    have first : d.sources = run.modules := by
      rw [← sources, told]
      rfl
    have second : d.writeErrors = [] := by
      rw [← accepted, told]
      rfl
    rw [told, ← first, ← second]
  rw [pass]
  unfold afterwards Output.confirmed
  rw [before.cwd]

theorem registeredAgain (run : Completed r w g v) (left : run.Left) (dryRun : Bool) {p : Path} (usable : p.Usable)
    (inside : p.parts ∈ run.spots) : p ∈ (run.afterwards dryRun).registered := by
  have registered : (run.afterwards dryRun).registered =
      run.modules.map fun m => (run.start.target m).absolute v.cwd := rfl
  rw [registered, left.cwd]
  exact (Output.memSpots usable.anchored).mpr inside

theorem generatedAgain (run : Completed r w g v) (sound : w.Sound) (accepted : g.pass.writeErrors = []) (left : run.Left)
    (dryRun : Bool) : ∀ c ∈ (v.scanned run.patterns run.roots).filter v.marked,
      c.Usable ∧ c ∈ (run.afterwards dryRun).registered := by
  intro c member
  obtain ⟨scanned, marked⟩ := List.mem_filter.mp member
  have usable := Forest.scannedUsable _ left.sound run.rootsStraight c scanned
  refine ⟨usable, run.registeredAgain left dryRun usable ?_⟩
  refine run.ofStanding sound accepted (Workspace.markedHolds marked) fun outside => ?_
  exact run.scannedBefore sound accepted (by simp [left.unlogged]) outside scanned marked

theorem headedAgain (run : Completed r w g v) (sound : w.Sound) (accepted : g.pass.writeErrors = []) (left : run.Left)
    (dryRun : Bool) {d c : Path} (full : r.isFull = true) (aimed : run.filled.directory = some d) (usable : c.Usable)
    (found : c ∈ v.headedIn d) : c ∈ (run.afterwards dryRun).registered := by
  obtain ⟨_, first⟩ := (Workspace.memHeaded left.sound).mp found
  refine run.registeredAgain left dryRun usable ?_
  refine run.ofStanding sound accepted (Workspace.headedHolds first) fun outside => ?_
  exact run.headedBefore sound accepted full aimed (by simp [left.unlogged]) outside found

theorem answersAgain (run : Completed r w g v) (sound : w.Sound) (accepted : g.pass.writeErrors = []) {d : Path}
    (full : r.isFull = true) (aimed : run.filled.directory = some d) : v.Answers d := by
  obtain ⟨_, _, passed, _, last⟩ := run.constant sound accepted
  refine Workspace.answersBefore (passed.cwd.trans last.cwd.symm) (run.pruneFrame sound accepted).2 ?_
  rcases obsoleteOk run.list with ⟨_, _, none⟩ | ⟨d', qs, same, _, listed, _⟩
  · cases aimed.symm.trans (none full)
  · cases aimed.symm.trans same
    exact generatedModulesAnswered listed

theorem listAgain (run : Completed r w g v) (sound : w.Sound) (accepted : g.pass.writeErrors = []) (left : run.Left)
    (dryRun : Bool) (rs : List Log.Record) {forest : Forest}
    (generated : forest.generated = (v.scanned run.patterns run.roots).filter v.marked) :
    ∃ cs ss, (r.obsoleteCandidates forest (run.afterwards dryRun)).runIn (v.noted rs) = (.ok cs, v.noted (rs ++ ss)) ∧
      ∀ c ∈ cs, c.Usable ∧ c ∈ (run.afterwards dryRun).registered := by
  obtain ⟨_, settled, _⟩ := run.settled sound accepted
  have known := run.generatedAgain sound accepted left dryRun
  rw [← generated] at known
  have directory : (run.afterwards dryRun).directory = run.directory := rfl
  unfold Request.obsoleteCandidates
  rw [directory]
  cases chosen : run.directory with
  | none => exact ⟨forest.generated, [], by rw [List.append_nil]; rfl, known⟩
  | some d =>
    cases full : r.isFull with
    | false => exact ⟨forest.generated, [], by rw [List.append_nil]; rfl, known⟩
    | true =>
      have aimed : run.filled.directory = some d := settled.aims.1.trans chosen
      have answered := Workspace.answersSame (Workspace.notedShape rs v) (run.answersAgain sound accepted full aimed)
      have still := Workspace.notedSound rs left.sound
      have before := Workspace.notedApart rs v
      obtain ⟨qs, ss, ran, usable, headed⟩ := generatedModulesRun still ((Request.aimOk run.aim).2.1 d chosen) answered
      refine ⟨forest.generated ++ qs, ss, ?_, ?_⟩
      · simp only [if_true]
        rw [bindOf ran, Workspace.notedTwice]
        rfl
      · intro c member
        rcases List.mem_append.mp member with old | new
        · exact known c old
        · have own := (usable c new).1
          have listed : c ∈ (v.noted rs).headedIn d := by
            have both := headed (fun _ => true) fun q _ => by
              rw [before.logFile, left.unlogged]
              simp
            simp only [List.filter_true] at both
            exact both ▸ new
          obtain ⟨named, first⟩ := (Workspace.memHeaded still).mp listed
          have same := Workspace.headedSame before.refusals
            (congrArg (FileTree.bytes? · c.parts) (Workspace.notedTree rs left.unlogged))
          exact ⟨own, run.headedAgain sound accepted left dryRun full aimed own
            ((Workspace.memHeaded left.sound).mpr ⟨named, same ▸ first⟩)⟩

end Completed

/-- After a real run that ends without errors, if the run has spared what it reads, a check is fine, and generating
again ends without errors, writes nothing and removes nothing. -/
theorem generateSettles (r : Request) (w v : Workspace) (g : Generation) (sound : w.Sound) (named : w.tree.Named)
    (unlogged : w.logFile = none) (ran : (generate r false).runIn w = (.ok (.ok g), v))
    (fine : Generation.hasErrors (.ok g) = false) (steady : Steady r w g v) :
    (∃ c x, (check r).runIn v = (.ok c, x) ∧ Check.isOk c = true) ∧
      ∃ d x, (generate r false).runIn v = (.ok (.ok d), x) ∧ Generation.hasErrors (.ok d) = false ∧
        d.output.written = [] ∧ d.output.removed = [] := by
  obtain ⟨none, clean, accepted⟩ := fineGeneration.mp fine
  obtain ⟨run⟩ := completed ran none
  have left := run.left sound named unlogged accepted steady
  obtain ⟨_, ready, _, _, last⟩ := run.constant sound accepted
  obtain ⟨forest, rs, prepared, sites, generated⟩ := run.prepareAgain sound unlogged accepted left steady
  have aimed : (r.aim run.settings).runIn (v.noted rs) = (.ok run.directory, v.noted rs) :=
    (Request.aimOk run.aim).2.2 _ ((Workspace.notedApart rs v).cwd.trans (last.cwd.trans ready.cwd.symm))
  have stages (dryRun : Bool) : ∃ cs ss ts,
      (passOnto (Request.opened run.directory dryRun run.settings) run.settings.passOptions forest.units).runIn
        (v.noted rs) = (.ok (g.pass, run.afterwards dryRun), v.noted (rs ++ ss)) ∧
      (r.obsoleteCandidates forest (run.afterwards dryRun)).runIn (v.noted (rs ++ ss)) =
        (.ok cs, v.noted (rs ++ ss ++ ts)) ∧
      ((run.afterwards dryRun).prune cs).runIn (v.noted (rs ++ ss ++ ts)) =
        (.ok (run.afterwards dryRun, .none), v.noted (rs ++ ss ++ ts)) := by
    obtain ⟨ss, passed⟩ := run.passAgain sound accepted left dryRun rs sites
    obtain ⟨cs, ts, listed, known⟩ := run.listAgain sound accepted left dryRun (rs ++ ss) generated
    refine ⟨cs, ss, ts, passed, listed, ?_⟩
    exact Output.pruneKnown [] (fun c member => (known c member).1) fun c member => (known c member).2
  refine ⟨?_, ?_⟩
  · obtain ⟨cs, ss, ts, passed, listed, pruned⟩ := stages true
    have ended := checkEnds prepared (outputRun true aimed) passed listed pruned
    refine ⟨_, _, ended, ?_⟩
    exact fineCheck.mpr ⟨⟨rfl, rfl⟩, clean⟩
  · obtain ⟨cs, ss, ts, passed, listed, pruned⟩ := stages false
    obtain ⟨record, ended⟩ := generateEnds prepared (outputRun false aimed) passed listed pruned
    exact ⟨_, _, ended, fineGeneration.mpr ⟨rfl, clean, accepted⟩, rfl, rfl⟩

/-- A class that has no module yet, and a module whose class is gone. -/
def renamed : Workspace :=
  let encoded (text : String) : List UInt8 := Text.Utf8.encode text.toList
  { tree := [
      (["a.py"], .file (encoded "@require_component_getters\nclass A: pass\n")),
      (["b_getters.py"], .file (encoded (generatedMarker ++ "\n"))),
      (["c.yml"], .file (encoded "sources: [a.py, b_getters.py]\n"))] }

theorem generateSettlesRenamed : ∃ g v, (generate bySettings false).runIn renamed = (.ok (.ok g), v) ∧
    g.output.written.map Path.text = ["/a_getters.py"] ∧ g.output.removed.map Path.text = ["/b_getters.py"] ∧
    Steady bySettings renamed g v ∧ (∃ c x, (check bySettings).runIn v = (.ok c, x) ∧ Check.isOk c = true) ∧
      ∃ d x, (generate bySettings false).runIn v = (.ok (.ok d), x) ∧ Generation.hasErrors (.ok d) = false ∧
        d.output.written = [] ∧ d.output.removed = [] := by
  have checked : (generate bySettings false).endsWith renamed (fun g v => isSteady bySettings renamed g v &&
      decide (Generation.hasErrors (.ok g) = false ∧ g.output.written.map Path.text = ["/a_getters.py"] ∧
        g.output.removed.map Path.text = ["/b_getters.py"])) = true := by
    decide +kernel
  have sound : renamed.Sound := ⟨FileTree.soundIf (by decide +kernel), rfl⟩
  have named : renamed.tree.Named := FileTree.namedIf (by decide +kernel)
  obtain ⟨g, v, ran, told⟩ := endsIf checked
  obtain ⟨spared, rest⟩ := Bool.and_eq_true_iff.mp told
  obtain ⟨fine, written, removed⟩ := of_decide_eq_true rest
  have steady := steadyIf spared
  exact ⟨g, v, ran, written, removed, steady, generateSettles bySettings renamed v g sound named rfl ran fine steady⟩

/-- Two classes of one name, the second one in a class of its own. -/
def colliding : Workspace :=
  let encoded (text : String) : List UInt8 := Text.Utf8.encode text.toList
  { tree := [
      (["a.py"], .file (encoded "@require_component_getters\nclass A: pass\nclass O:\n" ++
        encoded " @require_component_getters\n class A: pass\n")),
      (["c.yml"], .file (encoded "sources: [a.py]\n"))] }

/-- Their modules share a file, which the second one keeps. A check misses the first. -/
theorem generateUnsettledNamesakes : ∃ g v c x, (generate bySettings false).runIn colliding = (.ok (.ok g), v) ∧
    Generation.hasErrors (.ok g) = false ∧ (check bySettings).runIn v = (.ok (.ok c), x) ∧
    Check.isOk (.ok c) = false := by
  have checked : (generate bySettings false).endsWith colliding (fun g v => !Generation.hasErrors (.ok g) &&
      (check bySettings).endsWith v fun c _ => !Check.isOk (.ok c)) = true := by
    decide +kernel
  obtain ⟨g, v, ran, told⟩ := endsIf checked
  obtain ⟨fine, again⟩ := Bool.and_eq_true_iff.mp told
  obtain ⟨c, x, asked, stale⟩ := endsIf again
  exact ⟨g, v, c, x, ran, by simpa using fine, asked, by simpa using stale⟩

end AccessorForge
