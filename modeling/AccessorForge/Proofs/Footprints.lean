import AccessorForge.Proofs.Setbacks
/-! The footprint of a run. Main statement: however a run ends, a file that it did not register is as it was, unless
it began with the generated marker and is gone; what is gone is what the run says it removed, and no temporary file
stays behind. -/
namespace AccessorForge
open Job Running
variable {w v : Workspace} {r : Request} {dryRun : Bool}

namespace Request

/-- Where the modules of a request go. -/
def places (r : Request) (w : Workspace) : List Spot :=
  match r.handed.runIn w with
  | (.ok (ms, o), v) => ms.map (o.spot v)
  | _ => []

end Request

/-- What a run removes at its end. -/
structure Tidied (r : Request) (f : Forest) (o : Output) (gone : List Path) (w : Workspace) (p : Output) (v : Workspace) :
    Prop where
  sound : v.Sound
  apart : w.Apart (gone.map Path.parts) v
  same : p = { o with removed := o.removed ++ gone, obsolete := p.obsolete }
  distinct : gone.Nodup
  each : ∀ c ∈ gone, c.Usable ∧ c ∉ o.registered ∧ (w.tree.bytes? c.parts).isSome = true ∧
    v.tree.bytes? c.parts = none ∧ (w.logFile ≠ some c.parts → c ∈ f.generated ∨ w.headed c = true)
  met : r.isFull = false → ∀ c ∈ gone, c ∈ f.generated

theorem obsoleteAre {f : Forest} {o : Output} {cs : List Path} (sound : w.Sound)
    (usable : ∀ c ∈ f.generated, c.Usable) (straight : ∀ d, o.directory = some d → d.Straight)
    (listed : (r.obsoleteCandidates f o).runIn w = (.ok cs, v)) :
    ∀ c ∈ cs, c.Usable ∧ (w.logFile ≠ some c.parts → c ∈ f.generated ∨ w.headed c = true) ∧
      (r.isFull = false → c ∈ f.generated) := by
  intro c member
  rcases obsoleteOk listed with ⟨rfl, _, _⟩ | ⟨d, qs, aimed, full, ran, rfl⟩
  · exact ⟨usable c member, fun _ => .inl member, fun _ => member⟩
  · have given (part : r.isFull = false) : c ∈ f.generated := by
      rw [full] at part
      cases part
    rcases List.mem_append.mp member with old | new
    · exact ⟨usable c old, fun _ => .inl old, given⟩
    · obtain ⟨fine, headed⟩ := listingHeaded sound (straight d aimed) ran
      refine ⟨fine c new, fun unlogged => .inr ?_, given⟩
      exact ((Workspace.memHeaded sound).mp ((headed c unlogged).mp new)).2

theorem tidyLeaves {f : Forest} {o : Output} {result : Except Failure (Output × Option Failure)} (sound : w.Sound)
    (usable : ∀ c ∈ f.generated, c.Usable) (straight : ∀ d, o.directory = some d → d.Straight)
    (ran : (r.tidy f o).runIn w = (result, v)) :
    (∃ e, result = .error e ∧ v.Sound ∧ w.Apart [] v) ∨
      ∃ p failure gone, result = .ok (p, failure) ∧ Tidied r f o gone w p v ∧ ∀ e, failure = some e → ∃ g, e = .file g := by
  unfold Request.tidy at ran
  rw [bindIn, attemptIn] at ran
  cases listed : (r.obsoleteCandidates f o).runIn w with
  | mk outcome u =>
    obtain ⟨still, apart⟩ := calmSpares (r.calmObsoleteCandidates f o) sound listed
    rw [listed] at ran
    cases outcome with
    | error e =>
      cases e with
      | file e =>
        cases ran
        refine .inr ⟨o, _, [], rfl, ⟨still, apart, by simp, by simp, by simp, by simp⟩, ?_⟩
        rintro _ ⟨⟩
        exact ⟨e, rfl⟩
      | _ =>
        cases ran
        exact .inl ⟨_, rfl, still, apart⟩
    | ok cs =>
      have candidates := obsoleteAre sound usable straight listed
      obtain ⟨p, failure, x, gone, pruned, taken, filed⟩ :=
        Output.pruneLeaves o [] still fun c member => (candidates c member).1
      dsimp only at ran
      unfold Output.prune at ran
      rw [pruned] at ran
      cases ran
      refine .inr ⟨p, failure, gone, rfl, ?_, filed⟩
      refine ⟨taken.sound, apart.before taken.apart, taken.same, taken.distinct, fun c member => ?_,
        fun part c member => (candidates c (taken.each c member).1).2.2 part⟩
      obtain ⟨inside, outside, _, held, none⟩ := taken.each c member
      obtain ⟨own, known, _⟩ := candidates c inside
      refine ⟨own, outside, ?_, none, known⟩
      rw [← apart.holds c.parts (by simp)]
      exact held

/-- What a run leaves behind that has put modules at some paths and removed others. -/
structure Footprint (ss : List Spot) (ps gone : List Path) (w v : Workspace) : Prop where
  sound : v.Sound
  apart : w.Apart (ps.map w.spot ++ gone.map Path.parts) v
  within : ps.map w.spot ⊆ ss
  filled : ∀ p ∈ ps, v.Filled (w.spot p)
  distinct : gone.Nodup
  each : ∀ c ∈ gone, c.Usable ∧ c.parts ∉ ss ∧ (w.tree.bytes? c.parts).isSome = true ∧ v.tree.bytes? c.parts = none ∧
    (w.logFile ≠ some c.parts → w.tree.begun c.parts = true)

namespace Footprint
variable {ss : List Spot} {ps gone : List Path} {u : Workspace}

theorem none (ss : List Spot) (sound : v.Sound) (apart : w.Apart [] v) : Footprint ss [] [] w v :=
  ⟨sound, apart, by simp, by simp, by simp, by simp⟩

theorem after (earlier : Footprint ss ps gone w u) (sound : v.Sound) (apart : u.Apart [] v) :
    Footprint ss ps gone w v := by
  refine ⟨sound, earlier.apart.after apart, earlier.within, fun p member => (earlier.filled p member).kept apart (by simp),
    earlier.distinct, fun c member => ?_⟩
  obtain ⟨usable, outside, held, none, begun⟩ := earlier.each c member
  refine ⟨usable, outside, held, ?_, begun⟩
  have holds := apart.holds c.parts (by simp)
  simpa [none] using holds

theorem before (apart : w.Apart [] u) (later : Footprint ss ps gone u v) : Footprint ss ps gone w v := by
  have spots := Workspace.spotSame apart.cwd
  refine ⟨later.sound, spots ▸ apart.before later.apart, spots ▸ later.within, spots ▸ later.filled, later.distinct,
    fun c member => ?_⟩
  obtain ⟨usable, outside, held, none, begun⟩ := later.each c member
  refine ⟨usable, outside, apart.holds c.parts (by simp) ▸ held, none, fun unlogged => ?_⟩
  have known := begun (apart.logFile ▸ unlogged)
  unfold FileTree.begun at known ⊢
  rwa [apart.same _ (by simp) unlogged] at known

theorem ofWrote (wrote : Wrote ss ps w v) : Footprint ss ps [] w v :=
  ⟨wrote.sound, by simpa using wrote.apart, wrote.within, wrote.filled, by simp, by simp⟩

/-- What is removed after a pass is none of its modules, and so it was there before. -/
theorem ofTidied {f : Forest} {o p : Output} (wrote : Wrote ss ps w u) (tidied : Tidied r f o gone u p v)
    (registered : ∀ c : Path, c.Usable → c.parts ∈ ss → c ∈ o.registered)
    (marked : ∀ c ∈ f.generated, w.logFile ≠ some c.parts → w.tree.begun c.parts = true) :
    Footprint ss ps gone w v := by
  have spared : ∀ p ∈ ps, w.spot p ∉ gone.map Path.parts := by
    intro p member removed
    obtain ⟨c, taken, same⟩ := List.mem_map.mp removed
    obtain ⟨usable, fresh, _⟩ := tidied.each c taken
    exact fresh (registered c usable (same ▸ wrote.within (List.mem_map_of_mem member)))
  have apart := wrote.apart.trans tidied.apart
  refine ⟨tidied.sound, apart, wrote.within,
    fun p member => (wrote.filled p member).kept tidied.apart (spared p member), tidied.distinct, fun c member => ?_⟩
  obtain ⟨usable, fresh, held, none, known⟩ := tidied.each c member
  -- Whatever the pass wrote is registered, so this file is as it was before the pass.
  have outside : c.parts ∉ ss := fun inside => fresh (registered c usable inside)
  have unwritten : c.parts ∉ ps.map w.spot := fun inside => outside (wrote.within inside)
  refine ⟨usable, outside, wrote.apart.holds c.parts unwritten ▸ held, none, fun unlogged => ?_⟩
  rcases known (wrote.apart.logFile ▸ unlogged) with listed | headed
  · exact marked c listed unlogged
  · have begun := Workspace.headedBegun headed
    unfold FileTree.begun at begun ⊢
    rwa [wrote.apart.same _ unwritten unlogged] at begun

theorem spotsGone (footprint : Footprint ss ps gone w v) : gone.map w.spot = gone.map Path.parts := by
  refine List.map_congr_left fun c member => ?_
  unfold Workspace.spot
  rw [(footprint.each c member).1.straight.absolute]

theorem goneIff (footprint : Footprint ss ps gone w v) (s : Spot) :
    s ∈ gone.map w.spot ↔ (w.tree.bytes? s).isSome = true ∧ v.tree.bytes? s = Option.none := by
  rw [footprint.spotsGone]
  constructor
  · intro member
    obtain ⟨c, taken, rfl⟩ := List.mem_map.mp member
    obtain ⟨_, _, held, none, _⟩ := footprint.each c taken
    exact ⟨held, none⟩
  · rintro ⟨held, none⟩
    by_contra kept
    by_cases written : s ∈ ps.map w.spot
    · obtain ⟨p, member, rfl⟩ := List.mem_map.mp written
      have stands := (footprint.filled p member).stands
      simp [none] at stands
    · have holds := footprint.apart.holds s (by simpa using ⟨by simpa using written, by simpa using kept⟩)
      simp [none, held] at holds

theorem distinctSpots (footprint : Footprint ss ps gone w v) : (gone.map w.spot).Nodup := by
  rw [footprint.spotsGone]
  refine List.Nodup.map_on ?_ footprint.distinct
  intro c taken d takenToo same
  exact Path.anchoredEq (footprint.each c taken).1.anchored (footprint.each d takenToo).1.anchored same

theorem outside (footprint : Footprint ss ps gone w v) {s : Spot} (elsewhere : s ∉ ss) (unlogged : w.logFile ≠ some s) :
    v.tree.bytes? s = w.tree.bytes? s ∨ v.tree.bytes? s = Option.none ∧ w.tree.begun s = true := by
  have unwritten : s ∉ ps.map w.spot := fun inside => elsewhere (footprint.within inside)
  by_cases removed : s ∈ gone.map Path.parts
  · obtain ⟨c, taken, rfl⟩ := List.mem_map.mp removed
    obtain ⟨_, _, _, none, begun⟩ := footprint.each c taken
    exact .inr ⟨none, begun unlogged⟩
  · refine .inl (footprint.apart.same s ?_ unlogged)
    rw [List.mem_append, not_or]
    exact ⟨unwritten, removed⟩

end Footprint

/-- What the outcome of a run says about its footprint. -/
structure Told (r : Request) (ss : List Spot) (ps gone : List Path) (dryRun : Bool) (w v : Workspace)
    (result : Except Failure (Outcome Generation)) : Prop where
  noted : ∀ g, result = .ok (.ok g) → g.output.written = ps ∧ g.output.removed = gone ∧
    g.output.registered.map Path.parts = ss
  filled : ∀ g, result = .ok (.ok g) → dryRun = false → g.pass.writeErrors = [] → ∀ s ∈ ss, v.Filled s
  early : (∀ g, result ≠ .ok (.ok g)) → gone = []
  handed : ∀ g, result = .ok (.ok g) → ∃ options : PassOptions,
    g.pass.suppressed = suppressedNames options.warningsAsErrors g.forest.units ∧
    g.output.registered = (Output.handed options g.forest.units).map fun m => (g.output.target m).absolute w.cwd
  met : r.isFull = false → ∀ g, result = .ok (.ok g) → ∀ c ∈ gone, c ∈ g.forest.generated
  read : ∀ g, result = .ok (.ok g) → ∀ u ∈ g.forest.units, u.IsRead

theorem Told.none (r : Request) (ss : List Spot) (ps : List Path) (dryRun : Bool) (w : Workspace)
    {result : Except Failure (Outcome Generation)} (early : ∀ g, result ≠ .ok (.ok g)) :
    Told r ss ps [] dryRun w v result :=
  ⟨fun g same => absurd same (early g), fun g same => absurd same (early g), fun _ => rfl,
    fun g same => absurd same (early g), by simp, fun g same => absurd same (early g)⟩

theorem concludeLeaves {forest : Forest} {pass : PassResult} {o : Output} {failure : Option Failure}
    {result : Except Failure (Outcome Generation)} (filed : ∀ e, failure = some e → ∃ f, e = .file f)
    (ran : (Generation.conclude forest pass (o, failure)).runIn w = (result, v)) :
    (∃ rs, v = w.noted rs) ∧ ∃ error, result = .ok (.ok ⟨forest, pass, o, error⟩) := by
  unfold Generation.conclude at ran
  cases failure with
  | none =>
    cases ran
    exact ⟨⟨[_], rfl⟩, _, rfl⟩
  | some e =>
    obtain ⟨f, rfl⟩ := filed e rfl
    cases ran
    exact ⟨⟨[], rfl⟩, _, rfl⟩

section
variable {s : Settings} {forest : Forest} {directory : Option Path} {u : Workspace}

theorem placesAre (dryRun : Bool) (ready : r.prepare.runIn w = (.ok (s, forest), u))
    (aim : (r.aim s).runIn u = (.ok directory, u)) :
    r.places w = (Output.handed s.passOptions forest.units).map ((Request.opened directory dryRun s).spot u) := by
  unfold Request.places Request.handed
  rw [bindOf ready]
  dsimp only
  rw [bindOf (outputRun false aim)]
  rfl

/-- What is known of a forest that a run has read. -/
structure Gathered (forest : Forest) (u : Workspace) : Prop where
  sound : u.Sound
  usable : ∀ c ∈ forest.generated, c.Usable
  begun : ∀ c ∈ forest.generated, u.logFile ≠ some c.parts → u.tree.begun c.parts = true
  read : ∀ unit ∈ forest.units, unit.IsRead

theorem prepareGathers (sound : w.Sound) (ready : r.prepare.runIn w = (.ok (s, forest), u)) : Gathered forest u := by
  obtain ⟨loaded, roots, load, resolved, scan⟩ := Request.prepareStages ready
  obtain ⟨loadedSound, _⟩ := calmSpares (Settings.calmLoad _ _) sound load
  obtain ⟨readySound, scanned⟩ := calmSpares (Forest.calmLoad _ _ _) loadedSound scan
  have straight := (Request.rootsOk resolved).2.1
  refine ⟨readySound, fun c member => (Forest.loadUsable loadedSound straight scan c member).1,
    fun c member unlogged => ?_, fun unit known => ?_⟩
  · have marked := (Forest.loadMarked loadedSound straight (scanned.logFile ▸ unlogged) scan).mp member
    have begun := Workspace.markedBegun marked.2
    unfold FileTree.begun at begun ⊢
    rwa [scanned.same _ (by simp) (scanned.logFile ▸ unlogged)]
  · obtain ⟨_, _, _, read⟩ := Forest.loadRead loadedSound straight scan unit known
    exact read

section
variable {options : PassOptions} {o p q : Output} {pass : PassResult} {ps gone : List Path} {x y : Workspace}

theorem finishedFootprint (gathered : Gathered forest u)
    (wrote : Wrote ((Output.handed options forest.units).map (o.spot u)) ps u x)
    (registered : p.registered = (Output.handed options forest.units).map fun m => (o.target m).absolute u.cwd)
    (taken : Tidied r forest p gone x q y) :
    Footprint ((Output.handed options forest.units).map (o.spot u)) ps gone u y :=
  .ofTidied wrote taken (fun _ own inside => registered ▸ (Output.memSpots own.anchored).mpr inside) gathered.begun

theorem finishedTold {rs : List Log.Record} {error : Option String} (gathered : Gathered forest u)
    (fresh : o.written = [] ∧ o.removed = [] ∧ o.registered = [])
    (passed : (passOnto o options forest.units).runIn u = (.ok (pass, p), x))
    (enrolled : Output.Enrolled ((Output.handed options forest.units).map fun m => (o.target m).absolute u.cwd) ps o p)
    (taken : Tidied r forest p gone x q y)
    (footprint : Footprint ((Output.handed options forest.units).map (o.spot u)) ps gone u y) :
    Told r ((Output.handed options forest.units).map (o.spot u)) ps gone o.dryRun u (y.noted rs)
      (.ok (.ok ⟨forest, pass, q, error⟩)) where
  noted := by
    rintro _ ⟨⟩
    rw [taken.same]
    refine ⟨by rw [enrolled.written, fresh.1]; rfl, by rw [enrolled.removed, fresh.2.1]; rfl, ?_⟩
    dsimp only
    rw [enrolled.registered, fresh.2.2, List.nil_append, List.map_map]
    rfl
  filled := by
    rintro _ ⟨⟩ isReal fine s inside
    obtain ⟨m, member, rfl⟩ := List.mem_map.mp inside
    have spared : o.spot u m ∉ gone.map Path.parts := by
      intro removed
      obtain ⟨c, known, same⟩ := List.mem_map.mp removed
      exact (footprint.each c known).2.1 (same ▸ inside)
    have filled := Output.passFills gathered.sound isReal passed fine m member
    exact (filled.kept taken.apart spared).kept (Workspace.notedApart rs y) (by simp)
  early := by simp
  handed := by
    rintro _ ⟨⟩
    obtain ⟨_, _, _, _, result⟩ := Output.passStages passed
    refine ⟨options, by rw [result]; rfl, ?_⟩
    have targets (m : GeneratedSource) : q.target m = o.target m :=
      Output.targetSame (by rw [taken.same]; exact enrolled.aims) m
    simp only [targets]
    rw [taken.same]
    exact enrolled.registered.trans (by rw [fresh.2.2]; rfl)
  met := by
    rintro part _ ⟨⟩
    exact taken.met part
  read := by
    rintro _ ⟨⟩
    exact gathered.read

end

theorem stagesLeave {result : Except Failure (Outcome Generation)} (sound : w.Sound)
    (ready : r.prepare.runIn w = (.ok (s, forest), u)) (aim : (r.aim s).runIn u = (.ok directory, u))
    (ran : (do
      let (pass, o) ← passOnto (Request.opened directory dryRun s) s.passOptions forest.units
      Generation.conclude forest pass (← r.tidy forest o)).runIn u = (result, v)) :
    ∃ ps gone, Footprint (r.places w) ps gone u v ∧ Told r (r.places w) ps gone dryRun u v result := by
  have gathered := prepareGathers sound ready
  rw [placesAre dryRun ready aim]
  rw [bindIn] at ran
  cases passed : (passOnto (Request.opened directory dryRun s) s.passOptions forest.units).runIn u with
  | mk outcome y =>
    obtain ⟨ps, wrote, kept⟩ := Output.passLeaves gathered.sound passed
    rw [passed] at ran
    cases outcome with
    | error e =>
      cases ran
      exact ⟨ps, [], .ofWrote wrote, .none _ _ _ _ _ (by simp)⟩
    | ok pair =>
      obtain ⟨pass, p⟩ := pair
      have enrolled := kept pass p rfl
      have aimed : ∀ d, p.directory = some d → d.Straight := fun d told =>
        (Request.aimOk aim).2.1 d (enrolled.aims.1.symm.trans told)
      dsimp only at ran
      rw [bindIn] at ran
      cases tidied : (r.tidy forest p).runIn y with
      | mk outcome z =>
        rw [tidied] at ran
        rcases tidyLeaves wrote.sound gathered.usable aimed tidied with
          ⟨e, rfl, still, later⟩ | ⟨q, failure, gone, rfl, taken, filed⟩
        · cases ran
          exact ⟨ps, [], (Footprint.ofWrote wrote).after still later, .none _ _ _ _ _ (by simp)⟩
        · obtain ⟨⟨rs, rfl⟩, error, rfl⟩ := concludeLeaves filed ran
          have footprint := finishedFootprint gathered wrote enrolled.registered taken
          exact ⟨ps, gone, footprint.after (Workspace.notedSound rs taken.sound) (Workspace.notedApart rs z),
            finishedTold gathered ⟨rfl, rfl, rfl⟩ passed enrolled taken footprint⟩

end

theorem generateLeaves {result : Except Failure (Outcome Generation)} (sound : w.Sound)
    (ran : (generate r dryRun).runIn w = (result, v)) :
    ∃ ps gone, Footprint (r.places w) ps gone w v ∧ Told r (r.places w) ps gone dryRun w v result := by
  rw [generateSteps, bindIn] at ran
  cases prepared : (attemptSettings r.prepare).runIn w with
  | mk outcome u =>
    obtain ⟨soundToo, apart⟩ := calmSpares (calmAttemptSettings r.calmPrepare) sound prepared
    rw [prepared] at ran
    cases outcome with
    | error e =>
      cases ran
      exact ⟨[], [], .none _ soundToo apart, .none _ _ _ _ _ (by simp)⟩
    | ok told =>
      cases told with
      | error message =>
        cases ran
        exact ⟨[], [], .none _ soundToo apart, .none _ _ _ _ _ (by simp)⟩
      | ok pair =>
        obtain ⟨s, forest⟩ := pair
        have ready := attemptSettingsOk prepared
        dsimp only at ran
        rw [bindIn] at ran
        cases opened : (r.output s dryRun).runIn u with
        | mk outcome x =>
          rw [opened] at ran
          cases outcome with
          | error e =>
            obtain ⟨still, later⟩ := calmSpares (calmOutput r s dryRun) soundToo opened
            cases ran
            exact ⟨[], [], .none _ still (apart.trans later), .none _ _ _ _ _ (by simp)⟩
          | ok o =>
            obtain ⟨rfl, directory, aim, rfl⟩ := Request.outputOk opened
            obtain ⟨ps, gone, footprint, told⟩ := stagesLeave sound ready aim ran
            exact ⟨ps, gone, footprint.before apart, { told with
              handed := fun g same => apart.cwd ▸ told.handed g same }⟩

/-! The names of what is left. -/

theorem Path.childSpot (directory : Path) {n : String} (entry : isEntryName n = true) (cwd : Spot) :
    ∃ here, ((directory.child n).absolute cwd).parts = here ++ [n] := by
  have plain : n ≠ ".." := (entryNameParts entry).2.2.1
  have joined : directory.child n = ⟨directory.anchor, directory.parts ++ [n]⟩ := by
    unfold child
    rw [ofEntryName entry]
    rfl
  have last (names : List String) : withoutDots (names ++ [n]) = withoutDots names ++ [n] := by
    unfold withoutDots
    rw [List.foldl_append, List.foldl_cons, if_neg plain, List.foldl_nil]
  unfold absolute
  rw [joined]
  dsimp only
  split
  · exact ⟨_, last _⟩
  · rw [← List.append_assoc]
    exact ⟨_, last _⟩

theorem placesNamed {s : Spot} (sound : w.Sound) (inside : s ∈ r.places w) :
    ∃ here name, s = here ++ [Naming.outputName name] := by
  unfold Request.places at inside
  split at inside
  · rename_i ms o v ran
    unfold Request.handed at ran
    obtain ⟨⟨settings, forest⟩, u, ready, ran⟩ := bindOk ran
    obtain ⟨_, x, _, last⟩ := bindOk ran
    cases last
    obtain ⟨m, member, rfl⟩ := List.mem_map.mp inside
    obtain ⟨unit, known, p, placed, name, _⟩ := handedFrom member
    obtain ⟨_, read⟩ := (prepareGathers sound ready).read unit known
    have entry : Path.isEntryName m.name = true := name ▸ Naming.outputEntryName (readPlain read p placed '/' (.inr (.inl rfl)))
    have below (d : Path) : ∃ here name, ((d.child m.name).absolute v.cwd).parts = here ++ [Naming.outputName name] := by
      obtain ⟨here, last⟩ := d.childSpot entry v.cwd
      exact ⟨here, p.name, name ▸ last⟩
    unfold Output.spot Output.target
    split
    · exact below _
    · exact below _
    · exact below _
  · cases inside

/-- The names that temporary files have. -/
def isTemporaryName (n : String) : Bool :=
  ".componentgen_".toList.isPrefixOf n.toList && ".tmp".toList.isSuffixOf n.toList

theorem temporaryNamed (n : Nat) : isTemporaryName (temporaryName n) = true := by
  unfold isTemporaryName temporaryName
  rw [Bool.and_eq_true, List.isPrefixOf_iff_prefix, List.isSuffixOf_iff_suffix]
  simp only [String.toList_append, List.append_assoc]
  exact ⟨List.prefix_append _ _, by rw [← List.append_assoc]; exact List.suffix_append _ _⟩

theorem outputNotTemporary (name : String) : isTemporaryName (Naming.outputName name) = false := by
  unfold isTemporaryName
  rw [Bool.and_eq_false_iff]
  refine .inr ?_
  rw [Bool.eq_false_iff, ne_eq, List.isSuffixOf_iff_suffix, Naming.outputChars]
  intro temporary
  have source : "s.py".toList <:+ Naming.snakeChars name.toList ++ "_getters.py".toList :=
    List.IsSuffix.trans ⟨"_getter".toList, rfl⟩ (List.suffix_append _ _)
  have within := List.suffix_of_suffix_length_le temporary source (by decide)
  exact absurd within (by decide)

/-- A module that cannot be put in its place, and two obsolete ones of which the second cannot be removed. -/
def thwarted : Workspace :=
  let encoded (text : String) : List UInt8 := Text.Utf8.encode text.toList
  { tree := [
      (["a.py"], .file (encoded "@require_component_getters\nclass A: pass\n")),
      (["c.yml"], .file (encoded "sources: [a.py, x_getters.py, y_getters.py]\n")),
      (["x_getters.py"], .file (encoded (generatedMarker ++ "\n"))),
      (["y_getters.py"], .file (encoded (generatedMarker ++ "\n")))]
    refusals := { replacing := ["/a_getters.py"], removing := ["/y_getters.py"] } }

end AccessorForge
