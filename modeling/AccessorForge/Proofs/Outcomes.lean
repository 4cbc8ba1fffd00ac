import AccessorForge.Proofs.ClassNames
import AccessorForge.Proofs.Faults
import AccessorForge.Proofs.Footprints
/-! Commands that end with a result. What stops them instead are names that no file can have, settings that are no UTF-8,
paths of which it cannot be told what stands there, and texts without bytes; without these every setback has its place
in the result. -/
namespace AccessorForge
open Job Running
variable {w v : Workspace} {p : Path} {r : Request} {s : Settings}

/-! Settings. -/

namespace Workspace

/-- Whether a path leads to a file, as far as it can be told. -/
def isFileAt (w : Workspace) (p : Path) : Bool :=
  match w.tree.entry? w.cwd p with
  | .ok e => e.any Entry.isFile
  | .error _ => false

/-- A file of UTF-8 text that has a value or is refused for its format. Lines of the log do not go there. -/
structure Legible (w : Workspace) (p : Path) : Prop where
  unlogged : w.logFile ≠ some (w.spot p)
  decodes : ∀ bytes, w.tree.bytes? (w.spot p) = some bytes → ∃ cs, Text.Utf8.decode bytes = .ok cs ∧
    ∀ f, Yaml.read (String.ofList (Text.LineEnds.unify cs)) = .error f → f = .malformed

def isLegible (w : Workspace) (p : Path) : Bool :=
  decide (w.logFile ≠ some (w.spot p)) && match w.tree.bytes? (w.spot p) with
    | none => true
    | some bytes =>
      match Text.Utf8.decode bytes with
      | .error _ => false
      | .ok cs =>
        match Yaml.read (String.ofList (Text.LineEnds.unify cs)) with
        | .ok _ => true
        | .error f => decide (f = .malformed)

theorem legibleIf (checked : w.isLegible p = true) : w.Legible p := by
  unfold isLegible at checked
  obtain ⟨unlogged, decodes⟩ := Bool.and_eq_true_iff.mp checked
  refine ⟨of_decide_eq_true unlogged, fun bytes held => ?_⟩
  rw [held] at decodes
  dsimp only at decodes
  cases decoded : Text.Utf8.decode bytes with
  | error f =>
    rw [decoded] at decodes
    cases decodes
  | ok cs =>
    refine ⟨cs, rfl, fun f refused => ?_⟩
    rw [decoded] at decodes
    dsimp only at decodes
    rw [refused] at decodes
    exact of_decide_eq_true decodes

def answersAt (w : Workspace) (p : Path) : Bool := (w.tree.entry? w.cwd p).isOk

theorem answersIf (checked : w.answersAt p = true) : w.Answers p := by
  unfold answersAt at checked
  cases told : w.tree.entry? w.cwd p with
  | ok e => exact ⟨e, told⟩
  | error o =>
    rw [told] at checked
    cases checked

theorem isFileTold (answered : w.Answers p) : (isFile p).runIn w = (.ok (w.isFileAt p), w) := by
  obtain ⟨e, told⟩ := answered
  have asked : ( entry? p).runIn w = (.ok e, w) := by rw [entryIn, told]
  unfold isFile isFileAt
  rw [bindOf asked, told]
  rfl

theorem unflawedFile (stands : w.isFileAt p = true) : p.flaw? = none := by
  unfold isFileAt FileTree.entry? at stands
  by_contra flawed
  rw [if_pos (Option.isSome_iff_ne_none.mpr flawed)] at stands
  cases stands

end Workspace

namespace Settings

def places (path : Option Path) (w : Workspace) : List Path :=
  match path with
  | some p => [p]
  | none => (searchPlaces maxSearchPlaces ⟨"/", w.cwd⟩).map (·.child fileName)

theorem firstFileTold {ps : List Path} (answered : ∀ p ∈ ps, w.Answers p) :
    ( firstFile? ps).runIn w = (.ok (ps.find? w.isFileAt), w) := by
  induction ps with
  | nil => rfl
  | cons p rest ih =>
    unfold firstFile?
    rw [bindOf (Workspace.isFileTold (answered p List.mem_cons_self))]
    cases stands : w.isFileAt p with
    | true =>
      rw [List.find?_cons_of_pos stands]
      rfl
    | false =>
      rw [List.find?_cons_of_neg (by simp [stands])]
      exact ih fun q deeper => answered q (List.mem_cons_of_mem _ deeper)

theorem findTold (sound : w.Sound) (answered : ∀ p ∈ places none w, w.Answers p) :
    ( find? none).runIn w = (.ok ((places none w).find? w.isFileAt), w) := by
  have start : Path.Usable ⟨"/", w.cwd⟩ := ⟨rfl, fun n member => sound.tree.proper _ _ sound.inside n member⟩
  have resolved : (resolve ((none : Option Path).getD ⟨"/", w.cwd⟩)).runIn w = (.ok ⟨"/", w.cwd⟩, w) := by
    rw [Option.getD_none, resolveIn, start.firstUnflawed, start.straight.absolute]
  unfold find?
  rw [bindOf (getIn w), bindOf resolved]
  exact firstFileTold answered

def ofText (p : Path) (cwd : Spot) (text : String) : Except Failure Settings :=
  match Yaml.read text with
  | .ok v => (ofValue p (p.parent.absolute cwd) v).mapError .settings
  | .error .malformed => .error (.settings ("Invalid YAML in " ++ p.text))
  | .error f => .error (.document f)

def openedRecord (p : Path) : Log.Record := ⟨Log.debug, logger, "Loading generator config from " ++ p.text⟩

def loadedRecord (p : Path) (s : Settings) : Log.Record :=
  ⟨Log.info, logger, "Loaded config " ++ p.text ++ " (" ++ toString s.sources.length ++ " source root(s))"⟩

theorem readFileIn (answered : w.Answers p) : (readFile p).runIn w =
    if w.isFileAt p then
      match (attempt (readText p)).runIn (w.noted [openedRecord p]) with
      | (.ok (.ok text), u) =>
        match ofText p u.cwd text with
        | .ok s => (.ok s, u.note (loadedRecord p s))
        | .error f => (.error f, u)
      | (.ok (.error f), u) => (.error (.settings ("Cannot read " ++ p.text ++ ": " ++ f.message)), u)
      | (.error f, u) => (.error f, u)
    else (.error (.settings ("Config file not found: " ++ p.text)), w) := by
  have logged : (log Log.debug logger ("Loading generator config from " ++ p.text)).runIn w =
    (.ok (), w.noted [openedRecord p]) := rfl
  have given {α : Type} (a : α) (w : Workspace) : (pure a : Job α).runIn w = (.ok a, w) := rfl
  unfold readFile
  rw [bindOf (Workspace.isFileTold answered)]
  cases w.isFileAt p with
  | false => rfl
  | true =>
    simp only [Bool.not_true, Bool.false_eq_true, if_false, if_true]
    rw [bindOf logged, bindIn]
    cases (attempt (readText p)).runIn (w.noted [openedRecord p]) with
    | mk tried u =>
      cases tried with
      | error f => rfl
      | ok tried =>
        cases tried with
        | error f => rfl
        | ok text =>
          dsimp only
          rw [bindOf (given text u)]
          unfold ofText
          cases Yaml.read text with
          | error f => cases f <;> rfl
          | ok value =>
            dsimp only
            rw [bindOf (given value u), bindOf (getIn u)]
            cases ofValue p (p.parent.absolute u.cwd) value <;> rfl

theorem readLegible (sound : w.Sound) (unflawed : p.flaw? = none) (legible : w.Legible p) (rs : List Log.Record) :
    ∃ told u, (attempt (readText p)).runIn (w.noted rs) = (.ok told, u) ∧
      ∀ text, told = .ok text → ∀ f, Yaml.read text = .error f → f = .malformed := by
  obtain ⟨unlogged, decodes⟩ := legible
  rw [attemptIn]
  unfold readText
  rw [bindIn]
  rcases readBytesStays unflawed (w.noted rs) with ⟨bytes, read⟩ | ⟨f, failed⟩
  · obtain ⟨_, spot, located, held⟩ := Output.readBytesFrom read
    have own : spot = w.spot p := by
      rw [(Workspace.notedSound rs sound).located located, (Workspace.notedApart rs w).cwd]
      rfl
    obtain ⟨cs, decoded, well⟩ := decodes bytes (own ▸ Workspace.notedBytes rs (own ▸ unlogged) ▸ held)
    rw [read]
    dsimp only
    rw [decoded]
    refine ⟨_, _, rfl, ?_⟩
    rintro _ ⟨⟩
    exact well
  · rw [failed]
    exact ⟨_, _, rfl, by simp⟩

end Settings

/-- A job that ends with its result, or with a message about the settings. -/
def Job.Settles {α : Type} (x : Job α) (w : Workspace) : Prop :=
  ∃ (told : Except String α) (v : Workspace), x.runIn w = (told.mapError .settings, v)

namespace Settings

theorem readFileSettles (sound : w.Sound) (answered : w.Answers p) (legible : w.isFileAt p = true → w.Legible p) :
    (readFile p).Settles w := by
  have ran := readFileIn answered
  cases stands : w.isFileAt p with
  | false =>
    rw [stands] at ran
    exact ⟨.error _, _, ran⟩
  | true =>
    obtain ⟨told, u, read, well⟩ := readLegible sound (Workspace.unflawedFile stands) (legible stands) [openedRecord p]
    rw [stands, if_pos rfl, read] at ran
    cases told with
    | error f => exact ⟨.error _, _, ran⟩
    | ok text =>
      dsimp only at ran
      unfold ofText at ran
      cases value : Yaml.read text with
      | error f =>
        cases well text rfl f value
        rw [value] at ran
        exact ⟨.error _, _, ran⟩
      | ok v =>
        rw [value] at ran
        dsimp only at ran
        cases settled : ofValue p (p.parent.absolute u.cwd) v with
        | error message =>
          rw [settled] at ran
          exact ⟨.error message, _, ran⟩
        | ok s =>
          rw [settled] at ran
          exact ⟨.ok s, _, ran⟩

theorem loadSettles {path : Option Path} (sound : w.Sound) (answered : ∀ p ∈ places path w, w.Answers p)
    (legible : ∀ p, (places path w).find? w.isFileAt = some p → w.Legible p) (search : Bool) :
    (load path search).Settles w := by
  rw [loadSteps]
  cases path with
  | some p =>
    exact readFileSettles sound (answered p List.mem_cons_self) fun stands => legible p (List.find?_cons_of_pos stands)
  | none =>
    cases search with
    | false => exact ⟨.ok _, _, rfl⟩
    | true =>
      have searched := findTold sound answered
      simp only [if_true]
      unfold Job.Settles
      rw [bindOf searched]
      cases found : (places none w).find? w.isFileAt with
      | none => exact ⟨.ok _, _, rfl⟩
      | some p => exact readFileSettles sound (answered p (List.mem_of_find?_eq_some found)) fun _ => legible p found

end Settings

/-! Scans. -/

namespace Forest
variable {f forest : Forest} {ps roots : List Path} {includes excludes : List String}

theorem addFileTells (sound : w.Sound) (usable : p.Usable) (ok : (f.addFile p).runIn w = (.ok forest, v)) :
    f.errors <+: forest.errors ∧
      (w.marked p = false → w.unit? p = none → ∃ message, p.text ++ ": " ++ message ∈ forest.errors) := by
  obtain ⟨told, ran, known⟩ := readTextIn sound usable.straight usable.unflawed
  have named (g : Forest) (message : String) : p.text ++ ": " ++ message ∈ (g.noteError p message).errors :=
    List.mem_append_right _ List.mem_cons_self
  unfold addFile at ok
  rw [bindOf ran] at ok
  cases told with
  | error message =>
    cases ok
    exact ⟨List.prefix_append _ _, fun _ _ => ⟨message, named f message⟩⟩
  | ok text =>
    have read : w.text? p = some text := known.symm
    dsimp only at ok
    cases generated : isGenerated text with
    | true =>
      rw [generated] at ok
      cases ok
      refine ⟨List.prefix_rfl, fun unmarked => ?_⟩
      unfold Workspace.marked at unmarked
      rw [read, Option.any_some, generated] at unmarked
      cases unmarked
    | false =>
      rw [generated] at ok
      obtain ⟨name, x, called, later⟩ := bindOk ok
      cases made : SourceUnit.read name text (some p) with
      | error fault =>
        rw [made] at later
        cases later
        exact ⟨List.prefix_append _ _, fun _ _ => ⟨fault.message, named f fault.message⟩⟩
      | ok unit =>
        rw [made] at later
        cases later
        refine ⟨List.prefix_rfl, fun _ missing => ?_⟩
        unfold Workspace.unit? at missing
        rw [read, Option.bind_some, generated, called] at missing
        simp only [Bool.false_eq_true, if_false, made] at missing
        cases missing

theorem addFilesTell (sound : w.Sound) (usable : ∀ q ∈ ps, q.Usable) (unlogged : ∀ q ∈ ps, w.logFile ≠ some q.parts)
    (ok : (f.addFiles ps).runIn w = (.ok forest, v)) : f.errors <+: forest.errors ∧
      ∀ q ∈ ps, w.marked q = false → w.unit? q = none → ∃ message, q.text ++ ": " ++ message ∈ forest.errors := by
  induction ps generalizing f w with
  | nil =>
    cases ok
    exact ⟨List.prefix_rfl, by simp⟩
  | cons p rest ih =>
    obtain ⟨next, x, added, later⟩ := bindOk ok
    obtain ⟨more, own⟩ := addFileTells sound (usable p List.mem_cons_self) added
    obtain ⟨rs, rfl⟩ := notedIn (calmAddFile f p) added
    have before := Workspace.notedApart rs w
    have still := Workspace.notedSound rs sound
    obtain ⟨most, others⟩ := ih still (fun q deeper => usable q (List.mem_cons_of_mem _ deeper))
      (fun q deeper => before.logFile ▸ unlogged q (List.mem_cons_of_mem _ deeper)) later
    refine ⟨more.trans most, fun q member unmarked missing => ?_⟩
    rcases List.mem_cons.mp member with rfl | deeper
    · obtain ⟨message, told⟩ := own unmarked missing
      exact ⟨message, most.subset told⟩
    · have same := Workspace.notedBytes rs (unlogged q member)
      refine others q deeper ((Workspace.markedSame before.refusals same).trans unmarked) ?_
      rw [Workspace.unitSame sound still (fun s => Workspace.notedHolds rs w _) (usable q member) before.refusals same]
      exact missing

/-- Of every file that was found and could not be used there is an error. -/
theorem loadTells (sound : w.Sound) (straight : ∀ root ∈ roots, root.Straight)
    (unlogged : ∀ q ∈ w.scanned (patterns includes excludes) roots, w.logFile ≠ some q.parts)
    (ok : (load roots includes excludes).runIn w = (.ok forest, v)) :
    ∀ q ∈ w.scanned (patterns includes excludes) roots, w.marked q = false → w.unit? q = none →
      ∃ message, q.text ++ ": " ++ message ∈ forest.errors := by
  obtain ⟨_, rs, x, added⟩ := loadStages sound straight ok
  have usable := scannedUsable (patterns includes excludes) sound straight
  have before := Workspace.notedApart rs w
  have still := Workspace.notedSound rs sound
  have told := (addFilesTell still usable (fun q member => before.logFile ▸ unlogged q member) added).2
  intro q member unmarked missing
  have same := Workspace.notedBytes rs (unlogged q member)
  refine told q member ((Workspace.markedSame before.refusals same).trans unmarked) ?_
  rw [Workspace.unitSame sound still (fun s => Workspace.notedHolds rs w _) (usable q member) before.refusals same]
  exact missing

end Forest

/-! Requests. -/

namespace Request

def rootPaths (r : Request) (s : Settings) : List Path := if r.isFull then s.sources.map s.root.child else r.paths

def aimPath (r : Request) (s : Settings) : Option Path :=
  match r.outputDir with
  | some d => some d
  | none => s.outputDir.map s.root.child

def sources (r : Request) (s : Settings) (w : Workspace) : List Path :=
  w.scanned (Forest.patterns s.includePatterns s.excludePatterns) ((r.rootPaths s).map (·.absolute w.cwd))

/-- With these settings, a request names paths that files can have, it can be told what stands at its roots, and the
modules of the sources can be named. The log is none of them. -/
structure Approachable (r : Request) (s : Settings) (w : Workspace) : Prop where
  roots : ∀ p ∈ r.rootPaths s, p.firstFlaw? = none ∧ w.Answers (p.absolute w.cwd)
  aim : ∀ d, r.aimPath s = some d → d.firstFlaw? = none
  sources : ∀ q ∈ r.sources s w, w.logFile ≠ some q.parts ∧ w.Reads q

/-- Nothing but the files stands in the way of a request. -/
structure Answerable (r : Request) (w : Workspace) : Prop where
  sound : w.Sound
  named : w.tree.Named
  places : ∀ p ∈ Settings.places r.settingsFile w, w.Answers p
  legible : ∀ p, (Settings.places r.settingsFile w).find? w.isFileAt = some p → w.Legible p
  within : ∀ s u, (Settings.load r.settingsFile true).runIn w = (.ok s, u) → r.Approachable s w

def isApproachable (r : Request) (s : Settings) (w : Workspace) : Bool :=
  ((r.rootPaths s).all fun p => decide (p.firstFlaw? = none) && w.answersAt (p.absolute w.cwd)) &&
    ((r.aimPath s).all fun d => decide (d.firstFlaw? = none)) &&
    (r.sources s w).all fun q => decide (w.logFile ≠ some q.parts) && ((moduleName q).runIn w).1.isOk

theorem approachableIf (sound : w.Sound) (checked : r.isApproachable s w = true) : r.Approachable s w := by
  unfold isApproachable at checked
  simp only [Bool.and_eq_true, List.all_eq_true, Option.all_eq_true, decide_eq_true_eq] at checked
  obtain ⟨⟨roots, aim⟩, sources⟩ := checked
  refine ⟨fun p member => (roots p member).imp_right Workspace.answersIf, aim,
    fun q member => ⟨(sources q member).1, fun text _ _ => ?_⟩⟩
  have usable : q.Usable := by
    refine Forest.scannedUsable _ sound (fun root known => ?_) q member
    obtain ⟨p, _, rfl⟩ := List.mem_map.mp known
    exact Path.straightAbsolute _ _
  have told := (sources q member).2
  cases named : (moduleName q).runIn w with
  | mk result u =>
    rw [named] at told
    cases result with
    | error f => cases told
    | ok name =>
      have still := (moduleNameSame sound sound (fun _ => rfl) usable named).1
      exact ⟨name, by rw [still]⟩

def isAnswerable (r : Request) (w : Workspace) : Bool :=
  w.tree.isSound && decide (w.tree.get? w.cwd = some .directory) && w.tree.isNamed &&
    (Settings.places r.settingsFile w).all w.answersAt &&
    ((Settings.places r.settingsFile w).find? w.isFileAt).all w.isLegible

theorem answerableIf (checked : r.isAnswerable w = true)
    (within : ∀ s u, (Settings.load r.settingsFile true).runIn w = (.ok s, u) → r.isApproachable s w = true) :
    r.Answerable w := by
  unfold isAnswerable at checked
  simp only [Bool.and_eq_true, List.all_eq_true, Option.all_eq_true, decide_eq_true_eq] at checked
  obtain ⟨⟨⟨⟨tree, inside⟩, named⟩, places⟩, legible⟩ := checked
  have sound : w.Sound := ⟨FileTree.soundIf tree, inside⟩
  exact ⟨sound, FileTree.namedIf named, fun p member => Workspace.answersIf (places p member),
    fun p found => Workspace.legibleIf (legible p found), fun s u loaded => approachableIf sound (within s u loaded)⟩

theorem resolveEach {α : Type} {f : α → Path} {xs : List α} (whole : ∀ x ∈ xs, (f x).firstFlaw? = none) :
    (xs.mapM fun x => resolve (f x)).runIn w = (.ok (xs.map fun x => (f x).absolute w.cwd), w) := by
  induction xs with
  | nil =>
    rw [List.mapM_nil]
    rfl
  | cons x rest ih =>
    have first : (resolve (f x)).runIn w = (.ok ((f x).absolute w.cwd), w) := by
      rw [resolveIn, whole x List.mem_cons_self]
    rw [List.mapM_cons, bindOf first, bindOf (ih fun y deeper => whole y (List.mem_cons_of_mem _ deeper))]
    rfl

theorem rootsRun (whole : ∀ p ∈ r.rootPaths s, p.firstFlaw? = none) :
    (r.roots s).runIn w = (.ok ((r.rootPaths s).map (·.absolute w.cwd)), w) := by
  unfold roots rootPaths at *
  cases full : r.isFull with
  | true =>
    rw [full] at whole
    have ran := @resolveEach w _ s.root.child s.sources fun x member => whole _ (List.mem_map_of_mem member)
    simp only [if_true, List.map_map]
    exact ran
  | false =>
    rw [full] at whole
    exact @resolveEach w _ id r.paths whole

theorem aimRun (whole : ∀ d, r.aimPath s = some d → d.firstFlaw? = none) :
    (r.aim s).runIn w = (.ok ((r.aimPath s).map (·.absolute w.cwd)), w) := by
  have resolved (d : Path) (known : r.aimPath s = some d) : (resolve d).runIn w = (.ok (d.absolute w.cwd), w) := by
    rw [resolveIn, whole d known]
  unfold aimPath at *
  unfold aim
  cases given : r.outputDir with
  | some d =>
    rw [given] at resolved
    dsimp only
    rw [bindOf (resolved d rfl)]
    rfl
  | none =>
    rw [given] at resolved
    dsimp only at *
    unfold Settings.outputPath
    cases settled : s.outputDir with
    | none => rfl
    | some d =>
      rw [settled] at resolved
      dsimp only
      rw [bindOf (resolved _ rfl)]
      rfl

end Request

/-! Targets. -/

theorem absoluteUnflawed (sound : w.Sound) (whole : p.firstFlaw? = none) : (p.absolute w.cwd).flaw? = none := by
  rw [Path.firstUnflawedIff] at whole
  rw [Path.unflawedIff, Path.absoluteParts p sound.dotless]
  have house (n : String) (member : n ∈ w.cwd) : Path.isUnpaired n = false ∧ Path.hasNulIn n = false :=
    (Path.properParts (sound.tree.proper _ _ sound.inside n member)).2.1
  intro n member
  rcases Path.followWithin member with start | own
  · split at start
    · cases start
    · exact house n start
  · exact whole n own

theorem Naming.outputUnflawed {name : String} (plain : Naming.IsPlain name) :
    Path.isUnpaired (Naming.outputName name) = false ∧ Path.hasNulIn (Naming.outputName name) = false := by
  have absent {c : Char} (separates : Text.Separates c) (outside : c ∉ "_getters.py".toList) :
      (Naming.outputName name).toList.contains c = false := by
    rw [Naming.outputChars, List.contains_eq_mem, decide_eq_false_iff_not, List.mem_append, not_or]
    exact ⟨Naming.snakePlain separates (plain c separates), outside⟩
  constructor
  · unfold Path.isUnpaired Text.Surrogate.isBroken Text.Surrogate.areBroken
    rw [absent (.inr (.inr (.inr rfl))) (by decide)]
    rfl
  · exact absent (.inr (.inr (.inl rfl))) (by decide)

theorem childUnflawed {d : Path} {n : String} (unflawed : d.flaw? = none) (entry : Path.isEntryName n = true)
    (own : Path.isUnpaired n = false ∧ Path.hasNulIn n = false) : (d.child n).flaw? = none := by
  rw [Path.unflawedIff] at unflawed ⊢
  unfold Path.child
  rw [Path.ofEntryName entry]
  intro m member
  rcases List.mem_append.mp member with above | last
  · exact unflawed m above
  · exact List.mem_singleton.mp last ▸ own

/-- What is made of a scan can be handed over: its targets are named for classes and stand beside sources, or in a directory
that was asked for. -/
theorem scannedDeliverable {roots : List Path} {forest : Forest} {directory : Option Path} {dryRun : Bool} (sound : w.Sound)
    (named : w.tree.Named) (straight : ∀ root ∈ roots, root.Straight)
    (scan : (Forest.load roots s.includePatterns s.excludePatterns).runIn w = (.ok forest, v))
    (aim : ∀ d, directory = some d → d.flaw? = none)
    (whole : dryRun = false → ∀ m ∈ Output.handed s.passOptions forest.units, Text.Surrogate.isBroken m.content = false) :
    ∀ m ∈ Output.handed s.passOptions forest.units, (Request.opened directory dryRun s).Deliverable m := by
  intro m member
  refine ⟨?_, fun isReal => whole isReal m member⟩
  obtain ⟨q, scanned, origin, name, plain, spelled⟩ := Forest.handedScanned sound straight scan member
  have entry : Path.isEntryName m.name = true := spelled ▸ Naming.outputEntryName (plain '/' (.inr (.inl rfl)))
  have own : Path.isUnpaired m.name = false ∧ Path.hasNulIn m.name = false := spelled ▸ Naming.outputUnflawed plain
  unfold Output.target Request.opened
  rw [origin]
  cases directory with
  | some d => exact childUnflawed (aim d rfl) entry own
  | none =>
    obtain ⟨usable, spelled⟩ := Workspace.scannedText sound named straight scanned
    dsimp only
    rw [spelled]
    exact childUnflawed (parentUnflawed usable.unflawed) entry own

/-! The end of a run. -/

theorem unansweredFails {d : Path} (unanswered : ¬ w.Answers d) : ∃ f, (generatedModulesIn d).runIn w = (.error (.file f), w) := by
  cases told : w.tree.entry? w.cwd d with
  | ok e => exact absurd ⟨e, told⟩ unanswered
  | error o =>
    have asked : ( entry? d).runIn w = (.error (.file ⟨o, d.text, none⟩), w) := by rw [entryIn, told]
    unfold generatedModulesIn modulePaths isDirectory
    rw [bindIn, bindIn, bindIn, asked]
    exact ⟨_, rfl⟩

namespace Request
variable {f : Forest} {o : Output}

theorem candidatesRun (sound : w.Sound) (straight : ∀ d, o.directory = some d → d.Straight)
    (answered : ∀ d, o.directory = some d → r.isFull = true → w.Answers d) :
    ∃ cs v, (r.obsoleteCandidates f o).runIn w = (.ok cs, v) := by
  unfold obsoleteCandidates
  cases aimed : o.directory with
  | none => exact ⟨_, _, rfl⟩
  | some d =>
    cases full : r.isFull with
    | false => exact ⟨_, _, rfl⟩
    | true =>
      obtain ⟨qs, rs, listed, _⟩ := generatedModulesRun sound (straight d aimed) (answered d aimed full)
      simp only [if_true]
      rw [bindOf listed]
      exact ⟨_, _, rfl⟩

theorem candidatesTried (sound : w.Sound) (straight : ∀ d, o.directory = some d → d.Straight) :
    ∃ told v, (attempt (r.obsoleteCandidates f o)).runIn w = (.ok told, v) := by
  rw [attemptIn]
  by_cases answered : ∀ d, o.directory = some d → r.isFull = true → w.Answers d
  · obtain ⟨cs, v, listed⟩ := candidatesRun (f := f) sound straight answered
    rw [listed]
    exact ⟨_, _, rfl⟩
  · push Not at answered
    obtain ⟨d, aimed, full, unanswered⟩ := answered
    obtain ⟨fault, failed⟩ := unansweredFails unanswered
    have stopped : (r.obsoleteCandidates f o).runIn w = (.error (.file fault), w) := by
      unfold obsoleteCandidates
      rw [aimed]
      simp only [full, if_true]
      rw [bindIn, failed]
    rw [stopped]
    exact ⟨_, _, rfl⟩

theorem tidyEnds (sound : w.Sound) (usable : ∀ c ∈ f.generated, c.Usable)
    (straight : ∀ d, o.directory = some d → d.Straight) : ∃ p failure v, (r.tidy f o).runIn w = (.ok (p, failure), v) ∧
      p = { o with removed := p.removed, obsolete := p.obsolete } ∧ ∀ e, failure = some e → ∃ g, e = .file g := by
  obtain ⟨told, u, tried⟩ := candidatesTried (r := r) (f := f) sound straight
  unfold tidy
  rw [bindOf tried]
  cases told with
  | error fault => exact ⟨o, _, u, rfl, rfl, fun e same => ⟨fault, (Option.some.inj same).symm⟩⟩
  | ok cs =>
    have listed : (r.obsoleteCandidates f o).runIn w = (.ok cs, u) := by
      rcases Output.attemptOk tried with ⟨_, same, ran⟩ | ⟨_, same, _⟩
      · cases same
        exact ran
      · cases same
    obtain ⟨still, _⟩ := calmSpares (r.calmObsoleteCandidates f o) sound listed
    obtain ⟨p, failure, v, gone, pruned, taken, filed⟩ :=
      Output.pruneLeaves o [] still fun c member => (obsoleteAre sound usable straight listed c member).1
    exact ⟨p, failure, v, pruned, by rw [taken.same], filed⟩

end Request

/-! Memory. -/

namespace Memory

def take (m : GeneratedSource) : StateT Memory Job (Option String) := do
  modify (Memory.add · m)
  return none

def log (r : Log.Record) : StateT Memory Job Unit := (modify (Workspace.note r) : Job Unit)

theorem bindRun {α β : Type} {x : StateT Memory Job α} {f : α → StateT Memory Job β} {held later : Memory} {a : α}
    (ran : (x.run held).runIn w = (.ok (a, later), v)) : ((x >>= f).run held).runIn w = ((f a).run later).runIn v := by
  rw [StateT.run_bind, bindOf ran]

theorem recordsKept (rs : List Log.Record) (held : Memory) :
    ((rs.forM log).run held).runIn w = (.ok ((), held), w.noted rs) := by
  induction rs generalizing w with
  | nil => rfl
  | cons r rest ih =>
    have first : ((log r).run held).runIn w = (.ok ((), held), w.note r) := rfl
    rw [List.forM, bindRun first, ih]
    rfl

theorem deliverTakes (ms : List GeneratedSource) (d : Delivery) (held : Memory) : ∃ later,
    ((deliver take log d ms).run held).runIn w = (.ok ({ d with sources := d.sources ++ ms }, later), w) := by
  induction ms generalizing d held with
  | nil => exact ⟨held, by rw [List.append_nil]; rfl⟩
  | cons m rest ih =>
    obtain ⟨later, ran⟩ := ih (d.note m none) (held.add m)
    have first : ((take m).run held).runIn w = (.ok (none, held.add m), w) := rfl
    refine ⟨later, ?_⟩
    unfold deliver
    rw [bindRun first]
    dsimp only
    rw [ran]
    simp [Delivery.note]

theorem passTakes (options : PassOptions) (units : List SourceUnit) (held : Memory) : ∃ later v,
    ((runPass take log options units).run held).runIn w =
      (.ok ((Analysis.ofUnits options.warningsAsErrors units).result { sources := Output.handed options units }, later), v) := by
  let analysis := Analysis.ofUnits options.warningsAsErrors units
  obtain ⟨later, delivered⟩ := deliverTakes (w := w.noted analysis.records) (Output.handed options units) {} held
  have ended : ((runPass take log options units).run held).runIn w =
      (.ok (analysis.result { sources := Output.handed options units }, later),
        (w.noted analysis.records).note (analysis.result { sources := Output.handed options units }).record) := by
    unfold Output.handed at *
    unfold runPass
    rw [bindRun (recordsKept analysis.records held), bindRun delivered]
    rfl
  exact ⟨later, _, ended⟩

end Memory

/-! Commands. -/

structure Request.Prepared (r : Request) (s : Settings) (forest : Forest) (w u : Workspace) : Prop where
  ready : r.prepare.runIn w = (.ok (s, forest), u)
  sound : u.Sound
  cwd : u.cwd = w.cwd
  shape : w.SameShape u
  usable : ∀ c ∈ forest.generated, c.Usable
  told : ∀ q ∈ r.sources s w, w.marked q = false → w.unit? q = none → ∃ message, q.text ++ ": " ++ message ∈ forest.errors
  deliverable : ∀ directory dryRun, (∀ d, directory = some d → d.flaw? = none) →
    (dryRun = false → ∀ m ∈ Output.handed s.passOptions forest.units, Text.Surrogate.isBroken m.content = false) →
    ∀ m ∈ Output.handed s.passOptions forest.units, (Request.opened directory dryRun s).Deliverable m

namespace Request

theorem Answerable.prepares (answerable : r.Answerable w) (loaded : (Settings.load r.settingsFile true).runIn w = (.ok s, v)) :
    ∃ forest u, r.Prepared s forest w u := by
  obtain ⟨sound, named, _, _, within⟩ := answerable
  obtain ⟨roots, _, sources⟩ := within s v loaded
  obtain ⟨rs, rfl⟩ := notedIn (Settings.calmLoad _ _) loaded
  have before := Workspace.notedApart rs w
  have shape := Workspace.notedShape rs w
  have still := Workspace.notedSound rs sound
  have straight : ∀ root ∈ (r.rootPaths s).map (·.absolute w.cwd), root.Straight := by
    intro root member
    obtain ⟨p, _, rfl⟩ := List.mem_map.mp member
    exact Path.straightAbsolute _ _
  have resolved := @rootsRun (w.noted rs) r s fun p member => (roots p member).1
  rw [before.cwd] at resolved
  have usable := Forest.scannedUsable (Forest.patterns s.includePatterns s.excludePatterns) sound straight
  have unlogged : ∀ q ∈ (w.noted rs).scanned (Forest.patterns s.includePatterns s.excludePatterns)
      ((r.rootPaths s).map (·.absolute w.cwd)), (w.noted rs).logFile ≠ some q.parts := by
    intro q member
    rw [Workspace.notedScanned rs sound] at member
    exact before.logFile ▸ (sources q member).1
  obtain ⟨forest, ss, scan⟩ := Forest.loadRun still straight (fun root member => by
      obtain ⟨p, known, rfl⟩ := List.mem_map.mp member
      exact Workspace.answersSame shape (roots p known).2) unlogged fun q member => by
      rw [Workspace.notedScanned rs sound] at member
      exact (Workspace.notedReads rs sound (sources q member).1 (usable q member)).mpr (sources q member).2
  have after := Workspace.notedApart ss (w.noted rs)
  refine ⟨forest, (w.noted rs).noted ss, prepareRun loaded resolved scan, Workspace.notedSound ss still,
    after.cwd.trans before.cwd, shape.trans (Workspace.notedShape ss _),
    fun c member => (Forest.loadUsable still straight scan c member).1, fun q member unmarked missing => ?_,
    fun directory dryRun aim whole => scannedDeliverable still (Workspace.notedNamed rs named) straight scan aim whole⟩
  have same := Workspace.notedBytes rs (sources q member).1
  refine Forest.loadTells still straight unlogged scan q ?_ ((Workspace.markedSame before.refusals same).trans unmarked) ?_
  · rw [Workspace.notedScanned rs sound]
    exact member
  · rw [Workspace.unitSame sound still (fun s => Workspace.notedHolds rs w _) (usable q member) before.refusals same]
    exact missing

end Request

theorem settingsFail {message : String} (loaded : (Settings.load r.settingsFile true).runIn w = (.error (.settings message), v)) :
    (attemptSettings r.prepare).runIn w = (.ok (.error message), v) := by
  unfold attemptSettings Request.prepare
  rw [resultIn, bindIn, loaded]
  rfl

namespace Request.Prepared
variable {forest : Forest} {u : Workspace}

theorem settled (prepared : r.Prepared s forest w u) : (attemptSettings r.prepare).runIn w = (.ok (.ok (s, forest)), u) := by
  unfold attemptSettings
  rw [resultIn, prepared.ready]
  rfl

theorem opened (prepared : r.Prepared s forest w u) (aim : ∀ d, r.aimPath s = some d → d.firstFlaw? = none) (dryRun : Bool) :
    (r.output s dryRun).runIn u =
      (.ok (Request.opened ((r.aimPath s).map (·.absolute w.cwd)) dryRun s), u) :=
  outputRun dryRun (prepared.cwd ▸ aimRun aim)

theorem aimed (prepared : r.Prepared s forest w u) (aim : ∀ d, r.aimPath s = some d → d.firstFlaw? = none) :
    ∀ d, (r.aimPath s).map (·.absolute w.cwd) = some d → d.flaw? = none ∧ d.Straight := by
  intro d same
  obtain ⟨given, known, rfl⟩ := Option.map_eq_some_iff.mp same
  rw [← prepared.cwd]
  exact ⟨absoluteUnflawed prepared.sound (aim given known), Path.straightAbsolute _ _⟩

theorem generates (prepared : r.Prepared s forest w u) (aim : ∀ d, r.aimPath s = some d → d.firstFlaw? = none) (dryRun : Bool)
    (whole : dryRun = false → ∀ m ∈ Output.handed s.passOptions forest.units, Text.Surrogate.isBroken m.content = false) :
    ∃ g, ((generate r dryRun).runIn w).1 = .ok (.ok g) ∧ g.forest = forest ∧
      ∀ m ∈ Output.handed s.passOptions forest.units, (m ∈ g.pass.sources ∧ g.output.Notes (g.output.target m)) ∨
        ∃ f : FileFault, writeError m f.message ∈ g.pass.writeErrors := by
  set start := Request.opened ((r.aimPath s).map (·.absolute w.cwd)) dryRun s with started
  have ready := prepared.deliverable _ dryRun (fun d same => (prepared.aimed aim d same).1) whole
  obtain ⟨d, o, x, passed, onwards, accounted⟩ := Output.passEnds (o := start) ready u
  obtain ⟨ps, wrote, _⟩ := Output.passLeaves prepared.sound passed
  obtain ⟨p, failure, y, tidied, same, filed⟩ := tidyEnds (r := r) wrote.sound prepared.usable fun d known =>
    (prepared.aimed aim d (onwards.more.aims.1.symm.trans known)).2
  set pass := (Analysis.ofUnits s.passOptions.warningsAsErrors forest.units).result d with made
  have told (result : Except Failure (Outcome Generation) × Workspace)
      (ran : (Generation.conclude forest pass (p, failure)).runIn y = result) : (generate r dryRun).runIn w = result := by
    rw [generateSteps, bindOf prepared.settled]
    dsimp only
    rw [bindOf (prepared.opened aim dryRun), bindOf passed]
    dsimp only
    rw [bindOf tidied]
    exact ran
  cases concluded : (Generation.conclude forest pass (p, failure)).runIn y with
  | mk result z =>
    obtain ⟨_, error, rfl⟩ := concludeLeaves filed concluded
    refine ⟨_, by rw [told _ concluded], rfl, fun m member => ?_⟩
    refine (accounted m member).imp_left fun ⟨taken, noted⟩ => ⟨taken, ?_⟩
    have target : p.target m = start.target m := by
      rw [same]
      exact Output.targetSame ⟨onwards.more.aims.1, onwards.more.aims.2.2⟩ m
    dsimp only
    rw [target, same]
    exact noted

theorem checks (prepared : r.Prepared s forest w u) (aim : ∀ d, r.aimPath s = some d → d.firstFlaw? = none)
    (answered : ∀ d, r.isFull = true → r.aimPath s = some d → w.Answers (d.absolute w.cwd)) :
    ∃ c, ((check r).runIn w).1 = .ok (.ok c) ∧ c.parseErrors = forest.errors ∧
      ∀ m ∈ Output.handed s.passOptions forest.units,
        m ∈ c.pass.sources ∨ ∃ f : FileFault, writeError m f.message ∈ c.pass.writeErrors := by
  have isDry : (Request.opened ((r.aimPath s).map (·.absolute w.cwd)) true s).dryRun = true := rfl
  have ready := prepared.deliverable _ true (fun d same => (prepared.aimed aim d same).1) (by simp)
  obtain ⟨d, o, x, passed, onwards, accounted⟩ := Output.passEnds ready u
  have calm := Output.calmDryPass s.passOptions forest.units isDry
  obtain ⟨still, _⟩ := calmSpares calm prepared.sound passed
  have shape := prepared.shape.trans (calmIn calm passed)
  have directory := onwards.more.aims.1
  obtain ⟨cs, y, listed⟩ := candidatesRun (r := r) (f := forest) (o := o) still
    (fun d known => (prepared.aimed aim d (directory.symm.trans known)).2) fun d known full => by
      obtain ⟨given, asked, rfl⟩ := Option.map_eq_some_iff.mp (directory.symm.trans known)
      exact Workspace.answersSame shape (answered given full asked)
  have usable := fun c member => (obsoleteAre still prepared.usable
    (fun d known => (prepared.aimed aim d (directory.symm.trans known)).2) listed c member).1
  have pruned := @Output.pruneForecast y cs o [] (onwards.more.aims.2.1.trans isDry) usable
  refine ⟨_, by rw [checkEnds prepared.ready (prepared.opened aim true) passed listed pruned], rfl, fun m member => ?_⟩
  exact (accounted m member).imp_left And.left

theorem inspects (prepared : r.Prepared s forest w u) : ∃ i, ((inspect r).runIn w).1 = .ok (.ok i) ∧
    i.pass.sources = Output.handed s.passOptions forest.units := by
  obtain ⟨held, v, passed⟩ := Memory.passTakes (w := u) s.passOptions forest.units []
  have ended : (inspect r).runIn w = (.ok (.ok ⟨(Analysis.ofUnits s.passOptions.warningsAsErrors forest.units).result
      { sources := Output.handed s.passOptions forest.units }, held⟩), v) := by
    unfold inspect
    rw [bindOf prepared.settled]
    exact bindOf passed
  exact ⟨_, by rw [ended], rfl⟩

end Request.Prepared

/-- A class whose module cannot be put in its place, and a source that is no UTF-8. -/
def troubled : Workspace :=
  let encoded (text : String) : List UInt8 := Text.Utf8.encode text.toList
  { tree := [
      (["a.py"], .file (encoded "@require_component_getters\nclass A: pass\n")),
      (["b.py"], .file [0xff]),
      (["c.yml"], .file (encoded "sources: [a.py, b.py]\n"))]
    refusals := { replacing := ["/a_getters.py"] } }

def troubledSettings : Settings := { sources := ["a.py", "b.py"], root := ⟨"/", []⟩ }

def Job.failure? {α : Type} (x : Job α) (w : Workspace) : Option Failure :=
  match (x.runIn w).1 with
  | .ok _ => none
  | .error f => some f

/-- Settings that are no UTF-8. -/
def garbled : Workspace := { tree := [(["c.yml"], .file [0xff])] }

end AccessorForge
