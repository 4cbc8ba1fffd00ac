import AccessorForge.Proofs.Predictions
/-! Reading again. Where paths lead to the same files as before, settings are the same and files are read to the
end, whatever else has changed in between. Nothing is logged into a file here. -/
namespace AccessorForge
open Job Running
variable {w v u : Workspace} {p : Path}

namespace Workspace

theorem notedTree (rs : List Log.Record) (unlogged : w.logFile = none) : (w.noted rs).tree = w.tree :=
  (notedUnharmed rs w).whole unlogged

/-- If a path leads to a file, it does so later on, and the file is the same. -/
structure Keeps (w v : Workspace) (p : Path) : Prop where
  cwd : v.cwd = w.cwd
  refusals : v.refusals = w.refusals
  same : ∀ s bytes, w.tree.locate w.cwd p = .ok s → w.tree.get? s = some (.file bytes) →
    v.tree.locate w.cwd p = .ok s ∧ v.tree.get? s = some (.file bytes)

theorem keepsIf (sound : w.Sound) (cwd : v.cwd = w.cwd) (refusals : v.refusals = w.refusals)
    (grown : w.tree.Grown v.tree)
    (same : v.tree.bytes? (p.absolute w.cwd).parts = w.tree.bytes? (p.absolute w.cwd).parts) : w.Keeps v p := by
  refine ⟨cwd, refusals, fun s bytes located file => ⟨FileTree.locateKept grown located, ?_⟩⟩
  rw [← sound.located located, (FileTree.bytesIff _ _ _).mpr file] at same
  exact (FileTree.bytesIff _ _ _).mp same

theorem Keeps.noted (keeps : w.Keeps v p) (unlogged : w.logFile = none) (unloggedToo : v.logFile = none)
    (rs ss : List Log.Record) : (w.noted rs).Keeps (v.noted ss) p := by
  have before := notedApart rs w
  have after := notedApart ss v
  refine ⟨after.cwd.trans (keeps.cwd.trans before.cwd.symm),
    after.refusals.trans (keeps.refusals.trans before.refusals.symm), ?_⟩
  rw [notedTree rs unlogged, notedTree ss unloggedToo, before.cwd]
  exact keeps.same

end Workspace

/-! Files that paths still lead to. -/

theorem isFileAgain (keeps : w.Keeps v p) (ran : (isFile p).runIn w = (.ok true, u)) :
    (isFile p).runIn v = (.ok true, v) := by
  obtain ⟨e, x, looked, last⟩ := bindOk ran
  obtain ⟨told, _⟩ := entryOk looked
  cases e with
  | none => cases last
  | some e =>
    cases e with
    | directory => cases last
    | file bytes =>
      obtain ⟨unflawed, s, located, file⟩ := FileTree.entryFound told
      obtain ⟨locatedToo, fileToo⟩ := keeps.same s bytes located file
      have toldToo : v.tree.entry? v.cwd p = .ok (some (.file bytes)) := by
        unfold FileTree.entry? FileTree.entry
        rw [unflawed, keeps.cwd, locatedToo]
        simp only [Option.isSome_none, Bool.false_eq_true, if_false, bind, Except.bind, fileToo]
        rfl
      unfold isFile
      rw [bindIn, entryIn, toldToo]
      rfl

theorem readBytesAgain {bytes : List UInt8} (keeps : w.Keeps v p) (ran : (readBytes p).runIn w = (.ok bytes, u)) :
    (readBytes p).runIn v = (.ok bytes, v) := by
  obtain ⟨unflawed, allowed, _, s, located, file⟩ := readBytesOk ran
  obtain ⟨locatedToo, fileToo⟩ := keeps.same s _ located file
  unfold readBytes
  have fine : (refuseFlawed p).runIn v = (.ok (), v) := by
    unfold refuseFlawed
    rw [unflawed]
    rfl
  rw [bindOf fine, bindOf (getIn v), keeps.refusals, if_neg (by simpa using allowed), bindOf (getIn v), bindIn, locateIn,
    keeps.cwd, locatedToo]
  simp only [fileToo]
  rfl

theorem readTextAgain {text : String} (keeps : w.Keeps v p) (ran : (readText p).runIn w = (.ok text, u)) :
    (readText p).runIn v = (.ok text, v) := by
  obtain ⟨bytes, x, read, decoded⟩ := bindOk ran
  obtain ⟨cs, y, told, last⟩ := bindOk decoded
  unfold readText
  rw [bindOf (readBytesAgain keeps read)]
  cases result : Text.Utf8.decode bytes with
  | error f =>
    rw [result] at told
    cases told
  | ok chars =>
    rw [result] at told
    cases told
    cases last
    rfl

/-! Settings. -/

namespace Settings

theorem readFileAgain {s : Settings} (keeps : w.Keeps v p) (unlogged : w.logFile = none) (unloggedToo : v.logFile = none)
    (ran : (readFile p).runIn w = (.ok s, u)) : ∃ rs, (readFile p).runIn v = (.ok s, v.noted rs) := by
  have given {α : Type} (a : α) (w : Workspace) : (pure a : Job α).runIn w = (.ok a, w) := rfl
  unfold readFile at ran ⊢
  obtain ⟨there, x, found, guarded⟩ := bindOk ran
  have still := isFileStill found
  subst still
  cases there with
  | false => cases guarded
  | true =>
    rw [bindOf (isFileAgain keeps found)]
    simp only [Bool.not_true, Bool.false_eq_true, if_false] at guarded ⊢
    let first : Log.Record := ⟨Log.debug, logger, "Loading generator config from " ++ p.text⟩
    have logged (w : Workspace) : (log Log.debug logger ("Loading generator config from " ++ p.text)).runIn w =
      (.ok (), w.noted [first]) := rfl
    rw [bindOf (logged _)] at guarded ⊢
    obtain ⟨tried, y, attempted, later⟩ := bindOk guarded
    rcases Output.attemptOk attempted with ⟨text, rfl, read⟩ | ⟨f, rfl, _⟩
    · have again := readTextAgain (keeps.noted unlogged unloggedToo [first] [first]) read
      have attemptedToo : (attempt (readText p)).runIn (v.noted [first]) = (.ok (.ok text), v.noted [first]) := by
        rw [attemptIn, again]
      have same : y.cwd = (v.noted [first]).cwd := by
        have before := (calmIn (calmReadText p) read).cwd
        rw [before, (Workspace.notedApart [first] x).cwd, (Workspace.notedApart [first] v).cwd, keeps.cwd]
      rw [bindOf attemptedToo]
      dsimp only at later ⊢
      rw [bindOf (given text _)] at later ⊢
      cases parsed : Yaml.read text with
      | error f =>
        rw [parsed] at later
        cases f <;> cases later
      | ok value =>
        rw [parsed] at later
        dsimp only at later ⊢
        rw [bindOf (given value _), bindOf (getIn _)] at later ⊢
        rw [same] at later
        split at later
        · cases later
        · rename_i settings understood
          obtain ⟨_, _, told, last⟩ := bindOk later
          cases told
          cases last
          refine ⟨[first] ++ [⟨Log.info, logger,
            "Loaded config " ++ p.text ++ " (" ++ toString s.sources.length ++ " source root(s))"⟩], ?_⟩
          rw [Workspace.notedTwice]
          rfl
    · cases later

theorem firstFileAgain {ps : List Path} {found : Option Path} (sound : w.Sound) (soundToo : v.Sound)
    (usable : ∀ p ∈ ps, p.Usable) (same : ∀ p ∈ ps, v.tree.bytes? p.parts = w.tree.bytes? p.parts)
    (ran : ( firstFile? ps).runIn w = (.ok found, u)) : u = w ∧ ( firstFile? ps).runIn v = (.ok found, v) := by
  induction ps with
  | nil =>
    cases ran
    exact ⟨rfl, rfl⟩
  | cons p rest ih =>
    have others := ih (fun q member => usable q (List.mem_cons_of_mem _ member))
      fun q member => same q (List.mem_cons_of_mem _ member)
    obtain ⟨there, x, asked, later⟩ := bindOk ran
    have still := isFileStill asked
    subst still
    have again := isFileSame sound soundToo (usable p List.mem_cons_self)
      (congrArg Option.isSome (same p List.mem_cons_self)) asked
    unfold firstFile?
    rw [bindOf again]
    cases there with
    | true =>
      cases later
      exact ⟨rfl, rfl⟩
    | false => exact others later

theorem foundAmong {ps : List Path} {found : Option Path} (ran : ( firstFile? ps).runIn w = (.ok found, u)) :
    ∀ p, found = some p → p ∈ ps := by
  induction ps generalizing w with
  | nil =>
    cases ran
    simp
  | cons q rest ih =>
    obtain ⟨there, x, asked, later⟩ := bindOk ran
    cases there with
    | true =>
      cases later
      rintro p ⟨⟩
      exact List.mem_cons_self
    | false => exact fun p same => List.mem_cons_of_mem _ (ih later p same)

theorem searchPlacesUsable {n : Nat} {p : Path} (usable : p.Usable) : ∀ q ∈ searchPlaces n p, q.Usable := by
  induction n generalizing p with
  | zero => exact fun q member => absurd member List.not_mem_nil
  | succ n ih =>
    intro q member
    unfold searchPlaces at member
    rcases List.mem_cons.mp member with rfl | above
    · exact usable
    · split at above
      · cases above
      · exact ih (parentUsable usable) q above

theorem fileNameChild {directory : Path} (usable : directory.Usable) :
    (directory.child fileName).Usable ∧ (directory.child fileName).parts = directory.parts ++ [fileName] := by
  obtain ⟨straight, parts⟩ := Path.childEntry usable.straight (n := fileName) (by decide +kernel)
  refine ⟨⟨straight.anchored, fun n member => ?_⟩, parts⟩
  rw [parts] at member
  have proper : Path.isProper fileName = true := by decide +kernel
  rcases List.mem_append.mp member with above | last
  · exact usable.proper n above
  · exact List.mem_singleton.mp last ▸ proper

/-- The files from which settings can come are the same. -/
structure Untouched (path : Option Path) (w v : Workspace) : Prop where
  chosen : ∀ p, path = some p → v.tree.bytes? (p.absolute w.cwd).parts = w.tree.bytes? (p.absolute w.cwd).parts
  nearest : ∀ s : Spot, v.tree.bytes? (s ++ [fileName]) = w.tree.bytes? (s ++ [fileName])

theorem readFoundAgain {found : Option Path} {s : Settings} (sound : w.Sound) (unlogged : w.logFile = none)
    (unloggedToo : v.logFile = none) (cwd : v.cwd = w.cwd) (refusals : v.refusals = w.refusals)
    (grown : w.tree.Grown v.tree) (same : ∀ p, found = some p →
      v.tree.bytes? (p.absolute w.cwd).parts = w.tree.bytes? (p.absolute w.cwd).parts)
    (ran : (readFound found).runIn w = (.ok s, u)) : ∃ rs, (readFound found).runIn v = (.ok s, v.noted rs) := by
  cases found with
  | some p => exact readFileAgain (Workspace.keepsIf sound cwd refusals grown (same p rfl)) unlogged unloggedToo ran
  | none =>
    let r : Log.Record := ⟨Log.debug, logger, "No " ++ fileName ++ " found, using defaults"⟩
    have logged (w : Workspace) : (log Log.debug logger ("No " ++ fileName ++ " found, using defaults")).runIn w =
      (.ok (), w.noted [r]) := rfl
    unfold readFound at ran ⊢
    dsimp only at ran ⊢
    rw [bindOf (logged _), bindOf (getIn _), (Workspace.notedApart [r] w).cwd] at ran
    cases ran
    refine ⟨[r], ?_⟩
    rw [bindOf (logged _), bindOf (getIn _), (Workspace.notedApart [r] v).cwd, cwd]
    rfl

theorem loadAgain {path : Option Path} {s : Settings} (sound : w.Sound) (soundToo : v.Sound)
    (unlogged : w.logFile = none) (unloggedToo : v.logFile = none) (cwd : v.cwd = w.cwd)
    (refusals : v.refusals = w.refusals) (grown : w.tree.Grown v.tree) (untouched : Untouched path w v)
    (ran : (load path true).runIn w = (.ok s, u)) : ∃ rs, (load path true).runIn v = (.ok s, v.noted rs) := by
  have given {α : Type} (a : α) (w : Workspace) : (pure a : Job α).runIn w = (.ok a, w) := rfl
  rw [loadSteps] at ran ⊢
  cases path with
  | some p =>
    dsimp only at ran ⊢
    rw [bindOf (given _ _)] at ran ⊢
    exact readFoundAgain sound unlogged unloggedToo cwd refusals grown (fun q same => untouched.chosen q same) ran
  | none =>
    simp only [if_true] at ran ⊢
    obtain ⟨found, x, searched, later⟩ := bindOk ran
    obtain ⟨_, _, got, searched⟩ := bindOk searched
    cases got
    obtain ⟨first, y, resolved, asked⟩ := bindOk searched
    obtain ⟨unflawed, whole, still⟩ := resolveOk resolved
    subst still
    have start : Path.Usable ⟨"/", y.cwd⟩ := ⟨rfl, fun n member => sound.tree.proper _ _ sound.inside n member⟩
    rw [Option.getD_none, start.straight.absolute] at whole
    subst whole
    have places : ∀ p ∈ (searchPlaces maxSearchPlaces ⟨"/", y.cwd⟩).map (·.child fileName),
        p.Usable ∧ v.tree.bytes? p.parts = y.tree.bytes? p.parts := by
      intro p member
      obtain ⟨directory, place, rfl⟩ := List.mem_map.mp member
      obtain ⟨usable, parts⟩ := fileNameChild (searchPlacesUsable start directory place)
      rw [parts]
      exact ⟨usable, untouched.nearest _⟩
    obtain ⟨still, again⟩ := firstFileAgain sound soundToo (fun p member => (places p member).1)
      (fun p member => (places p member).2) asked
    subst still
    have resolvedToo : (resolve ((none : Option Path).getD ⟨"/", v.cwd⟩)).runIn v = (.ok ⟨"/", x.cwd⟩, v) := by
      rw [Option.getD_none, cwd, resolveIn, start.firstUnflawed, start.straight.absolute]
    have searchedToo : ( find? none).runIn v = (.ok found, v) := by
      unfold find?
      rw [bindOf (getIn v), bindOf resolvedToo, again]
    rw [bindOf searchedToo]
    refine readFoundAgain sound unlogged unloggedToo cwd refusals grown (fun p same => ?_) later
    obtain ⟨usable, kept⟩ := places p (foundAmong asked p same)
    rw [usable.straight.absolute]
    exact kept

end Settings

/-! Forests. -/

namespace Workspace

/-- If a scan takes a file for a source, the file's module can be named. -/
def Reads (w : Workspace) (p : Path) : Prop :=
  ∀ text, w.text? p = some text → isGenerated text = false → ∃ name, (moduleName p).runIn w = (.ok name, w)

theorem readsSame (sound : w.Sound) (soundToo : v.Sound) (refusals : v.refusals = w.refusals)
    (marks : ∀ s : Spot, (v.tree.bytes? (s ++ [packageMark])).isSome = (w.tree.bytes? (s ++ [packageMark])).isSome)
    (usable : p.Usable) (same : v.tree.bytes? p.parts = w.tree.bytes? p.parts) (reads : w.Reads p) : v.Reads p := by
  intro text read other
  rw [textSame refusals same] at read
  obtain ⟨name, named⟩ := reads text read other
  exact ⟨name, (moduleNameSame sound soundToo marks usable named).2⟩

theorem notedReads (rs : List Log.Record) (sound : w.Sound) (unlogged : w.logFile ≠ some p.parts) (usable : p.Usable) :
    (w.noted rs).Reads p ↔ w.Reads p := by
  have marks (s : Spot) := notedHolds rs w (s ++ [packageMark])
  have same := notedBytes rs unlogged
  have refusals := (notedApart rs w).refusals
  have still := notedSound rs sound
  constructor
  · exact readsSame still sound refusals.symm (fun s => (marks s).symm) usable same.symm
  · exact readsSame sound still refusals marks usable same

end Workspace

namespace Forest
variable {f forest : Forest} {ps roots : List Path} {includes excludes : List String}

theorem addFileReads (sound : w.Sound) (usable : p.Usable) (ok : (f.addFile p).runIn w = (.ok forest, v)) :
    w.Reads p := by
  intro text read other
  obtain ⟨told, ran, known⟩ := readTextIn sound usable.straight usable.unflawed
  unfold addFile at ok
  rw [bindOf ran] at ok
  cases told with
  | error message => cases known.trans read
  | ok text' =>
    have same : text' = text := Option.some.inj (known.trans read)
    subst same
    dsimp only at ok
    rw [if_neg (by simp [other])] at ok
    obtain ⟨name, x, named, _⟩ := bindOk ok
    have still := (moduleNameSame sound sound (fun _ => rfl) usable named).1
    exact ⟨name, still ▸ named⟩

theorem addFilesReads (sound : w.Sound) (unlogged : w.logFile = none) (usable : ∀ q ∈ ps, q.Usable)
    (ok : (f.addFiles ps).runIn w = (.ok forest, v)) : ∀ q ∈ ps, w.Reads q := by
  induction ps generalizing f w with
  | nil => simp
  | cons p rest ih =>
    obtain ⟨next, x, added, later⟩ := bindOk ok
    have own := usable p List.mem_cons_self
    have others : ∀ q ∈ rest, q.Usable := fun q deeper => usable q (List.mem_cons_of_mem _ deeper)
    obtain ⟨⟨rs, noted⟩, _, _⟩ := addFileOk sound own added
    subst noted
    intro q member
    rcases List.mem_cons.mp member with rfl | deeper
    · exact addFileReads sound own added
    · have tail := ih (Workspace.notedSound rs sound) ((Workspace.notedApart rs w).logFile.trans unlogged) others later
      exact (Workspace.notedReads rs sound (by simp [unlogged]) (others q deeper)).mp (tail q deeper)

theorem addFileRun (f : Forest) (sound : w.Sound) (usable : p.Usable) (reads : w.Reads p) :
    ∃ forest rs, (f.addFile p).runIn w = (.ok forest, w.noted rs) := by
  obtain ⟨told, ran, known⟩ := readTextIn sound usable.straight usable.unflawed
  unfold addFile
  rw [bindOf ran]
  cases told with
  | error message => exact ⟨_, [⟨Log.warning, logger, "Cannot read " ++ p.text ++ ": " ++ message⟩], rfl⟩
  | ok text =>
    dsimp only
    cases generated : isGenerated text with
    | true => exact ⟨_, [⟨Log.debug, logger, "Skipping generated module " ++ p.text⟩], rfl⟩
    | false =>
      obtain ⟨name, named⟩ := reads text known.symm generated
      simp only [Bool.false_eq_true, if_false]
      rw [bindOf named]
      split
      · exact ⟨_, [], rfl⟩
      · rename_i fault _
        exact ⟨_, [⟨Log.warning, logger, "Cannot parse " ++ p.text ++ ": " ++ fault.message⟩], rfl⟩

theorem addFilesRun (f : Forest) (sound : w.Sound) (unlogged : ∀ q ∈ ps, w.logFile ≠ some q.parts)
    (usable : ∀ q ∈ ps, q.Usable) (reads : ∀ q ∈ ps, w.Reads q) :
    ∃ forest rs, (f.addFiles ps).runIn w = (.ok forest, w.noted rs) := by
  induction ps generalizing f w with
  | nil => exact ⟨f, [], rfl⟩
  | cons p rest ih =>
    have others : ∀ q ∈ rest, q.Usable := fun q deeper => usable q (List.mem_cons_of_mem _ deeper)
    have aside : ∀ q ∈ rest, w.logFile ≠ some q.parts := fun q deeper => unlogged q (List.mem_cons_of_mem _ deeper)
    obtain ⟨next, rs, added⟩ := addFileRun f sound (usable p List.mem_cons_self) (reads p List.mem_cons_self)
    obtain ⟨forest, later, done⟩ := ih next (Workspace.notedSound rs sound)
      (fun q deeper => (Workspace.notedApart rs w).logFile ▸ aside q deeper) others fun q deeper =>
        (Workspace.notedReads rs sound (aside q deeper) (others q deeper)).mpr (reads q (List.mem_cons_of_mem _ deeper))
    refine ⟨forest, rs ++ later, ?_⟩
    unfold addFiles
    rw [bindOf added, done, Workspace.notedTwice]

theorem loadReads (sound : w.Sound) (unlogged : w.logFile = none) (straight : ∀ root ∈ roots, root.Straight)
    (ok : (load roots includes excludes).runIn w = (.ok forest, v)) :
    ∀ q ∈ w.scanned (patterns includes excludes) roots, w.Reads q := by
  obtain ⟨_, rs, x, added⟩ := loadStages sound straight ok
  have usable := scannedUsable (patterns includes excludes) sound straight
  intro q member
  have reads := addFilesReads (Workspace.notedSound rs sound) ((Workspace.notedApart rs w).logFile.trans unlogged) usable
    added q member
  exact (Workspace.notedReads rs sound (by simp [unlogged]) (usable q member)).mp reads

theorem loadRun (sound : w.Sound) (straight : ∀ root ∈ roots, root.Straight) (answered : ∀ root ∈ roots, w.Answers root)
    (unlogged : ∀ q ∈ w.scanned (patterns includes excludes) roots, w.logFile ≠ some q.parts)
    (reads : ∀ q ∈ w.scanned (patterns includes excludes) roots, w.Reads q) :
    ∃ forest rs, (load roots includes excludes).runIn w = (.ok forest, w.noted rs) := by
  have none : ∀ q ∈ ([] : List Path), q.Straight := by simp
  obtain ⟨rs, listed⟩ := filesFromIn (patterns includes excludes) sound straight none answered
  have usable := scannedUsable (patterns includes excludes) sound straight
  obtain ⟨forest, later, added⟩ := addFilesRun {} (Workspace.notedSound rs sound)
    (fun q member => (Workspace.notedApart rs w).logFile ▸ unlogged q member) usable fun q member =>
      (Workspace.notedReads rs sound (unlogged q member) (usable q member)).mpr (reads q member)
  have found : (files (patterns includes excludes) roots).runIn w =
    (.ok (w.scanned (patterns includes excludes) roots), w.noted rs) := listed
  have ended : ∃ last, (load roots includes excludes).runIn w = (.ok forest, ((w.noted rs).noted later).note last) := by
    unfold load
    rw [bindOf found, bindOf added]
    exact ⟨_, rfl⟩
  obtain ⟨last, done⟩ := ended
  refine ⟨forest, rs ++ later ++ [last], ?_⟩
  rw [done, ← Workspace.notedLast, Workspace.notedTwice]

end Forest

end AccessorForge
