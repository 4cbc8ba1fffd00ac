import AccessorForge.Proofs.Calm
import AccessorForge.Proofs.Listings
/-! What a scan of files finds: the modules that were generated and the units of the others, and in an output
directory the modules that begin with the marker. Each file is judged by its own bytes. -/
namespace AccessorForge
open Job Running
variable {w v : Workspace}

namespace Workspace

/-- A file that a scan takes for a generated module. -/
def marked (w : Workspace) (p : Path) : Bool := (w.text? p).any isGenerated

/-- A file that begins as generated modules do. -/
def headed (w : Workspace) (p : Path) : Bool := (w.firstLine? p).any isGenerated

def unit? (w : Workspace) (p : Path) : Option SourceUnit :=
  (w.text? p).bind fun text =>
    if isGenerated text then none
    else match (moduleName p).runIn w with
    | (.ok name, _) => (SourceUnit.read name text (some p)).toOption
    | _ => none

theorem markedHolds {p : Path} (marked : w.marked p = true) : (w.tree.bytes? p.parts).isSome = true := by
  unfold Workspace.marked at marked
  cases read : w.text? p with
  | none => simp [read] at marked
  | some text =>
    obtain ⟨bytes, held⟩ := textHeld read
    rw [(heldBytes held).2]
    rfl

theorem headedHolds {p : Path} (headed : w.headed p = true) : (w.tree.bytes? p.parts).isSome = true := by
  unfold Workspace.headed at headed
  cases read : w.firstLine? p with
  | none => simp [read] at headed
  | some line =>
    obtain ⟨bytes, held⟩ := firstLineHeld read
    rw [(heldBytes held).2]
    rfl

theorem markedSame {p : Path} (refusals : v.refusals = w.refusals)
    (same : v.tree.bytes? p.parts = w.tree.bytes? p.parts) : v.marked p = w.marked p := by
  unfold marked
  rw [textSame refusals same]

theorem headedSame {p : Path} (refusals : v.refusals = w.refusals)
    (same : v.tree.bytes? p.parts = w.tree.bytes? p.parts) : v.headed p = w.headed p := by
  unfold headed
  rw [firstLineSame refusals same]

theorem notedBytes (rs : List Log.Record) {s : Spot} (unlogged : w.logFile ≠ some s) :
    (w.noted rs).tree.bytes? s = w.tree.bytes? s := (notedApart rs w).same s (by simp) unlogged

end Workspace

/-! Units. -/

theorem isFileSame (sound : w.Sound) (soundToo : v.Sound) {p : Path} (usable : p.Usable)
    (same : (v.tree.bytes? p.parts).isSome = (w.tree.bytes? p.parts).isSome) {there : Bool}
    (ran : (isFile p).runIn w = (.ok there, w)) : (isFile p).runIn v = (.ok there, v) := by
  have fits : p.Fits := by
    by_contra long
    unfold isFile at ran
    rw [bindIn, entryIn] at ran
    have failed : w.tree.entry? w.cwd p = .error .nameTooLong := by
      unfold FileTree.entry? FileTree.entry FileTree.locate
      rw [usable.unflawed, if_pos (Nat.lt_of_not_le long)]
      rfl
    rw [failed] at ran
    cases ran
  rw [isFileIn sound usable fits] at ran
  cases ran
  rw [isFileIn soundToo usable fits, same]

theorem packageMarkProper : Path.isProper packageMark = true := by decide +kernel

theorem markUsable {directory : Path} (usable : directory.Usable) : (directory.child packageMark).Usable := by
  have parsed : Path.ofString packageMark = ⟨"", [packageMark]⟩ := by decide +kernel
  unfold Path.child
  rw [parsed]
  refine ⟨usable.anchored, fun n member => ?_⟩
  rcases List.mem_append.mp member with old | last
  · exact usable.proper n old
  · exact List.mem_singleton.mp last ▸ packageMarkProper

theorem parentUsable {p : Path} (usable : p.Usable) : p.parent.Usable :=
  ⟨usable.anchored, fun n member => usable.proper n (List.dropLast_subset _ member)⟩

theorem isFileStill {p : Path} {there : Bool} {u : Workspace} (ran : (isFile p).runIn w = (.ok there, u)) : u = w := by
  unfold isFile at ran
  obtain ⟨e, x, looked, last⟩ := bindOk ran
  cases last
  exact (entryOk looked).2

theorem packageNamesSame (sound : w.Sound) (soundToo : v.Sound)
    (same : ∀ s : Spot, (v.tree.bytes? (s ++ [packageMark])).isSome = (w.tree.bytes? (s ++ [packageMark])).isSome)
    {fuel : Nat} {directory : Path} (usable : directory.Usable) {names : List String} {u : Workspace}
    (ran : (packageNames fuel directory).runIn w = (.ok names, u)) :
    u = w ∧ (packageNames fuel directory).runIn v = (.ok names, v) := by
  induction fuel generalizing directory names u with
  | zero =>
    cases ran
    exact ⟨rfl, rfl⟩
  | succ fuel ih =>
    unfold packageNames at ran ⊢
    obtain ⟨there, x, looked, later⟩ := bindOk ran
    have still := isFileStill looked
    subst still
    have parsed : Path.ofString packageMark = ⟨"", [packageMark]⟩ := by decide +kernel
    have placed : (directory.child packageMark).parts = directory.parts ++ [packageMark] := by
      unfold Path.child
      rw [parsed]
      rfl
    have again := isFileSame sound soundToo (markUsable usable) (by rw [placed]; exact same _) looked
    rw [bindOf again]
    split at later
    · rename_i outside
      rw [if_pos outside]
      cases later
      exact ⟨rfl, rfl⟩
    · rename_i inside
      rw [if_neg inside]
      obtain ⟨outer, y, above, last⟩ := bindOk later
      obtain ⟨still, done⟩ := ih (parentUsable usable) above
      cases last
      rw [bindOf done]
      exact ⟨still, rfl⟩

theorem moduleNameSame (sound : w.Sound) (soundToo : v.Sound)
    (same : ∀ s : Spot, (v.tree.bytes? (s ++ [packageMark])).isSome = (w.tree.bytes? (s ++ [packageMark])).isSome)
    {p : Path} (usable : p.Usable) {name : String} {u : Workspace}
    (ran : (moduleName p).runIn w = (.ok name, u)) : u = w ∧ (moduleName p).runIn v = (.ok name, v) := by
  unfold moduleName at ran ⊢
  obtain ⟨q, x, resolved, later⟩ := bindOk ran
  obtain ⟨unflawed, whole, still⟩ := resolveOk resolved
  subst still
  rw [usable.straight.absolute] at whole
  subst whole
  have again : (resolve q).runIn v = (.ok q, v) := by
    rw [resolveIn, unflawed, usable.straight.absolute]
  rw [bindOf again]
  obtain ⟨names, y, found, last⟩ := bindOk later
  obtain ⟨still, done⟩ := packageNamesSame sound soundToo same (parentUsable usable) found
  cases last
  rw [bindOf done]
  exact ⟨still, rfl⟩

namespace Workspace

theorem unitSame (sound : w.Sound) (soundToo : v.Sound)
    (marks : ∀ s : Spot, (v.tree.bytes? (s ++ [packageMark])).isSome = (w.tree.bytes? (s ++ [packageMark])).isSome)
    {p : Path} (usable : p.Usable) (refusals : v.refusals = w.refusals)
    (same : v.tree.bytes? p.parts = w.tree.bytes? p.parts) : v.unit? p = w.unit? p := by
  unfold unit?
  rw [textSame refusals same]
  cases named : (moduleName p).runIn w with
  | mk result u =>
    cases result with
    | ok name => rw [(moduleNameSame sound soundToo marks usable named).2]
    | error f =>
      cases named' : (moduleName p).runIn v with
      | mk result' u' =>
        cases result' with
        | ok name =>
          have back := (moduleNameSame soundToo sound (fun s => (marks s).symm) usable named').2
          cases named.symm.trans back
        | error f' => rfl

end Workspace

namespace Forest
variable {f g : Forest} {p : Path}

theorem addFileOk (sound : w.Sound) (usable : p.Usable) (ok : (f.addFile p).runIn w = (.ok g, v)) :
    (∃ rs, v = w.noted rs) ∧ g.generated = f.generated ++ (if w.marked p then [p] else []) ∧
      g.units = f.units ++ (w.unit? p).toList := by
  obtain ⟨told, ran, read⟩ := readTextIn sound usable.straight usable.unflawed
  unfold addFile at ok
  rw [bindOf ran] at ok
  cases told with
  | error message =>
    have unread : w.text? p = none := read.symm
    have unmarked : w.marked p = false := by simp [Workspace.marked, unread]
    have unitless : w.unit? p = none := by simp [Workspace.unit?, unread]
    obtain ⟨_, u, logged, done⟩ := bindOk ok
    cases done
    refine ⟨notedIn (calmLog _ _ _) logged, ?_, ?_⟩
    · simp [unmarked, noteError]
    · simp [unitless, noteError]
  | ok text =>
    have read : w.text? p = some text := read.symm
    dsimp only at ok
    split at ok
    · rename_i generated
      have marked : w.marked p = true := by simp [Workspace.marked, read, generated]
      have unitless : w.unit? p = none := by simp [Workspace.unit?, read, generated]
      obtain ⟨_, u, logged, done⟩ := bindOk ok
      cases done
      refine ⟨notedIn (calmLog _ _ _) logged, ?_, ?_⟩
      · simp [marked]
      · simp [unitless]
    · rename_i other
      have unmarked : w.marked p = false := by simp [Workspace.marked, read, other]
      obtain ⟨name, u, named, parsed⟩ := bindOk ok
      have still := (moduleNameSame sound sound (fun _ => rfl) usable named).1
      subst still
      have unit : u.unit? p = (SourceUnit.read name text (some p)).toOption := by
        unfold Workspace.unit?
        rw [read, Option.bind_some, if_neg other, named]
      split at parsed
      · rename_i made unitRead
        cases parsed
        rw [unitRead] at unit
        refine ⟨⟨[], rfl⟩, ?_, ?_⟩
        · simp [unmarked]
        · simp [unit, Except.toOption]
      · rename_i fault unread
        obtain ⟨_, x, logged, done⟩ := bindOk parsed
        cases done
        rw [unread] at unit
        refine ⟨notedIn (calmLog _ _ _) logged, ?_, ?_⟩
        · simp [unmarked, noteError]
        · simp [unit, Except.toOption, noteError]

theorem addFilesMarked {ps : List Path} (sound : w.Sound) (usable : ∀ q ∈ ps, q.Usable) (unlogged : w.logFile ≠ some p.parts)
    (ok : (f.addFiles ps).runIn w = (.ok g, v)) :
    p ∈ g.generated ↔ p ∈ f.generated ∨ p ∈ ps ∧ w.marked p = true := by
  induction ps generalizing f w with
  | nil =>
    cases ok
    simp
  | cons q rest ih =>
    obtain ⟨next, u, added, later⟩ := bindOk ok
    obtain ⟨⟨rs, noted⟩, generated, _⟩ := addFileOk sound (usable q List.mem_cons_self) added
    subst noted
    have apart := Workspace.notedApart rs w
    have others := ih (Workspace.notedSound rs sound) (fun r member => usable r (List.mem_cons_of_mem _ member))
      (apart.logFile ▸ unlogged) later
    have judged : (w.noted rs).marked p = w.marked p :=
      Workspace.markedSame apart.refusals (Workspace.notedBytes rs unlogged)
    rw [others, judged, generated, List.mem_append, List.mem_cons]
    constructor
    · rintro ((old | here) | ⟨member, marked⟩)
      · exact .inl old
      · split at here
        · rename_i marked
          rw [List.mem_singleton.mp here]
          exact .inr ⟨.inl rfl, marked⟩
        · cases here
      · exact .inr ⟨.inr member, marked⟩
    · rintro (old | ⟨rfl | member, marked⟩)
      · exact .inl (.inl old)
      · exact .inl (.inr (by simp [marked]))
      · exact .inr ⟨member, marked⟩

theorem addFilesWithin {ps : List Path} (sound : w.Sound) (usable : ∀ q ∈ ps, q.Usable)
    (ok : (f.addFiles ps).runIn w = (.ok g, v)) : ∀ p ∈ g.generated, p ∈ f.generated ∨ p ∈ ps := by
  induction ps generalizing f w with
  | nil =>
    cases ok
    exact fun p member => .inl member
  | cons q rest ih =>
    obtain ⟨next, u, added, later⟩ := bindOk ok
    obtain ⟨⟨rs, noted⟩, generated, _⟩ := addFileOk sound (usable q List.mem_cons_self) added
    subst noted
    intro p member
    rcases ih (Workspace.notedSound rs sound) (fun r later => usable r (List.mem_cons_of_mem _ later)) later p member with
      old | deeper
    · rw [generated, List.mem_append] at old
      rcases old with old | here
      · exact .inl old
      · split at here
        · exact .inr (List.mem_singleton.mp here ▸ List.mem_cons_self)
        · cases here
    · exact .inr (List.mem_cons_of_mem _ deeper)

theorem addFilesOk {ps : List Path} (sound : w.Sound) (usable : ∀ q ∈ ps, q.Usable) (unlogged : w.logFile = none)
    (ok : (f.addFiles ps).runIn w = (.ok g, v)) :
    g.generated = f.generated ++ ps.filter w.marked ∧ g.units = f.units ++ ps.filterMap w.unit? := by
  induction ps generalizing f w with
  | nil =>
    cases ok
    simp
  | cons q rest ih =>
    obtain ⟨next, u, added, later⟩ := bindOk ok
    obtain ⟨⟨rs, noted⟩, generated, units⟩ := addFileOk sound (usable q List.mem_cons_self) added
    subst noted
    have apart := Workspace.notedApart rs w
    have soundToo := Workspace.notedSound rs sound
    have usableToo : ∀ r ∈ rest, r.Usable := fun r member => usable r (List.mem_cons_of_mem _ member)
    obtain ⟨laterGenerated, laterUnits⟩ := ih soundToo usableToo (apart.logFile.trans unlogged) later
    have bytes (s : Spot) : (w.noted rs).tree.bytes? s = w.tree.bytes? s :=
      Workspace.notedBytes rs (by simp [unlogged])
    have judged : rest.filter (w.noted rs).marked = rest.filter w.marked :=
      List.filter_congr fun r _ => Workspace.markedSame apart.refusals (bytes _)
    have made : rest.filterMap (w.noted rs).unit? = rest.filterMap w.unit? :=
      List.filterMap_congr fun r member => Workspace.unitSame sound soundToo (fun s => by rw [bytes])
        (usableToo r member) apart.refusals (bytes _)
    rw [laterGenerated, laterUnits, judged, made, generated, units]
    refine ⟨?_, ?_⟩
    · rw [List.append_assoc, List.filter_cons]
      split <;> rfl
    · rw [List.append_assoc, List.filterMap_cons]
      cases w.unit? q <;> rfl

/-! The forest of a list of roots. -/

variable {roots : List Path} {includes excludes : List String}

theorem scannedUsable (ps : Patterns) (sound : w.Sound) (straight : ∀ root ∈ roots, root.Straight) :
    ∀ q ∈ w.scanned ps roots, q.Usable := by
  intro q member
  obtain ⟨root, known, listed⟩ := Workspace.memScanned.mp member
  exact (Workspace.listedUsable sound (straight root known) listed).1

theorem loadStages (sound : w.Sound) (straight : ∀ root ∈ roots, root.Straight)
    (ok : (load roots includes excludes).runIn w = (.ok g, v)) :
    (∀ root ∈ roots, w.Answers root) ∧ ∃ rs x,
      (Forest.addFiles {} (w.scanned (patterns includes excludes) roots)).runIn (w.noted rs) = (.ok g, x) := by
  obtain ⟨found, u, listed, later⟩ := bindOk ok
  obtain ⟨rfl, answered, rs, rfl⟩ := filesOk sound straight listed
  obtain ⟨f, x, added, last⟩ := bindOk later
  obtain ⟨_, _, _, done⟩ := bindOk last
  cases done
  exact ⟨answered, rs, x, added⟩

theorem loadUsable (sound : w.Sound) (straight : ∀ root ∈ roots, root.Straight)
    (ok : (load roots includes excludes).runIn w = (.ok g, v)) : ∀ p ∈ g.generated, p.Usable ∧ p.Fits := by
  obtain ⟨_, rs, x, added⟩ := loadStages sound straight ok
  have usable := scannedUsable (patterns includes excludes) sound straight
  intro p member
  obtain ⟨s, bytes, located, _⟩ := loadHolds ok p member
  refine ⟨?_, (FileTree.locateFits located).1⟩
  rcases addFilesWithin (Workspace.notedSound rs sound) usable added p member with none | found
  · cases none
  · exact usable p found

theorem loadMarked (sound : w.Sound) (straight : ∀ root ∈ roots, root.Straight) (unlogged : w.logFile ≠ some p.parts)
    (ok : (load roots includes excludes).runIn w = (.ok g, v)) :
    p ∈ g.generated ↔ p ∈ w.scanned (patterns includes excludes) roots ∧ w.marked p = true := by
  obtain ⟨_, rs, x, added⟩ := loadStages sound straight ok
  have apart := Workspace.notedApart rs w
  have judged : (w.noted rs).marked p = w.marked p :=
    Workspace.markedSame apart.refusals (Workspace.notedBytes rs unlogged)
  rw [addFilesMarked (Workspace.notedSound rs sound) (scannedUsable _ sound straight) (apart.logFile ▸ unlogged) added,
    judged]
  simp

theorem loadOk (sound : w.Sound) (straight : ∀ root ∈ roots, root.Straight) (unlogged : w.logFile = none)
    (ok : (load roots includes excludes).runIn w = (.ok g, v)) :
    let found := w.scanned (patterns includes excludes) roots
    g.generated = found.filter w.marked ∧ g.units = found.filterMap w.unit? := by
  obtain ⟨_, rs, x, added⟩ := loadStages sound straight ok
  have apart := Workspace.notedApart rs w
  have soundToo := Workspace.notedSound rs sound
  have usable := scannedUsable (patterns includes excludes) sound straight
  have bytes (s : Spot) : (w.noted rs).tree.bytes? s = w.tree.bytes? s := Workspace.notedBytes rs (by simp [unlogged])
  obtain ⟨generated, units⟩ := addFilesOk soundToo usable (apart.logFile.trans unlogged) added
  have judged : (w.noted rs).marked = w.marked := funext fun q => Workspace.markedSame apart.refusals (bytes _)
  have made := List.filterMap_congr fun q member =>
    Workspace.unitSame sound soundToo (fun s => by rw [bytes]) (usable q member) apart.refusals (bytes _)
  rw [judged] at generated
  rw [made] at units
  exact ⟨by simpa using generated, by simpa using units⟩

end Forest

/-! The modules of an output directory. -/

namespace FileTree

/-- The names below a directory that modules can have. -/
def modulesIn (t : FileTree) (s : Spot) : List Spot :=
  ((t.children s).filter fun (names, _) => names.any isSourceName).map (·.1)

theorem modulesSorted {t : FileTree} (sound : t.Sound) (s : Spot) : (t.modulesIn s).Pairwise (· < ·) :=
  (belowSorted sound s).sublist ((List.filter_sublist.trans List.filter_sublist).map _)

theorem memModules {t : FileTree} (sound : t.Sound) {s r : Spot} :
    r ∈ t.modulesIn s ↔ (r.length = 1 ∧ r.any isSourceName = true) ∧ (t.get? (s ++ r)).isSome = true := by
  unfold modulesIn children
  simp only [List.mem_map, List.mem_filter, decide_eq_true_eq]
  constructor
  · rintro ⟨⟨q, e⟩, ⟨⟨there, one⟩, source⟩, rfl⟩
    obtain ⟨_, found⟩ := (memBelow sound).mp there
    exact ⟨⟨one, source⟩, by rw [found]; rfl⟩
  · rintro ⟨⟨one, source⟩, held⟩
    obtain ⟨e, found⟩ := Option.isSome_iff_exists.mp held
    have more : r ≠ [] := by
      rintro rfl
      cases one
    exact ⟨(r, e), ⟨⟨(memBelow sound).mpr ⟨more, found⟩, one⟩, source⟩, rfl⟩

end FileTree

namespace Workspace

def headedIn (w : Workspace) (directory : Path) : List Path :=
  ((w.tree.modulesIn directory.parts).map directory.under).filter w.headed

theorem memHeaded (sound : w.Sound) {directory p : Path} :
    p ∈ w.headedIn directory ↔
      (∃ r : Spot, p = directory.under r ∧ r.length = 1 ∧ r.any isSourceName = true) ∧ w.headed p = true := by
  unfold headedIn
  rw [List.mem_filter, List.mem_map]
  constructor
  · rintro ⟨⟨r, member, rfl⟩, headed⟩
    obtain ⟨⟨one, source⟩, _⟩ := (FileTree.memModules sound.tree).mp member
    exact ⟨⟨r, rfl, one, source⟩, headed⟩
  · rintro ⟨⟨r, rfl, one, source⟩, headed⟩
    obtain ⟨bytes, held⟩ := Option.isSome_iff_exists.mp (headedHolds headed)
    have there := (FileTree.bytesIff _ _ _).mp held
    refine ⟨⟨r, (FileTree.memModules sound.tree).mpr ⟨⟨one, source⟩, ?_⟩, rfl⟩, headed⟩
    exact Option.isSome_iff_exists.mpr ⟨_, there⟩

theorem headedAgree (sound : w.Sound) (soundToo : v.Sound) (directory : Path) (counts : Path → Bool)
    (agree : ∀ q : Path, counts q = true → v.headed q = w.headed q) :
    (v.headedIn directory).filter counts = (w.headedIn directory).filter counts := by
  have shown {u : Workspace} (fine : u.Sound) : (u.headedIn directory).filter counts =
      ((u.tree.modulesIn directory.parts).filter fun r =>
        u.headed (directory.under r) && counts (directory.under r)).map directory.under := by
    unfold headedIn
    rw [List.filter_filter, List.filter_map]
    refine congrArg _ (List.filter_congr fun r _ => ?_)
    exact Bool.and_comm _ _
  rw [shown soundToo, shown sound]
  refine congrArg _ (FileTree.sameIfSorted ((FileTree.modulesSorted soundToo.tree _).filter _)
    ((FileTree.modulesSorted sound.tree _).filter _) fun r => ?_)
  have there {u : Workspace} (headed : u.headed (directory.under r) = true) :
      (u.tree.get? (directory.parts ++ r)).isSome = true := by
    obtain ⟨bytes, held⟩ := Option.isSome_iff_exists.mp (headedHolds headed)
    exact Option.isSome_iff_exists.mpr ⟨_, (FileTree.bytesIff _ _ _).mp held⟩
  rw [List.mem_filter, List.mem_filter, FileTree.memModules soundToo.tree, FileTree.memModules sound.tree,
    Bool.and_eq_true, Bool.and_eq_true]
  constructor
  · rintro ⟨⟨named, _⟩, headed, counted⟩
    rw [agree _ counted] at headed
    exact ⟨⟨named, there headed⟩, headed, counted⟩
  · rintro ⟨⟨named, _⟩, headed, counted⟩
    rw [← agree _ counted] at headed
    exact ⟨⟨named, there headed⟩, headed, counted⟩

end Workspace

theorem modulePathsIn (sound : w.Sound) {directory : Path} (straight : directory.Straight) {e : Option Entry}
    (told : w.tree.entry? w.cwd directory = .ok e) :
    (modulePaths directory).runIn w = (.ok ((w.tree.modulesIn directory.parts).map directory.under), w) := by
  have there := FileTree.entryStraight sound.tree straight told
  have asked : (isDirectory directory).runIn w = (.ok (e.any Entry.isDirectory), w) := by
    unfold isDirectory
    rw [bindIn, entryIn, told]
    rfl
  unfold modulePaths
  rw [bindOf asked]
  by_cases whole : e = some .directory
  · rw [whole] at there
    rw [whole] at told
    have located : (locate directory).runIn w = (.ok directory.parts, w) := by
      rw [locateIn, FileTree.locateThere sound.tree w.cwd straight (FileTree.entryFits told) there.symm]
    subst whole
    simp only [Option.any_some, Entry.isDirectory, Bool.not_true, Bool.false_eq_true, if_false]
    rw [bindOf (getIn w), bindOf located]
    unfold FileTree.modulesIn
    rw [List.map_map]
    rfl
  · have absent : e.any Entry.isDirectory = false := by
      cases e with
      | none => rfl
      | some e =>
        cases e with
        | file bytes => rfl
        | directory => exact absurd rfl whole
    have none : w.tree.modulesIn directory.parts = [] := by
      refine List.eq_nil_iff_forall_not_mem.mpr fun r member => ?_
      obtain ⟨⟨one, _⟩, held⟩ := (FileTree.memModules sound.tree).mp member
      obtain ⟨d, found⟩ := Option.isSome_iff_exists.mp held
      have more : r ≠ [] := by
        rintro rfl
        cases one
      exact whole (there.trans (FileTree.prefixDirectory sound.tree found more))
    rw [absent, none]
    rfl

theorem headedNoted (rs : List Log.Record) (ps : List Path) {c : Path → Bool}
    (unlogged : ∀ q, c q = true → w.logFile ≠ some q.parts) :
    (ps.filter (w.noted rs).headed).filter c = (ps.filter w.headed).filter c := by
  rw [List.filter_filter, List.filter_filter]
  refine List.filter_congr fun q _ => ?_
  cases counted : c q with
  | false => rfl
  | true =>
    have judged := Workspace.headedSame (Workspace.notedApart rs w).refusals
      (Workspace.notedBytes rs (unlogged q counted))
    rw [judged]

/-- What is kept are the modules that are headed; only of the log file this may be otherwise by now. -/
theorem keepGeneratedIn {ps : List Path} (sound : w.Sound) (usable : ∀ q ∈ ps, q.Usable) :
    ∃ qs rs, (keepGenerated ps).runIn w = (.ok qs, w.noted rs) ∧ qs.Sublist ps ∧
      ∀ c : Path → Bool, (∀ q, c q = true → w.logFile ≠ some q.parts) →
        qs.filter c = (ps.filter w.headed).filter c := by
  induction ps generalizing w with
  | nil => exact ⟨[], [], rfl, List.Sublist.refl _, fun _ _ => rfl⟩
  | cons p rest ih =>
    have own := usable p List.mem_cons_self
    have others : ∀ q ∈ rest, q.Usable := fun q member => usable q (List.mem_cons_of_mem _ member)
    obtain ⟨told, ran, read⟩ := readFirstLineIn sound own.straight own.unflawed
    unfold keepGenerated
    rw [bindOf ran]
    cases told with
    | error message =>
      have unread : w.firstLine? p = none := read.symm
      have unheaded : w.headed p = false := by simp [Workspace.headed, unread]
      let r : Log.Record := ⟨Log.debug, Forest.logger, "Cannot read " ++ p.text ++ ": " ++ message⟩
      have logged : (Job.log Log.debug Forest.logger ("Cannot read " ++ p.text ++ ": " ++ message)).runIn w =
        (.ok (), w.noted [r]) := rfl
      obtain ⟨qs, rs, kept, within, same⟩ := ih (Workspace.notedSound [r] sound) others
      refine ⟨qs, [r] ++ rs, ?_, within.cons p, fun c unlogged => ?_⟩
      · dsimp only
        rw [bindOf logged, kept, Workspace.notedTwice]
      · have apart := Workspace.notedApart [r] w
        rw [same c fun q counted => apart.logFile ▸ unlogged q counted, List.filter_cons_of_neg (by simp [unheaded])]
        exact headedNoted [r] rest unlogged
    | ok line =>
      have read : w.firstLine? p = some line := read.symm
      obtain ⟨qs, rs, kept, within, same⟩ := ih sound others
      dsimp only
      split
      · rename_i generated
        have headed : w.headed p = true := by simp [Workspace.headed, read, generated]
        refine ⟨p :: qs, rs, ?_, within.cons_cons p, fun c unlogged => ?_⟩
        · rw [bindOf kept]
          rfl
        · rw [List.filter_cons_of_pos headed, List.filter_cons, List.filter_cons, same c unlogged]
      · rename_i other
        have unheaded : w.headed p = false := by simp [Workspace.headed, read, other]
        refine ⟨qs, rs, kept, within.cons p, fun c unlogged => ?_⟩
        rw [List.filter_cons_of_neg (by simp [unheaded]), same c unlogged]

theorem modulesUsable (sound : w.Sound) {directory : Path} (straight : directory.Straight) :
    ∀ q ∈ (w.tree.modulesIn directory.parts).map directory.under, q.Usable := by
  intro q member
  obtain ⟨r, known, rfl⟩ := List.mem_map.mp member
  obtain ⟨_, held⟩ := (FileTree.memModules sound.tree).mp known
  obtain ⟨e, found⟩ := Option.isSome_iff_exists.mp held
  exact ⟨straight.anchored, sound.tree.proper _ e found⟩

theorem generatedModulesAnswered {directory : Path} {qs : List Path}
    (ok : (generatedModulesIn directory).runIn w = (.ok qs, v)) : w.Answers directory := by
  obtain ⟨ps, u, listed, _⟩ := bindOk ok
  unfold modulePaths at listed
  obtain ⟨there, x, asked, _⟩ := bindOk listed
  unfold isDirectory at asked
  obtain ⟨e, y, looked, _⟩ := bindOk asked
  exact ⟨e, (entryOk looked).1⟩

theorem generatedModulesRun (sound : w.Sound) {directory : Path} (straight : directory.Straight)
    (answered : w.Answers directory) :
    ∃ qs rs, (generatedModulesIn directory).runIn w = (.ok qs, w.noted rs) ∧
      (∀ q ∈ qs, q.Usable ∧ isSourceName (q.parts.getLastD "") = true) ∧
      ∀ c : Path → Bool, (∀ q, c q = true → w.logFile ≠ some q.parts) →
        qs.filter c = (w.headedIn directory).filter c := by
  obtain ⟨e, told⟩ := answered
  have usable := modulesUsable sound straight
  obtain ⟨qs, rs, kept, within, same⟩ := keepGeneratedIn sound usable
  have sources : ∀ q ∈ qs, isSourceName (q.parts.getLastD "") = true := by
    intro q member
    obtain ⟨r, known, rfl⟩ := List.mem_map.mp (within.subset member)
    obtain ⟨⟨one, source⟩, _⟩ := (FileTree.memModules sound.tree).mp known
    obtain ⟨n, rfl⟩ := List.length_eq_one_iff.mp one
    rw [Path.under, List.getLastD_concat]
    simpa using source
  refine ⟨qs, rs, ?_, fun q member => ⟨usable q (within.subset member), sources q member⟩, same⟩
  unfold generatedModulesIn
  rw [bindOf (modulePathsIn sound straight told), kept]

theorem listingHeaded (sound : w.Sound) {directory : Path} (straight : directory.Straight) {ps : List Path}
    (listed : (generatedModulesIn directory).runIn w = (.ok ps, v)) :
    (∀ p ∈ ps, p.Usable) ∧ ∀ p, w.logFile ≠ some p.parts → (p ∈ ps ↔ p ∈ w.headedIn directory) := by
  obtain ⟨qs, _, again, usable, kept⟩ := generatedModulesRun sound straight (generatedModulesAnswered listed)
  have same : ps = qs := Except.ok.inj (Prod.mk.inj (listed.symm.trans again)).1
  subst same
  refine ⟨fun p member => (usable p member).1, fun p unlogged => ?_⟩
  have counted := kept (fun q => decide (w.logFile ≠ some q.parts)) fun q counts => by simpa using counts
  have free (qs : List Path) : p ∈ qs ↔ p ∈ qs.filter fun q => decide (w.logFile ≠ some q.parts) := by
    simp [List.mem_filter, unlogged]
  rw [free ps, counted, ← free]

end AccessorForge
