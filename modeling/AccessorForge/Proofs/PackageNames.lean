import AccessorForge.Proofs.Outcomes
import Mathlib.Algebra.GroupWithZero.Nat
/-! Module names of files. Above the file they are the names of the directories that are marked as packages, as far up
as these follow one another, and never the top. There is one exactly if it can be told whether a mark stands beside the
file: marks further up have shorter paths. -/
namespace AccessorForge
open Job Running Text
variable {w : Workspace} {p directory : Path}

/-! How long paths are. -/

theorem Text.Surrogate.elementsCut (before after : List Char) :
    Surrogate.elements (before ++ '/' :: after) = Surrogate.elements before ++ .char '/' :: Surrogate.elements after := by
  have slash : Surrogate.elements ('/' :: after) = .char '/' :: Surrogate.elements after := by
    cases after with
    | nil => rfl
    | cons c rest =>
      have other : ('/' : Char) ≠ Surrogate.mark := by decide
      simp [Surrogate.elements, other]
  fun_induction Surrogate.elements before with
  | case1 => exact slash
  | case2 c =>
    have whole : Surrogate.half? '/' = none := by decide
    rw [List.singleton_append, Surrogate.elements, whole, ite_self, slash]
    rfl
  | case3 a b rest n told ih =>
    rw [List.cons_append, List.cons_append, Surrogate.elements, told, ih]
    rfl
  | case4 a b rest told ih =>
    rw [List.cons_append, List.cons_append, Surrogate.elements, told, ← List.cons_append, ih]
    rfl

namespace Path

theorem byteCountSum (s : String) :
    byteCount s = ((Surrogate.elements s.toList).map fun e => (elementBytes? e).getD 0).sum := by
  have general (es : List Surrogate.Element) (n : Nat) :
      es.foldl (fun n e => n + (elementBytes? e).getD 0) n = n + (es.map fun e => (elementBytes? e).getD 0).sum := by
    induction es generalizing n with
    | nil => rfl
    | cons e rest ih => rw [List.foldl_cons, ih, List.map_cons, List.sum_cons, Nat.add_assoc]
  rw [byteCount, general, Nat.zero_add]

theorem byteCountCut (a b : String) : byteCount (a ++ "/" ++ b) = byteCount a + (byteCount b + 1) := by
  have slash : "/".toList = ['/'] := rfl
  have one : (elementBytes? (.char '/')).getD 0 = 1 := by decide
  rw [byteCountSum, byteCountSum, byteCountSum, String.toList_append, String.toList_append, slash, List.append_assoc,
    List.singleton_append, Surrogate.elementsCut]
  simp only [List.map_append, List.map_cons, List.sum_append, List.sum_cons, one]
  omega

theorem joinedBytes (names : List String) (some_ : names ≠ []) :
    byteCount ("/".intercalate names) + 1 = (names.map fun n => byteCount n + 1).sum := by
  induction names with
  | nil => exact absurd rfl some_
  | cons n rest ih =>
    cases rest with
    | nil => simp
    | cons m more =>
      rw [String.intercalate_cons_cons, byteCountCut, List.map_cons, List.sum_cons, ← ih (by simp)]
      omega

theorem absoluteBytes (names : List String) (some_ : names ≠ []) :
    byteCount (Path.mk "/" names).text = (names.map fun n => byteCount n + 1).sum := by
  have written : (Path.mk "/" names).text = "" ++ "/" ++ "/".intercalate names := by simp [text]
  have none : byteCount "" = 0 := rfl
  rw [written, byteCountCut, joinedBytes names some_, none, Nat.zero_add]

end Path

/-! Packages. -/

theorem childMark (directory : Path) :
    directory.child packageMark = ⟨directory.anchor, directory.parts ++ [packageMark]⟩ := by
  rw [Path.child, Path.ofEntryName (by decide +kernel)]
  rfl

theorem markFitsAbove {outer : Spot} {name : String} (fits : (Path.mk "/" (outer ++ [name] ++ [packageMark])).Fits) :
    (Path.mk "/" (outer ++ [packageMark])).Fits := by
  unfold Path.Fits at fits ⊢
  rw [Path.absoluteBytes _ (by simp)] at fits ⊢
  simp only [List.map_append, List.sum_append] at fits ⊢
  omega

namespace FileTree
variable {t : FileTree} {s outer names : Spot}

/-- A directory is a package if it holds a file of the marking name. -/
def IsPackage (t : FileTree) (s : Spot) : Prop := (t.bytes? (s ++ [packageMark])).isSome = true

instance (t : FileTree) (s : Spot) : Decidable (t.IsPackage s) := by
  unfold IsPackage
  infer_instance

/-- Going down from a directory along some names, one meets packages only. -/
def Unbroken (t : FileTree) (outer names : Spot) : Prop := ∀ d, d ≠ [] → d <+: names → t.IsPackage (outer ++ d)

/-- The last names on the way to a directory that lead through packages only, as many as there are. -/
structure PackageChain (t : FileTree) (s names : Spot) : Prop where
  packages : ∃ outer, s = outer ++ names ∧ t.Unbroken outer names
  longest : ∀ outer more, s = outer ++ more → t.Unbroken outer more → more.length ≤ names.length

theorem packageThere (package : t.IsPackage s) : ∃ bytes, t.get? (s ++ [packageMark]) = some (.file bytes) := by
  obtain ⟨bytes, held⟩ := Option.isSome_iff_exists.mp package
  exact ⟨bytes, (bytesIff t _ bytes).mp held⟩

theorem unbrokenEnd (unbroken : t.Unbroken outer names) (some_ : names ≠ []) : t.IsPackage (outer ++ names) :=
  unbroken names some_ List.prefix_rfl

theorem chainNone (s : Spot) (outside : s = [] ∨ ¬ t.IsPackage s) : t.PackageChain s [] := by
  refine ⟨⟨s, by simp, ?_⟩, ?_⟩
  · intro d some_ inside
    exact absurd (List.prefix_nil.mp inside) some_
  · intro outer more split unbroken
    by_cases none : more = []
    · simp [none]
    · have package := unbrokenEnd unbroken none
      rw [← split] at package
      rcases outside with top | other
      · simp_all
      · exact absurd package other

theorem chainNext {name : String} (package : t.IsPackage (s ++ [name])) (chain : t.PackageChain s names) :
    t.PackageChain (s ++ [name]) (names ++ [name]) := by
  obtain ⟨⟨outer, split, unbroken⟩, longest⟩ := chain
  refine ⟨⟨outer, by simp [split], ?_⟩, ?_⟩
  · intro d some_ inside
    rcases List.prefix_concat_iff.mp inside with whole | within
    · rw [whole, ← List.append_assoc, ← split]
      exact package
    · exact unbroken d some_ within
  · intro above more splitToo unbrokenToo
    rcases List.eq_nil_or_concat' more with none | ⟨front, last, rfl⟩
    · simp [none]
    · rw [← List.append_assoc] at splitToo
      have shorter := longest above front (List.append_inj_left' splitToo rfl) fun d some_ inside =>
        unbrokenToo d some_ (inside.trans (List.prefix_append front [last]))
      simpa using shorter

end FileTree

/-! Climbing. -/

theorem isFileStraight (sound : w.Sound) (straight : p.Straight) (answered : w.Answers p) :
    (isFile p).runIn w = (.ok (w.tree.bytes? p.parts).isSome, w) := by
  obtain ⟨e, told⟩ := answered
  have asked : ( entry? p).runIn w = (.ok e, w) := by rw [entryIn, told]
  unfold isFile
  rw [bindOf asked, FileTree.entryStraight sound.tree straight told]
  unfold FileTree.bytes?
  cases w.tree.get? p.parts with
  | none => rfl
  | some e => cases e <;> rfl

theorem markStraight (straight : directory.Straight) : (directory.child packageMark).Straight := by
  rw [childMark]
  refine ⟨straight.anchored, fun dots => ?_⟩
  rcases List.mem_append.mp dots with above | last
  · exact straight.dotless above
  · exact absurd (List.mem_singleton.mp last) (by decide)

theorem answeredFits (unflawed : p.flaw? = none) (answered : w.Answers p) : p.Fits := by
  obtain ⟨e, told⟩ := answered
  by_contra long
  unfold FileTree.entry? FileTree.entry FileTree.locate at told
  rw [unflawed, if_pos (Nat.lt_of_not_le long)] at told
  cases told

theorem answersAbove (sound : w.Sound) {outer : Spot} {name : String} (package : w.tree.IsPackage (outer ++ [name]))
    (answered : w.Answers ((Path.mk "/" (outer ++ [name])).child packageMark)) :
    w.Answers ((Path.mk "/" outer).child packageMark) := by
  obtain ⟨bytes, found⟩ := FileTree.packageThere package
  have proper := sound.tree.proper _ _ found
  rw [childMark] at answered ⊢
  have here : (Path.mk "/" (outer ++ [name] ++ [packageMark])).Usable := ⟨rfl, proper⟩
  have above : (Path.mk "/" (outer ++ [packageMark])).Usable :=
    ⟨rfl, fun n member => proper n (by rcases List.mem_append.mp member with old | last <;> simp_all)⟩
  exact ⟨_, FileTree.entryUsable sound.tree w.cwd above (markFitsAbove (answeredFits here.unflawed answered))⟩

theorem packageNamesIn (sound : w.Sound) {fuel : Nat} {s : Spot} (room : s.length < fuel) (dotless : ".." ∉ s)
    (answered : w.Answers ((Path.mk "/" s).child packageMark)) :
    ∃ names, (packageNames fuel ⟨"/", s⟩).runIn w = (.ok names, w) ∧ (w.tree.Named → w.tree.PackageChain s names) := by
  -- Each step goes up by one name, so the fuel is never used up.
  induction fuel generalizing s with
  | zero => exact absurd room (Nat.not_lt_zero _)
  | succ fuel ih =>
    have asked := isFileStraight sound (markStraight ⟨rfl, dotless⟩) answered
    rw [childMark] at asked
    unfold packageNames
    rw [childMark, bindOf asked]
    by_cases package : w.tree.IsPackage s
    · have marked : (w.tree.bytes? (s ++ [packageMark])).isSome = true := package
      rcases List.eq_nil_or_concat' s with top | ⟨outer, name, rfl⟩
      · subst top
        exact ⟨[], by simp only [marked]; rfl, fun _ => FileTree.chainNone [] (.inl rfl)⟩
      · by_cases filled : name = ""
        · refine ⟨[], by simp [Path.name, filled]; rfl, fun named => ?_⟩
          obtain ⟨bytes, found⟩ := FileTree.packageThere package
          exact absurd filled (Path.entryNameParts (named _ _ found name (by simp))).1
        · obtain ⟨names, above, chain⟩ := ih (by simpa using room) (by simp_all) (answersAbove sound package answered)
          refine ⟨names ++ [name], ?_, fun named => FileTree.chainNext package (chain named)⟩
          simp only [marked, Path.name, List.getLastD_concat, filled, Path.parent, List.dropLast_concat]
          rw [if_neg (by decide), bindOf above]
          rfl
    · have unmarked : (w.tree.bytes? (s ++ [packageMark])).isSome = false := by
        simpa [FileTree.IsPackage] using package
      exact ⟨[], by simp only [unmarked]; rfl, fun _ => FileTree.chainNone s (.inr package)⟩

/-! Names. -/

namespace Path

/-- The parts of the module name of a file that is in these packages. -/
def moduleParts (p : Path) (packages : List String) : List String :=
  packages ++ if p.stem = "__init__" then [] else [p.stem]

/-- They are joined with dots; if there are none, the name of the directory stands for them. -/
def dotted (p : Path) (packages : List String) : String :=
  if p.moduleParts packages = [] then p.parent.name else ".".intercalate (p.moduleParts packages)

theorem stemFilled (filled : p.name ≠ "") : p.stem ≠ "" := by
  have some_ : p.name.toList ≠ [] := by simpa using filled
  intro none
  have empty : stemChars p.name.toList = [] := by simpa [stem] using none
  unfold stemChars at empty
  dsimp only at empty
  split at empty
  · exact some_ empty
  · rename_i extended
    rcases List.take_eq_nil_iff.mp empty with short | whole
    · simp only [Bool.or_eq_true, decide_eq_true_eq, not_or] at extended
      exact extended.2 short
    · exact some_ whole

theorem joinedFilled {parts : List String} (filled : ∀ n ∈ parts, n ≠ "") : ".".intercalate parts = "" ↔ parts = [] := by
  rcases List.eq_nil_or_concat' parts with none | ⟨front, last, split⟩
  · simp [none]
  · have lastFilled : last ≠ "" := filled last (by simp [split])
    rw [split]
    by_cases alone : front = []
    · simp [alone, lastFilled]
    · rw [String.intercalate_append_of_ne_nil alone (by simp), String.intercalate_singleton]
      simp [lastFilled]

/-- The joined text is empty only if there is nothing to join, apart from the top, whose directory has no name either. -/
theorem dottedUnlessEmpty {packages : List String} (filled : ∀ n ∈ p.parts, n ≠ "")
    (within : ∃ outer, p.parent.parts = outer ++ packages) :
    (if ".".intercalate (p.moduleParts packages) = "" then p.parent.name
      else ".".intercalate (p.moduleParts packages)) = p.dotted packages := by
  obtain ⟨outer, split⟩ := within
  by_cases top : p.parts = []
  · have none : packages = [] := by simp_all [parent]
    obtain ⟨anchor, parts⟩ := p
    cases top
    subst none
    rfl
  · have named : p.name ≠ "" := by
      rw [name, List.getLastD_eq_getLast?, List.getLast?_eq_some_getLast top]
      exact filled _ (List.getLast_mem top)
    have whole : ∀ n ∈ p.moduleParts packages, n ≠ "" := by
      intro n member
      rcases List.mem_append.mp member with above | own
      · have inside : n ∈ p.parent.parts := split ▸ List.mem_append_right outer above
        exact filled n (List.dropLast_subset _ inside)
      · split at own
        · cases own
        · exact List.mem_singleton.mp own ▸ stemFilled named
    simp only [dotted, joinedFilled whole]

end Path

namespace Workspace

/-- The module name of a file depends on whether a mark stands beside it, which has to be told. -/
structure Names (w : Workspace) (p : Path) : Prop where
  unflawed : p.firstFlaw? = none
  answers : w.Answers ((p.absolute w.cwd).parent.child packageMark)

end Workspace

theorem absoluteFilled (sound : w.Sound) (named : w.tree.Named) (written : ∀ n ∈ p.parts, n ≠ "") :
    ∀ n ∈ (p.absolute w.cwd).parts, n ≠ "" := by
  intro n member
  rw [Path.absoluteParts p sound.dotless] at member
  rcases Path.followWithin member with start | own
  · split at start
    · cases start
    · exact (Path.entryNameParts (named _ _ sound.inside n start)).1
  · exact written n own

theorem packagesIn (sound : w.Sound) (names : w.Names p) : ∃ packages,
    (packageNames ((p.absolute w.cwd).parts.length + 1) (p.absolute w.cwd).parent).runIn w = (.ok packages, w) ∧
      (w.tree.Named → w.tree.PackageChain (p.absolute w.cwd).parent.parts packages) := by
  have straight := p.straightAbsolute w.cwd
  have room : (p.absolute w.cwd).parent.parts.length < (p.absolute w.cwd).parts.length + 1 := by
    simp only [Path.parent, List.length_dropLast]
    omega
  exact packageNamesIn sound room (fun dots => straight.dotless (List.dropLast_subset _ dots)) names.answers

theorem moduleNameReturns (sound : w.Sound) (names : w.Names p) : ∃ name, (moduleName p).runIn w = (.ok name, w) := by
  have resolved : (resolve p).runIn w = (.ok (p.absolute w.cwd), w) := by rw [resolveIn, names.unflawed]
  obtain ⟨packages, ran, _⟩ := packagesIn sound names
  unfold moduleName
  rw [bindOf resolved]
  exact ⟨_, bindOf ran⟩

theorem moduleNameIn (sound : w.Sound) (named : w.tree.Named) (written : ∀ n ∈ p.parts, n ≠ "") (names : w.Names p) :
    ∃ packages, w.tree.PackageChain (p.absolute w.cwd).parent.parts packages ∧
      (moduleName p).runIn w = (.ok ((p.absolute w.cwd).dotted packages), w) := by
  have resolved : (resolve p).runIn w = (.ok (p.absolute w.cwd), w) := by rw [resolveIn, names.unflawed]
  obtain ⟨packages, ran, chain⟩ := packagesIn sound names
  obtain ⟨outer, split, _⟩ := (chain named).packages
  refine ⟨packages, chain named, ?_⟩
  rw [← Path.dottedUnlessEmpty (absoluteFilled sound named written) ⟨outer, split⟩]
  unfold moduleName
  rw [bindOf resolved]
  exact bindOf ran

theorem longUnanswered {name : String} {rest : List String} (anchored : p.isAbsolute = true) (unflawed : p.flaw? = none)
    (parts : p.parts = name :: rest) (plain : name ≠ "..") (long : Path.maxNameBytes < Path.byteCount name) :
    ¬ w.Answers p := by
  intro ⟨e, told⟩
  have blocked : w.tree.locate w.cwd p = .error .nameTooLong := by
    unfold FileTree.locate
    rw [anchored, if_pos rfl, parts, FileTree.walkLong _ _ rest plain long, ite_self]
  unfold FileTree.entry? FileTree.entry at told
  rw [unflawed, blocked] at told
  cases told

theorem longUnnamed {directory file : String} (plain : directory ≠ "..")
    (unflawed : Path.isUnpaired directory = false ∧ Path.hasNulIn directory = false)
    (long : Path.maxNameBytes < Path.byteCount directory) (plainToo : file ≠ "..") :
    ¬ w.Names ⟨"/", [directory, file]⟩ := by
  intro names
  have straight : (Path.mk "/" [directory, file]).Straight := ⟨rfl, by simp [plain.symm, plainToo.symm]⟩
  have answers := names.answers
  rw [straight.absolute, childMark] at answers
  have own : Path.isUnpaired packageMark = false ∧ Path.hasNulIn packageMark = false := by decide +kernel
  have whole : (Path.mk "/" [directory, packageMark]).flaw? = none := by
    rw [Path.unflawedIff]
    simp [unflawed, own]
  exact longUnanswered rfl whole rfl plain long answers

theorem moduleNameFails (unnamed : ¬ w.Names p) : ∃ f, (moduleName p).runIn w = (.error f, w) := by
  unfold moduleName
  rw [bindIn, resolveIn]
  cases flawed : p.firstFlaw? with
  | some flaw => exact ⟨flaw.failure, rfl⟩
  | none =>
    dsimp only
    have unanswered : ¬ w.Answers ((p.absolute w.cwd).parent.child packageMark) := fun answers => unnamed ⟨flawed, answers⟩
    cases told : w.tree.entry? w.cwd ((p.absolute w.cwd).parent.child packageMark) with
    | ok e => exact absurd ⟨e, told⟩ unanswered
    | error o =>
      refine ⟨.file ⟨o, ((p.absolute w.cwd).parent.child packageMark).text, none⟩, ?_⟩
      rw [bindIn, packageNames, bindIn, isFile, bindIn, entryIn, told]

/-- The module name of a file: the longest run of packages that ends at its directory, outermost first, and the stem of
its own name. There is one exactly if the path can be one of a file and it can be told what stands beside it. -/
theorem modulesNamedByPackages (w : Workspace) (p : Path) (sound : w.Sound) (named : w.tree.Named)
    (written : ∀ n ∈ p.parts, n ≠ "") :
    (w.Names p → ∃ packages, w.tree.PackageChain (p.absolute w.cwd).parent.parts packages ∧
      (moduleName p).runIn w = (.ok ((p.absolute w.cwd).dotted packages), w)) ∧
    (¬ w.Names p → ∃ f, (moduleName p).runIn w = (.error f, w)) :=
  ⟨moduleNameIn sound named written, moduleNameFails⟩

/-- A package in a package, in a directory that is none. -/
def nested : Workspace :=
  { tree := [
      (["src"], .directory),
      (["src", "game"], .directory),
      (["src", "game", "__init__.py"], .file []),
      (["src", "game", "units"], .directory),
      (["src", "game", "units", "__init__.py"], .file []),
      (["src", "game", "units", "turret.py"], .file [])] }

theorem modulesNamedByPackagesNested : nested.Sound ∧ nested.tree.Named ∧
    ∃ packages, nested.tree.PackageChain ["src", "game", "units"] packages ∧
      (Path.mk "/" ["src", "game", "units", "turret.py"]).dotted packages = "game.units.turret" := by
  have sound : nested.Sound := ⟨FileTree.soundIf (by decide +kernel), rfl⟩
  have named : nested.tree.Named := FileTree.namedIf (by decide +kernel)
  let turret : Path := ⟨"/", ["src", "game", "units", "turret.py"]⟩
  have names : nested.Names turret := ⟨by decide +kernel, Workspace.answersIf (by decide +kernel)⟩
  obtain ⟨packages, chain, ran⟩ := (modulesNamedByPackages nested turret sound named (by decide)).1 names
  have called : ((moduleName turret).runIn nested).1 = .ok "game.units.turret" := by decide +kernel
  rw [ran] at called
  exact ⟨sound, named, packages, chain, Except.ok.inj called⟩

/-- A name that no directory can have. -/
def overlong : String := String.ofList (List.replicate 256 'x')

theorem overlongName : overlong ≠ ".." ∧ (Path.isUnpaired overlong = false ∧ Path.hasNulIn overlong = false) ∧
    Path.byteCount overlong = 256 := by
  have chars : overlong.toList = List.replicate 256 'x' := String.toList_ofList
  have other : overlong ≠ ".." := by
    intro same
    have shorter := congrArg (fun s : String => s.toList.length) same
    simp only [chars, List.length_replicate] at shorter
    exact absurd shorter (by decide)
  simp only [Path.isUnpaired, Text.Surrogate.isBroken, Path.hasNulIn, Path.byteCount, chars]
  exact ⟨other, by decide +kernel⟩

/-- A file of which it cannot be asked whether it is in a package has no module name. -/
theorem overlongModuleUnnamed :
    Workspace.Sound {} ∧ FileTree.Named [] ∧ (∀ n ∈ [overlong, "a.py"], n ≠ "") ∧ FileTree.PackageChain [] [overlong] [] ∧
    (Path.mk "/" [overlong, "a.py"]).dotted [] = "a" ∧
    ∃ f, (moduleName ⟨"/", [overlong, "a.py"]⟩).runIn {} = (.error f, {}) := by
  obtain ⟨plain, unflawed, long⟩ := overlongName
  generalize overlong = name at plain unflawed long
  have filled : name ≠ "" := by
    rintro rfl
    cases long
  have outside : ¬ FileTree.IsPackage [] [name] := by
    simp [FileTree.IsPackage, FileTree.bytes?, FileTree.get?]
  have called : (Path.mk "/" [name, "a.py"]).dotted [] = "a" := by
    have stem : (Path.mk "/" [name, "a.py"]).stem = "a" := by
      change String.ofList (Path.stemChars "a.py".toList) = "a"
      decide +kernel
    simp [Path.dotted, Path.moduleParts, stem]
  have sound : Workspace.Sound {} := ⟨FileTree.soundIf (by decide), rfl⟩
  have long : Path.maxNameBytes < Path.byteCount name := by rw [long]; decide
  exact ⟨sound, FileTree.namedIf (by decide), by simp [filled], FileTree.chainNone _ (.inr outside), called,
    moduleNameFails (longUnnamed plain unflawed long (by decide))⟩

end AccessorForge
