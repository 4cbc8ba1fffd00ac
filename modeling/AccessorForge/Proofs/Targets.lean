import AccessorForge.Proofs.ClassNames
import AccessorForge.Proofs.Completion
/-! Where the modules of a run go. A module is made for a class of a file that was scanned, its name is one file
name, and so its target stands in the output directory or beside that file. -/
namespace AccessorForge
open Job Running Syntax
variable {w v : Workspace} {r : Request} {g : Generation} {p : Path}

namespace FileTree

/-- Every name in a tree is one that a directory can list. -/
def Named (t : FileTree) : Prop := ∀ s e, t.get? s = some e → ∀ n ∈ s, Path.isEntryName n = true

def isNamed (t : FileTree) : Bool := t.all fun (s, _) => s.all Path.isEntryName

theorem namedIf {t : FileTree} (checked : t.isNamed = true) : t.Named := by
  intro s e found n member
  have there := entryOf found (List.ne_nil_of_mem member)
  exact List.all_eq_true.mp (List.all_eq_true.mp checked _ there) n member

end FileTree

theorem Workspace.notedNamed (rs : List Log.Record) (named : w.tree.Named) : (w.noted rs).tree.Named := by
  intro s e found
  have kinds := (Workspace.notedShape rs w).kinds s
  rw [found] at kinds
  cases before : w.tree.get? s with
  | none => simp [before] at kinds
  | some d => exact named s d before

/-! Units. -/

/-- The tree of a unit was read from some text. -/
def SourceUnit.IsRead (u : SourceUnit) : Prop := ∃ source, readModule source = some u.tree

theorem SourceUnit.readAs {name text : String} {path : Option Path} {u : SourceUnit}
    (read : SourceUnit.read name text path = .ok u) : u.path = path ∧ u.IsRead := by
  unfold SourceUnit.read at read
  split at read
  · cases read
  · split at read
    · cases read
    · split at read
      · cases read
      · split at read
        · rename_i tree parsed
          cases read
          exact ⟨rfl, _, parsed⟩
        · cases read

theorem unitRead {u : SourceUnit} (made : w.unit? p = some u) : u.path = some p ∧ u.IsRead := by
  unfold Workspace.unit? at made
  obtain ⟨text, _, made⟩ := Option.bind_eq_some_iff.mp made
  split at made
  · cases made
  · split at made
    · rename_i name _ _
      cases read : SourceUnit.read name text (some p) with
      | error f =>
        rw [read] at made
        cases made
      | ok u' =>
        rw [read] at made
        cases made
        exact SourceUnit.readAs read
    · cases made

namespace Forest
variable {f forest : Forest} {roots : List Path} {includes excludes : List String}

theorem addFilesRead {ps : List Path} (sound : w.Sound) (usable : ∀ q ∈ ps, q.Usable)
    (ok : (f.addFiles ps).runIn w = (.ok forest, v)) :
    ∀ u ∈ forest.units, u ∈ f.units ∨ ∃ q ∈ ps, u.path = some q ∧ u.IsRead := by
  induction ps generalizing f w with
  | nil =>
    cases ok
    exact fun u member => .inl member
  | cons q rest ih =>
    obtain ⟨next, x, added, later⟩ := bindOk ok
    obtain ⟨⟨rs, noted⟩, _, units⟩ := addFileOk sound (usable q List.mem_cons_self) added
    subst noted
    have others : ∀ p ∈ rest, p.Usable := fun p deeper => usable p (List.mem_cons_of_mem _ deeper)
    intro u member
    rcases ih (Workspace.notedSound rs sound) others later u member with known | ⟨p, deeper, made⟩
    · rw [units] at known
      rcases List.mem_append.mp known with old | new
      · exact .inl old
      · exact .inr ⟨q, List.mem_cons_self, unitRead (Option.mem_toList.mp new)⟩
    · exact .inr ⟨p, List.mem_cons_of_mem _ deeper, made⟩

theorem loadRead (sound : w.Sound) (straight : ∀ root ∈ roots, root.Straight)
    (ok : (load roots includes excludes).runIn w = (.ok forest, v)) :
    ∀ u ∈ forest.units, ∃ q ∈ w.scanned (patterns includes excludes) roots, u.path = some q ∧ u.IsRead := by
  obtain ⟨_, rs, x, added⟩ := loadStages sound straight ok
  have usable := scannedUsable (patterns includes excludes) sound straight
  intro u member
  rcases addFilesRead (Workspace.notedSound rs sound) usable added u member with none | made
  · cases none
  · exact made

theorem handedScanned (sound : w.Sound) (straight : ∀ root ∈ roots, root.Straight)
    (ok : (load roots includes excludes).runIn w = (.ok forest, v)) {options : PassOptions} {m : GeneratedSource}
    (member : m ∈ Output.handed options forest.units) :
    ∃ q ∈ w.scanned (patterns includes excludes) roots,
      m.origin = some q.text ∧ ∃ name : String, Naming.IsPlain name ∧ m.name = Naming.outputName name := by
  obtain ⟨u, known, p, placed, name, origin⟩ := handedFrom member
  obtain ⟨q, scanned, path, source, read⟩ := loadRead sound straight ok u known
  refine ⟨q, scanned, ?_, p.name, readPlain read p placed, name⟩
  rw [origin, path]
  rfl

end Forest

/-! Targets. -/

namespace Path

theorem childEntry {directory : Path} (straight : directory.Straight) {n : String} (entry : isEntryName n = true) :
    (directory.child n).Straight ∧ (directory.child n).parts = directory.parts ++ [n] := by
  have joined : directory.child n = ⟨directory.anchor, directory.parts ++ [n]⟩ := by
    unfold child
    rw [ofEntryName entry]
    rfl
  obtain ⟨_, _, dotless, _⟩ := entryNameParts entry
  rw [joined]
  refine ⟨⟨straight.anchored, ?_⟩, rfl⟩
  simpa using ⟨straight.dotless, Ne.symm dotless⟩

theorem Straight.parent {p : Path} (straight : p.Straight) : p.parent.Straight :=
  ⟨straight.anchored, fun dots => straight.dotless (List.dropLast_subset _ dots)⟩

end Path

theorem outputSourceName (name : String) : isSourceName (Naming.outputName name) = true := by
  unfold isSourceName
  rw [Naming.outputChars, List.isSuffixOf_iff_suffix]
  have last : ".py".toList <:+ "_getters.py".toList := ⟨"_getters".toList, rfl⟩
  exact last.trans (List.suffix_append _ _)

theorem Workspace.scannedText (sound : w.Sound) (named : w.tree.Named) {ps : Forest.Patterns} {roots : List Path}
    (straight : ∀ root ∈ roots, root.Straight) {q : Path} (scanned : q ∈ w.scanned ps roots) :
    q.Usable ∧ Path.ofString q.text = q := by
  obtain ⟨root, known, listed⟩ := Workspace.memScanned.mp scanned
  obtain ⟨usable, held⟩ := Workspace.listedUsable sound (straight root known) listed
  obtain ⟨bytes, file⟩ := Option.isSome_iff_exists.mp held
  exact ⟨usable, Path.ofText usable.anchored (named _ _ ((FileTree.bytesIff _ _ _).mp file))⟩

namespace Completed

theorem moduleFrom (run : Completed r w g v) (sound : w.Sound) {m : GeneratedSource} (member : m ∈ run.modules) :
    ∃ q ∈ run.loaded.scanned run.patterns run.roots,
      m.origin = some q.text ∧ ∃ name : String, Naming.IsPlain name ∧ m.name = Naming.outputName name :=
  Forest.handedScanned (run.readySound sound).1 run.rootsStraight run.scan member

theorem scannedText (run : Completed r w g v) (sound : w.Sound) (named : w.tree.Named) {q : Path}
    (scanned : q ∈ run.loaded.scanned run.patterns
      run.roots) : q.Usable ∧ Path.ofString q.text = q := by
  obtain ⟨rs, noted⟩ := notedIn (Settings.calmLoad _ _) run.load
  exact Workspace.scannedText (run.readySound sound).1 (noted ▸ Workspace.notedNamed rs named) run.rootsStraight scanned

theorem targetStraight (run : Completed r w g v) (sound : w.Sound) (named : w.tree.Named) {m : GeneratedSource}
    (member : m ∈ run.modules) :
    (run.start.target m).Straight ∧ isSourceName ((run.start.target m).parts.getLastD "") = true := by
  obtain ⟨q, scanned, origin, name, plain, spelled⟩ := run.moduleFrom sound member
  have entry : Path.isEntryName m.name = true := spelled ▸ Naming.outputEntryName (plain '/' (.inr (.inl rfl)))
  have source : isSourceName m.name = true := spelled ▸ outputSourceName name
  have within {d : Path} (straight : d.Straight) :
      (d.child m.name).Straight ∧ isSourceName ((d.child m.name).parts.getLastD "") = true := by
    obtain ⟨child, parts⟩ := Path.childEntry straight entry
    refine ⟨child, ?_⟩
    rw [parts, List.getLastD_concat]
    exact source
  have aimed : run.start.directory = run.directory := rfl
  unfold Output.target
  rw [aimed, origin]
  cases chosen : run.directory with
  | some d => exact within ((Request.aimOk run.aim).2.1 d chosen)
  | none =>
    obtain ⟨usable, spelled⟩ := run.scannedText sound named scanned
    dsimp only
    rw [spelled]
    exact within usable.straight.parent

end Completed

end AccessorForge
