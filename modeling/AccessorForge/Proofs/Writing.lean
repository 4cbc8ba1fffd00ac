import AccessorForge.Proofs.Reading
import Mathlib.Data.List.Infix
import Mathlib.Data.List.Nodup
import Mathlib.Data.List.Perm.Subperm
/-! What writing leaves behind. A text that was written stands where its path leads, the temporary file is gone,
and apart from new directories nothing else has changed. -/
namespace AccessorForge
open Job Running
variable {α β : Type} {w v : Workspace} {p : Path}

namespace Path

def upward (p : Path) : List Path := p.parts.inits.map fun names => ⟨p.anchor, names⟩

theorem memUpward (p : Path) : p ∈ p.upward := List.mem_map.mpr ⟨p.parts, by simp, rfl⟩

theorem parentUpward (p : Path) : p.parent.upward ⊆ p.upward := by
  refine List.map_subset _ fun names above => ?_
  rw [List.mem_inits] at above ⊢
  exact above.trans (List.dropLast_prefix _)

end Path

namespace FileTree

theorem walkProper {t : FileTree} {here s : Spot} {names : List String}
    (start : ∀ n ∈ here, Path.isProper n = true)
    (unflawed : ∀ n ∈ names, Path.isUnpaired n = false ∧ Path.hasNulIn n = false)
    (ok : t.walk here names = .ok s) : ∀ n ∈ s, Path.isProper n = true := by
  have followed := walkFollows ok
  have dotless : ".." ∉ s := followed ▸ Path.dotlessFollow (Path.properDotless start) names
  intro n member
  rcases Path.followWithin (followed ▸ member) with old | new
  · exact start n old
  · have plain : n ≠ ".." := by
      rintro rfl
      exact dotless member
    have short : Path.byteCount n ≤ Path.maxNameBytes := by
      rcases walkShort ok n new with dots | short
      · exact absurd dots plain
      · exact short
    simp [Path.isProper, plain, unflawed n new, short]

end FileTree

namespace Workspace

theorem placedSound (sound : w.Sound) (unflawed : p.flaw? = none) {s : Spot} (located : w.tree.locate w.cwd p = .ok s)
    (leaf : w.tree.get? s ≠ some .directory) (e : Entry) :
    Sound { w with tree := w.tree.put s e } ∧ Apart [s] w { w with tree := w.tree.put s e } := by
  obtain ⟨_, walked⟩ := FileTree.locateFits located
  have start : w.tree.get? (if p.isAbsolute then [] else w.cwd) = some .directory := by
    split
    · exact FileTree.get?_nil _
    · exact sound.inside
  have house : w.tree.get? s.dropLast = some .directory := by
    rcases FileTree.walkHoused sound.tree start walked with whole | above
    · exact absurd whole leaf
    · exact above
  have below : s ≠ [] := by
    rintro rfl
    exact leaf (FileTree.get?_nil _)
  have proper := FileTree.walkProper (sound.tree.proper _ _ start) ((Path.unflawedIff p).mp unflawed) walked
  have grown := grownPut e leaf
  have other (r : Spot) (outside : r ∉ [s]) : (w.tree.put s e).bytes? r = w.tree.bytes? r :=
    bytesPutOther _ e (by simpa using outside)
  exact ⟨⟨FileTree.putSound sound.tree below house leaf proper, grown _ sound.inside⟩,
    rfl, rfl, rfl, fun r outside _ => other r outside, fun r outside => by rw [other r outside], grown⟩

theorem supplantSound (sound : w.Sound) (unflawed : p.flaw? = none) {s : Spot} (located : w.tree.locate w.cwd p = .ok s)
    (leaf : w.tree.get? s ≠ some .directory) (e : Entry) : (w.supplant s e).Sound ∧ Apart [s] w (w.supplant s e) := by
  obtain ⟨still, apart⟩ := placedSound sound unflawed located leaf e
  exact ⟨⟨still.tree, still.inside⟩, ⟨apart.cwd, apart.refusals, apart.logFile, apart.same, apart.holds, apart.grown⟩⟩

end Workspace

namespace Job

def Leaves (R : Workspace → Workspace → Prop) (x : Job α) : Prop := ∀ w, R w (x.runIn w).2

theorem isDirectoryStill (p : Path) (w : Workspace) : ((isDirectory p).runIn w).2 = w := by
  unfold isDirectory
  rw [bindIn, entryIn]
  cases w.tree.entry? w.cwd p <;> rfl

section
variable {R : Workspace → Workspace → Prop} (same : ∀ w, R w w) (trans : ∀ u v w, R u v → R v w → R u w)

omit same in
include trans in
theorem leavesBind {x : Job α} {f : α → Job β} (first : x.Leaves R) (next : ∀ a, (f a).Leaves R) :
    (x >>= f).Leaves R := by
  intro w
  have earlier := first w
  rw [bindIn]
  cases ran : x.runIn w with
  | mk result v =>
    rw [ran] at earlier
    cases result with
    | error e => exact earlier
    | ok a => exact trans _ _ _ earlier (next a v)

theorem leavesAttempt {x : Job α} (leaves : x.Leaves R) : (attempt x).Leaves R := by
  intro w
  have after := leaves w
  rw [attemptIn]
  cases ran : x.runIn w with
  | mk result v =>
    rw [ran] at after
    cases result with
    | ok a => exact after
    | error f => cases f <;> exact after

include same trans

theorem leavesRefusedUnlessThere (p : Path) (f : FileFault) : Leaves R (do
    if f.obstacle = .missing || !(← isDirectory p) then throw (.file f)) := by
  refine leavesBind trans (fun w => ?_) fun there => ?_
  · rw [isDirectoryStill]
    exact same w
  · split
    · exact same
    · exact same

theorem leavesMakeDirectoryUnlessThere (made : (makeDirectory p).Leaves R) : (makeDirectoryUnlessThere p).Leaves R := by
  refine leavesBind trans (leavesAttempt made) fun tried => ?_
  cases tried with
  | ok _ => exact same
  | error f => exact leavesRefusedUnlessThere same trans p f

/- The induction is on the fuel; the directories that are tried are the one that is wanted and those above it. -/
theorem leavesEnsureDirectory (fuel : Nat) (made : ∀ q ∈ p.upward, (makeDirectory q).Leaves R) :
    (ensureDirectory fuel p).Leaves R := by
  induction fuel generalizing p with
  | zero => exact leavesMakeDirectoryUnlessThere same trans (made p p.memUpward)
  | succ fuel ih =>
    have own := made p p.memUpward
    refine leavesBind trans (leavesAttempt own) fun tried => ?_
    cases tried with
    | ok _ => exact same
    | error f =>
      dsimp only
      split
      · exact leavesBind trans (ih fun q above => made q (p.parentUpward above)) fun _ =>
          leavesMakeDirectoryUnlessThere same trans own
      · exact leavesRefusedUnlessThere same trans p f

end

/-- A job that at most makes directories and logs. -/
def Grows (x : Job α) : Prop := ∀ w : Workspace, w.Sound → (x.runIn w).2.Sound ∧ Workspace.Apart [] w (x.runIn w).2

theorem growsIn {x : Job α} (grows : x.Grows) {result : Except Failure α} (sound : w.Sound)
    (ran : x.runIn w = (result, v)) : v.Sound ∧ Workspace.Apart [] w v := by
  have after := grows w sound
  rwa [ran] at after

theorem makeDirectoryEnds (p : Path) (w : Workspace) : (∃ f, (makeDirectory p).runIn w = (.error f, w)) ∨
    ∃ s, p.flaw? = none ∧ w.tree.locate w.cwd p = .ok s ∧ w.tree.get? s = none ∧
      (makeDirectory p).runIn w = (.ok (), { w with tree := w.tree.put s .directory }) := by
  unfold makeDirectory refuseFlawed
  cases unflawed : p.flaw? with
  | some flaw => exact .inl ⟨_, rfl⟩
  | none =>
    have fine : (orFlawed none).runIn w = (.ok (), w) := rfl
    rw [bindOf fine, bindIn, locateIn]
    cases located : w.tree.locate w.cwd p with
    | error o => exact .inl ⟨_, rfl⟩
    | ok s =>
      dsimp only
      rw [bindOf (getIn w)]
      cases there : w.tree.get? s with
      | some e => exact .inl ⟨_, rfl⟩
      | none =>
        simp only [Option.isSome_none, Bool.false_eq_true, if_false]
        rw [bindOf (getIn w)]
        by_cases denied : w.refusals.making.contains p.text = true
        · rw [if_pos denied]
          exact .inl ⟨_, rfl⟩
        · rw [if_neg denied]
          exact .inr ⟨s, trivial, rfl, there, rfl⟩

theorem growsMakeDirectory (p : Path) : (makeDirectory p).Grows := by
  intro w sound
  rcases makeDirectoryEnds p w with ⟨f, failed⟩ | ⟨s, unflawed, located, empty, made⟩
  · rw [failed]
    exact ⟨sound, .refl w⟩
  · rw [made]
    have leaf : w.tree.get? s ≠ some .directory := by simp [empty]
    obtain ⟨still, apart⟩ := Workspace.placedSound sound unflawed located leaf .directory
    have below : s ≠ [] := by
      rintro rfl
      exact leaf (FileTree.get?_nil _)
    have same (r : Spot) : (w.tree.put s .directory).bytes? r = w.tree.bytes? r := by
      by_cases here : r = s
      · unfold FileTree.bytes?
        rw [here, FileTree.get?_put_self _ _ below, empty]
      · exact Workspace.bytesPutOther _ _ here
    exact ⟨still, { apart with same := fun r _ _ => same r, holds := fun r _ => congrArg _ (same r) }⟩

theorem growsEnsureDirectory (fuel : Nat) (p : Path) : (ensureDirectory fuel p).Grows := by
  refine leavesEnsureDirectory (R := fun w v => w.Sound → v.Sound ∧ Workspace.Apart [] w v) (fun w sound => ⟨sound, .refl w⟩)
    (fun u v w first next sound => ?_) fuel fun q _ => growsMakeDirectory q
  obtain ⟨still, earlier⟩ := first sound
  exact ⟨(next still).1, earlier.trans (next still).2⟩

/-! The name of the temporary file. -/

theorem temporaryNameInjective : Function.Injective temporaryName := by
  intro n k same
  have chars := congrArg (fun s : String => s.toList.length) same
  simp only [temporaryName, String.toList_append, String.toList_ofList, List.length_append,
    List.length_replicate] at chars
  omega

theorem takenNames (t : FileTree) (directory : Spot) (fuel n : Nat)
    (taken : t.get? (directory ++ [freshName t directory fuel n]) ≠ none) :
    ∀ k, n ≤ k → k ≤ n + fuel → t.get? (directory ++ [temporaryName k]) ≠ none := by
  induction fuel generalizing n with
  | zero =>
    intro k least most
    have same : k = n := by omega
    rw [same]
    exact taken
  | succ fuel ih =>
    intro k least most
    unfold freshName at taken
    split at taken
    · rename_i here
      by_cases first : k = n
      · rw [first]
        exact Option.isSome_iff_ne_none.mp here
      · exact ih (n + 1) taken k (by omega) (by omega)
    · rename_i free
      exact absurd (by simpa using free) taken

theorem freshNameFree (t : FileTree) (directory : Spot) :
    t.get? (directory ++ [freshName t directory t.length 0]) = none := by
  by_contra taken
  have all := takenNames t directory t.length 0 taken
  let tried := (List.range (t.length + 1)).map fun k => directory ++ [temporaryName k]
  have distinct : tried.Nodup := by
    refine List.Nodup.map ?_ List.nodup_range
    intro n k same
    exact temporaryNameInjective (by simpa using same)
  have within : tried ⊆ t.map (·.1) := by
    intro s member
    obtain ⟨k, below, rfl⟩ := List.mem_map.mp member
    have bound : k < t.length + 1 := List.mem_range.mp below
    obtain ⟨e, found⟩ := Option.ne_none_iff_exists'.mp (all k (by omega) (by omega))
    exact List.mem_map.mpr ⟨_, FileTree.entryOf found (by simp), rfl⟩
  have counted := (distinct.subperm within).length_le
  simp only [tried, List.length_map, List.length_range] at counted
  omega

/-! Writing and removing. -/

theorem refuseFlawedOk (ok : (refuseFlawed p).runIn w = (.ok (), v)) : p.flaw? = none ∧ v = w := orFlawedOk ok

theorem moveOntoOk {source : Spot} (ok : (moveOnto source p).runIn w = (.ok (), v)) :
    p.flaw? = none ∧ ∃ s e, w.tree.locate w.cwd p = .ok s ∧ w.tree.get? s ≠ some .directory ∧
      w.tree.get? source = some e ∧ v = { w with tree := w.tree.erase source }.supplant s e := by
  unfold moveOnto at ok
  obtain ⟨_, u, fine, guarded⟩ := bindOk ok
  obtain ⟨unflawed, still⟩ := refuseFlawedOk fine
  subst still
  refine ⟨unflawed, ?_⟩
  obtain ⟨_, _, got, ok⟩ := bindOk guarded
  cases got
  dsimp only at ok
  split at ok
  · obtain ⟨_, _, refused, _⟩ := bindOk ok
    cases refused
  · obtain ⟨_, _, got, ok⟩ := bindOk ok
    cases got
    split at ok
    · cases ok
    · rename_i s located
      split at ok
      · cases ok
      · split at ok
        · cases ok
        · rename_i e there leaf
          cases ok
          exact ⟨s, e, located, leaf, there, rfl⟩
        · cases ok

theorem fillIn (temporary : Spot) (directory : Path) (text : String) (w : Workspace) :
    (fill temporary directory text).runIn w =
      if w.refusals.filling.contains directory.text then
        (.error (.file ⟨.denied, (Path.mk "/" temporary).text, none⟩), w)
      else if Text.Surrogate.isBroken text then (.error .unencodable, w)
      else (.ok (), { w with tree := w.tree.put temporary (.file (Text.Utf8.encode text.toList)) }) := by
  unfold fill obstruct
  rw [bindOf (getIn w), guardIn]
  dsimp only
  rw [guardIn]
  rfl

theorem fillOk {temporary : Spot} {directory : Path} {text : String}
    (ok : (fill temporary directory text).runIn w = (.ok (), v)) :
    v = { w with tree := w.tree.put temporary (.file (Text.Utf8.encode text.toList)) } := by
  rw [fillIn] at ok
  split at ok
  · cases ok
  · split at ok
    · cases ok
    · cases ok
      rfl

theorem temporaryFree (w : Workspace) (directory : Path) : w.tree.get? (temporarySpot w directory) = none :=
  freshNameFree w.tree _

/-- Once a temporary file was moved away, the tree is as if it had never been there. -/
theorem fillMoveOk {temporary : Spot} {directory : Path} {text : String} (free : w.tree.get? temporary = none)
    (ok : (fill temporary directory text >>= fun _ => moveOnto temporary p).runIn
      { w with tree := w.tree.put temporary (.file []) } = (.ok (), v)) :
    p.flaw? = none ∧ ∃ s, w.tree.locate w.cwd p = .ok s ∧ w.tree.get? s ≠ some .directory ∧
      v = w.supplant s (.file (Text.Utf8.encode text.toList)) := by
  obtain ⟨_, u, filled, moved⟩ := bindOk ok
  cases fillOk filled
  obtain ⟨unflawed, s, e, located, leaf, found, rfl⟩ := moveOntoOk moved
  have below : temporary ≠ [] := by
    rintro rfl
    cases free
  dsimp only at located leaf found
  rw [FileTree.putTwice] at located leaf found
  rw [FileTree.get?_put_self _ _ below] at found
  cases found
  have fewer : FileTree.Grown (w.tree.put temporary (.file (Text.Utf8.encode text.toList))) w.tree := by
    intro r there
    have other : r ≠ temporary := by
      rintro rfl
      rw [FileTree.get?_put_self _ _ below] at there
      cases there
    rwa [FileTree.get?_put_of_ne _ _ other] at there
  refine ⟨unflawed, s, FileTree.locateKept fewer located, ?_, ?_⟩
  · intro there
    have other : s ≠ temporary := by
      rintro rfl
      rw [free] at there
      cases there
    rw [FileTree.get?_put_of_ne _ _ other] at leaf
    exact leaf there
  · simp only [Workspace.supplant, FileTree.putTwice, FileTree.erasePut free]

theorem writeAtomicallyIn (p : Path) (text : String) (w : Workspace) : (writeAtomically p text).runIn w =
    match (ensureDirectory p.parent.parts.length p.parent).runIn w with
    | (.error f, u) => (.error f, u)
    | (.ok (), u) =>
      let temporary := temporarySpot u p.parent
      if u.refusals.creating.contains p.parent.text then
        (.error (.file ⟨.denied, (Path.mk "/" temporary).text, none⟩), u)
      else match (fill temporary p.parent text >>= fun _ => moveOnto temporary p).runIn
          { u with tree := u.tree.put temporary (.file []) } with
      | (.ok (), v) => (.ok (), v)
      | (.error f, v) => (.error f, { v with tree := v.tree.erase temporary }) := by
  unfold writeAtomically obstruct
  rw [bindIn]
  cases (ensureDirectory p.parent.parts.length p.parent).runIn w with
  | mk result u =>
    cases result with
    | error f => rfl
    | ok _ =>
      dsimp only
      rw [bindOf (getIn u), guardIn]
      split
      · rfl
      · generalize placed : ({ u with tree := u.tree.put (temporarySpot u p.parent) (.file []) } : Workspace) = x
        have put : (set x : Job Unit).runIn u = (.ok (), x) := rfl
        rw [bindOf put]
        refine (catchIn _ _ x).trans ?_
        cases (fill (temporarySpot u p.parent) p.parent text >>= fun _ => moveOnto (temporarySpot u p.parent) p).runIn x with
        | mk outcome y => cases outcome <;> rfl

theorem writeAtomicallyOk {text : String} (ok : (writeAtomically p text).runIn w = (.ok (), v)) :
    p.flaw? = none ∧ ∃ (u : Workspace) (s : Spot),
      (ensureDirectory p.parent.parts.length p.parent).runIn w = (.ok (), u) ∧
      u.tree.locate u.cwd p = .ok s ∧ u.tree.get? s ≠ some .directory ∧
      v = u.supplant s (.file (Text.Utf8.encode text.toList)) := by
  rw [writeAtomicallyIn] at ok
  cases ensured : (ensureDirectory p.parent.parts.length p.parent).runIn w with
  | mk result u =>
    rw [ensured] at ok
    cases result with
    | error f => cases ok
    | ok _ =>
      dsimp only at ok
      split at ok
      · cases ok
      · split at ok
        · rename_i placed
          cases ok
          obtain ⟨unflawed, s, located, leaf, same⟩ := fillMoveOk (temporaryFree u p.parent) placed
          exact ⟨unflawed, u, s, rfl, located, leaf, same⟩
        · cases ok

theorem writeAtomicallyLeaves {text : String} (sound : w.Sound)
    (ok : (writeAtomically p text).runIn w = (.ok (), v)) :
    let s := (p.absolute w.cwd).parts
    v.Sound ∧ Workspace.Apart [s] w v ∧ v.tree.bytes? s = some (Text.Utf8.encode text.toList) ∧
      p.flaw? = none ∧ v.tree.locate v.cwd p = .ok s := by
  obtain ⟨unflawed, u, s, ensured, located, leaf, rfl⟩ := writeAtomicallyOk ok
  obtain ⟨still, apart⟩ := growsIn (growsEnsureDirectory _ _) sound ensured
  have same : s = (p.absolute w.cwd).parts := by rw [still.located located, apart.cwd]
  rw [← same]
  have below : s ≠ [] := by
    rintro rfl
    exact leaf (FileTree.get?_nil _)
  obtain ⟨placed, only⟩ := Workspace.supplantSound still unflawed located leaf (.file (Text.Utf8.encode text.toList))
  refine ⟨placed, apart.before only, ?_, unflawed, FileTree.locateKept only.grown located⟩
  rw [FileTree.bytesIff]
  exact FileTree.get?_put_self _ _ below

theorem removeFileOk (ok : (removeFile p).runIn w = (.ok (), v)) :
    ∃ s bytes, w.tree.locate w.cwd p = .ok s ∧ w.tree.get? s = some (.file bytes) ∧
      v = { w with tree := w.tree.erase s } := by
  unfold removeFile at ok
  obtain ⟨_, u, fine, guarded⟩ := bindOk ok
  obtain ⟨_, still⟩ := refuseFlawedOk fine
  subst still
  obtain ⟨_, _, got, allowed⟩ := bindOk guarded
  cases got
  dsimp only at allowed
  split at allowed
  · obtain ⟨_, _, refused, _⟩ := bindOk allowed
    cases refused
  · obtain ⟨s, x, found, looked⟩ := bindOk allowed
    obtain ⟨located, still⟩ := locateOk found
    subst still
    obtain ⟨_, _, got, last⟩ := bindOk looked
    cases got
    split at last
    · rename_i bytes file
      cases last
      exact ⟨s, bytes, located, file, rfl⟩
    · cases last
    · cases last

theorem removeFileFails {f : Failure} (failed : (removeFile p).runIn w = (.error f, v)) : v = w := by
  unfold removeFile refuseFlawed at failed
  cases unflawed : p.flaw? with
  | some flaw =>
    rw [unflawed] at failed
    cases failed
    rfl
  | none =>
    have fine : (orFlawed none).runIn w = (.ok (), w) := rfl
    rw [unflawed, bindOf fine, bindOf (getIn w)] at failed
    dsimp only at failed
    split at failed
    · cases failed
      rfl
    · rw [bindIn, locateIn] at failed
      cases located : w.tree.locate w.cwd p with
      | error o =>
        rw [located] at failed
        cases failed
        rfl
      | ok s =>
        simp only [located] at failed
        rw [bindOf (getIn w)] at failed
        split at failed
        · cases failed
        · cases failed
          rfl
        · cases failed
          rfl

theorem removeFileLeaves (sound : w.Sound) (ok : (removeFile p).runIn w = (.ok (), v)) :
    let s := (p.absolute w.cwd).parts
    v.Sound ∧ Workspace.Apart [s] w v ∧ v.tree.bytes? s = none := by
  obtain ⟨s, bytes, located, file, rfl⟩ := removeFileOk ok
  have same : s = (p.absolute w.cwd).parts := sound.located located
  rw [← same]
  have leaf : w.tree.get? s ≠ some .directory := by simp [file]
  have grown := Workspace.grownErase leaf
  have other (r : Spot) (outside : r ∉ [s]) : (w.tree.erase s).bytes? r = w.tree.bytes? r :=
    Workspace.bytesEraseOther _ (by simpa using outside)
  refine ⟨⟨FileTree.eraseSound sound.tree leaf, grown _ sound.inside⟩,
    ⟨rfl, rfl, rfl, fun r outside _ => other r outside, fun r outside => congrArg _ (other r outside), grown⟩, ?_⟩
  unfold FileTree.bytes?
  rw [FileTree.get?_erase_self _ (Workspace.spotBelow file)]

end Job

end AccessorForge
