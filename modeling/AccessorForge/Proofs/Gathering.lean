import AccessorForge.Proofs.PackageNames
/-! Source files of any roots. Whatever the roots have in common, each file comes once, at the place of the first root
that has it, so that a root given again changes nothing. Loading then makes one thing of each file: a unit, an error, or
a generated module. -/
namespace AccessorForge
open Job Running Forest
variable {w v : Workspace} {ps : Patterns} {root p q : Path} {roots found : List Path}

/-! Where paths lead. -/

theorem Workspace.spotUnder (sound : w.Sound) {r : Spot} (dotless : ".." ∉ r) :
    w.spot (root.under r) = w.spot root ++ r := by
  have same : (root.under r).isAbsolute = root.isAbsolute := rfl
  rw [spot, spot, Path.absoluteParts _ sound.dotless, Path.absoluteParts _ sound.dotless, same, Path.under,
    Path.followAppend, Path.followDotless dotless]

theorem Workspace.sameSpot : w.spot p = w.spot q ↔ p.absolute w.cwd = q.absolute w.cwd :=
  ⟨Path.absoluteEq, congrArg Path.parts⟩

theorem entryStands (sound : w.Sound) {e : Entry} (told : w.tree.entry? w.cwd p = .ok (some e)) :
    p.flaw? = none ∧ w.tree.get? (w.spot p) = some e := by
  obtain ⟨unflawed, s, located, stands⟩ := FileTree.entryFound told
  have spot : s = w.spot p := sound.located located
  exact ⟨unflawed, spot ▸ stands⟩

theorem Workspace.entrySame (same : w.SameShape v) {e : Option Entry} (told : w.tree.entry? w.cwd p = .ok e) :
    ∃ d, v.tree.entry? v.cwd p = .ok d ∧ d.map Entry.isFile = e.map Entry.isFile := by
  unfold FileTree.entry? FileTree.entry at told ⊢
  rw [locateSame same]
  by_cases flawed : p.flaw?.isSome = true
  · rw [if_pos flawed] at told ⊢
    exact ⟨e, told, rfl⟩
  · rw [if_neg flawed] at told ⊢
    cases located : w.tree.locate w.cwd p with
    | error o =>
      rw [located] at told
      exact ⟨e, told, rfl⟩
    | ok s =>
      have kinds := same.kinds s
      rw [located] at told
      simp only [bind, Except.bind] at told ⊢
      cases before : w.tree.get? s with
      | none =>
        cases now : v.tree.get? s with
        | none => exact ⟨e, by simpa [before] using told, rfl⟩
        | some d => simp [before, now] at kinds
      | some b =>
        cases now : v.tree.get? s with
        | none => simp [before, now] at kinds
        | some d =>
          simp only [before] at told
          cases told
          exact ⟨some d, rfl, by simpa [before, now] using kinds⟩

/-! The files of one root. -/

namespace Workspace

/-- Whether a path leads to a directory, as far as it can be told. -/
def isDirectoryAt (w : Workspace) (p : Path) : Bool :=
  match w.tree.entry? w.cwd p with
  | .ok e => e.any Entry.isDirectory
  | .error _ => false

/-- The files that a root stands for: itself, or those below it that are selected by the names which lead there. -/
inductive Yields (w : Workspace) (ps : Patterns) (root : Path) : Path → Prop where
  | itself (file : w.isFileAt root = true) : Yields w ps root root
  | below (r : Spot) (directory : w.isDirectoryAt root = true) (deeper : r ≠ [])
      (file : (w.tree.bytes? (w.spot root ++ r)).isSome = true) (selected : ps.selects r = true) :
      Yields w ps root (root.under r)

/-- The same files in the order of their names. -/
def yielded (w : Workspace) (ps : Patterns) (root : Path) : List Path :=
  if w.isFileAt root then [root]
  else if w.isDirectoryAt root then ((w.tree.filesBelow (w.spot root)).filter ps.selects).map root.under
  else []

theorem memYielded (sound : w.Sound) : q ∈ w.yielded ps root ↔ w.Yields ps root q := by
  unfold yielded
  constructor
  · intro member
    split at member
    · rename_i file
      cases List.mem_singleton.mp member
      exact .itself file
    · split at member
      · rename_i directory
        obtain ⟨r, listed, rfl⟩ := List.mem_map.mp member
        obtain ⟨there, selected⟩ := List.mem_filter.mp listed
        obtain ⟨deeper, file⟩ := (FileTree.memFiles sound.tree).mp there
        exact .below r directory deeper file selected
      · cases member
  · intro yields
    cases yields with
    | itself file => simp [file]
    | below r directory deeper file selected =>
      have other : w.isFileAt root = false := by
        unfold isDirectoryAt at directory
        unfold isFileAt
        split at directory
        · rename_i e told
          cases e with
          | none => cases directory
          | some e => cases e <;> simp_all [Entry.isFile, Entry.isDirectory]
        · cases directory
      rw [other, directory]
      exact List.mem_map.mpr ⟨r, List.mem_filter.mpr ⟨(FileTree.memFiles sound.tree).mpr ⟨deeper, file⟩, selected⟩, rfl⟩

theorem dotlessBelow (sound : w.Sound) {s r : Spot} (file : (w.tree.bytes? (s ++ r)).isSome = true) : ".." ∉ r := by
  obtain ⟨bytes, held⟩ := Option.isSome_iff_exists.mp file
  have proper := sound.tree.proper _ _ ((FileTree.bytesIff _ _ _).mp held)
  exact fun dots => Path.properDotless proper (List.mem_append_right s dots)

theorem yieldsFile (sound : w.Sound) (yields : w.Yields ps root q) :
    q.flaw? = none ∧ (w.tree.bytes? (w.spot q)).isSome = true := by
  cases yields with
  | itself file =>
    unfold isFileAt at file
    split at file
    · rename_i e told
      cases e with
      | none => cases file
      | some e =>
        obtain ⟨unflawed, stands⟩ := entryStands sound told
        cases e with
        | directory => cases file
        | file bytes => exact ⟨unflawed, by rw [(FileTree.bytesIff _ _ _).mpr stands]; rfl⟩
    · cases file
  | below r directory deeper file selected =>
    refine ⟨?_, spotUnder sound (dotlessBelow sound file) ▸ file⟩
    unfold isDirectoryAt at directory
    split at directory
    · rename_i e told
      cases e with
      | none => cases directory
      | some e =>
        obtain ⟨bytes, held⟩ := Option.isSome_iff_exists.mp file
        have proper := sound.tree.proper _ _ ((FileTree.bytesIff _ _ _).mp held)
        have above := (Path.unflawedIff root).mp (entryStands sound told).1
        refine (Path.unflawedIff _).mpr fun n member => ?_
        rcases List.mem_append.mp member with outer | inner
        · exact above n outer
        · exact (Path.properParts (proper n (List.mem_append_right _ inner))).2.1
    · cases directory

theorem yieldedDistinct (sound : w.Sound) (ps : Patterns) (root : Path) : ((w.yielded ps root).map w.spot).Nodup := by
  unfold yielded
  split
  · exact List.nodup_singleton _
  · split
    · have names : ((w.tree.filesBelow (w.spot root)).filter ps.selects).Nodup :=
        ((FileTree.belowNodup sound.tree _).sublist (List.filter_sublist.map _)).filter _
      rw [List.map_map]
      refine names.map_on fun r first s second same => ?_
      have plain {t : Spot} (member : t ∈ (w.tree.filesBelow (w.spot root)).filter ps.selects) : ".." ∉ t :=
        dotlessBelow sound ((FileTree.memFiles sound.tree).mp (List.mem_filter.mp member).1).2
      simp only [Function.comp_apply, spotUnder sound (plain first), spotUnder sound (plain second)] at same
      exact List.append_cancel_left same
    · exact List.nodup_nil

theorem yieldedSorted (sound : w.Sound) (ps : Patterns) (root : Path) :
    (w.yielded ps root).Pairwise fun p q => p.parts < q.parts := by
  unfold yielded
  split
  · exact List.pairwise_singleton _ _
  · split
    · rw [List.pairwise_map]
      exact ((FileTree.filesSorted sound.tree _).filter _).imp fun before => List.append_left_lt before
    · exact List.Pairwise.nil

theorem yieldedNoted (sound : w.Sound) (rs : List Log.Record) (ps : Patterns) (root : Path) (answered : w.Answers root) :
    (w.noted rs).yielded ps root = w.yielded ps root := by
  have same := notedShape rs w
  obtain ⟨e, told⟩ := answered
  obtain ⟨d, now, kind⟩ := entrySame same told
  have spot : (w.noted rs).spot root = w.spot root := by rw [spotSame same.cwd]
  have below : (w.noted rs).tree.filesBelow (w.spot root) = w.tree.filesBelow (w.spot root) := by
    refine FileTree.sameIfSorted (FileTree.filesSorted (notedSound rs sound).tree _) (FileTree.filesSorted sound.tree _)
      fun r => ?_
    rw [FileTree.memFiles (notedSound rs sound).tree, FileTree.memFiles sound.tree, notedHolds]
  unfold yielded isFileAt isDirectoryAt
  rw [told, now, spot, below]
  cases e with
  | none => cases d <;> simp at kind ⊢
  | some e => cases d with
    | none => simp at kind
    | some d => cases e <;> cases d <;> simp [Entry.isFile, Entry.isDirectory] at kind ⊢

theorem candidatesYield (sound : w.Sound) (ps : Patterns) (answered : w.Answers root) :
    ∃ cs, (candidates? ps root).runIn w = (.ok cs, w) ∧ cs.getD [] = w.yielded ps root := by
  obtain ⟨e, told⟩ := answered
  have looked : ( entry? root).runIn w = (.ok e, w) := by rw [entryIn, told]
  unfold candidates? yielded isFileAt isDirectoryAt
  rw [bindOf looked, told]
  cases e with
  | none => exact ⟨none, rfl, rfl⟩
  | some e =>
    cases e with
    | file bytes => exact ⟨some [root], rfl, rfl⟩
    | directory =>
      obtain ⟨_, s, found, _⟩ := FileTree.entryFound told
      have located : (locate root).runIn w = (.ok (w.spot root), w) := by
        rw [locateIn, found, sound.located found]
        rfl
      refine ⟨some (((w.tree.filesBelow (w.spot root)).filter ps.selects).map root.under), ?_, rfl⟩
      dsimp only
      rw [bindOf (getIn w), bindOf located, selectedBelow]
      rfl

/-! The files of several roots. -/

def fresh (w : Workspace) (found candidates : List Path) : List Path :=
  candidates.filter fun q => decide (w.spot q ∉ found.map w.spot)

theorem memFresh {candidates : List Path} : q ∈ w.fresh found candidates ↔ q ∈ candidates ∧ w.spot q ∉ found.map w.spot := by
  simp [fresh]

/- A candidate that is taken does not change which of the later ones are new, for they lead elsewhere. -/
theorem addNewFresh {candidates : List Path} (distinct : (candidates.map w.spot).Nodup) :
    addNew w.cwd found candidates = found ++ w.fresh found candidates := by
  induction candidates generalizing found with
  | nil => simp [addNew, fresh]
  | cons p rest ih =>
    obtain ⟨other, distinct⟩ := List.nodup_cons.mp distinct
    have known : (found.any fun q => decide (q.absolute w.cwd = p.absolute w.cwd)) = decide (w.spot p ∈ found.map w.spot) := by
      rw [Bool.eq_iff_iff, List.any_eq_true, decide_eq_true_eq, List.mem_map]
      simp only [decide_eq_true_eq, sameSpot]
    have step : addNew w.cwd found (p :: rest) =
        addNew w.cwd (if decide (w.spot p ∈ found.map w.spot) then found else found ++ [p]) rest := by
      rw [← known]
      rfl
    rw [step, ih distinct]
    by_cases there : w.spot p ∈ found.map w.spot
    · simp only [there, decide_true, if_true, fresh]
      rw [List.filter_cons_of_neg (by simpa using there)]
    · have apart : w.fresh (found ++ [p]) rest = w.fresh found rest := by
        refine List.filter_congr fun q member => ?_
        have differs : w.spot q ≠ w.spot p := fun same => other (same ▸ List.mem_map_of_mem member)
        simp [differs]
      simp only [there, decide_false, Bool.false_eq_true, if_false, apart]
      rw [fresh, fresh, List.filter_cons_of_pos (by simpa using there), List.append_assoc]
      rfl

def gathered (w : Workspace) (ps : Patterns) (found roots : List Path) : List Path :=
  roots.foldl (fun found root => found ++ w.fresh found (w.yielded ps root)) found

theorem gatheredNext (found rest : List Path) :
    w.gathered ps found (root :: rest) = w.gathered ps (found ++ w.fresh found (w.yielded ps root)) rest := rfl

theorem gatheredParts (found before after : List Path) :
    w.gathered ps found (before ++ after) = w.gathered ps (w.gathered ps found before) after := List.foldl_append ..

theorem gatheredExtends (ps : Patterns) (found roots : List Path) : found <+: w.gathered ps found roots := by
  induction roots generalizing found with
  | nil => exact List.prefix_rfl
  | cons root rest ih => exact (List.prefix_append _ _).trans (ih _)

theorem gatheredDistinct (sound : w.Sound) (distinct : (found.map w.spot).Nodup) :
    ((w.gathered ps found roots).map w.spot).Nodup := by
  induction roots generalizing found with
  | nil => exact distinct
  | cons root rest ih =>
    refine ih ?_
    rw [List.map_append, List.nodup_append]
    refine ⟨distinct, (yieldedDistinct sound ps root).sublist (List.filter_sublist.map _), ?_⟩
    rintro s old t new rfl
    obtain ⟨q, member, rfl⟩ := List.mem_map.mp new
    exact (memFresh.mp member).2 old

/-- Where one of the roots has a file. -/
def Reached (w : Workspace) (ps : Patterns) (roots : List Path) (s : Spot) : Prop :=
  ∃ root ∈ roots, ∃ q, w.Yields ps root q ∧ w.spot q = s

theorem spotsFresh {s : Spot} (candidates : List Path) :
    s ∈ (found ++ w.fresh found candidates).map w.spot ↔ s ∈ found.map w.spot ∨ s ∈ candidates.map w.spot := by
  rw [List.map_append, List.mem_append]
  constructor
  · rintro (old | new)
    · exact .inl old
    · obtain ⟨q, member, rfl⟩ := List.mem_map.mp new
      exact .inr (List.mem_map_of_mem (memFresh.mp member).1)
  · rintro (old | listed)
    · exact .inl old
    · by_cases old : s ∈ found.map w.spot
      · exact .inl old
      · obtain ⟨q, member, rfl⟩ := List.mem_map.mp listed
        exact .inr (List.mem_map_of_mem (memFresh.mpr ⟨member, old⟩))

theorem gatheredSpots (sound : w.Sound) {s : Spot} :
    s ∈ (w.gathered ps found roots).map w.spot ↔ s ∈ found.map w.spot ∨ w.Reached ps roots s := by
  induction roots generalizing found with
  | nil => simp [gathered, Reached]
  | cons root rest ih =>
    rw [gatheredNext, ih, spotsFresh, or_assoc]
    have here : s ∈ (w.yielded ps root).map w.spot ↔ ∃ q, w.Yields ps root q ∧ w.spot q = s := by
      simp only [List.mem_map, memYielded sound]
    rw [here]
    simp [Reached]

theorem repeatedStale (sound : w.Sound) {before : List Path} (given : root ∈ before) :
    w.fresh (w.gathered ps found before) (w.yielded ps root) = [] := by
  refine List.filter_eq_nil_iff.mpr fun q member => ?_
  have known : w.spot q ∈ (w.gathered ps found before).map w.spot :=
    (gatheredSpots sound).mpr (.inr ⟨root, given, q, (memYielded sound).mp member, rfl⟩)
  simpa using known

theorem gatheredRepeated (sound : w.Sound) {before : List Path} (given : root ∈ before) (after : List Path) :
    w.gathered ps found (before ++ root :: after) = w.gathered ps found (before ++ after) := by
  rw [gatheredParts, gatheredNext, repeatedStale sound given, List.append_nil, gatheredParts]

theorem gatheredNoted (sound : w.Sound) (rs : List Log.Record) (answered : ∀ root ∈ roots, w.Answers root) (found : List Path) :
    (w.noted rs).gathered ps found roots = w.gathered ps found roots := by
  induction roots generalizing found with
  | nil => rfl
  | cons root rest ih =>
    have spots : (w.noted rs).spot = w.spot := spotSame (notedShape rs w).cwd
    have own := yieldedNoted sound rs ps root (answered root List.mem_cons_self)
    rw [gatheredNext, gatheredNext, ih fun r later => answered r (List.mem_cons_of_mem _ later), own]
    simp only [fresh, spots]

theorem gatheredReached (sound : w.Sound) (s : Spot) : s ∈ (w.gathered ps [] roots).map w.spot ↔ w.Reached ps roots s := by
  rw [gatheredSpots sound]
  simp

theorem memGathered (sound : w.Sound) : q ∈ w.gathered ps [] roots ↔
    ∃ before root after, roots = before ++ root :: after ∧ w.Yields ps root q ∧ ¬ w.Reached ps before (w.spot q) := by
  induction roots using List.reverseRecOn with
  | nil => simp [gathered]
  | append_singleton front last ih =>
    have ends : w.gathered ps [] (front ++ [last]) =
        w.gathered ps [] front ++ w.fresh (w.gathered ps [] front) (w.yielded ps last) := gatheredParts [] front [last]
    rw [ends, List.mem_append, ih, memFresh, memYielded sound, gatheredReached sound]
    constructor
    · rintro (⟨before, root, after, rfl, first⟩ | first)
      · exact ⟨before, root, after ++ [last], by simp, first⟩
      · exact ⟨front, last, [], rfl, first⟩
    · rintro ⟨before, root, after, split, first⟩
      rcases List.eq_nil_or_concat' after with rfl | ⟨more, end_, rfl⟩
      · obtain ⟨rfl, same⟩ := List.append_inj' split rfl
        cases same
        exact .inr first
      · rw [← List.cons_append, ← List.append_assoc] at split
        obtain ⟨rfl, _⟩ := List.append_inj' split rfl
        exact .inl ⟨before, root, more, rfl, first⟩

/-- The files that come of a list of roots: of every place that a root reaches there is one, and it stands where the
first such root has it. -/
structure Gathers (w : Workspace) (ps : Patterns) (roots found : List Path) : Prop where
  distinct : (found.map w.spot).Nodup
  reached : ∀ s, s ∈ found.map w.spot ↔ w.Reached ps roots s
  members : ∀ q, q ∈ found ↔
    ∃ before root after, roots = before ++ root :: after ∧ w.Yields ps root q ∧ ¬ w.Reached ps before (w.spot q)
  placed : ∀ before root after, roots = before ++ root :: after → ∃ earlier own later, found = earlier ++ own ++ later ∧
    (∀ s, s ∈ earlier.map w.spot ↔ w.Reached ps before s) ∧
    (∀ q, q ∈ own ↔ w.Yields ps root q ∧ ¬ w.Reached ps before (w.spot q)) ∧ own.Pairwise fun p q => p.parts < q.parts

theorem gatheredGathers (sound : w.Sound) : w.Gathers ps roots (w.gathered ps [] roots) := by
  refine ⟨gatheredDistinct sound List.nodup_nil, gatheredReached sound, fun q => memGathered sound, ?_⟩
  rintro before root after rfl
  rw [gatheredParts, gatheredNext]
  obtain ⟨later, ends⟩ := gatheredExtends ps
    (w.gathered ps [] before ++ w.fresh (w.gathered ps [] before) (w.yielded ps root)) after
  refine ⟨_, _, later, ends.symm, gatheredReached sound, fun q => ?_, (yieldedSorted sound ps root).filter _⟩
  rw [memFresh, memYielded sound, gatheredReached sound]

end Workspace

namespace Forest

theorem filesFromGathered (sound : w.Sound) (answered : ∀ root ∈ roots, w.Answers root) (found : List Path) :
    ∃ rs, (filesFrom ps found roots).runIn w = (.ok (w.gathered ps found roots), w.noted rs) := by
  induction roots generalizing found w with
  | nil => exact ⟨[], rfl⟩
  | cons root rest ih =>
    have others : ∀ r ∈ rest, w.Answers r := fun r later => answered r (List.mem_cons_of_mem _ later)
    obtain ⟨candidates, ran, yielded⟩ := Workspace.candidatesYield sound ps (answered root List.mem_cons_self)
    rw [Workspace.gatheredNext, filesFromNext ran]
    cases candidates with
    | some cs =>
      rw [Option.getD_some] at yielded
      subst yielded
      dsimp only
      rw [Workspace.addNewFresh (Workspace.yieldedDistinct sound ps root)]
      exact ih sound others _
    | none =>
      rw [Option.getD_none] at yielded
      have still : ∀ r ∈ rest, (w.noted [missingRecord root]).Answers r := fun r later =>
        Workspace.answersSame (Workspace.notedShape _ w) (others r later)
      obtain ⟨rs, done⟩ := ih (Workspace.notedSound _ sound) still found
      refine ⟨[missingRecord root] ++ rs, ?_⟩
      dsimp only
      rw [done, Workspace.gatheredNoted sound _ others, Workspace.notedTwice, ← yielded]
      simp [Workspace.fresh]

theorem filesGathered (ps : Patterns) (sound : w.Sound) (answered : ∀ root ∈ roots, w.Answers root) :
    ∃ rs, (files ps roots).runIn w = (.ok (w.gathered ps [] roots), w.noted rs) := filesFromGathered sound answered []

end Forest

/-! What becomes of a file. -/

theorem Workspace.Names.noted (rs : List Log.Record) (names : w.Names p) : (w.noted rs).Names p := by
  have same := Workspace.notedShape rs w
  refine ⟨names.unflawed, ?_⟩
  rw [same.cwd]
  exact Workspace.answersSame same names.answers

/-- What loading makes of a file. -/
inductive Fate
  | unit (u : SourceUnit)
  | error (message : String)
  | generated

/-- The fate that the text of a file decides. -/
inductive Workspace.Deserves (w : Workspace) (p : Path) : Fate → Prop where
  | unread {message : String} (told : (attemptRead (readText p)).runIn w = (.ok (.error message), w)) :
      Deserves w p (.error message)
  | generated {text : String} (read : (readText p).runIn w = (.ok text, w)) (marked : isGenerated text = true) :
      Deserves w p .generated
  | refused {text name : String} {fault : SourceFault} (read : (readText p).runIn w = (.ok text, w))
      (unmarked : isGenerated text = false) (named : (moduleName p).runIn w = (.ok name, w))
      (parsed : SourceUnit.read name text (some p) = .error fault) : Deserves w p (.error fault.message)
  | parsed {text name : String} {u : SourceUnit} (read : (readText p).runIn w = (.ok text, w))
      (unmarked : isGenerated text = false) (named : (moduleName p).runIn w = (.ok name, w))
      (parsed : SourceUnit.read name text (some p) = .ok u) : Deserves w p (.unit u)

namespace Forest
variable {f : Forest}

/-- The forest with one more file. -/
def sort (f : Forest) (p : Path) : Fate → Forest
  | .unit u => { f with units := f.units ++ [u] }
  | .error message => f.noteError p message
  | .generated => { f with generated := f.generated ++ [p] }

def sorted (f : Forest) (fates : List (Path × Fate)) : Forest := fates.foldl (fun f x => f.sort x.1 x.2) f

def unitOf? : Path × Fate → Option SourceUnit
  | (_, .unit u) => some u
  | _ => none

def errorOf? : Path × Fate → Option String
  | (p, .error message) => some (p.text ++ ": " ++ message)
  | _ => none

def generatedOf? : Path × Fate → Option Path
  | (p, .generated) => some p
  | _ => none

theorem sortedParts (f : Forest) (fates : List (Path × Fate)) :
    (f.sorted fates).units = f.units ++ fates.filterMap unitOf? ∧
    (f.sorted fates).errors = f.errors ++ fates.filterMap errorOf? ∧
    (f.sorted fates).generated = f.generated ++ fates.filterMap generatedOf? := by
  induction fates generalizing f with
  | nil => simp [sorted]
  | cons x rest ih =>
    have later := ih (f.sort x.1 x.2)
    obtain ⟨p, fate⟩ := x
    cases fate <;> simpa [sorted, sort, noteError, List.filterMap_cons, unitOf?, errorOf?, generatedOf?] using later

theorem addFileSorts (f : Forest) (sound : w.Sound) (unflawed : p.flaw? = none) (names : w.Names p) :
    ∃ fate rs, w.Deserves p fate ∧ (f.addFile p).runIn w = (.ok (f.sort p fate), w.noted rs) := by
  obtain ⟨told, ran⟩ := readTextStays unflawed w
  unfold addFile
  rw [bindOf ran]
  cases told with
  | error message => exact ⟨.error message, [_], .unread ran, rfl⟩
  | ok text =>
    have read := attemptReadOk ran
    dsimp only
    cases marked : isGenerated text with
    | true => exact ⟨.generated, [_], .generated read marked, rfl⟩
    | false =>
      obtain ⟨name, named⟩ := moduleNameReturns sound names
      simp only [Bool.false_eq_true, if_false]
      rw [bindOf named]
      cases parsed : SourceUnit.read name text (some p) with
      | ok u => exact ⟨.unit u, [], .parsed read marked named parsed, rfl⟩
      | error fault => exact ⟨.error fault.message, [_], .refused read marked named parsed, rfl⟩

theorem addFilesSort (f : Forest) (sound : w.Sound) {files : List Path} (unflawed : ∀ q ∈ files, q.flaw? = none)
    (names : ∀ q ∈ files, w.Names q) : ∃ fates : List (Path × Fate), fates.map (·.1) = files ∧
      (∀ x ∈ fates, ∃ rs, (w.noted rs).Deserves x.1 x.2) ∧
      ∃ rs, (f.addFiles files).runIn w = (.ok (f.sorted fates), w.noted rs) := by
  induction files generalizing f w with
  | nil => exact ⟨[], rfl, by simp, [], rfl⟩
  | cons p rest ih =>
    obtain ⟨fate, rs, own, added⟩ := addFileSorts f sound (unflawed p List.mem_cons_self) (names p List.mem_cons_self)
    have still : ∀ q ∈ rest, (w.noted rs).Names q := fun q later =>
      (names q (List.mem_cons_of_mem _ later)).noted rs
    obtain ⟨fates, files, each, more, done⟩ := ih (f.sort p fate) (Workspace.notedSound rs sound)
      (fun q later => unflawed q (List.mem_cons_of_mem _ later)) still
    refine ⟨(p, fate) :: fates, by simp [files], ?_, rs ++ more, ?_⟩
    · intro x member
      rcases List.mem_cons.mp member with rfl | later
      · exact ⟨[], own⟩
      · obtain ⟨others, deserves⟩ := each x later
        exact ⟨rs ++ others, Workspace.notedTwice rs others w ▸ deserves⟩
    · unfold addFiles
      rw [bindOf added, done, Workspace.notedTwice]
      rfl

/-- A forest in which each of the files went to one of three lists, in their order, and no place is there twice. -/
structure Sorts (f : Forest) (w : Workspace) (files : List Path) : Prop where
  fates : ∃ fates : List (Path × Fate), fates.map (·.1) = files ∧ (∀ x ∈ fates, ∃ rs, (w.noted rs).Deserves x.1 x.2) ∧
    f.units = fates.filterMap unitOf? ∧ f.errors = fates.filterMap errorOf? ∧ f.generated = fates.filterMap generatedOf?
  once : (f.units.map fun u => u.path.map w.spot).Nodup

theorem deservedPath {u : SourceUnit} (deserves : w.Deserves p (.unit u)) : u.path = some p := by
  cases deserves with
  | parsed read unmarked named parsed => exact (SourceUnit.readAs parsed).1

theorem unitPlaces {fates : List (Path × Fate)} (deserved : ∀ x ∈ fates, ∃ rs, (w.noted rs).Deserves x.1 x.2) :
    ((fates.filterMap unitOf?).map fun u => u.path.map w.spot).Sublist (fates.map fun x => some (w.spot x.1)) := by
  induction fates with
  | nil => exact List.Sublist.refl _
  | cons x rest ih =>
    obtain ⟨rs, own⟩ := deserved x List.mem_cons_self
    have later := ih fun y member => deserved y (List.mem_cons_of_mem _ member)
    obtain ⟨p, fate⟩ := x
    cases fate with
    | unit u =>
      simp only [List.filterMap_cons, unitOf?, List.map_cons, deservedPath own, Option.map_some]
      exact later.cons_cons _
    | error message => exact later.cons _
    | generated => exact later.cons _

theorem loadSorts {includes excludes : List String} (sound : w.Sound) (answered : ∀ root ∈ roots, w.Answers root)
    (names : ∀ q ∈ w.gathered (patterns includes excludes) [] roots, w.Names q) :
    ∃ f rs, (load roots includes excludes).runIn w = (.ok f, w.noted rs) ∧
      f.Sorts w (w.gathered (patterns includes excludes) [] roots) := by
  obtain ⟨rs, gathers⟩ := filesGathered (patterns includes excludes) sound answered
  have unflawed : ∀ q ∈ w.gathered (patterns includes excludes) [] roots, q.flaw? = none := by
    intro q member
    obtain ⟨_, root, _, _, yields, _⟩ := (Workspace.memGathered sound).mp member
    exact (Workspace.yieldsFile sound yields).1
  obtain ⟨fates, files, deserved, more, added⟩ := addFilesSort {} (Workspace.notedSound rs sound) unflawed
    fun q member => (names q member).noted rs
  have early : ∀ x ∈ fates, ∃ rs, (w.noted rs).Deserves x.1 x.2 := by
    intro x member
    obtain ⟨others, deserves⟩ := deserved x member
    exact ⟨rs ++ others, Workspace.notedTwice rs others w ▸ deserves⟩
  obtain ⟨units, errors, generated⟩ := sortedParts {} fates
  have logs : ∃ last, (load roots includes excludes).runIn w =
      (.ok (sorted {} fates), ((w.noted rs).noted more).note last) := by
    unfold load
    rw [bindOf gathers, bindOf added]
    exact ⟨_, rfl⟩
  obtain ⟨last, done⟩ := logs
  refine ⟨sorted {} fates, rs ++ more ++ [last], ?_, ⟨fates, files, early, by simpa using units, by simpa using errors,
    by simpa using generated⟩, ?_⟩
  · rw [done, ← Workspace.notedTwice, Workspace.notedLast]
  · have distinct : ((w.gathered (patterns includes excludes) [] roots).map w.spot).Nodup :=
      Workspace.gatheredDistinct sound List.nodup_nil
    rw [units, List.nil_append]
    refine List.Nodup.sublist (unitPlaces early) ?_
    rw [← files, List.map_map] at distinct
    have wrapped := distinct.map (Option.some_injective Spot)
    rwa [List.map_map] at wrapped

end Forest

/-- A source in a directory, and another file beside that. -/
def shared : Workspace :=
  let encoded (text : String) : List UInt8 := Text.Utf8.encode text.toList
  { tree := [
      (["game"], .directory),
      (["game", "a.py"], .file (encoded "class A: pass\n")),
      (["notes.txt"], .file (encoded "class C: pass\n"))] }

/-- Roots that have the source in common, written in several ways, and one that is not there. -/
def sharedRoots : List Path :=
  [⟨"", ["game"]⟩, ⟨"", ["lib"]⟩, ⟨"/", ["game", "a.py"]⟩, ⟨"/", ["notes.txt"]⟩, ⟨"/", ["game", "..", "game"]⟩]

end AccessorForge
