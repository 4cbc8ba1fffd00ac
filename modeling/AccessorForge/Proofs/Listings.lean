import AccessorForge.Proofs.Reading
import Mathlib.Data.List.Sort
import Mathlib.Data.String.Basic
/-! What a listing shows: the entries below a directory, each once, in the order of their names. Which files it
shows depends only on where files stand, and so do the files of a list of roots. -/
namespace AccessorForge
open Job Running
variable {w v : Workspace}

namespace FileTree

theorem precedesTrans (a b c : Spot × Entry) (first : precedes a b = true) (next : precedes b c = true) :
    precedes a c = true := by
  simp only [precedes, Bool.not_eq_true', decide_eq_false_iff_not] at first next ⊢
  exact List.le_trans first next

theorem precedesTotal (a b : Spot × Entry) : (precedes a b || precedes b a) = true := by
  simp only [precedes, Bool.or_eq_true, Bool.not_eq_true', decide_eq_false_iff_not]
  exact List.le_total a.1 b.1

theorem strictPrefix {s r : Spot} (inside : (s.isPrefixOf r && decide (s.length < r.length)) = true) :
    ∃ more, more ≠ [] ∧ r = s ++ more := by
  simp only [Bool.and_eq_true, List.isPrefixOf_iff_prefix, decide_eq_true_eq] at inside
  obtain ⟨⟨more, rfl⟩, longer⟩ := inside
  refine ⟨more, ?_, rfl⟩
  rintro rfl
  simp at longer

theorem memBelow {t : FileTree} (sound : t.Sound) {s r : Spot} {e : Entry} :
    (r, e) ∈ t.below s ↔ r ≠ [] ∧ t.get? (s ++ r) = some e := by
  unfold below
  simp only [List.mem_mergeSort, List.mem_map, List.mem_filter]
  constructor
  · rintro ⟨⟨q, d⟩, ⟨member, inside⟩, same⟩
    obtain ⟨more, some_, rfl⟩ := strictPrefix inside
    simp only [List.drop_left, Prod.mk.injEq] at same
    obtain ⟨rfl, rfl⟩ := same
    exact ⟨some_, ofEntry sound member⟩
  · rintro ⟨more, found⟩
    refine ⟨(s ++ r, e), ⟨entryOf found (by simp [more]), ?_⟩, by simp⟩
    have longer : 0 < r.length := List.length_pos_of_ne_nil more
    simp only [Bool.and_eq_true, List.isPrefixOf_iff_prefix, decide_eq_true_eq, List.length_append]
    exact ⟨List.prefix_append s r, by omega⟩

theorem belowNodup {t : FileTree} (sound : t.Sound) (s : Spot) : ((t.below s).map (·.1)).Nodup := by
  unfold below
  dsimp only
  refine (((List.mergeSort_perm _ precedes).map fun x : Spot × Entry => x.1).nodup_iff).mpr ?_
  rw [List.map_map]
  refine List.Nodup.map_on ?_ ?_
  · intro a first b second same
    have insideA := strictPrefix (List.mem_filter.mp first).2
    have insideB := strictPrefix (List.mem_filter.mp second).2
    obtain ⟨restA, _, spotA⟩ := insideA
    obtain ⟨restB, _, spotB⟩ := insideB
    simp only [Function.comp_apply, spotA, spotB, List.drop_left] at same
    have spots : a.1 = b.1 := by rw [spotA, spotB, same]
    have entries : some a.2 = some b.2 := by
      rw [← ofEntry sound (List.mem_filter.mp first).1, ← ofEntry sound (List.mem_filter.mp second).1, spots]
    exact Prod.ext spots (Option.some.inj entries)
  · exact List.Nodup.of_map (·.1) (List.Nodup.sublist (List.filter_sublist.map _) sound.distinct)

theorem belowSorted {t : FileTree} (sound : t.Sound) (s : Spot) :
    ((t.below s).map (·.1)).Pairwise (· < ·) := by
  have sorted : (t.below s).Pairwise fun a b => precedes a b = true :=
    List.pairwise_mergeSort precedesTrans precedesTotal _
  have ordered : ((t.below s).map (·.1)).Pairwise fun a b => ¬ b < a := by
    rw [List.pairwise_map]
    refine sorted.imp fun {a b} first => ?_
    simpa only [precedes, Bool.not_eq_true', decide_eq_false_iff_not] using first
  refine (ordered.and (belowNodup sound s)).imp fun {a b} both => ?_
  by_contra later
  exact both.2 (List.le_antisymm both.1 later)

/-- The files below a spot, by the names that lead to them from there. -/
def filesBelow (t : FileTree) (s : Spot) : List Spot := ((t.below s).filter (·.2.isFile)).map (·.1)

theorem filesSorted {t : FileTree} (sound : t.Sound) (s : Spot) : (t.filesBelow s).Pairwise (· < ·) :=
  (belowSorted sound s).sublist (List.filter_sublist.map _)

theorem memFiles {t : FileTree} (sound : t.Sound) {s r : Spot} :
    r ∈ t.filesBelow s ↔ r ≠ [] ∧ (t.bytes? (s ++ r)).isSome = true := by
  unfold filesBelow
  constructor
  · intro member
    obtain ⟨⟨q, e⟩, filtered, rfl⟩ := List.mem_map.mp member
    obtain ⟨there, file⟩ := List.mem_filter.mp filtered
    obtain ⟨more, found⟩ := (memBelow sound).mp there
    cases e with
    | directory => cases file
    | file bytes =>
      refine ⟨more, ?_⟩
      rw [(bytesIff t _ bytes).mpr found]
      rfl
  · rintro ⟨more, file⟩
    obtain ⟨bytes, held⟩ := Option.isSome_iff_exists.mp file
    have there := (memBelow sound).mpr ⟨more, (bytesIff t _ bytes).mp held⟩
    exact List.mem_map.mpr ⟨_, List.mem_filter.mpr ⟨there, rfl⟩, rfl⟩

theorem sameIfSorted {xs ys : List Spot} (first : xs.Pairwise (· < ·)) (second : ys.Pairwise (· < ·))
    (same : ∀ s, s ∈ xs ↔ s ∈ ys) : xs = ys := List.Pairwise.eq_of_mem_iff first second same

end FileTree

/-! The files of roots. -/

def Path.under (root : Path) (r : Spot) : Path := { root with parts := root.parts ++ r }

namespace Workspace
open Forest

def listedBelow (w : Workspace) (ps : Patterns) (root : Path) : List Spot :=
  if (w.tree.bytes? root.parts).isSome then [[]] else (w.tree.filesBelow root.parts).filter ps.selects

def listed (w : Workspace) (ps : Patterns) (root : Path) : List Path := (w.listedBelow ps root).map root.under

def merged (found candidates : List Path) : List Path :=
  candidates.foldl (fun found p => if p ∈ found then found else found ++ [p]) found

theorem memMerged (found : List Path) {candidates : List Path} {q : Path} :
    q ∈ merged found candidates ↔ q ∈ found ∨ q ∈ candidates := by
  induction candidates generalizing found with
  | nil => simp [merged]
  | cons p rest ih =>
    have later := ih (if p ∈ found then found else found ++ [p])
    unfold merged at later ⊢
    rw [List.foldl_cons, later, List.mem_cons]
    by_cases known : p ∈ found
    · rw [if_pos known]
      constructor
      · rintro (old | new)
        · exact .inl old
        · exact .inr (.inr new)
      · rintro (old | rfl | new)
        · exact .inl old
        · exact .inl known
        · exact .inr new
    · rw [if_neg known, List.mem_append, List.mem_singleton, or_assoc]

theorem filterMerged (found candidates : List Path) (counts : Path → Bool) :
    (merged found candidates).filter counts = merged (found.filter counts) (candidates.filter counts) := by
  induction candidates generalizing found with
  | nil => rfl
  | cons p rest ih =>
    have later := ih (if p ∈ found then found else found ++ [p])
    unfold merged at later ⊢
    rw [List.foldl_cons, later]
    cases counted : counts p with
    | false =>
      rw [List.filter_cons_of_neg (by simp [counted])]
      split
      · rfl
      · rw [List.filter_append, List.filter_cons_of_neg (by simp [counted]), List.filter_nil, List.append_nil]
    | true =>
      rw [List.filter_cons_of_pos counted, List.foldl_cons]
      by_cases known : p ∈ found
      · rw [if_pos known, if_pos (List.mem_filter.mpr ⟨known, counted⟩)]
      · have fresh : p ∉ found.filter counts := fun member => known (List.mem_filter.mp member).1
        rw [if_neg known, if_neg fresh, List.filter_append, List.filter_cons_of_pos counted, List.filter_nil]

/-- The files of several roots, each at the place of the first root that has it. -/
def scanned (w : Workspace) (ps : Patterns) (roots : List Path) : List Path :=
  roots.foldl (fun found root => merged found (w.listed ps root)) []

theorem memScanned {ps : Patterns} {roots : List Path} {q : Path} :
    q ∈ w.scanned ps roots ↔ ∃ root ∈ roots, q ∈ w.listed ps root := by
  have general (found : List Path) : q ∈ roots.foldl (fun found root => merged found (w.listed ps root)) found ↔
      q ∈ found ∨ ∃ root ∈ roots, q ∈ w.listed ps root := by
    induction roots generalizing found with
    | nil => simp
    | cons root rest ih =>
      rw [List.foldl_cons, ih, memMerged, or_assoc]
      simp
  rw [scanned, general []]
  simp

theorem listedSorted (sound : w.Sound) (ps : Patterns) (root : Path) :
    (w.listedBelow ps root).Pairwise (· < ·) := by
  unfold listedBelow
  split
  · exact List.pairwise_singleton _ _
  · exact (FileTree.filesSorted sound.tree _).filter _

theorem memListedBelow (sound : w.Sound) {ps : Patterns} {root : Path} {r : Spot} :
    r ∈ w.listedBelow ps root ↔
      (w.tree.bytes? (root.under r).parts).isSome = true ∧ (r ≠ [] → ps.selects r = true) := by
  unfold listedBelow Path.under
  dsimp only
  split
  · rename_i file
    rw [List.mem_singleton]
    constructor
    · rintro rfl
      rw [List.append_nil]
      exact ⟨file, fun more => absurd rfl more⟩
    · rintro ⟨held, _⟩
      by_contra more
      obtain ⟨bytes, held⟩ := Option.isSome_iff_exists.mp held
      obtain ⟨own, file⟩ := Option.isSome_iff_exists.mp file
      have directory := FileTree.prefixDirectory sound.tree ((FileTree.bytesIff _ _ _).mp held) more
      cases directory.symm.trans ((FileTree.bytesIff _ _ _).mp file)
  · rename_i other
    rw [List.mem_filter, FileTree.memFiles sound.tree]
    constructor
    · rintro ⟨⟨_, held⟩, selected⟩
      exact ⟨held, fun _ => selected⟩
    · rintro ⟨held, selected⟩
      have more : r ≠ [] := by
        rintro rfl
        rw [List.append_nil] at held
        exact other held
      exact ⟨⟨more, held⟩, selected more⟩

theorem memListed (sound : w.Sound) {ps : Patterns} {root q : Path} :
    q ∈ w.listed ps root ↔ ∃ r, q = root.under r ∧ (w.tree.bytes? q.parts).isSome = true ∧
      (r ≠ [] → ps.selects r = true) := by
  unfold listed
  rw [List.mem_map]
  constructor
  · rintro ⟨r, member, rfl⟩
    obtain ⟨held, selected⟩ := (memListedBelow sound).mp member
    exact ⟨r, rfl, held, selected⟩
  · rintro ⟨r, rfl, held, selected⟩
    exact ⟨r, (memListedBelow sound).mpr ⟨held, selected⟩, rfl⟩

theorem listedUsable (sound : w.Sound) {ps : Patterns} {root q : Path} (straight : root.Straight)
    (member : q ∈ w.listed ps root) : q.Usable ∧ (w.tree.bytes? q.parts).isSome = true := by
  obtain ⟨r, same, held, _⟩ := (memListed sound).mp member
  obtain ⟨bytes, file⟩ := Option.isSome_iff_exists.mp held
  refine ⟨⟨by rw [same]; exact straight.anchored, ?_⟩, held⟩
  exact sound.tree.proper _ _ ((FileTree.bytesIff _ _ _).mp file)

theorem listedAgree (sound : w.Sound) (soundToo : v.Sound) (ps : Patterns) (root : Path) (counts : Path → Bool)
    (agree : ∀ q : Path, counts q = true →
      (v.tree.bytes? q.parts).isSome = (w.tree.bytes? q.parts).isSome) :
    (v.listed ps root).filter counts = (w.listed ps root).filter counts := by
  unfold listed
  rw [List.filter_map, List.filter_map]
  refine congrArg _ (FileTree.sameIfSorted ((listedSorted soundToo ps root).filter _)
    ((listedSorted sound ps root).filter _) fun r => ?_)
  rw [List.mem_filter, List.mem_filter, memListedBelow soundToo, memListedBelow sound]
  constructor
  · rintro ⟨⟨held, selected⟩, counted⟩
    exact ⟨⟨agree _ counted ▸ held, selected⟩, counted⟩
  · rintro ⟨⟨held, selected⟩, counted⟩
    exact ⟨⟨(agree _ counted).symm ▸ held, selected⟩, counted⟩

theorem scannedAgree (sound : w.Sound) (soundToo : v.Sound) (ps : Patterns) (roots : List Path)
    (counts : Path → Bool) (agree : ∀ q : Path, counts q = true →
      (v.tree.bytes? q.parts).isSome = (w.tree.bytes? q.parts).isSome) :
    (v.scanned ps roots).filter counts = (w.scanned ps roots).filter counts := by
  have general (found known : List Path) (same : known.filter counts = found.filter counts) :
      (roots.foldl (fun found root => merged found (v.listed ps root)) known).filter counts =
        (roots.foldl (fun found root => merged found (w.listed ps root)) found).filter counts := by
    induction roots generalizing found known with
    | nil => exact same
    | cons root rest ih =>
      rw [List.foldl_cons, List.foldl_cons]
      refine ih _ _ ?_
      rw [filterMerged, filterMerged, same, listedAgree sound soundToo ps root counts agree]
  exact general [] [] rfl

theorem notedHolds (rs : List Log.Record) (w : Workspace) (s : Spot) :
    ((w.noted rs).tree.bytes? s).isSome = (w.tree.bytes? s).isSome := by
  have kinds := (notedShape rs w).kinds s
  unfold FileTree.bytes?
  cases before : w.tree.get? s with
  | none =>
    cases now : (w.noted rs).tree.get? s with
    | none => rfl
    | some d => simp [before, now] at kinds
  | some e =>
    cases now : (w.noted rs).tree.get? s with
    | none => simp [before, now] at kinds
    | some d => cases d <;> cases e <;> simp [before, now, Entry.isFile] at kinds ⊢

theorem listedNoted (sound : w.Sound) (rs : List Log.Record) (ps : Patterns) (root : Path) :
    (w.noted rs).listed ps root = w.listed ps root := by
  have same := listedAgree sound (notedSound rs sound) ps root (fun _ => true) fun q _ => notedHolds rs w q.parts
  simpa using same

theorem selectedBelow (ps : Patterns) (root : Path) (s : Spot) :
    ps.selected root (w.tree.below s) = ((w.tree.filesBelow s).filter ps.selects).map root.under := by
  unfold Patterns.selected FileTree.filesBelow
  rw [List.filter_map, List.filter_filter, List.map_map]
  have both : (fun entry : Spot × Entry => entry.2.isFile && ps.selects entry.1) =
      fun entry => (ps.selects ∘ fun x : Spot × Entry => x.1) entry && entry.2.isFile := by
    funext entry
    exact Bool.and_comm _ _
  rw [← both]
  rfl

theorem selectedListed (ps : Patterns) {root : Path}
    (directory : w.tree.get? root.parts = some .directory) :
    ps.selected root (w.tree.below root.parts) = w.listed ps root := by
  have other : w.tree.bytes? root.parts = none := by
    unfold FileTree.bytes?
    rw [directory]
  rw [selectedBelow, listed, listedBelow, other]
  rfl

end Workspace

namespace Forest
variable {ps : Patterns} {roots : List Path}

theorem candidatesIn (ps : Patterns) (sound : w.Sound) {root : Path} (straight : root.Straight) {e : Option Entry}
    (told : w.tree.entry? w.cwd root = .ok e) :
    ∃ found, (candidates? ps root).runIn w = (.ok found, w) ∧ found.getD [] = w.listed ps root := by
  have there := FileTree.entryStraight sound.tree straight told
  have looked : ( entry? root).runIn w = (.ok e, w) := by
    rw [entryIn, told]
  unfold candidates?
  rw [bindOf looked]
  cases e with
  | none =>
    refine ⟨none, rfl, ?_⟩
    cases listed : w.listed ps root with
    | nil => rfl
    | cons q rest =>
      have member : q ∈ w.listed ps root := by rw [listed]; exact List.mem_cons_self
      obtain ⟨r, rfl, held, _⟩ := (Workspace.memListed sound).mp member
      obtain ⟨bytes, file⟩ := Option.isSome_iff_exists.mp held
      have found := (FileTree.bytesIff _ _ _).mp file
      by_cases none : r = []
      · rw [none, Path.under, List.append_nil, ← there] at found
        cases found
      · cases there.trans (FileTree.prefixDirectory sound.tree found none)
  | some e =>
    cases e with
    | file bytes =>
      refine ⟨some [root], rfl, ?_⟩
      have file := (FileTree.bytesIff _ _ _).mpr there.symm
      unfold Workspace.listed Workspace.listedBelow
      rw [file]
      simp [Path.under]
    | directory =>
      refine ⟨some (w.listed ps root), ?_, rfl⟩
      have located : (locate root).runIn w = (.ok root.parts, w) := by
        rw [locateIn, FileTree.locateThere sound.tree w.cwd straight (FileTree.entryFits told) there.symm]
      dsimp only
      rw [bindOf (getIn w), bindOf located, Workspace.selectedListed ps there.symm]
      rfl

theorem addNewMerged {cwd : Spot} {found candidates : List Path} (straight : ∀ q ∈ found, q.Straight)
    (straightToo : ∀ q ∈ candidates, q.Straight) : addNew cwd found candidates = Workspace.merged found candidates := by
  induction candidates generalizing found with
  | nil => rfl
  | cons p rest ih =>
    have own := straightToo p List.mem_cons_self
    have known : (found.any fun q => decide (q.absolute cwd = p.absolute cwd)) = decide (p ∈ found) := by
      rw [Bool.eq_iff_iff, List.any_eq_true, decide_eq_true_eq]
      constructor
      · rintro ⟨q, member, same⟩
        rw [decide_eq_true_eq, (straight q member).absolute, own.absolute] at same
        exact same ▸ member
      · intro member
        exact ⟨p, member, by simp⟩
    unfold addNew Workspace.merged
    rw [List.foldl_cons, List.foldl_cons, known]
    simp only [decide_eq_true_eq]
    refine ih ?_ fun q later => straightToo q (List.mem_cons_of_mem _ later)
    intro q member
    split at member
    · exact straight q member
    · rcases List.mem_append.mp member with old | last
      · exact straight q old
      · exact List.mem_singleton.mp last ▸ own

def missingRecord (root : Path) : Log.Record := ⟨Log.warning, logger, "Source root does not exist: " ++ root.text⟩

theorem filesFromNext {ps : Patterns} {root : Path} {candidates : Option (List Path)}
    (ran : (candidates? ps root).runIn w = (.ok candidates, w)) (found rest : List Path) :
    (filesFrom ps found (root :: rest)).runIn w = match candidates with
      | some cs => (filesFrom ps (addNew w.cwd found cs) rest).runIn w
      | none => (filesFrom ps found rest).runIn (w.noted [missingRecord root]) := by
  rw [filesFrom, bindOf ran]
  cases candidates <;> rfl

/- The induction is on the roots. One that is not there costs a line of the log, of which the later ones know nothing. -/
theorem filesFromIn (ps : Patterns) (sound : w.Sound) (straight : ∀ root ∈ roots, root.Straight)
    {found : List Path} (before : ∀ q ∈ found, q.Straight) (answered : ∀ root ∈ roots, w.Answers root) :
    ∃ rs, (filesFrom ps found roots).runIn w =
      (.ok (roots.foldl (fun found root => Workspace.merged found (w.listed ps root)) found), w.noted rs) := by
  induction roots generalizing found w with
  | nil => exact ⟨[], rfl⟩
  | cons root rest ih =>
    have own := straight root List.mem_cons_self
    have others : ∀ r ∈ rest, r.Straight := fun r later => straight r (List.mem_cons_of_mem _ later)
    obtain ⟨e, told⟩ := answered root List.mem_cons_self
    obtain ⟨candidates, ran, listed⟩ := candidatesIn ps sound own told
    have candidatesStraight : ∀ q ∈ w.listed ps root, q.Straight := fun q member =>
      (Workspace.listedUsable sound own member).1.straight
    rw [List.foldl_cons, filesFromNext ran]
    cases candidates with
    | some cs =>
      rw [Option.getD_some] at listed
      subst listed
      dsimp only
      rw [addNewMerged before candidatesStraight]
      refine ih sound others ?_ fun r later => answered r (List.mem_cons_of_mem _ later)
      intro q member
      rcases (Workspace.memMerged _).mp member with old | new
      · exact before q old
      · exact candidatesStraight q new
    | none =>
      rw [Option.getD_none] at listed
      have later : ∀ r ∈ rest, (w.noted [missingRecord root]).Answers r := fun r later =>
        Workspace.answersSame (Workspace.notedShape _ w) (answered r (List.mem_cons_of_mem _ later))
      obtain ⟨rs, done⟩ := ih (Workspace.notedSound _ sound) others before later
      simp only [Workspace.listedNoted sound] at done
      refine ⟨[missingRecord root] ++ rs, ?_⟩
      dsimp only
      rw [← listed, done, Workspace.notedTwice]
      rfl

theorem candidatesAnswered {root : Path} {candidates : Option (List Path)}
    (ran : (candidates? ps root).runIn w = (.ok candidates, v)) : w.Answers root ∧ v = w := by
  unfold candidates? at ran
  obtain ⟨e, x, looked, rest⟩ := bindOk ran
  obtain ⟨told, still⟩ := entryOk looked
  subst still
  refine ⟨⟨e, told⟩, ?_⟩
  split at rest
  · cases rest
    rfl
  · obtain ⟨_, _, got, last⟩ := bindOk rest
    cases got
    obtain ⟨_, _, found, last⟩ := bindOk last
    cases (locateOk found).2
    cases last
    rfl
  · cases rest
    rfl

theorem filesFromAnswered {found files : List Path} (ok : (filesFrom ps found roots).runIn w = (.ok files, v)) :
    ∀ root ∈ roots, w.Answers root := by
  induction roots generalizing found w with
  | nil => simp
  | cons root rest ih =>
    obtain ⟨candidates, u, ran, _⟩ := bindOk (show (candidates? ps root >>= _).runIn w = _ from ok)
    obtain ⟨here, still⟩ := candidatesAnswered ran
    subst still
    rw [filesFromNext ran] at ok
    intro r member
    rcases List.mem_cons.mp member with rfl | deeper
    · exact here
    · cases candidates with
      | some cs => exact ih ok r deeper
      | none => exact Workspace.answersSame (Workspace.noteShape _ u).symm (ih ok r deeper)

theorem filesOk (sound : w.Sound) (straight : ∀ root ∈ roots, root.Straight) {found : List Path}
    (ok : (files ps roots).runIn w = (.ok found, v)) :
    found = w.scanned ps roots ∧ (∀ root ∈ roots, w.Answers root) ∧ ∃ rs, v = w.noted rs := by
  have answered := filesFromAnswered ok
  have none : ∀ q ∈ ([] : List Path), q.Straight := by simp
  obtain ⟨rs, ran⟩ := filesFromIn ps sound straight none answered
  cases ok.symm.trans ran
  exact ⟨rfl, answered, rs, rfl⟩

end Forest

end AccessorForge
