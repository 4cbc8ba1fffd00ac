import AccessorForge.Proofs.Jobs
import AccessorForge.Proofs.Places
/-! What jobs leave as it was. A workspace that is apart from another at some spots has the same bytes in all other
files, the log file excepted, and all its directories; trees stay sound. -/
namespace AccessorForge

namespace FileTree

/-! Entries that come and go. -/

theorem keysPut (t : FileTree) (s : Spot) (e : Entry) :
    (t.put s e).map (·.1) = if s ∈ t.map (·.1) then t.map (·.1) else t.map (·.1) ++ [s] := by
  induction t with
  | nil => rfl
  | cons head rest ih =>
    obtain ⟨r, d⟩ := head
    by_cases same : r = s
    · simp [put, same]
    · have other : s ≠ r := fun back => same back.symm
      by_cases member : s ∈ rest.map (·.1)
      · rw [if_pos member] at ih
        rw [if_pos (by simpa using .inr (by simpa using member))]
        simp only [put, same, if_false, List.map_cons, ih]
      · rw [if_neg member] at ih
        have fresh : s ∉ List.map (·.1) ((r, d) :: rest) := by
          rw [List.map_cons, List.mem_cons, not_or]
          exact ⟨other, member⟩
        rw [if_neg fresh]
        simp only [put, same, if_false, List.map_cons, ih, List.cons_append]

theorem eraseFresh {t : FileTree} {s : Spot} (fresh : t.get? s = none) : t.erase s = t := by
  refine List.filter_eq_self.mpr fun entry member => ?_
  simp only [ne_eq, decide_not, Bool.not_eq_true', decide_eq_false_iff_not]
  rintro rfl
  unfold get? at fresh
  split at fresh
  · cases fresh
  · rw [Option.map_eq_none_iff, List.find?_eq_none] at fresh
    exact fresh entry member (by simp)

theorem erasePut {t : FileTree} {s : Spot} (fresh : t.get? s = none) (e : Entry) : (t.put s e).erase s = t := by
  have erased := eraseFresh fresh
  clear fresh
  induction t with
  | nil => simp [put, erase]
  | cons head rest ih =>
    have other : head.1 ≠ s := by
      intro same
      have kept : head ∈ erase (head :: rest) s := by rw [erased]; exact List.mem_cons_self
      simp [erase, same] at kept
    unfold erase at erased ih ⊢
    rw [List.filter_cons_of_pos (by simpa using other)] at erased
    have later := ih (List.cons.inj erased).2
    simp only [put, if_neg other]
    rw [List.filter_cons_of_pos (by simpa using other), later]

theorem putTwice (t : FileTree) (s : Spot) (e d : Entry) : (t.put s e).put s d = t.put s d := by
  induction t with
  | nil => simp [put]
  | cons head rest ih =>
    by_cases same : head.1 = s
    · simp [put, same]
    · simp [put, same, ih]

theorem putSound {t : FileTree} (sound : t.Sound) {s : Spot} {e : Entry} (below : s ≠ [])
    (house : t.get? s.dropLast = some .directory) (leaf : t.get? s ≠ some .directory)
    (proper : ∀ n ∈ s, Path.isProper n = true) : (t.put s e).Sound := by
  have above : s.dropLast ≠ s := by
    intro same
    rw [same] at house
    exact leaf house
  refine ⟨?_, ?_, ?_, ?_⟩
  · rw [keysPut]
    split
    · exact sound.distinct
    · rename_i fresh
      refine List.nodup_append.mpr ⟨sound.distinct, by simp, ?_⟩
      rintro r member q last rfl
      exact fresh (List.mem_singleton.mp last ▸ member)
  · intro entry member
    have key : entry.1 ∈ (t.put s e).map (·.1) := List.mem_map_of_mem member
    rw [keysPut] at key
    have old (member : entry.1 ∈ t.map (·.1)) : entry.1 ≠ [] := by
      obtain ⟨known, there, same⟩ := List.mem_map.mp member
      exact same ▸ sound.below known there
    split at key
    · exact old key
    · rcases List.mem_append.mp key with before | last
      · exact old before
      · exact List.mem_singleton.mp last ▸ below
  · intro r d found lower
    by_cases same : r = s
    · rw [same, get?_put_of_ne t e above]
      exact house
    · rw [get?_put_of_ne t e same] at found
      have housed := sound.housed r d found lower
      have other : r.dropLast ≠ s := by
        intro back
        rw [back] at housed
        exact leaf housed
      rw [get?_put_of_ne t e other]
      exact housed
  · intro r d found
    by_cases same : r = s
    · rw [same]
      exact proper
    · rw [get?_put_of_ne t e same] at found
      exact sound.proper r d found

theorem eraseSound {t : FileTree} (sound : t.Sound) {s : Spot} (leaf : t.get? s ≠ some .directory) :
    (t.erase s).Sound := by
  have below : s ≠ [] := by
    rintro rfl
    exact leaf (get?_nil t)
  have old {r : Spot} {d : Entry} (found : (t.erase s).get? r = some d) : r ≠ s ∧ t.get? r = some d := by
    have other : r ≠ s := by
      rintro rfl
      rw [get?_erase_self t below] at found
      cases found
    rw [get?_erase_of_ne t other] at found
    exact ⟨other, found⟩
  refine ⟨?_, ?_, ?_, ?_⟩
  · exact List.Nodup.sublist (List.filter_sublist.map _) sound.distinct
  · intro entry member
    exact sound.below entry (List.mem_filter.mp member).1
  · intro r d found lower
    have housed := sound.housed r d (old found).2 lower
    have other : r.dropLast ≠ s := by
      intro back
      rw [back] at housed
      exact leaf housed
    rw [get?_erase_of_ne t other]
    exact housed
  · intro r d found
    exact sound.proper r d (old found).2

end FileTree

namespace Workspace

/-- The tree can be, and the directory in which jobs run is in it. -/
structure Sound (w : Workspace) : Prop where
  tree : w.tree.Sound
  inside : w.tree.get? w.cwd = some .directory

theorem Sound.dotless {w : Workspace} (sound : w.Sound) : ".." ∉ w.cwd :=
  Path.properDotless (sound.tree.proper _ _ sound.inside)

theorem Sound.located {w : Workspace} (sound : w.Sound) {p : Path} {s : Spot}
    (ok : w.tree.locate w.cwd p = .ok s) : s = (p.absolute w.cwd).parts :=
  FileTree.locateAbsolute sound.dotless ok

structure Apart (ts : List Spot) (w v : Workspace) : Prop where
  cwd : v.cwd = w.cwd
  refusals : v.refusals = w.refusals
  logFile : v.logFile = w.logFile
  same : ∀ s, s ∉ ts → w.logFile ≠ some s → v.tree.bytes? s = w.tree.bytes? s
  holds : ∀ s, s ∉ ts → (v.tree.bytes? s).isSome = (w.tree.bytes? s).isSome
  grown : w.tree.Grown v.tree

namespace Apart
variable {ts us : List Spot} {u v w : Workspace}

theorem refl (w : Workspace) : Apart ts w w :=
  ⟨rfl, rfl, rfl, fun _ _ _ => rfl, fun _ _ => rfl, fun _ there => there⟩

theorem trans (earlier : Apart ts u v) (later : Apart us v w) : Apart (ts ++ us) u w := by
  refine ⟨later.cwd.trans earlier.cwd, later.refusals.trans earlier.refusals, later.logFile.trans earlier.logFile,
    ?_, ?_, fun s there => later.grown s (earlier.grown s there)⟩
  · intro s outside unlogged
    rw [List.mem_append, not_or] at outside
    have now := later.same s outside.2 (earlier.logFile ▸ unlogged)
    exact now.trans (earlier.same s outside.1 unlogged)
  · intro s outside
    rw [List.mem_append, not_or] at outside
    exact (later.holds s outside.2).trans (earlier.holds s outside.1)

theorem mono (apart : Apart ts u v) (more : ts ⊆ us) : Apart us u v :=
  { apart with
    same := fun s outside => apart.same s fun member => outside (more member)
    holds := fun s outside => apart.holds s fun member => outside (more member) }

theorem before (earlier : Apart [] u v) (later : Apart ts v w) : Apart ts u w := earlier.trans later

theorem after (earlier : Apart ts u v) (later : Apart [] v w) : Apart ts u w :=
  (earlier.trans later).mono (by simp)

end Apart

theorem noteTree (r : Log.Record) (w : Workspace) :
    (w.note r).tree = w.tree ∨ ∃ s bytes more,
      w.logFile = some s ∧ w.tree.get? s = some (.file bytes) ∧
        (w.note r).tree = w.tree.put s (.file (bytes ++ more)) := by
  unfold note
  dsimp only
  split
  · exact .inl rfl
  · rename_i s reached
    have logged : w.logFile = some s := by
      split at reached
      · cases reached
      · exact reached
    split
    · rename_i bytes file
      split
      · exact .inl rfl
      · exact .inr ⟨s, bytes, _, logged, file, rfl⟩
    · exact .inl rfl

theorem noteKeeps (r : Log.Record) (w : Workspace) :
    (w.note r).cwd = w.cwd ∧ (w.note r).refusals = w.refusals ∧ (w.note r).logFile = w.logFile := by
  unfold note
  dsimp only
  split
  · exact ⟨rfl, rfl, rfl⟩
  · split
    · split
      · exact ⟨rfl, rfl, rfl⟩
      · exact ⟨rfl, rfl, rfl⟩
    · exact ⟨rfl, rfl, rfl⟩

theorem spotBelow {t : FileTree} {s : Spot} {bytes : List UInt8} (file : t.get? s = some (.file bytes)) : s ≠ [] := by
  rintro rfl
  cases file

theorem bytesPutOther (t : FileTree) {s r : Spot} (e : Entry) (other : r ≠ s) :
    (t.put s e).bytes? r = t.bytes? r := by
  unfold FileTree.bytes?
  rw [FileTree.get?_put_of_ne t e other]

theorem bytesEraseOther (t : FileTree) {s r : Spot} (other : r ≠ s) : (t.erase s).bytes? r = t.bytes? r := by
  unfold FileTree.bytes?
  rw [FileTree.get?_erase_of_ne t other]

theorem grownPut {t : FileTree} {s : Spot} (e : Entry) (leaf : t.get? s ≠ some .directory) : t.Grown (t.put s e) := by
  intro r there
  have other : r ≠ s := by
    rintro rfl
    exact leaf there
  rw [FileTree.get?_put_of_ne t e other]
  exact there

theorem grownErase {t : FileTree} {s : Spot} (leaf : t.get? s ≠ some .directory) : t.Grown (t.erase s) := by
  intro r there
  have other : r ≠ s := by
    rintro rfl
    exact leaf there
  rw [FileTree.get?_erase_of_ne t other]
  exact there

theorem noteApart (r : Log.Record) (w : Workspace) : Apart [] w (w.note r) := by
  obtain ⟨cwd, refusals, logFile⟩ := noteKeeps r w
  rcases noteTree r w with same | ⟨s, bytes, more, logged, file, changed⟩
  · refine ⟨cwd, refusals, logFile, fun s _ _ => by rw [same], fun s _ => by rw [same], fun s there => ?_⟩
    rw [same]
    exact there
  · refine ⟨cwd, refusals, logFile, ?_, ?_, ?_⟩
    · intro r _ unlogged
      have other : r ≠ s := by
        rintro rfl
        exact unlogged logged
      rw [changed, bytesPutOther _ _ other]
    · intro r _
      rw [changed]
      by_cases here : r = s
      · have before := (FileTree.bytesIff w.tree s bytes).mpr file
        have after := (FileTree.bytesIff (w.tree.put s (.file (bytes ++ more))) s (bytes ++ more)).mpr
          (FileTree.get?_put_self _ _ (spotBelow file))
        rw [here, before, after]
        rfl
      · rw [bytesPutOther _ _ here]
    · rw [changed]
      exact grownPut _ (by simp [file])

theorem noteSound (r : Log.Record) {w : Workspace} (sound : w.Sound) : (w.note r).Sound := by
  obtain ⟨cwd, _, _⟩ := noteKeeps r w
  refine ⟨?_, ?_⟩
  · rcases noteTree r w with same | ⟨s, bytes, more, logged, file, changed⟩
    · rw [same]
      exact sound.tree
    · rw [changed]
      have below := spotBelow file
      exact FileTree.putSound sound.tree below (sound.tree.housed _ _ file below) (by simp [file])
        (sound.tree.proper _ _ file)
  · rw [cwd]
    exact (noteApart r w).grown _ sound.inside

theorem notedApart (rs : List Log.Record) (w : Workspace) : Apart [] w (w.noted rs) := by
  induction rs generalizing w with
  | nil => exact .refl w
  | cons r rest ih => exact (noteApart r w).trans (ih (w.note r))

theorem notedSound (rs : List Log.Record) {w : Workspace} (sound : w.Sound) : (w.noted rs).Sound := by
  induction rs generalizing w with
  | nil => exact sound
  | cons r rest ih => exact ih (noteSound r sound)

end Workspace

namespace Job
variable {α : Type}

theorem calmSpares {x : Job α} (calm : x.Calm) {w v : Workspace} {result : Except Failure α} (sound : w.Sound)
    (ran : x.runIn w = (result, v)) : v.Sound ∧ Workspace.Apart [] w v := by
  obtain ⟨rs, rfl⟩ := notedIn calm ran
  exact ⟨Workspace.notedSound rs sound, Workspace.notedApart rs w⟩

end Job

end AccessorForge
