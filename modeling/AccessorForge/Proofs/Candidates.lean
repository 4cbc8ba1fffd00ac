import AccessorForge.Commands
import AccessorForge.Proofs.Jobs
/-! The modules that a run may find obsolete. Each was read as a generated module by the run itself; since
then only calm jobs ran, so a file still stands there when it comes to removing. -/
namespace AccessorForge
open Job Running

/-! Reading. -/

theorem calmRefuseFlawed (p : Path) : (refuseFlawed p).Calm := calmOrFlawed _

theorem calmReadBytes (p : Path) : (readBytes p).Calm := by
  refine calmBind (calmRefuseFlawed p) fun _ => calmBind calmGet fun w => calmGuard (calmObstruct _ p) fun _ => ?_
  refine calmBind calmGet fun w => calmBind (calmLocate p) fun s => ?_
  split
  · exact calmPure _
  · exact calmObstruct _ p
  · exact calmObstruct _ p

theorem calmOrUndecodable {α : Type} (x : Except Text.Utf8.Fault α) : (orUndecodable x).Calm := by
  cases x with
  | ok a => exact calmPure a
  | error f => exact calmThrow _

theorem calmReadText (p : Path) : (readText p).Calm :=
  calmBind (calmReadBytes p) fun _ => calmBind (calmOrUndecodable _) fun _ => calmPure _

theorem calmReadFirstLine (p : Path) : (readFirstLine p).Calm :=
  calmBind (calmReadBytes p) fun _ => calmBind (calmOrUndecodable _) fun _ => calmPure _

theorem readBytesOk {p : Path} {w v : Workspace} {bytes : List UInt8}
    (read : (readBytes p).runIn w = (.ok bytes, v)) :
    p.flaw? = none ∧ w.refusals.reading.contains p.text = false ∧ v = w ∧
      ∃ s, w.tree.locate w.cwd p = .ok s ∧ w.tree.get? s = some (.file bytes) := by
  unfold readBytes at read
  obtain ⟨_, u, fine, guarded⟩ := bindOk read
  obtain ⟨unflawed, still⟩ := orFlawedOk fine
  subst still
  obtain ⟨_, _, got, allowed⟩ := bindOk guarded
  cases got
  split at allowed
  · obtain ⟨_, _, refused, _⟩ := bindOk allowed
    cases refused
  · rename_i allowing
    obtain ⟨_, _, got, looked⟩ := bindOk allowed
    cases got
    obtain ⟨s, _, found, last⟩ := bindOk looked
    obtain ⟨located, still⟩ := locateOk found
    subst still
    split at last
    · rename_i content file
      cases last
      exact ⟨unflawed, by simpa using allowing, rfl, s, located, file⟩
    · cases last
    · cases last

theorem readHolds {p : Path} {w v : Workspace} {bytes : List UInt8}
    (read : (readBytes p).runIn w = (.ok bytes, v)) : v.Holds p := by
  obtain ⟨_, _, rfl, s, located, file⟩ := readBytesOk read
  exact ⟨s, bytes, located, file⟩

theorem readTextHolds {p : Path} {w v : Workspace} {text : String}
    (read : (readText p).runIn w = (.ok text, v)) : v.Holds p := by
  obtain ⟨bytes, u, first, rest⟩ := bindOk read
  have same := calmIn (calmBind (calmOrUndecodable _) fun _ => calmPure _) rest
  exact Workspace.holdsSame same (readHolds first)

theorem readFirstLineHolds {p : Path} {w v : Workspace} {line : String}
    (read : (readFirstLine p).runIn w = (.ok line, v)) : v.Holds p := by
  obtain ⟨bytes, u, first, rest⟩ := bindOk read
  have same := calmIn (calmBind (calmOrUndecodable _) fun _ => calmPure _) rest
  exact Workspace.holdsSame same (readHolds first)

theorem attemptReadOk {α : Type} {x : Job α} {w v : Workspace} {a : α}
    (ok : (attemptRead x).runIn w = (.ok (.ok a), v)) : x.runIn w = (.ok a, v) := by
  rw [attemptReadIn] at ok
  cases ran : x.runIn w with
  | mk result u =>
    rw [ran] at ok
    cases result with
    | ok b =>
      cases ok
      rfl
    | error f => cases f <;> cases ok

/-! Scanning the files of a forest. -/

theorem calmPackageNames (fuel : Nat) (directory : Path) : (packageNames fuel directory).Calm := by
  induction fuel generalizing directory with
  | zero => exact calmPure _
  | succ fuel ih =>
    refine calmBind (calmIsFile _) fun marked => ?_
    split
    · exact calmPure _
    · exact calmBind (ih _) fun _ => calmPure _

theorem calmModuleName (p : Path) : (moduleName p).Calm :=
  calmBind (calmResolve p) fun _ => calmBind (calmPackageNames _ _) fun _ => calmPure _

namespace Forest

theorem addFileHolds {f g : Forest} {p : Path} {w v : Workspace} (ok : (f.addFile p).runIn w = (.ok g, v)) :
    w.SameShape v ∧ (g.generated = f.generated ∨ g.generated = f.generated ++ [p] ∧ v.Holds p) := by
  unfold addFile at ok
  obtain ⟨text, u, tried, ok⟩ := bindOk ok
  have read := calmIn (calmAttemptRead (calmReadText p)) tried
  cases text with
  | error message =>
    obtain ⟨_, t, logged, ok⟩ := bindOk ok
    cases ok
    exact ⟨read.trans (calmIn (calmLog _ _ _) logged), .inl rfl⟩
  | ok text =>
    dsimp only at ok
    split at ok
    · obtain ⟨_, t, logged, ok⟩ := bindOk ok
      cases ok
      have after := calmIn (calmLog _ _ _) logged
      exact ⟨read.trans after, .inr ⟨rfl, Workspace.holdsSame after (readTextHolds (attemptReadOk tried))⟩⟩
    · obtain ⟨name, t, named, ok⟩ := bindOk ok
      have after := read.trans (calmIn (calmModuleName p) named)
      split at ok
      · cases ok
        exact ⟨after, .inl rfl⟩
      · obtain ⟨_, s, logged, ok⟩ := bindOk ok
        cases ok
        exact ⟨after.trans (calmIn (calmLog _ _ _) logged), .inl rfl⟩

theorem addFilesHold {ps : List Path} {f g : Forest} {w v : Workspace}
    (before : ∀ p ∈ f.generated, w.Holds p) (ok : (f.addFiles ps).runIn w = (.ok g, v)) :
    ∀ p ∈ g.generated, v.Holds p := by
  induction ps generalizing f w with
  | nil =>
    cases ok
    exact before
  | cons p rest ih =>
    obtain ⟨next, u, added, ok⟩ := bindOk ok
    obtain ⟨same, generated⟩ := addFileHolds added
    refine ih ?_ ok
    intro q member
    rcases generated with old | ⟨new, here⟩
    · exact Workspace.holdsSame same (before q (old ▸ member))
    · rw [new] at member
      rcases List.mem_append.mp member with old | last
      · exact Workspace.holdsSame same (before q old)
      · rw [List.mem_singleton.mp last]
        exact here

theorem loadHolds {roots : List Path} {includes excludes : List String} {f : Forest} {w v : Workspace}
    (ok : (load roots includes excludes).runIn w = (.ok f, v)) : ∀ p ∈ f.generated, v.Holds p := by
  obtain ⟨found, u, _, ok⟩ := bindOk ok
  obtain ⟨g, t, added, ok⟩ := bindOk ok
  obtain ⟨_, s, logged, ok⟩ := bindOk ok
  cases ok
  intro p member
  exact Workspace.holdsSame (calmIn (calmLog _ _ _) logged) (addFilesHold (by simp) added p member)

end Forest

theorem prepareHolds {r : Request} {s : Settings} {f : Forest} {w v : Workspace}
    (ok : r.prepare.runIn w = (.ok (s, f), v)) : ∀ p ∈ f.generated, v.Holds p := by
  obtain ⟨settings, u, _, rooted⟩ := bindOk ok
  dsimp only at rooted
  split at rooted
  all_goals
    obtain ⟨roots, t, _, last⟩ := bindOk rooted
    obtain ⟨g, e, loaded, done⟩ := bindOk last
    cases done
    exact Forest.loadHolds loaded

/-! The output directory. -/

theorem calmModulePaths (directory : Path) : (modulePaths directory).Calm := by
  refine calmBind (calmIsDirectory directory) fun there => ?_
  split
  · exact calmPure _
  · exact calmBind calmGet fun _ => calmBind (calmLocate directory) fun _ => calmPure _

theorem keepGeneratedHolds {ps qs : List Path} {w v : Workspace}
    (ok : (keepGenerated ps).runIn w = (.ok qs, v)) : w.SameShape v ∧ ∀ p ∈ qs, v.Holds p := by
  induction ps generalizing w qs with
  | nil =>
    cases ok
    exact ⟨.refl _, by simp⟩
  | cons p rest ih =>
    obtain ⟨line, u, tried, ok⟩ := bindOk ok
    have read := calmIn (calmAttemptRead (calmReadFirstLine p)) tried
    cases line with
    | error message =>
      obtain ⟨_, t, logged, ok⟩ := bindOk ok
      obtain ⟨same, holds⟩ := ih ok
      exact ⟨(read.trans (calmIn (calmLog _ _ _) logged)).trans same, holds⟩
    | ok line =>
      dsimp only at ok
      split at ok
      · obtain ⟨kept, t, others, ok⟩ := bindOk ok
        cases ok
        obtain ⟨same, holds⟩ := ih others
        refine ⟨read.trans same, ?_⟩
        intro q member
        rcases List.mem_cons.mp member with rfl | later
        · exact Workspace.holdsSame same (readFirstLineHolds (attemptReadOk tried))
        · exact holds q later
      · obtain ⟨same, holds⟩ := ih ok
        exact ⟨read.trans same, holds⟩

theorem generatedModulesHold {directory : Path} {qs : List Path} {w v : Workspace}
    (ok : (generatedModulesIn directory).runIn w = (.ok qs, v)) : w.SameShape v ∧ ∀ p ∈ qs, v.Holds p := by
  obtain ⟨ps, u, listed, ok⟩ := bindOk ok
  obtain ⟨same, holds⟩ := keepGeneratedHolds ok
  exact ⟨(calmIn (calmModulePaths directory) listed).trans same, holds⟩

theorem candidatesHold {r : Request} {f : Forest} {o : Output} {ps : List Path} {w v : Workspace}
    (before : ∀ p ∈ f.generated, w.Holds p) (ok : (r.obsoleteCandidates f o).runIn w = (.ok ps, v)) :
    ∀ p ∈ ps, v.Holds p := by
  unfold Request.obsoleteCandidates at ok
  split at ok
  · split at ok
    · obtain ⟨qs, u, listed, ok⟩ := bindOk ok
      cases ok
      obtain ⟨same, holds⟩ := generatedModulesHold listed
      intro p member
      rcases List.mem_append.mp member with old | found
      · exact Workspace.holdsSame same (before p old)
      · exact holds p found
    · cases ok
      exact before
  · cases ok
    exact before

end AccessorForge
