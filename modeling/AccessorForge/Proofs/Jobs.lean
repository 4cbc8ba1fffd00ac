import AccessorForge.Forest
import AccessorForge.Proofs.Running
/-! Jobs as functions of the workspace they start in, and the jobs that are calm: they read and they log, and
do nothing else. A line that is logged may make the log file longer. -/
namespace AccessorForge
open Running
variable {α β : Type}

namespace Job

theorem orFlawedOk {f : Option Path.Flaw} {w v : Workspace} (ok : (orFlawed f).runIn w = (.ok (), v)) :
    f = none ∧ v = w := by
  cases f with
  | none =>
    cases ok
    exact ⟨rfl, rfl⟩
  | some f => cases ok

theorem locateOk {p : Path} {s : Spot} {w v : Workspace} (ok : (locate p).runIn w = (.ok s, v)) :
    w.tree.locate w.cwd p = .ok s ∧ v = w := by
  unfold locate at ok
  obtain ⟨_, _, got, ok⟩ := bindOk ok
  cases got
  split at ok
  · rename_i spot found
    cases ok
    exact ⟨found, rfl⟩
  · cases ok

theorem outcomeIn (x : Job α) (w : Workspace) :
    (outcome x).runIn w = (.ok (x.runIn w).1, (x.runIn w).2) := rfl

theorem attemptIn (x : Job α) (w : Workspace) : (attempt x).runIn w =
    match x.runIn w with
    | (.ok a, v) => (.ok (.ok a), v)
    | (.error (.file f), v) => (.ok (.error f), v)
    | (.error f, v) => (.error f, v) := by
  unfold attempt
  rw [resultIn]
  cases x.runIn w with
  | mk result v =>
    cases result with
    | ok a => rfl
    | error f => cases f <;> rfl

theorem attemptReadIn (x : Job α) (w : Workspace) : (attemptRead x).runIn w =
    match x.runIn w with
    | (.ok a, v) => (.ok (.ok a), v)
    | (.error (.file f), v) => (.ok (.error f.message), v)
    | (.error (.undecodable f), v) => (.ok (.error f.message), v)
    | (.error f, v) => (.error f, v) := by
  unfold attemptRead
  rw [resultIn]
  cases x.runIn w with
  | mk result v =>
    cases result with
    | ok a => rfl
    | error f => cases f <;> rfl

end Job

/-! The shape of a workspace. -/

/-- Files and directories stand where they stood; what is in the files does not matter. -/
structure Workspace.SameShape (w v : Workspace) : Prop where
  cwd : v.cwd = w.cwd
  kinds : ∀ s, (v.tree.get? s).map Entry.isFile = (w.tree.get? s).map Entry.isFile

namespace Workspace

theorem SameShape.refl (w : Workspace) : w.SameShape w := ⟨rfl, fun _ => rfl⟩

theorem SameShape.symm {w v : Workspace} (same : w.SameShape v) : v.SameShape w :=
  ⟨same.cwd.symm, fun s => (same.kinds s).symm⟩

theorem SameShape.trans {u v w : Workspace} (earlier : u.SameShape v) (later : v.SameShape w) : u.SameShape w :=
  ⟨later.cwd.trans earlier.cwd, fun s => (later.kinds s).trans (earlier.kinds s)⟩

theorem noteShape (r : Log.Record) (w : Workspace) : w.SameShape (w.note r) := by
  unfold note
  dsimp only
  split
  · exact ⟨rfl, fun _ => rfl⟩
  · rename_i spot _
    split
    · rename_i bytes file
      split
      · exact ⟨rfl, fun _ => rfl⟩
      · have below : spot ≠ [] := by
          rintro rfl
          cases file
        refine ⟨rfl, fun s => ?_⟩
        by_cases same : s = spot
        · rw [same, FileTree.get?_put_self _ _ below, file]
          rfl
        · rw [FileTree.get?_put_of_ne _ _ same]
    · exact ⟨rfl, fun _ => rfl⟩

def noted (rs : List Log.Record) (w : Workspace) : Workspace := rs.foldl (fun w r => w.note r) w

theorem notedShape (rs : List Log.Record) (w : Workspace) : w.SameShape (w.noted rs) := by
  induction rs generalizing w with
  | nil => exact .refl w
  | cons r rest ih => exact (noteShape r w).trans (ih (w.note r))

theorem notedTwice (rs later : List Log.Record) (w : Workspace) :
    w.noted (rs ++ later) = (w.noted rs).noted later := List.foldl_append ..

theorem notedLast (rs : List Log.Record) (r : Log.Record) (w : Workspace) :
    (w.noted rs).note r = w.noted (rs ++ [r]) := (notedTwice rs [r] w).symm

theorem walkSame {w v : Workspace} (same : w.SameShape v) (here : Spot) (names : List String) :
    v.tree.walk here names = w.tree.walk here names := by
  induction names generalizing here with
  | nil => rfl
  | cons name rest ih =>
    have kind := same.kinds (here ++ [name])
    unfold FileTree.walk
    simp only [ih]
    cases now : v.tree.get? (here ++ [name]) with
    | none =>
      cases before : w.tree.get? (here ++ [name]) with
      | none => rfl
      | some e => simp [now, before] at kind
    | some d =>
      cases before : w.tree.get? (here ++ [name]) with
      | none => simp [now, before] at kind
      | some e => cases d <;> cases e <;> simp_all [Entry.isFile]

theorem locateSame {w v : Workspace} (same : w.SameShape v) (p : Path) :
    v.tree.locate v.cwd p = w.tree.locate w.cwd p := by
  unfold FileTree.locate
  rw [same.cwd, walkSame same]

def Holds (w : Workspace) (p : Path) : Prop :=
  ∃ s bytes, w.tree.locate w.cwd p = .ok s ∧ w.tree.get? s = some (.file bytes)

theorem holdsSame {w v : Workspace} (same : w.SameShape v) {p : Path} (held : w.Holds p) : v.Holds p := by
  obtain ⟨s, bytes, located, file⟩ := held
  have kind := same.kinds s
  rw [file] at kind
  cases now : v.tree.get? s with
  | none => simp [now] at kind
  | some e =>
    cases e with
    | directory => simp [now, Entry.isFile] at kind
    | file bytes => exact ⟨s, bytes, (locateSame same p).trans located, now⟩

/-- Whether a path leads to a file can be told. -/
def Answers (w : Workspace) (p : Path) : Prop := ∃ e, w.tree.entry? w.cwd p = .ok e

theorem answersSame {w v : Workspace} (same : w.SameShape v) {p : Path} (answered : w.Answers p) :
    v.Answers p := by
  unfold Answers FileTree.entry? at answered ⊢
  split
  · exact ⟨none, rfl⟩
  · rename_i whole
    rw [if_neg whole] at answered
    unfold FileTree.entry at answered ⊢
    rw [locateSame same]
    cases located : w.tree.locate w.cwd p with
    | error o =>
      rw [located] at answered
      exact answered
    | ok s =>
      cases now : v.tree.get? s with
      | none => exact ⟨none, by simp only [bind, Except.bind, now]; rfl⟩
      | some e => exact ⟨some e, by simp only [bind, Except.bind, now]; rfl⟩

end Workspace

/-! Calm jobs. -/

namespace Job

def Calm (x : Job α) : Prop := ∀ w : Workspace, ∃ rs, (x.runIn w).2 = w.noted rs

theorem notedIn {x : Job α} (calm : x.Calm) {w v : Workspace} {result : Except Failure α}
    (ran : x.runIn w = (result, v)) : ∃ rs, v = w.noted rs := by
  have same := calm w
  rwa [ran] at same

theorem calmIn {x : Job α} (calm : x.Calm) {w v : Workspace} {result : Except Failure α}
    (ran : x.runIn w = (result, v)) : w.SameShape v := by
  obtain ⟨rs, rfl⟩ := notedIn calm ran
  exact Workspace.notedShape rs w

theorem calmPure (a : α) : (pure a : Job α).Calm := fun _ => ⟨[], rfl⟩

theorem calmThrow (f : Failure) : (throw f : Job α).Calm := fun _ => ⟨[], rfl⟩

theorem calmGet : (get : Job Workspace).Calm := fun _ => ⟨[], rfl⟩

theorem calmLog (level : Nat) (logger message : String) : (log level logger message).Calm :=
  fun _ => ⟨[_], rfl⟩

theorem calmBindOk {x : Job α} {f : α → Job β} (first : x.Calm)
    (next : ∀ w a v, x.runIn w = (.ok a, v) → (f a).Calm) : (x >>= f).Calm := by
  intro w
  rw [bindIn]
  cases ran : x.runIn w with
  | mk result v =>
    obtain ⟨rs, rfl⟩ := notedIn first ran
    cases result with
    | error e => exact ⟨rs, rfl⟩
    | ok a =>
      obtain ⟨later, same⟩ := next w a _ ran (w.noted rs)
      exact ⟨rs ++ later, same.trans (Workspace.notedTwice rs later w).symm⟩

theorem calmBind {x : Job α} {f : α → Job β} (first : x.Calm) (next : ∀ a, (f a).Calm) : (x >>= f).Calm :=
  calmBindOk first fun _ a _ _ => next a

theorem calmOutcome {x : Job α} (calm : x.Calm) : (outcome x).Calm := calm

theorem calmAttempt {x : Job α} (calm : x.Calm) : (attempt x).Calm := by
  intro w
  rw [attemptIn]
  cases ran : x.runIn w with
  | mk result v =>
    have same := notedIn calm ran
    cases result with
    | ok a => exact same
    | error f => cases f <;> exact same

theorem calmAttemptRead {x : Job α} (calm : x.Calm) : (attemptRead x).Calm := by
  intro w
  rw [attemptReadIn]
  cases ran : x.runIn w with
  | mk result v =>
    have same := notedIn calm ran
    cases result with
    | ok a => exact same
    | error f => cases f <;> exact same

theorem calmOrFlawed (f : Option Path.Flaw) : (orFlawed f).Calm := by
  cases f with
  | none => exact calmPure ()
  | some f => exact calmThrow _

theorem calmResolve (p : Path) : (resolve p).Calm :=
  calmBind (calmOrFlawed _) fun _ => calmBind calmGet fun _ => calmPure _

theorem calmGuard {c : Prop} [Decidable c] {stop : Job PUnit} {rest : PUnit → Job α} (stopped : stop.Calm)
    (next : ∀ u, (rest u).Calm) : (if c then stop >>= rest else rest ⟨⟩).Calm := by
  split
  · exact calmBind stopped next
  · exact next _

theorem calmObstruct (o : Obstacle) (p : Path) : (obstruct o p : Job α).Calm := calmThrow _

theorem calmLocate (p : Path) : (locate p).Calm := by
  refine calmBind calmGet fun w => ?_
  split
  · exact calmPure _
  · exact calmObstruct _ p

theorem calmEntry (p : Path) : Calm <| entry? p := by
  refine calmBind calmGet fun w => ?_
  split
  · exact calmPure _
  · exact calmObstruct _ p

theorem calmIsFile (p : Path) : (isFile p).Calm := calmBind (calmEntry p) fun _ => calmPure _

theorem calmIsDirectory (p : Path) : (isDirectory p).Calm := calmBind (calmEntry p) fun _ => calmPure _

end Job

end AccessorForge
