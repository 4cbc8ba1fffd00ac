import AccessorForge.Proofs.CheckAgreement
/-! The jobs that only read and log: loading settings and forests, listing an output directory, and every command
but a real run of the generator. -/
namespace AccessorForge
open Job Running
variable {α β : Type}

namespace Job

theorem calmMapM {f : α → Job β} (each : ∀ a, (f a).Calm) (xs : List α) : (xs.mapM f).Calm := by
  induction xs with
  | nil =>
    rw [List.mapM_nil]
    exact calmPure _
  | cons a rest ih =>
    rw [List.mapM_cons]
    exact calmBind (each a) fun _ => calmBind ih fun _ => calmPure _

theorem calmAttemptSettings {x : Job α} (calm : x.Calm) : (attemptSettings x).Calm := by
  intro w
  unfold attemptSettings
  rw [resultIn]
  cases ran : x.runIn w with
  | mk result v =>
    have same := notedIn calm ran
    cases result with
    | ok a => exact same
    | error f => cases f <;> exact same

theorem calmStop (f : Failure) (rest : α → Job β) : (throw f >>= rest : Job β).Calm := fun _ => ⟨[], rfl⟩

theorem calmModify (r : Log.Record) : (modify (Workspace.note r) : Job Unit).Calm := fun _ => ⟨[r], rfl⟩

end Job

namespace Forest

theorem calmCandidates (ps : Patterns) (root : Path) : Calm <| candidates? ps root := by
  refine calmBind (calmEntry root) fun e => ?_
  cases e with
  | none => exact calmPure _
  | some e =>
    cases e with
    | file bytes => exact calmPure _
    | directory => exact calmBind calmGet fun _ => calmBind (calmLocate root) fun _ => calmPure _

theorem calmFilesFrom (ps : Patterns) (found roots : List Path) : (filesFrom ps found roots).Calm := by
  induction roots generalizing found with
  | nil => exact calmPure _
  | cons root rest ih =>
    refine calmBind (calmCandidates ps root) fun candidates => ?_
    cases candidates with
    | none => exact calmBind (calmLog _ _ _) fun _ => ih _
    | some cs => exact calmBind calmGet fun _ => ih _

theorem calmAddFile (f : Forest) (p : Path) : (f.addFile p).Calm := by
  refine calmBind (calmAttemptRead (calmReadText p)) fun told => ?_
  cases told with
  | error message => exact calmBind (calmLog _ _ _) fun _ => calmPure _
  | ok text =>
    dsimp only
    split
    · exact calmBind (calmLog _ _ _) fun _ => calmPure _
    · refine calmBind (calmModuleName p) fun name => ?_
      split
      · exact calmPure _
      · exact calmBind (calmLog _ _ _) fun _ => calmPure _

theorem calmAddFiles (f : Forest) (ps : List Path) : (f.addFiles ps).Calm := by
  induction ps generalizing f with
  | nil => exact calmPure _
  | cons p rest ih => exact calmBind (calmAddFile f p) fun _ => ih _

theorem calmLoad (roots : List Path) (includes excludes : List String) : (load roots includes excludes).Calm :=
  calmBind (calmFilesFrom _ _ _) fun _ => calmBind (calmAddFiles _ _) fun _ => calmBind (calmLog _ _ _) fun _ =>
    calmPure _

end Forest

theorem calmKeepGenerated (ps : List Path) : (keepGenerated ps).Calm := by
  induction ps with
  | nil => exact calmPure _
  | cons p rest ih =>
    refine calmBind (calmAttemptRead (calmReadFirstLine p)) fun told => ?_
    cases told with
    | error message => exact calmBind (calmLog _ _ _) fun _ => ih
    | ok line =>
      dsimp only
      split
      · exact calmBind ih fun _ => calmPure _
      · exact ih

theorem calmGeneratedModules (directory : Path) : (generatedModulesIn directory).Calm :=
  calmBind (calmModulePaths directory) fun _ => calmKeepGenerated _

namespace Settings

theorem calmFirstFile (ps : List Path) : Calm <| firstFile? ps := by
  induction ps with
  | nil => exact calmPure _
  | cons p rest ih =>
    refine calmBind (calmIsFile p) fun there => ?_
    split
    · exact calmPure _
    · exact ih

theorem calmFind (start : Option Path) : Calm <| find? start :=
  calmBind calmGet fun _ => calmBind (calmResolve _) fun _ => calmFirstFile _

theorem calmReadFile (path : Path) : (readFile path).Calm := by
  refine calmBind (calmIsFile path) fun there => calmGuard (calmThrow _) fun _ => ?_
  refine calmBind (calmLog _ _ _) fun _ => calmBind (calmAttempt (calmReadText path)) fun tried => ?_
  cases tried with
  | error f => exact calmStop _ _
  | ok text =>
    refine calmBind (calmPure _) fun text => ?_
    dsimp only
    split
    · refine calmBind (calmPure _) fun v => calmBind calmGet fun w => ?_
      split
      · exact calmThrow _
      · exact calmBind (calmLog _ _ _) fun _ => calmPure _
    · exact calmStop _ _
    · exact calmStop _ _

def readFound (found : Option Path) : Job Settings := do
  match found with
  | some p => readFile p
  | none =>
    log Log.debug logger ("No " ++ fileName ++ " found, using defaults")
    return { root := ⟨"/", (← get).cwd⟩ }

theorem loadSteps (path : Option Path) (search : Bool) : load path search = (do
    let found ← match path with
      | some p => pure (some p)
      | none => if search then find? none else pure none
    readFound found) := rfl

theorem calmReadFound (found : Option Path) : (readFound found).Calm := by
  cases found with
  | some p => exact calmReadFile p
  | none => exact calmBind (calmLog _ _ _) fun _ => calmBind calmGet fun _ => calmPure _

theorem calmLoad (path : Option Path) (search : Bool) : (load path search).Calm := by
  rw [loadSteps]
  cases path with
  | some p => exact calmBind (calmPure _) calmReadFound
  | none =>
    cases search with
    | true => exact calmBind (calmFind _) calmReadFound
    | false => exact calmBind (calmPure _) calmReadFound

theorem calmSourcePaths (s : Settings) : s.sourcePaths.Calm := calmMapM (fun _ => calmResolve _) _

end Settings

namespace Request

theorem calmPrepare (r : Request) : r.prepare.Calm := by
  refine calmBind (Settings.calmLoad _ _) fun s => ?_
  dsimp only
  split
  · exact calmBind (Settings.calmSourcePaths s) fun _ => calmBind (Forest.calmLoad _ _ _) fun _ => calmPure _
  · exact calmBind (calmMapM calmResolve _) fun _ => calmBind (Forest.calmLoad _ _ _) fun _ => calmPure _

theorem calmObsoleteCandidates (r : Request) (f : Forest) (o : Output) : (r.obsoleteCandidates f o).Calm := by
  unfold obsoleteCandidates
  split
  · split
    · exact calmBind (calmGeneratedModules _) fun _ => calmPure _
    · exact calmPure _
  · exact calmPure _

end Request

/-! Passes. -/

/-- Calm as long as the output it works on is as `P` says, and it stays so. -/
def CalmFrom {σ : Type} (P : σ → Prop) (x : StateT σ Job α) : Prop :=
  ∀ o, P o → (x.run o).Calm ∧ ∀ w a p v, (x.run o).runIn w = (.ok (a, p), v) → P p

section
variable {σ : Type} {P : σ → Prop}

theorem calmFromPure (a : α) : CalmFrom P (pure a : StateT σ Job α) := by
  intro o fine
  refine ⟨calmPure _, ?_⟩
  intro w b p v ran
  cases ran
  exact fine

theorem calmFromBind {x : StateT σ Job α} {f : α → StateT σ Job β} (first : CalmFrom P x)
    (next : ∀ a, CalmFrom P (f a)) : CalmFrom P (x >>= f) := by
  intro o fine
  obtain ⟨calm, kept⟩ := first o fine
  rw [StateT.run_bind]
  refine ⟨calmBindOk calm fun w pair v ran => (next pair.1 pair.2 (kept w pair.1 pair.2 v ran)).1, ?_⟩
  intro w b p v ran
  obtain ⟨pair, u, ran, later⟩ := bindOk ran
  exact (next pair.1 pair.2 (kept w pair.1 pair.2 u ran)).2 u b p v later

theorem calmPass {add : GeneratedSource → StateT σ Job (Option String)} {log : Log.Record → StateT σ Job Unit}
    (adds : ∀ m, CalmFrom P (add m)) (logs : ∀ r, CalmFrom P (log r)) (options : PassOptions)
    (units : List SourceUnit) : CalmFrom P (runPass add log options units) := by
  have records (rs : List Log.Record) : CalmFrom P (rs.forM log) := by
    induction rs with
    | nil => exact calmFromPure _
    | cons r rest ih => exact calmFromBind (logs r) fun _ => ih
  have deliveries (ms : List GeneratedSource) (d : Delivery) : CalmFrom P (deliver add log d ms) := by
    induction ms generalizing d with
    | nil => exact calmFromPure _
    | cons m rest ih =>
      refine calmFromBind (adds m) fun outcome => ?_
      cases outcome with
      | none => exact ih _
      | some reason => exact calmFromBind (logs _) fun _ => ih _
  exact calmFromBind (records _) fun _ => calmFromBind (deliveries _ _) fun _ => calmFromBind (logs _) fun _ =>
    calmFromPure _

end

namespace Output

theorem calmUpdate (o : Output) (isDry : o.dryRun = true) (p : Path) (m : GeneratedSource) : (o.update p m).Calm := by
  intro w
  rw [updateProbes]
  cases probed : (probe p m.content).runIn w with
  | mk result v =>
    obtain ⟨rs, rfl⟩ := notedIn (calmProbe p m.content) probed
    cases result with
    | error f => exact ⟨rs, rfl⟩
    | ok current =>
      cases current with
      | true =>
        refine ⟨rs ++ [⟨Log.debug, logger, "Up to date: " ++ p.text⟩], ?_⟩
        exact Workspace.notedLast rs _ w
      | false =>
        dsimp only
        unfold change
        rw [if_pos isDry]
        exact ⟨rs, rfl⟩

theorem calmAdd (o : Output) (isDry : o.dryRun = true) (m : GeneratedSource) : (o.add m).Calm := by
  refine calmBind (calmResolve _) fun p => ?_
  refine calmBind (calmOutcome (calmUpdate (o.register p) isDry _ _)) fun result => ?_
  cases result with
  | ok o => exact calmPure _
  | error f => exact calmPure _

theorem calmDiskAdd (m : GeneratedSource) : CalmFrom (fun o : Output => o.dryRun = true) (diskAdd m) := by
  intro o isDry
  rw [diskAddRuns]
  refine ⟨?_, ?_⟩
  · refine calmBind (calmAdd o isDry m) fun pair => ?_
    obtain ⟨p, failure⟩ := pair
    cases failure with
    | none => exact calmPure _
    | some f =>
      cases f with
      | file f => exact calmPure _
      | _ => exact calmThrow _
  · intro w answer p v ran
    exact (handOverExtends ran).aims.2.1.trans isDry

theorem calmDiskLog (r : Log.Record) : CalmFrom (fun o : Output => o.dryRun = true) (diskLog r) := by
  intro o isDry
  refine ⟨calmBind (calmModify r) fun a => calmPure (a, o), ?_⟩
  intro w a p v ran
  obtain ⟨_, rfl⟩ := liftOk ran
  exact isDry

theorem calmDryPass (options : PassOptions) (units : List SourceUnit) {o : Output} (isDry : o.dryRun = true) :
    (passOnto o options units).Calm := (calmPass calmDiskAdd calmDiskLog options units o isDry).1

theorem dryPassed {options : PassOptions} {units : List SourceUnit} {o p : Output} {pass : PassResult}
    {w v : Workspace} (isDry : o.dryRun = true) (ran : (passOnto o options units).runIn w = (.ok (pass, p), v)) :
    p.dryRun = true := (calmPass calmDiskAdd calmDiskLog options units o isDry).2 w pass p v ran

theorem calmPrune (cs : List Path) {o : Output} (isDry : o.dryRun = true) (seen : List Path) :
    (o.pruneFrom seen cs).Calm := by
  induction cs generalizing o seen with
  | nil => exact calmPure _
  | cons c rest ih =>
    unfold pruneFrom
    cases c.firstFlaw? with
    | some flaw => exact calmPure _
    | none =>
      refine calmBind calmGet fun w => ?_
      dsimp only
      split
      · exact ih isDry seen
      · simp only [isDry]
        exact ih rfl _

end Output

/-! Commands. -/

theorem dryOutput {r : Request} {s : Settings} {o : Output} {w v : Workspace}
    (ran : (r.output s true).runIn w = (.ok o, v)) : o.dryRun = true := by
  rw [outputAimed] at ran
  obtain ⟨directory, u, _, last⟩ := bindOk ran
  cases last
  rfl

theorem calmDryStages {r : Request} {s : Settings} {forest : Forest} {next : PassResult × Output → Job α}
    (later : ∀ pass o, o.dryRun = true → (next (pass, o)).Calm) :
    (do
      let o ← r.output s true
      let pair ← passOnto o s.passOptions forest.units
      next pair).Calm := by
  refine calmBindOk (calmOutput r s true) fun w o v aimed => ?_
  have isDry := dryOutput aimed
  refine calmBindOk (Output.calmDryPass _ _ isDry) fun w pair v passed => ?_
  exact later pair.1 pair.2 (Output.dryPassed isDry passed)

theorem calmCheck (r : Request) : (check r).Calm := by
  refine calmBind (calmAttemptSettings r.calmPrepare) fun prepared => ?_
  cases prepared with
  | error message => exact calmPure _
  | ok pair =>
    obtain ⟨s, forest⟩ := pair
    refine calmDryStages fun pass o isDry => ?_
    refine calmBind (r.calmObsoleteCandidates forest o) fun cs => calmBind (Output.calmPrune cs isDry []) fun pruned => ?_
    obtain ⟨p, failure⟩ := pruned
    cases failure with
    | some f => exact calmThrow _
    | none => exact calmPure _

/-! Generating, from the pass on. -/

namespace Request

def tidy (r : Request) (f : Forest) (o : Output) : Job (Output × Option Failure) := do
  match ← attempt (r.obsoleteCandidates f o) with
  | .ok candidates => o.prune candidates
  | .error f => return (o, some (.file f))

end Request

def Generation.conclude (forest : Forest) (pass : PassResult) (pair : Output × Option Failure) : Job (Outcome Generation) := do
  match pair.2 with
  | some (.file f) => return .ok ⟨forest, pass, pair.1, some ("Cannot remove obsolete module: " ++ f.message)⟩
  | some f => throw f
  | none =>
    Job.log Log.info Generation.logger ("Generated " ++ toString pass.sources.length ++ " module(s): " ++
      toString pair.1.written.length ++ " written, " ++ toString pair.1.unchanged.length ++ " unchanged, " ++
      toString pair.1.removed.length ++ " removed")
    return .ok ⟨forest, pass, pair.1, none⟩

theorem generateSteps (r : Request) (dryRun : Bool) : generate r dryRun = (do
    match ← attemptSettings r.prepare with
    | .error message => return .error message
    | .ok (s, forest) =>
      let (pass, o) ← passOnto (← r.output s dryRun) s.passOptions forest.units
      Generation.conclude forest pass (← r.tidy forest o)) := by
  unfold generate Request.tidy Generation.conclude
  refine congrArg _ (funext fun prepared => ?_)
  cases prepared with
  | error message => rfl
  | ok pair =>
    obtain ⟨s, forest⟩ := pair
    dsimp only
    refine congrArg _ (funext fun o => ?_)
    refine congrArg _ (funext fun passed => ?_)
    obtain ⟨pass, o⟩ := passed
    dsimp only
    rw [bind_assoc]
    refine congrArg _ (funext fun tried => ?_)
    cases tried with
    | ok cs => rfl
    | error f => rfl

theorem calmConclude (forest : Forest) (pass : PassResult) (pair : Output × Option Failure) :
    (Generation.conclude forest pass pair).Calm := by
  unfold Generation.conclude
  split
  · exact calmPure _
  · exact calmThrow _
  · exact calmBind (calmLog _ _ _) fun _ => calmPure _

theorem calmDryTidy (r : Request) (forest : Forest) {o : Output} (isDry : o.dryRun = true) : (r.tidy forest o).Calm := by
  refine calmBind (calmAttempt (r.calmObsoleteCandidates forest o)) fun tried => ?_
  cases tried with
  | ok cs => exact Output.calmPrune cs isDry []
  | error f => exact calmPure _

theorem calmDryGenerate (r : Request) : (generate r true).Calm := by
  rw [generateSteps]
  refine calmBind (calmAttemptSettings r.calmPrepare) fun prepared => ?_
  cases prepared with
  | error message => exact calmPure _
  | ok pair =>
    obtain ⟨s, forest⟩ := pair
    exact calmDryStages fun pass o isDry => calmBind (calmDryTidy r forest isDry) fun pair => calmConclude forest pass pair

theorem calmInspect (r : Request) : (inspect r).Calm := by
  refine calmBind (calmAttemptSettings r.calmPrepare) fun prepared => ?_
  cases prepared with
  | error message => exact calmPure _
  | ok pair =>
    obtain ⟨s, forest⟩ := pair
    refine calmBind (calmPass (P := fun _ => True) ?_ ?_ _ _ [] trivial).1 fun _ => calmPure _
    · exact fun m o _ => ⟨calmPure _, fun _ _ _ _ _ => trivial⟩
    · exact fun r o _ => ⟨calmBind (calmModify r) fun a => calmPure (a, o), fun _ _ _ _ _ => trivial⟩

end AccessorForge
