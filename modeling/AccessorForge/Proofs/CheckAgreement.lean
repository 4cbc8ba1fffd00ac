import AccessorForge.Proofs.DryRuns
/-! Checking agrees with generating: a check is fine exactly when generating, from the same files, would end
without errors, write nothing and remove nothing. Modules may share a file. -/
namespace AccessorForge
open Job Running

namespace Output

/-! Removing what is obsolete. -/

/-- How pruning goes on from its first candidate. -/
inductive Pruned (o : Output) (seen : List Path) (c : Path) (rest : List Path) (w : Workspace) :
    Output → Option Failure → Workspace → Prop
  | flawed (flaw : Path.Flaw) (found : c.firstFlaw? = some flaw) : Pruned o seen c rest w o (some flaw.failure) w
  | known {p : Output} {failure : Option Failure} {v : Workspace} (whole : c.firstFlaw? = none)
      (met : o.registered.contains (c.absolute w.cwd) || seen.contains (c.absolute w.cwd))
      (later : (o.pruneFrom seen rest).runIn w = (.ok (p, failure), v)) : Pruned o seen c rest w p failure v
  | noted {p : Output} {failure : Option Failure} {v : Workspace} (whole : c.firstFlaw? = none)
      (fresh : ¬ (o.registered.contains (c.absolute w.cwd) || seen.contains (c.absolute w.cwd)))
      (isDry : o.dryRun = true)
      (later : ({ o with obsolete := o.obsolete ++ [c] }.pruneFrom (c.absolute w.cwd :: seen) rest).runIn w =
        (.ok (p, failure), v)) : Pruned o seen c rest w p failure v
  | removed {p : Output} {failure : Option Failure} {u v : Workspace} (whole : c.firstFlaw? = none)
      (fresh : ¬ (o.registered.contains (c.absolute w.cwd) || seen.contains (c.absolute w.cwd)))
      (isReal : o.dryRun = false) (gone : (removeFile c).runIn w = (.ok (), u))
      (later : ({ o with removed := o.removed ++ [c] }.pruneFrom (c.absolute w.cwd :: seen) rest).runIn
        (u.note ⟨Log.info, logger, "Removed obsolete " ++ c.text⟩) = (.ok (p, failure), v)) :
    Pruned o seen c rest w p failure v
  | missed {p : Output} {failure : Option Failure} {u v : Workspace} (whole : c.firstFlaw? = none)
      (fresh : ¬ (o.registered.contains (c.absolute w.cwd) || seen.contains (c.absolute w.cwd)))
      (isReal : o.dryRun = false) (f : FileFault) (failed : (removeFile c).runIn w = (.error (.file f), u))
      (missing : f.obstacle = .missing)
      (later : (o.pruneFrom (c.absolute w.cwd :: seen) rest).runIn u = (.ok (p, failure), v)) :
    Pruned o seen c rest w p failure v
  | stuck {u : Workspace} (whole : c.firstFlaw? = none)
      (fresh : ¬ (o.registered.contains (c.absolute w.cwd) || seen.contains (c.absolute w.cwd)))
      (isReal : o.dryRun = false) (f : FileFault) (failed : (removeFile c).runIn w = (.error (.file f), u))
      (other : f.obstacle ≠ .missing) : Pruned o seen c rest w o (some (.file f)) u

theorem attemptOk {α : Type} {x : Job α} {w v : Workspace} {tried : Except FileFault α}
    (ok : (attempt x).runIn w = (.ok tried, v)) :
    (∃ a, tried = .ok a ∧ x.runIn w = (.ok a, v)) ∨ ∃ f, tried = .error f ∧ x.runIn w = (.error (.file f), v) := by
  rw [attemptIn] at ok
  cases ran : x.runIn w with
  | mk result u =>
    rw [ran] at ok
    cases result with
    | ok a =>
      cases ok
      exact .inl ⟨a, rfl, rfl⟩
    | error f =>
      cases f with
      | file f =>
        cases ok
        exact .inr ⟨f, rfl, rfl⟩
      | _ => cases ok

theorem pruneStep {o p : Output} {seen rest : List Path} {c : Path} {w v : Workspace} {failure : Option Failure}
    (ok : (o.pruneFrom seen (c :: rest)).runIn w = (.ok (p, failure), v)) : Pruned o seen c rest w p failure v := by
  unfold pruneFrom at ok
  cases whole : c.firstFlaw? with
  | some flaw =>
    rw [whole] at ok
    cases ok
    exact .flawed flaw whole
  | none =>
    rw [whole] at ok
    obtain ⟨_, _, got, ok⟩ := bindOk ok
    cases got
    dsimp only at ok
    by_cases met : o.registered.contains (c.absolute w.cwd) || seen.contains (c.absolute w.cwd)
    · rw [if_pos met] at ok
      exact .known whole met ok
    · rw [if_neg met] at ok
      cases isDry : o.dryRun with
      | true =>
        rw [isDry, if_pos rfl] at ok
        exact .noted whole met isDry (isDry ▸ ok)
      | false =>
        rw [isDry, if_neg (by simp)] at ok
        obtain ⟨tried, u, attempted, last⟩ := bindOk ok
        rcases attemptOk attempted with ⟨_, rfl, gone⟩ | ⟨f, rfl, failed⟩
        · obtain ⟨_, _, logged, later⟩ := bindOk last
          cases logged
          exact .removed whole met isDry gone (isDry ▸ later)
        · dsimp only at last
          split at last
          · rename_i missing
            exact .missed whole met isDry f failed missing last
          · rename_i other
            cases last
            exact .stuck whole met isDry f failed other

theorem pruneExtends {cs : List Path} {o p : Output} {seen : List Path} {w v : Workspace} {failure : Option Failure}
    (ok : (o.pruneFrom seen cs).runIn w = (.ok (p, failure), v)) : o.Extends p := by
  induction cs generalizing o seen w with
  | nil =>
    cases ok
    exact .refl _
  | cons c rest ih =>
    cases pruneStep ok with
    | flawed flaw found => exact .refl _
    | stuck whole fresh isReal f failed other => exact .refl _
    | known whole met later => exact ih later
    | missed whole fresh isReal f failed missing later => exact ih later
    | noted whole fresh isDry later =>
      have more : o.Extends { o with obsolete := o.obsolete ++ [c] } :=
        { Extends.refl o with obsolete := List.prefix_append _ _ }
      exact more.trans (ih later)
    | removed whole fresh isReal gone later =>
      have more : o.Extends { o with removed := o.removed ++ [c] } :=
        { Extends.refl o with removed := List.prefix_append _ _ }
      exact more.trans (ih later)

theorem removeFinds {c : Path} {w u : Workspace} {f : FileFault} (held : w.Holds c)
    (failed : (removeFile c).runIn w = (.error (.file f), u)) : f.obstacle ≠ .missing := by
  obtain ⟨s, bytes, located, file⟩ := held
  have found : (locate c).runIn w = (.ok s, w) := by
    unfold locate
    rw [bindOf (getIn w)]
    simp only [located]
    rfl
  unfold removeFile refuseFlawed at failed
  cases whole : c.flaw? with
  | some flaw =>
    rw [whole] at failed
    cases flaw <;> cases failed
  | none =>
    have passed : (orFlawed none).runIn w = (.ok (), w) := rfl
    rw [whole, bindOf passed, bindOf (getIn w)] at failed
    dsimp only at failed
    split at failed
    · cases failed
      simp
    · rw [bindOf found, bindOf (getIn w)] at failed
      simp only [file] at failed
      cases failed

theorem pruneAgree {cs : List Path} {o p q : Output} {seen : List Path} {w u v : Workspace}
    {failure : Option Failure} (isReal : o.dryRun = false) (held : ∀ c ∈ cs, w.Holds c)
    (ranReal : (o.pruneFrom seen cs).runIn w = (.ok (p, failure), u))
    (ranDry : (o.dry.pruneFrom seen cs).runIn w = (.ok (q, none), v)) :
    (p = o ∧ failure = none ∧ q = o.dry) ∨ ((p.removed ≠ [] ∨ failure ≠ none) ∧ q.obsolete ≠ []) := by
  -- The outputs and the workspace stay as they are until a candidate is met that was not seen before.
  induction cs generalizing seen with
  | nil =>
    cases ranReal
    cases ranDry
    exact .inl ⟨rfl, rfl, rfl⟩
  | cons c rest ih =>
    have others : ∀ d ∈ rest, w.Holds d := fun d member => held d (List.mem_cons_of_mem _ member)
    cases pruneStep ranDry with
    | removed whole fresh isReal gone later => cases isReal
    | missed whole fresh isReal f failed missing later => cases isReal
    | known whole met later =>
      cases pruneStep ranReal with
      | flawed flaw found => cases whole.symm.trans found
      | known whole' met' later' => exact ih others later' later
      | noted whole' fresh isDry later' => exact absurd met fresh
      | removed whole' fresh isReal gone later' => exact absurd met fresh
      | missed whole' fresh isReal f failed missing later' => exact absurd met fresh
      | stuck whole' fresh isReal f failed other => exact absurd met fresh
    | noted whole fresh isDry later =>
      have kept := keptNonempty (pruneExtends later).obsolete (by simp)
      cases pruneStep ranReal with
      | flawed flaw found => cases whole.symm.trans found
      | known whole' met later' => exact absurd met fresh
      | noted whole' fresh' isDry later' => cases isReal.symm.trans isDry
      | missed whole' fresh' isReal f failed missing later' =>
        -- What is listed stood there, so the real run cannot find it gone without a word.
        exact absurd missing (removeFinds (held c List.mem_cons_self) failed)
      | stuck whole' fresh' isReal f failed other => exact .inr ⟨.inr (by simp), kept⟩
      | removed whole' fresh' isReal gone later' =>
        exact .inr ⟨.inl (keptNonempty (pruneExtends later').removed (by simp)), kept⟩

end Output

/-! The commands. -/

/-- The modules that a request comes to, and where they go. -/
def Request.handed (r : Request) : Job (List GeneratedSource × Output) := do
  let (s, forest) ← r.prepare
  let o ← r.output s false
  return ((Analysis.ofUnits s.warningsAsErrors forest.units).sources s.passOptions, o)

/-- Of every module's place it can be told whether a file stands there. -/
def Request.Answered (r : Request) (w : Workspace) : Prop :=
  ∀ ms o v, r.handed.runIn w = (.ok (ms, o), v) → ∀ m ∈ ms, v.Answers (o.target m)

def Request.isAnswered (r : Request) (w : Workspace) : Bool :=
  match r.handed.runIn w with
  | (.ok (ms, o), v) => ms.all fun m => (v.tree.entry? v.cwd (o.target m)).isOk
  | _ => true

theorem answeredIf {r : Request} {w : Workspace} (checked : r.isAnswered w = true) : r.Answered w := by
  intro ms o v ran m member
  unfold Request.isAnswered at checked
  rw [ran] at checked
  have told := List.all_eq_true.mp checked m member
  cases found : v.tree.entry? v.cwd (o.target m) with
  | ok e => exact ⟨e, found⟩
  | error obstacle => simp [found, Except.isOk, Except.toBool] at told

/-- Nothing written and nothing removed, as far as generating got. -/
def Generation.ChangedNothing : Outcome Generation → Prop
  | .error _ => True
  | .ok g => g.output.written = [] ∧ g.output.removed = []

/-- The directory that modules go to, if they do not stay beside their sources. -/
def Request.aim (r : Request) (s : Settings) : Job (Option Path) :=
  match r.outputDir with
  | some d => do return some (← resolve d)
  | none => s.outputPath

theorem outputAimed (r : Request) (s : Settings) (dryRun : Bool) :
    r.output s dryRun = do return { directory := ← r.aim s, dryRun, fallback := s.root } := by
  unfold Request.output Request.aim
  cases r.outputDir with
  | some d => simp only [bind_assoc, pure_bind]
  | none => rfl

theorem outputDry {r : Request} {s : Settings} {o p : Output} {w u v : Workspace}
    (ranReal : (r.output s false).runIn w = (.ok o, u)) (ranDry : (r.output s true).runIn w = (.ok p, v)) :
    p = o.dry ∧ v = u ∧ o.dryRun = false ∧ o.written = [] ∧ o.pending = [] ∧ o.removed = [] ∧ o.obsolete = [] := by
  rw [outputAimed] at ranReal ranDry
  obtain ⟨directory, x, aimed, last⟩ := bindOk ranReal
  obtain ⟨directory', x', aimed', last'⟩ := bindOk ranDry
  cases aimed.symm.trans aimed'
  cases last
  cases last'
  exact ⟨rfl, rfl, rfl, rfl, rfl, rfl, rfl⟩

theorem calmAim (r : Request) (s : Settings) : (r.aim s).Calm := by
  unfold Request.aim
  split
  · exact calmBind (calmResolve _) fun _ => calmPure _
  · unfold Settings.outputPath
    split
    · exact calmPure _
    · exact calmBind (calmResolve _) fun _ => calmPure _

theorem calmOutput (r : Request) (s : Settings) (dryRun : Bool) : (r.output s dryRun).Calm := by
  rw [outputAimed]
  exact calmBind (calmAim r s) fun _ => calmPure _

theorem attemptSettingsOk {α : Type} {x : Job α} {w v : Workspace} {a : α}
    (ok : (attemptSettings x).runIn w = (.ok (.ok a), v)) : x.runIn w = (.ok a, v) := by
  unfold attemptSettings at ok
  rw [resultIn] at ok
  cases ran : x.runIn w with
  | mk result u =>
    rw [ran] at ok
    cases result with
    | ok b =>
      cases ok
      rfl
    | error f => cases f <;> cases ok

inductive CheckRun (r : Request) (w : Workspace) : Outcome Check → Prop
  | unsettled (message : String) (v : Workspace)
      (failed : (attemptSettings r.prepare).runIn w = (.ok (.error message), v)) : CheckRun r w (.error message)
  | whole {s : Settings} {forest : Forest} {o q q' : Output} {pass : PassResult} {cs : List Path}
      {u v x y z : Workspace} (ready : (attemptSettings r.prepare).runIn w = (.ok (.ok (s, forest)), u))
      (aimed : (r.output s true).runIn u = (.ok o, v))
      (passed : (passOnto o s.passOptions forest.units).runIn v = (.ok (pass, q), x))
      (listed : (r.obsoleteCandidates forest q).runIn x = (.ok cs, y))
      (pruned : (q.prune cs).runIn y = (.ok (q', none), z)) :
    CheckRun r w (.ok ⟨pass, q'.pending ++ q'.obsolete, forest.errors⟩)

theorem checkRun {r : Request} {w wc : Workspace} {c : Outcome Check} (ran : (check r).runIn w = (.ok c, wc)) :
    CheckRun r w c := by
  obtain ⟨prepared, u, ready, ran⟩ := bindOk ran
  cases prepared with
  | error message =>
    cases ran
    exact .unsettled message _ ready
  | ok pair =>
    obtain ⟨s, forest⟩ := pair
    obtain ⟨o, v, aimed, ran⟩ := bindOk ran
    obtain ⟨⟨pass, q⟩, x, passed, ran⟩ := bindOk ran
    obtain ⟨cs, y, listed, ran⟩ := bindOk ran
    obtain ⟨⟨q', failure⟩, z, pruned, ran⟩ := bindOk ran
    cases failure with
    | some f => cases ran
    | none =>
      cases ran
      exact .whole ready aimed passed listed pruned

inductive GenerateRun (r : Request) (w : Workspace) : Outcome Generation → Prop
  | unsettled (message : String) (v : Workspace)
      (failed : (attemptSettings r.prepare).runIn w = (.ok (.error message), v)) : GenerateRun r w (.error message)
  | whole {s : Settings} {forest : Forest} {o p p' : Output} {pass : PassResult} {failure : Option Failure}
      {error : Option String} {u v x : Workspace}
      (ready : (attemptSettings r.prepare).runIn w = (.ok (.ok (s, forest)), u))
      (aimed : (r.output s false).runIn u = (.ok o, v))
      (passed : (passOnto o s.passOptions forest.units).runIn v = (.ok (pass, p), x))
      (pruned : ∀ cs y, (r.obsoleteCandidates forest p).runIn x = (.ok cs, y) →
        ∃ z, (p.prune cs).runIn y = (.ok (p', failure), z))
      (more : p.Extends p') (told : error = none ↔ failure = none) :
    GenerateRun r w (.ok ⟨forest, pass, p', error⟩)

theorem unlistedTold (f : FileFault) :
    some ("Cannot remove obsolete module: " ++ f.message) = none ↔ some (Failure.file f) = none := by simp

theorem generateRun {r : Request} {w wg : Workspace} {g : Outcome Generation}
    (ran : (generate r false).runIn w = (.ok g, wg)) : GenerateRun r w g := by
  obtain ⟨prepared, u, ready, ran⟩ := bindOk ran
  cases prepared with
  | error message =>
    cases ran
    exact .unsettled message _ ready
  | ok pair =>
    obtain ⟨s, forest⟩ := pair
    obtain ⟨o, v, aimed, ran⟩ := bindOk ran
    obtain ⟨⟨pass, p⟩, x, passed, ran⟩ := bindOk ran
    obtain ⟨tried, y, attempted, ran⟩ := bindOk ran
    rcases Output.attemptOk attempted with ⟨cs, rfl, listed⟩ | ⟨f, rfl, unlisted⟩
    · obtain ⟨⟨p', failure⟩, z, pruned, ran⟩ := bindOk ran
      have again : ∀ cs' y', (r.obsoleteCandidates forest p).runIn x = (.ok cs', y') →
          ∃ z, (p.prune cs').runIn y' = (.ok (p', failure), z) := by
        intro cs' y' listed'
        cases listed.symm.trans listed'
        exact ⟨z, pruned⟩
      cases failure with
      | none =>
        obtain ⟨_, _, _, done⟩ := bindOk ran
        cases done
        exact .whole ready aimed passed again (Output.pruneExtends pruned) (by simp)
      | some f =>
        cases f with
        | file f =>
          cases ran
          exact .whole ready aimed passed again (Output.pruneExtends pruned) (by simp)
        | _ => cases ran
    · obtain ⟨⟨p', failure⟩, z, kept, ran⟩ := bindOk ran
      cases kept
      cases ran
      refine .whole ready aimed passed ?_ (.refl _) (unlistedTold f)
      intro cs' y' listed'
      cases unlisted.symm.trans listed'

theorem fineCheck {pass : PassResult} {o : Output} {errors : List String} :
    Check.isOk (.ok ⟨pass, o.pending ++ o.obsolete, errors⟩) = true ↔
      (o.pending = [] ∧ o.obsolete = []) ∧ pass.errorCount = 0 := by
  simp [Check.isOk]

theorem fineGeneration {forest : Forest} {pass : PassResult} {o : Output} {error : Option String} :
    Generation.hasErrors (.ok ⟨forest, pass, o, error⟩) = false ↔
      error = none ∧ pass.errorCount = 0 ∧ pass.writeErrors = [] := by
  simp [Generation.hasErrors, and_assoc]

/-- A check tells what generating would do, if neither command fails and the files can be asked for. -/
theorem checkAgrees (r : Request) (w wc wg : Workspace) (c : Outcome Check) (g : Outcome Generation)
    (checked : (check r).runIn w = (.ok c, wc)) (generated : (generate r false).runIn w = (.ok g, wg))
    (answered : r.Answered w) :
    Check.isOk c = true ↔ Generation.hasErrors g = false ∧ Generation.ChangedNothing g := by
  cases checkRun checked with
  | unsettled message v failed =>
    cases generateRun generated with
    | unsettled message' v' failed' => simp [Check.isOk, Generation.hasErrors]
    | whole ready aimed passed pruned more told => cases failed.symm.trans ready
  | @whole s forest od q q' dry cs u v x' y z ready aimed passed listed pruned =>
    cases generateRun generated with
    | unsettled message' v' failed' => cases ready.symm.trans failed'
    | @whole s' forest' o p p' real failure error u' v' x ready' aimed' passed' pruned' more told =>
      cases ready.symm.trans ready'
      obtain ⟨rfl, rfl, isReal, noWritten, noPending, noRemoved, noObsolete⟩ := outputDry aimed' aimed
      have prepared := attemptSettingsOk ready
      have answers := answered _ o v (by
        unfold Request.handed
        rw [bindOf prepared]
        dsimp only
        rw [bindOf aimed']
        rfl)
      obtain ⟨agree, errors⟩ := Output.passAgree isReal answers passed' passed
      rw [fineCheck, fineGeneration, errors]
      cases agree with
      | loud shown noted =>
        have pending := Output.keptNonempty (Output.pruneExtends pruned).pending noted
        constructor
        · rintro ⟨⟨none, _⟩, _⟩
          exact absurd none pending
        · rintro ⟨⟨_, _, accepted⟩, unwritten, _⟩
          rcases shown with wrote | refused
          · exact absurd unwritten (Output.keptNonempty more.written wrote)
          · exact absurd accepted refused
      | quiet shape fine same =>
        have standing : ∀ c ∈ cs, y.Holds c := by
          refine candidatesHold (fun c member => ?_) listed
          have before := Workspace.holdsSame (calmIn (calmOutput r s false) aimed') (prepareHolds prepared c member)
          exact Workspace.holdsSame shape before
        obtain ⟨z', ranReal⟩ := pruned' cs y listed
        have settled : dry.writeErrors = [] := by simpa using fine
        rcases Output.pruneAgree (same.aims.2.1.trans isReal) standing ranReal pruned with
          ⟨rfl, rfl, rfl⟩ | ⟨shown, noted⟩
        · have untouched : p'.written = [] ∧ p'.pending = [] ∧ p'.removed = [] ∧ p'.obsolete = [] :=
            ⟨same.written.trans noWritten, same.pending.trans noPending, same.removed.trans noRemoved,
              same.obsolete.trans noObsolete⟩
          simp [Generation.ChangedNothing, Output.dry, told, settled, untouched]
        · constructor
          · rintro ⟨⟨_, none⟩, _⟩
            exact absurd none noted
          · rintro ⟨⟨none, _, _⟩, _, unremoved⟩
            rcases shown with removed | failed
            · exact absurd unremoved removed
            · exact absurd (told.mp none) failed

/-- A class whose module has nowhere to go, for its directory is a file, and a module whose class is gone. -/
def blocked : Workspace :=
  let encoded (text : String) : List UInt8 := Text.Utf8.encode text.toList
  { tree := [
      (["a.py"], .file (encoded "@require_component_getter(B, \"b\")\nclass A: pass\n")),
      (["b_getters.py"], .file (encoded (generatedMarker ++ "\n")))] }

def intoFile : Request := { paths := [⟨"/", ["a.py"]⟩, ⟨"/", ["b_getters.py"]⟩], outputDir := some ⟨"/", ["a.py"]⟩ }

theorem checkAgreesBlocked : ∃ c wc g wg,
    (check intoFile).runIn blocked = (.ok c, wc) ∧ (generate intoFile false).runIn blocked = (.ok g, wg) ∧
      intoFile.Answered blocked ∧ Check.isOk c = false ∧
      (Check.isOk c = true ↔ Generation.hasErrors g = false ∧ Generation.ChangedNothing g) := by
  have checks : ((check intoFile).runIn blocked).1.toOption.map Check.isOk = some false := by decide +kernel
  have generates : ((generate intoFile false).runIn blocked).1.toOption.isSome = true := by decide +kernel
  have answered : intoFile.Answered blocked := answeredIf (by decide +kernel)
  cases checked : (check intoFile).runIn blocked with
  | mk result wc =>
    cases generated : (generate intoFile false).runIn blocked with
    | mk outcome wg =>
      rw [checked] at checks
      rw [generated] at generates
      cases result with
      | error f => cases checks
      | ok c =>
        cases outcome with
        | error f => cases generates
        | ok g =>
          exact ⟨c, wc, g, wg, rfl, rfl, answered, Option.some.inj checks,
            checkAgrees intoFile blocked wc wg c g checked generated answered⟩

end AccessorForge
