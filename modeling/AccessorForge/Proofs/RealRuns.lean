import AccessorForge.Proofs.Scans
import AccessorForge.Proofs.Writing
/-! A real run, stage by stage. Its pass changes the files of its targets only, and pruning takes away what was
not registered. -/
namespace AccessorForge
open Job Running
variable {w v : Workspace}

namespace Output

theorem writeOk {o o' : Output} {p : Path} {m : GeneratedSource} (ran : (o.write p m).runIn w = (.ok o', v)) :
    o' = { o with written := o.written ++ [p] } ∧
      ∃ u r, (writeAtomically p m.content).runIn w = (.ok (), u) ∧ v = u.note r := by
  obtain ⟨tried, u, attempted, rest⟩ := bindOk ran
  rcases attemptOk attempted with ⟨_, rfl, wrote⟩ | ⟨f, rfl, failed⟩
  · obtain ⟨_, _, logged, last⟩ := bindOk rest
    cases logged
    cases last
    exact ⟨rfl, u, _, wrote, rfl⟩
  · obtain ⟨_, _, _, thrown⟩ := bindOk rest
    cases thrown

theorem writeFails {o : Output} {p : Path} {m : GeneratedSource} {f : Failure}
    (failed : (o.write p m).runIn w = (.error f, v)) :
    ∃ u rs, (writeAtomically p m.content).runIn w = (.error f, u) ∧ v = u.noted rs := by
  unfold write at failed
  rw [bindIn, attemptIn] at failed
  cases tried : (writeAtomically p m.content).runIn w with
  | mk result u =>
    rw [tried] at failed
    cases result with
    | ok _ => cases failed
    | error g =>
      cases g with
      | file g =>
        cases failed
        exact ⟨u, [_], rfl, rfl⟩
      | _ =>
        cases failed
        exact ⟨_, [], rfl, rfl⟩

def spot (o : Output) (w : Workspace) (m : GeneratedSource) : Spot := ((o.target m).absolute w.cwd).parts

theorem memSpots {o : Output} {ms : List GeneratedSource} {p : Path} (anchored : p.anchor = "/") :
    p ∈ (ms.map fun m => (o.target m).absolute w.cwd) ↔ p.parts ∈ ms.map (o.spot w) := by
  rw [List.mem_map, List.mem_map]
  constructor
  · rintro ⟨m, member, rfl⟩
    exact ⟨m, member, rfl⟩
  · rintro ⟨m, member, same⟩
    exact ⟨m, member, Path.anchoredEq rfl anchored same⟩

theorem spotNoted (o : Output) (rs : List Log.Record) (w : Workspace) : o.spot (w.noted rs) = o.spot w := by
  funext m
  unfold spot
  rw [(Workspace.notedApart rs w).cwd]

/-- A module that a real run accepts is up to date, or it is written. -/
inductive Accepted (o : Output) (m : GeneratedSource) (w : Workspace) (o' : Output) (v : Workspace) : Prop
  | current (rs : List Log.Record) (u : Workspace)
      (probed : (probe (o.target m) m.content).runIn w = (.ok true, u)) (noted : v = w.noted rs)
      (kept : o' = { o.enrol m w with unchanged := o.unchanged ++ [o.target m] })
  | written (rs later : List Log.Record) (u : Workspace)
      (probed : (probe (o.target m) m.content).runIn w = (.ok false, w.noted rs))
      (wrote : (writeAtomically (o.target m) m.content).runIn (w.noted rs) = (.ok (), u)) (noted : v = u.noted later)
      (kept : o' = { o.enrol m w with written := o.written ++ [o.target m] })

theorem handOverReal {o o' : Output} {m : GeneratedSource} (isReal : o.dryRun = false)
    (ok : (o.handOver m).runIn w = (.ok (none, o'), v)) : Accepted o m w o' v := by
  generalize answered : (none : Option String) = answer at ok
  cases handOverCases ok with
  | current u probed =>
    obtain ⟨rs, rfl⟩ := notedIn (calmProbe _ _) probed
    exact .current _ _ probed (Workspace.notedLast rs _ w) rfl
  | changed u v o' probed ran =>
    obtain ⟨rs, rfl⟩ := notedIn (calmProbe _ _) probed
    unfold change at ran
    rw [if_neg (by simpa [enrol, register] using isReal)] at ran
    obtain ⟨rfl, u, r, wrote, rfl⟩ := writeOk ran
    exact .written rs [r] u probed wrote rfl rfl
  | refused u v f probed ran => cases answered
  | unanswered v f probed => cases answered

theorem Accepted.leaves {o o' : Output} {m : GeneratedSource} (sound : w.Sound) (accepted : Accepted o m w o' v) :
    v.Sound ∧ w.Apart [o.spot w m] v ∧ o'.registered = o.registered ++ [(o.target m).absolute w.cwd] := by
  cases accepted with
  | current rs u probed noted kept =>
    rw [noted, kept]
    exact ⟨Workspace.notedSound rs sound, (Workspace.notedApart rs w).mono (by simp), rfl⟩
  | written rs later u probed wrote noted kept =>
    have before := Workspace.notedApart rs w
    obtain ⟨still, apart, _⟩ := writeAtomicallyLeaves (Workspace.notedSound rs sound) wrote
    rw [before.cwd] at apart
    rw [noted, kept]
    exact ⟨Workspace.notedSound later still, (before.before apart).after (Workspace.notedApart later u), rfl⟩

/-- What a real run leaves behind that accepted all modules. -/
structure Settled (o : Output) (ms : List GeneratedSource) (w : Workspace) (d d' : Delivery) (o' : Output)
    (v : Workspace) : Prop where
  sound : v.Sound
  apart : w.Apart (ms.map (o.spot w)) v
  aims : o'.directory = o.directory ∧ o'.dryRun = o.dryRun ∧ o'.fallback = o.fallback
  registered : o'.registered = o.registered ++ ms.map fun m => (o.target m).absolute w.cwd
  sources : d'.sources = d.sources ++ ms
  removed : o'.removed = o.removed

theorem unrefused {ms : List GeneratedSource} {m : GeneratedSource} {d d' : Delivery} {o o' : Output}
    {answer : Option String} (ok : ((deliver diskAdd diskLog (d.note m answer) ms).run o).runIn w = (.ok (d', o'), v))
    (fine : d'.writeErrors = []) : answer = none := by
  cases answer with
  | none => rfl
  | some reason =>
    have errors := (deliverExtends ok).2
    rw [fine, List.prefix_nil] at errors
    simp [Delivery.note] at errors

theorem Accepted.aims {o o' : Output} {m : GeneratedSource} (accepted : Accepted o m w o' v) :
    (o'.directory = o.directory ∧ o'.dryRun = o.dryRun ∧ o'.fallback = o.fallback) ∧ o'.removed = o.removed := by
  cases accepted with
  | current rs u probed noted kept =>
    rw [kept]
    exact ⟨⟨rfl, rfl, rfl⟩, rfl⟩
  | written rs later u probed wrote noted kept =>
    rw [kept]
    exact ⟨⟨rfl, rfl, rfl⟩, rfl⟩

theorem targetSame {o o' : Output} (aims : o'.directory = o.directory ∧ o'.fallback = o.fallback)
    (m : GeneratedSource) : o'.target m = o.target m := by
  unfold target
  rw [aims.1, aims.2]

/-- A real run whose first module has been accepted. -/
structure Stepped (o : Output) (m : GeneratedSource) (w : Workspace) (o' : Output) (v : Workspace) : Prop where
  accepted : Accepted o m w o' v
  sound : v.Sound
  apart : w.Apart [o.spot w m] v
  registered : o'.registered = o.registered ++ [(o.target m).absolute w.cwd]
  aims : o'.directory = o.directory ∧ o'.dryRun = o.dryRun ∧ o'.fallback = o.fallback
  removed : o'.removed = o.removed

namespace Stepped
variable {o o' : Output} {m : GeneratedSource}

theorem target (step : Stepped o m w o' v) (n : GeneratedSource) : o'.target n = o.target n :=
  targetSame ⟨step.aims.1, step.aims.2.2⟩ n

theorem spot (step : Stepped o m w o' v) : o'.spot v = o.spot w := by
  funext n
  unfold Output.spot
  rw [step.target, step.apart.cwd]

end Stepped

theorem deliverAccepted {m : GeneratedSource} {rest : List GeneratedSource} {d d' : Delivery} {o o' : Output}
    (sound : w.Sound) (isReal : o.dryRun = false)
    (ok : ((deliver diskAdd diskLog d (m :: rest)).run o).runIn w = (.ok (d', o'), v)) (fine : d'.writeErrors = []) :
    ∃ p u, Stepped o m w p u ∧ p.dryRun = false ∧
      ((deliver diskAdd diskLog (d.note m none) rest).run p).runIn u = (.ok (d', o'), v) := by
  obtain ⟨answer, p, u, handed, later⟩ := deliverStep ok
  have none := unrefused later fine
  subst none
  have accepted := handOverReal isReal handed
  obtain ⟨still, apart, registered⟩ := accepted.leaves sound
  obtain ⟨aims, removed⟩ := accepted.aims
  exact ⟨p, u, ⟨accepted, still, apart, registered, aims, removed⟩, aims.2.1.trans isReal, later⟩

/- The induction is on the modules that are left; each is accepted, since none is refused in the end. -/
theorem deliverReal {ms : List GeneratedSource} {d d' : Delivery} {o o' : Output} (sound : w.Sound)
    (isReal : o.dryRun = false) (ok : ((deliver diskAdd diskLog d ms).run o).runIn w = (.ok (d', o'), v))
    (fine : d'.writeErrors = []) : Settled o ms w d d' o' v := by
  induction ms generalizing d o w with
  | nil =>
    cases ok
    exact ⟨sound, .refl _, ⟨rfl, rfl, rfl⟩, by simp, by simp, rfl⟩
  | cons m rest ih =>
    obtain ⟨p, u, step, still, later⟩ := deliverAccepted sound isReal ok fine
    have tail := ih step.sound still later
    obtain ⟨directory, dry, fallback⟩ := step.aims
    refine ⟨tail.sound, ?_, ⟨tail.aims.1.trans directory, tail.aims.2.1.trans dry, tail.aims.2.2.trans fallback⟩,
      ?_, ?_, tail.removed.trans step.removed⟩
    · have both := step.apart.trans tail.apart
      rwa [step.spot] at both
    · have others := tail.registered
      simp only [step.target, step.apart.cwd] at others
      rw [others, step.registered, List.map_cons, List.append_assoc, List.singleton_append]
    · rw [tail.sources]
      simp [Delivery.note]

/-- What a pass hands over. -/
def handed (options : PassOptions) (units : List SourceUnit) : List GeneratedSource :=
  (Analysis.ofUnits options.warningsAsErrors units).sources options

theorem passStages {options : PassOptions} {units : List SourceUnit} {o p : Output} {pass : PassResult}
    (ran : (passOnto o options units).runIn w = (.ok (pass, p), v)) :
    let analysis := Analysis.ofUnits options.warningsAsErrors units
    ∃ d u, ((deliver diskAdd diskLog {} (handed options units)).run o).runIn (w.noted analysis.records) = (.ok (d, p), u) ∧
      v = u.note pass.record ∧ pass = analysis.result d := by
  rw [passRuns] at ran
  obtain ⟨_, _, _, logged, ran⟩ := stateBindOk ran
  obtain ⟨rfl, rfl⟩ := recordsLogged _ _ _ _ _ logged
  obtain ⟨d, q, u, delivered, ran⟩ := stateBindOk ran
  obtain ⟨_, _, _, told, ran⟩ := stateBindOk ran
  cases told
  cases ran
  exact ⟨d, u, delivered, rfl, rfl⟩

theorem passReal {options : PassOptions} {units : List SourceUnit} {o p : Output} {pass : PassResult}
    (sound : w.Sound) (isReal : o.dryRun = false) (ran : (passOnto o options units).runIn w = (.ok (pass, p), v))
    (fine : pass.writeErrors = []) :
    ∃ d, Settled o (handed options units) w {} d p v ∧ pass.sources = handed options units := by
  obtain ⟨d, u, delivered, rfl, rfl⟩ := passStages ran
  have before := Workspace.notedApart (Analysis.ofUnits options.warningsAsErrors units).records w
  have settled := deliverReal (Workspace.notedSound _ sound) isReal delivered fine
  refine ⟨d, ⟨Workspace.noteSound _ settled.sound, ?_, settled.aims, ?_, settled.sources, settled.removed⟩,
    settled.sources⟩
  · have apart := before.before settled.apart
    rw [o.spotNoted] at apart
    exact apart.after (Workspace.noteApart _ u)
  · rw [settled.registered, before.cwd]

/-! Pruning. -/

/-- Files may be gone, and those that are left are the same; only of the log file this may be otherwise. -/
structure Thinned (w v : Workspace) : Prop where
  cwd : v.cwd = w.cwd
  refusals : v.refusals = w.refusals
  logFile : v.logFile = w.logFile
  less : ∀ s, w.tree.bytes? s = none → v.tree.bytes? s = none
  same : ∀ s, w.logFile ≠ some s → v.tree.bytes? s = none ∨ v.tree.bytes? s = w.tree.bytes? s

theorem Thinned.refl (w : Workspace) : Thinned w w := ⟨rfl, rfl, rfl, fun _ none => none, fun _ _ => .inr rfl⟩

theorem Thinned.trans {u : Workspace} (earlier : Thinned u v) (later : Thinned v w) : Thinned u w := by
  refine ⟨later.cwd.trans earlier.cwd, later.refusals.trans earlier.refusals, later.logFile.trans earlier.logFile,
    fun s none => later.less s (earlier.less s none), fun s unlogged => ?_⟩
  rcases later.same s (earlier.logFile ▸ unlogged) with gone | same
  · exact .inl gone
  · rcases earlier.same s unlogged with gone | before
    · exact .inl (same.trans gone)
    · exact .inr (same.trans before)

theorem notedThinned (rs : List Log.Record) (w : Workspace) : Thinned w (w.noted rs) := by
  have apart := Workspace.notedApart rs w
  refine ⟨apart.cwd, apart.refusals, apart.logFile, fun s none => ?_, fun s unlogged => .inr ?_⟩
  · have holds := Workspace.notedHolds rs w s
    rw [none] at holds
    simpa using holds
  · exact apart.same s (by simp) unlogged

theorem removedThinned {p : Path} (sound : w.Sound) (gone : (removeFile p).runIn w = (.ok (), v)) : Thinned w v := by
  obtain ⟨_, apart, none⟩ := removeFileLeaves sound gone
  refine ⟨apart.cwd, apart.refusals, apart.logFile, fun s before => ?_, fun s unlogged => ?_⟩
  · by_cases same : s = (p.absolute w.cwd).parts
    · rw [same]
      exact none
    · obtain ⟨r, bytes, located, file, rfl⟩ := removeFileOk gone
      have spot := sound.located located
      exact (Workspace.bytesEraseOther _ (spot ▸ same)).trans before
  · by_cases same : s = (p.absolute w.cwd).parts
    · rw [same]
      exact .inl none
    · exact .inr (apart.same s (by simpa using same) unlogged)

/-- What pruning leaves behind when nothing stood in its way. -/
structure Cleared (o : Output) (cs : List Path) (w : Workspace) (p : Output) (v : Workspace) : Prop where
  sound : v.Sound
  thinned : Thinned w v
  registered : p.registered = o.registered
  directory : p.directory = o.directory
  fallback : p.fallback = o.fallback
  gone : ∀ c ∈ cs, c.absolute w.cwd ∉ o.registered → v.tree.bytes? (c.absolute w.cwd).parts = none

theorem removeMisses {p : Path} {f : FileFault} {u : Workspace} (sound : w.Sound) (usable : p.Usable) (fits : p.Fits)
    (failed : (removeFile p).runIn w = (.error (.file f), u)) (missing : f.obstacle = .missing) :
    w.tree.bytes? p.parts = none := by
  cases held : w.tree.bytes? p.parts with
  | none => rfl
  | some bytes =>
    have file := (FileTree.bytesIff _ _ _).mp held
    have located := FileTree.locateThere sound.tree w.cwd usable.straight fits file
    exact absurd missing (removeFinds ⟨_, bytes, located, file⟩ failed)

/-- How a real run that can remove what it must goes on from its first candidate. -/
inductive Cleans (o : Output) (seen : List Path) (c : Path) (rest : List Path) (w : Workspace) (p : Output)
    (v : Workspace) : Prop
  | known (met : (o.registered.contains c || seen.contains c) = true)
      (later : (o.pruneFrom seen rest).runIn w = (.ok (p, none), v))
  | removed (u : Workspace) (fresh : ¬ (o.registered.contains c || seen.contains c) = true)
      (gone : (removeFile c).runIn w = (.ok (), u))
      (later : ({ o with removed := o.removed ++ [c] }.pruneFrom (c :: seen) rest).runIn
        (u.note ⟨Log.info, logger, "Removed obsolete " ++ c.text⟩) = (.ok (p, none), v))
  | missed (f : FileFault) (fresh : ¬ (o.registered.contains c || seen.contains c) = true)
      (failed : (removeFile c).runIn w = (.error (.file f), w)) (missing : f.obstacle = .missing)
      (later : (o.pruneFrom (c :: seen) rest).runIn w = (.ok (p, none), v))

theorem pruneCleans {o p : Output} {seen rest : List Path} {c : Path} (isReal : o.dryRun = false) (own : c.Usable)
    (ran : (o.pruneFrom seen (c :: rest)).runIn w = (.ok (p, none), v)) : Cleans o seen c rest w p v := by
  generalize ended : (none : Option Failure) = failure at ran
  have whole := own.straight.absolute w.cwd
  cases pruneStep ran with
  | flawed flaw found => cases ended
  | stuck unflawed fresh real f failed other => cases ended
  | noted unflawed fresh isDry later => cases isReal.symm.trans isDry
  | known unflawed met later => exact .known (whole ▸ met) (ended ▸ later)
  | removed unflawed fresh real gone later =>
    rw [whole] at fresh later
    exact .removed _ fresh gone (ended ▸ later)
  | missed unflawed fresh real f failed missing later =>
    have still := removeFileFails failed
    subst still
    rw [whole] at fresh later
    exact .missed f fresh failed missing (ended ▸ later)

/- The induction is on the candidates that are left. What carries it is that nothing stands where one was seen. -/
theorem pruneReal {cs : List Path} {o p : Output} {seen : List Path} (sound : w.Sound) (isReal : o.dryRun = false)
    (usable : ∀ c ∈ cs, c.Usable ∧ c.Fits) (before : ∀ q ∈ seen, w.tree.bytes? q.parts = none)
    (ran : (o.pruneFrom seen cs).runIn w = (.ok (p, none), v)) : Cleared o cs w p v := by
  induction cs generalizing o seen w with
  | nil =>
    cases ran
    exact ⟨sound, .refl _, rfl, rfl, rfl, by simp⟩
  | cons c rest ih =>
    obtain ⟨own, fits⟩ := usable c List.mem_cons_self
    have others : ∀ q ∈ rest, q.Usable ∧ q.Fits := fun q member => usable q (List.mem_cons_of_mem _ member)
    have whole := own.straight.absolute w.cwd
    cases pruneCleans isReal own ran with
    | known met later =>
      have tail := ih sound isReal others before later
      refine { tail with gone := fun q member outside => ?_ }
      rcases List.mem_cons.mp member with rfl | deeper
      · rw [whole] at outside ⊢
        have known : q ∈ seen := by
          simp only [Bool.or_eq_true, List.contains_iff_mem] at met
          exact met.resolve_left outside
        exact tail.thinned.less _ (before q known)
      · exact tail.gone q deeper outside
    | removed u fresh gone later =>
      let r : Log.Record := ⟨Log.info, logger, "Removed obsolete " ++ c.text⟩
      obtain ⟨still, _, absent⟩ := removeFileLeaves sound gone
      have thinned := (removedThinned sound gone).trans (notedThinned [r] u)
      have emptied : (u.noted [r]).tree.bytes? c.parts = none := (notedThinned [r] u).less _ (whole ▸ absent)
      have tail := ih (o := { o with removed := o.removed ++ [c] }) (Workspace.noteSound r still) isReal others (by
        intro q member
        rcases List.mem_cons.mp member with rfl | old
        · exact emptied
        · exact thinned.less _ (before q old)) later
      refine ⟨tail.sound, thinned.trans tail.thinned, tail.registered, tail.directory, tail.fallback, ?_⟩
      intro q member outside
      rcases List.mem_cons.mp member with rfl | deeper
      · rw [whole]
        exact tail.thinned.less _ emptied
      · have rest := tail.gone q deeper
        rw [show (u.note r).cwd = w.cwd from thinned.cwd] at rest
        exact rest outside
    | missed f fresh failed missing later =>
      have absent := removeMisses sound own fits failed missing
      have tail := ih sound isReal others (by
        intro q member
        rcases List.mem_cons.mp member with rfl | old
        · exact absent
        · exact before q old) later
      refine { tail with gone := fun q member outside => ?_ }
      rcases List.mem_cons.mp member with rfl | deeper
      · rw [whole]
        exact tail.thinned.less _ absent
      · exact tail.gone q deeper outside

end Output

end AccessorForge
