import AccessorForge.Proofs.RealRuns
/-! A dry run from what a real one did. The real run asks for a target only once, before it writes there itself, so
that the dry run gets the same answers from files that nobody touched. -/
namespace AccessorForge
open Job Running
variable {w v u : Workspace}

namespace Output

/-- What a dry run notes where a real one acts. -/
def forecast (o : Output) : Output :=
  { o with dryRun := true, written := [], pending := o.written, removed := [], obsolete := o.removed }

theorem addRun {o : Output} {m : GeneratedSource} (unflawed : (o.target m).firstFlaw? = none) :
    (o.add m).runIn w =
      match ((o.enrol m w).update (o.target m) m).runIn w with
      | (.ok p, x) => (.ok (p, none), x)
      | (.error f, x) => (.ok (o.enrol m w, some f), x) := by
  have resolved : (resolve (o.target m)).runIn w = (.ok ((o.target m).absolute w.cwd), w) := by
    rw [resolveIn, unflawed]
  unfold add
  rw [bindOf resolved, bindIn, outcomeIn]
  unfold enrol
  cases ((o.register ((o.target m).absolute w.cwd)).update (o.target m) m).runIn w with
  | mk result x => cases result <;> rfl

theorem handOverRun {o : Output} {m : GeneratedSource} (unflawed : (o.target m).firstFlaw? = none) :
    (o.handOver m).runIn w =
      match ((o.enrol m w).update (o.target m) m).runIn w with
      | (.ok p, x) => (.ok (none, p), x)
      | (.error (.file f), x) => (.ok (some f.message, o.enrol m w), x)
      | (.error f, x) => (.error f, x) := by
  unfold handOver
  rw [bindIn, addRun unflawed]
  cases ((o.enrol m w).update (o.target m) m).runIn w with
  | mk result x =>
    cases result with
    | ok p => rfl
    | error f => cases f <;> rfl

theorem stateBindOf {α β : Type} {x : StateT Output Job α} {f : α → StateT Output Job β} {o p : Output} {a : α}
    (ran : (x.run o).runIn w = (.ok (a, p), u)) : ((x >>= f).run o).runIn w = ((f a).run p).runIn u := by
  rw [StateT.run_bind, bindOf ran]

theorem recordsRun (rs : List Log.Record) (o : Output) : ((rs.forM diskLog).run o).runIn w = (.ok ((), o), w.noted rs) := by
  induction rs generalizing w with
  | nil => rfl
  | cons r rest ih =>
    have first : ((diskLog r).run o).runIn w = (.ok ((), o), w.note r) := rfl
    rw [List.forM, stateBindOf first, ih]
    rfl

theorem passRun {options : PassOptions} {units : List SourceUnit} {o p : Output} {d : Delivery}
    (delivered : ((deliver diskAdd diskLog {} (handed options units)).run o).runIn
      (w.noted (Analysis.ofUnits options.warningsAsErrors units).records) = (.ok (d, p), u)) :
    let pass := (Analysis.ofUnits options.warningsAsErrors units).result d
    (passOnto o options units).runIn w = (.ok (pass, p), u.note pass.record) := by
  unfold handed at delivered
  rw [passRuns]
  unfold runPass
  rw [stateBindOf (recordsRun _ o), stateBindOf delivered]
  rfl

/-! One module. -/

theorem probeTrue {p : Path} {text : String} (sound : w.Sound) (straight : p.Straight)
    (probed : (probe p text).runIn w = (.ok true, u)) : p.Usable ∧ p.Fits := by
  obtain ⟨there, x, asked, told⟩ := bindOk probed
  cases there with
  | false => cases told
  | true =>
    obtain ⟨e, y, looked, last⟩ := bindOk asked
    obtain ⟨found, _⟩ := entryOk looked
    have same := FileTree.entryStraight sound.tree straight found
    cases e with
    | none => cases last
    | some e =>
      refine ⟨⟨straight.anchored, sound.tree.proper _ _ same.symm⟩, ?_⟩
      by_contra long
      unfold FileTree.entry? at found
      split at found
      · cases found
      · unfold FileTree.entry FileTree.locate at found
        rw [if_pos (Nat.lt_of_not_le long)] at found
        cases found

theorem Accepted.usable {o o' : Output} {m : GeneratedSource} (sound : w.Sound) (straight : (o.target m).Straight)
    (accepted : Accepted o m w o' v) : (o.target m).Usable ∧ (o.target m).Fits := by
  cases accepted with
  | current rs x probed noted kept => exact probeTrue sound straight probed
  | written rs later x probed wrote noted kept =>
    obtain ⟨_, _, _, unflawed, located⟩ := writeAtomicallyLeaves (Workspace.notedSound rs sound) wrote
    obtain ⟨fits, walked⟩ := FileTree.locateFits located
    rw [straight.absolute, straight.isAbsolute, if_pos rfl] at walked
    have proper := FileTree.walkProper (by simp) ((Path.unflawedIff _).mp unflawed) walked
    exact ⟨⟨straight.anchored, proper⟩, fits⟩

/-- The other workspace has the same files at some spots, and does not log there. -/
structure Beside (ss : List Spot) (w u : Workspace) : Prop where
  cwd : u.cwd = w.cwd
  refusals : u.refusals = w.refusals
  logFile : u.logFile = w.logFile
  same : ∀ s ∈ ss, u.tree.bytes? s = w.tree.bytes? s
  unlogged : ∀ s ∈ ss, w.logFile ≠ some s

theorem Beside.refl {ss : List Spot} (unlogged : ∀ s ∈ ss, w.logFile ≠ some s) : Beside ss w w :=
  ⟨rfl, rfl, rfl, fun _ _ => rfl, unlogged⟩

theorem Beside.onwards {ss ts : List Spot} {s : Spot} {x : Workspace} (beside : Beside (s :: ss) w u)
    (apart : w.Apart ts v) (fresh : ∀ t ∈ ss, t ∉ ts) (logs : u.Apart [] x) : Beside ss v x := by
  refine ⟨logs.cwd.trans (beside.cwd.trans apart.cwd.symm), logs.refusals.trans (beside.refusals.trans apart.refusals.symm),
    logs.logFile.trans (beside.logFile.trans apart.logFile.symm), fun t member => ?_, fun t member => ?_⟩
  · have free := beside.unlogged t (List.mem_cons_of_mem _ member)
    rw [logs.same t (by simp) (beside.logFile ▸ free), apart.same t (fresh t member) free]
    exact beside.same t (List.mem_cons_of_mem _ member)
  · exact apart.logFile ▸ beside.unlogged t (List.mem_cons_of_mem _ member)

theorem Accepted.forecast {o o' : Output} {m : GeneratedSource} (sound : w.Sound) (soundToo : u.Sound)
    (straight : (o.target m).Straight) (accepted : Accepted o m w o' v) (beside : Beside [o.spot w m] w u) :
    ∃ rs, (o.forecast.handOver m).runIn u = (.ok (none, o'.forecast), u.noted rs) := by
  obtain ⟨usable, fits⟩ := accepted.usable sound straight
  have target : o.forecast.target m = o.target m := targetSame ⟨rfl, rfl⟩ m
  have spot : o.spot w m = (o.target m).parts := by
    unfold Output.spot
    rw [straight.absolute]
  have read : u.text? (o.target m) = w.text? (o.target m) :=
    Workspace.textSame beside.refusals (spot ▸ beside.same _ List.mem_cons_self)
  obtain ⟨ws, told⟩ := probeIn sound usable fits m.content
  obtain ⟨us, answered⟩ := probeIn soundToo usable fits m.content
  rw [read] at answered
  have enrolled : o.forecast.enrol m u = { o.forecast with
      registered := o.registered ++ [(o.target m).absolute w.cwd] } := by
    unfold enrol register
    rw [target, beside.cwd]
    rfl
  rw [handOverRun (target.symm ▸ usable.firstUnflawed), updateProbes, target, enrolled]
  cases accepted with
  | current rs x probed noted kept =>
    have current := Except.ok.inj (Prod.mk.inj (told.symm.trans probed)).1
    rw [current] at answered
    refine ⟨us ++ [⟨Log.debug, logger, "Up to date: " ++ (o.target m).text⟩], ?_⟩
    rw [answered, kept, ← Workspace.notedLast]
    rfl
  | written rs later x probed wrote noted kept =>
    have outdated := Except.ok.inj (Prod.mk.inj (told.symm.trans probed)).1
    rw [outdated] at answered
    refine ⟨us, ?_⟩
    rw [answered, kept]
    rfl

/-! All modules of a pass. -/

/- The induction is on the modules that are left. What carries it is that the two workspaces agree on the targets
that are still to come. -/
theorem deliverForecast {ms : List GeneratedSource} {d d' : Delivery} {o o' : Output} (sound : w.Sound)
    (soundToo : u.Sound) (isReal : o.dryRun = false)
    (ok : ((deliver diskAdd diskLog d ms).run o).runIn w = (.ok (d', o'), v)) (fine : d'.writeErrors = [])
    (straight : ∀ m ∈ ms, (o.target m).Straight) (distinct : (ms.map (o.spot w)).Nodup)
    (beside : Beside (ms.map (o.spot w)) w u) :
    ∃ rs, ((deliver diskAdd diskLog d ms).run o.forecast).runIn u = (.ok (d', o'.forecast), u.noted rs) := by
  induction ms generalizing d o w u with
  | nil =>
    cases ok
    exact ⟨[], rfl⟩
  | cons m rest ih =>
    obtain ⟨p, x, step, still, later⟩ := deliverAccepted sound isReal ok fine
    obtain ⟨fresh, others⟩ := List.nodup_cons.mp distinct
    obtain ⟨first, told⟩ := step.accepted.forecast sound soundToo (straight m List.mem_cons_self)
      { beside with
        same := fun s member => beside.same s (List.mem_singleton.mp member ▸ List.mem_cons_self)
        unlogged := fun s member => beside.unlogged s (List.mem_singleton.mp member ▸ List.mem_cons_self) }
    have onwards := beside.onwards step.apart (by
      intro t member known
      exact fresh (List.mem_singleton.mp known ▸ member)) (Workspace.notedApart first u)
    obtain ⟨rs, last⟩ := ih step.sound (Workspace.notedSound first soundToo) still later
      (fun n member => step.target n ▸ straight n (List.mem_cons_of_mem _ member)) (step.spot ▸ others)
      (step.spot ▸ onwards)
    refine ⟨first ++ rs, ?_⟩
    have added : ((diskAdd m).run o.forecast).runIn u = (.ok (none, p.forecast), u.noted first) := by
      rw [diskAddRuns, told]
    rw [deliver, stateBindOf added, Workspace.notedTwice, ← last]

theorem passForecast {options : PassOptions} {units : List SourceUnit} {o p : Output} {pass : PassResult}
    (sound : w.Sound) (isReal : o.dryRun = false) (ran : (passOnto o options units).runIn w = (.ok (pass, p), v))
    (fine : pass.writeErrors = []) (straight : ∀ m ∈ handed options units, (o.target m).Straight)
    (distinct : ((handed options units).map (o.spot w)).Nodup)
    (unlogged : ∀ s ∈ (handed options units).map (o.spot w), w.logFile ≠ some s) :
    ∃ rs, (passOnto o.forecast options units).runIn w = (.ok (pass, p.forecast), w.noted rs) := by
  obtain ⟨d, x, delivered, _, rfl⟩ := passStages ran
  let records := (Analysis.ofUnits options.warningsAsErrors units).records
  have before := Workspace.notedApart records w
  have spots := o.spotNoted records w
  have ready := Workspace.notedSound records sound
  obtain ⟨rs, dry⟩ := deliverForecast ready ready isReal delivered fine straight (spots ▸ distinct)
    (.refl (spots ▸ before.logFile ▸ unlogged))
  refine ⟨records ++ rs ++ [((Analysis.ofUnits options.warningsAsErrors units).result d).record], ?_⟩
  rw [passRun dry, ← Workspace.notedLast, Workspace.notedTwice]

/-! Pruning. -/

/-- The candidates that nobody asked to keep, each once. -/
def outdated (o : Output) (seen cs : List Path) : List Path :=
  (cs.filter fun c => !o.registered.contains c && !seen.contains c).eraseDups

theorem outdatedKnown {o : Output} {seen rest : List Path} {c : Path}
    (met : (o.registered.contains c || seen.contains c) = true) : o.outdated seen (c :: rest) = o.outdated seen rest := by
  unfold outdated
  rw [List.filter_cons_of_neg]
  rw [← Bool.not_or, met]
  simp

theorem outdatedFresh {o : Output} {seen rest : List Path} {c : Path}
    (fresh : ¬ (o.registered.contains c || seen.contains c) = true) :
    o.outdated seen (c :: rest) = c :: o.outdated (c :: seen) rest := by
  unfold outdated
  rw [List.filter_cons_of_pos (by rwa [← Bool.not_or, Bool.not_eq_true', ← Bool.not_eq_true]), List.eraseDups_cons,
    List.filter_filter]
  refine congrArg (fun cs => c :: List.eraseDups cs) (List.filter_congr fun q _ => ?_)
  rw [List.contains_cons, Bool.not_or]
  exact Bool.and_left_comm _ _ _

theorem pruneForecast {cs : List Path} {o : Output} {seen : List Path} (isDry : o.dryRun = true)
    (usable : ∀ c ∈ cs, c.Usable) :
    (o.pruneFrom seen cs).runIn w = (.ok ({ o with obsolete := o.obsolete ++ o.outdated seen cs }, none), w) := by
  induction cs generalizing o seen with
  | nil =>
    unfold outdated
    simp only [List.filter_nil, List.eraseDups_nil, List.append_nil]
    rfl
  | cons c rest ih =>
    have own := usable c List.mem_cons_self
    have others : ∀ q ∈ rest, q.Usable := fun q member => usable q (List.mem_cons_of_mem _ member)
    unfold pruneFrom
    rw [own.firstUnflawed]
    dsimp only
    rw [bindOf (getIn w), own.straight.absolute]
    by_cases met : (o.registered.contains c || seen.contains c) = true
    · rw [if_pos met, outdatedKnown met]
      exact ih isDry others
    · rw [if_neg met, if_pos isDry, outdatedFresh met]
      have tail := @ih { o with obsolete := o.obsolete ++ [c] } (c :: seen) isDry others
      rw [List.append_assoc] at tail
      exact tail

/- The induction is on the candidates that are left; those to come stand where they stood. -/
theorem pruneTakes {cs : List Path} {o p : Output} {seen : List Path} (sound : w.Sound) (isReal : o.dryRun = false)
    (usable : ∀ c ∈ cs, c.Usable ∧ c.Fits)
    (standing : ∀ c ∈ cs, c ∉ o.registered → c ∉ seen → (w.tree.bytes? c.parts).isSome = true)
    (ran : (o.pruneFrom seen cs).runIn w = (.ok (p, none), v)) :
    p = { o with removed := o.removed ++ o.outdated seen cs } := by
  induction cs generalizing o seen w with
  | nil =>
    cases ran
    unfold outdated
    simp
  | cons c rest ih =>
    obtain ⟨own, fits⟩ := usable c List.mem_cons_self
    have others : ∀ q ∈ rest, q.Usable ∧ q.Fits := fun q member => usable q (List.mem_cons_of_mem _ member)
    cases pruneCleans isReal own ran with
    | known met later =>
      rw [outdatedKnown met]
      exact ih sound isReal others (fun q member => standing q (List.mem_cons_of_mem _ member)) later
    | missed f fresh failed missing later =>
      simp only [Bool.or_eq_true, List.contains_iff_mem, not_or] at fresh
      have gone := removeMisses sound own fits failed missing
      have held := standing c List.mem_cons_self fresh.1 fresh.2
      simp [gone] at held
    | removed x fresh gone later =>
      let r : Log.Record := ⟨Log.info, logger, "Removed obsolete " ++ c.text⟩
      obtain ⟨still, apart, _⟩ := removeFileLeaves sound gone
      have after := apart.after (Workspace.noteApart r x)
      rw [own.straight.absolute] at after
      have tail := ih (o := { o with removed := o.removed ++ [c] }) (Workspace.noteSound r still) isReal others (by
        intro q member outside unseen
        simp only [List.mem_cons, not_or] at unseen
        have kept := standing q (List.mem_cons_of_mem _ member) outside unseen.2
        rw [after.holds q.parts ?_]
        · exact kept
        · intro same
          rw [List.mem_singleton] at same
          exact unseen.1 (Path.anchoredEq (others q member).1.anchored own.anchored same)) later
      rw [outdatedFresh fresh, tail, List.append_assoc]
      rfl

end Output

end AccessorForge
