import AccessorForge.Proofs.FixedPoint
import AccessorForge.Proofs.Markers
/-! What the stages of a run leave however they end. A write that fails changes no file, a pass that stops has
changed targets only, and what pruning took away before it got stuck is what it says. -/
namespace AccessorForge
open Job Running
variable {w v : Workspace} {p : Path}

namespace Job

theorem moveOntoFails {source : Spot} {f : Failure} (failed : (moveOnto source p).runIn w = (.error f, v)) : v = w := by
  unfold moveOnto refuseFlawed at failed
  cases unflawed : p.flaw? with
  | some flaw =>
    rw [unflawed] at failed
    cases failed
    rfl
  | none =>
    have fine : (orFlawed none).runIn w = (.ok (), w) := rfl
    rw [unflawed, bindOf fine, bindOf (getIn w)] at failed
    dsimp only at failed
    split at failed
    · cases failed
      rfl
    · rw [bindOf (getIn w)] at failed
      split at failed
      · cases failed
        rfl
      · split at failed
        · cases failed
          rfl
        · split at failed
          · cases failed
            rfl
          · cases failed
          · cases failed
            rfl

theorem fillMoveFails {temporary : Spot} {directory : Path} {text : String} {f : Failure}
    (free : w.tree.get? temporary = none)
    (failed : (fill temporary directory text >>= fun _ => moveOnto temporary p).runIn
      { w with tree := w.tree.put temporary (.file []) } = (.error f, v)) :
    { v with tree := v.tree.erase temporary } = w := by
  rw [bindIn, fillIn] at failed
  split at failed
  · rename_i filled
    split at filled
    · cases filled
    · split at filled
      · cases filled
      · cases filled
        cases moveOntoFails failed
        simp only [FileTree.putTwice, FileTree.erasePut free]
  · rename_i filled
    split at filled
    · cases filled
      cases failed
      simp only [FileTree.erasePut free]
    · split at filled
      · cases filled
        cases failed
        simp only [FileTree.erasePut free]
      · cases filled

/-- Of a write that fails nothing stays but the directories that were made for it. -/
theorem writeAtomicallyUndone {text : String} {f : Failure} (failed : (writeAtomically p text).runIn w = (.error f, v)) :
    ∃ result, (ensureDirectory p.parent.parts.length p.parent).runIn w = (result, v) := by
  rw [writeAtomicallyIn] at failed
  cases ensured : (ensureDirectory p.parent.parts.length p.parent).runIn w with
  | mk result u =>
    rw [ensured] at failed
    cases result with
    | error g =>
      cases failed
      exact ⟨_, rfl⟩
    | ok _ =>
      dsimp only at failed
      split at failed
      · cases failed
        exact ⟨_, rfl⟩
      · split at failed
        · cases failed
        · rename_i placed
          cases failed
          exact ⟨_, congrArg _ (fillMoveFails (temporaryFree u p.parent) placed).symm⟩

theorem writeAtomicallyFails {text : String} {f : Failure} (sound : w.Sound)
    (failed : (writeAtomically p text).runIn w = (.error f, v)) : v.Sound ∧ w.Apart [] v := by
  obtain ⟨result, ensured⟩ := writeAtomicallyUndone failed
  exact growsIn (growsEnsureDirectory _ _) sound ensured

end Job

/-! Handing modules over. -/

/-- Where a path leads. -/
def Workspace.spot (w : Workspace) (p : Path) : Spot := (p.absolute w.cwd).parts

theorem Workspace.spotSame (cwd : v.cwd = w.cwd) : v.spot = w.spot := by
  funext p
  unfold Workspace.spot
  rw [cwd]

/-- A generated module stands there; of the log file no more is said than that it stands. -/
structure Workspace.Filled (w : Workspace) (s : Spot) : Prop where
  stands : (w.tree.bytes? s).isSome = true
  begun : w.logFile ≠ some s → w.tree.begun s = true

namespace Workspace.Filled
variable {s : Spot}

theorem ofBegun (begun : w.tree.begun s = true) : w.Filled s := by
  refine ⟨?_, fun _ => begun⟩
  unfold FileTree.begun at begun
  cases held : w.tree.bytes? s with
  | none => simp [held] at begun
  | some bytes => rfl

theorem kept {ss : List Spot} (filled : w.Filled s) (apart : w.Apart ss v) (outside : s ∉ ss) : v.Filled s := by
  refine ⟨(apart.holds s outside).trans filled.stands, fun unlogged => ?_⟩
  have free : w.logFile ≠ some s := apart.logFile ▸ unlogged
  unfold FileTree.begun
  rw [apart.same s outside free]
  exact filled.begun free

end Workspace.Filled

/-- Between two workspaces generated modules were put at some of these spots, and no other file was touched. -/
structure Wrote (ss : List Spot) (ps : List Path) (w v : Workspace) : Prop where
  sound : v.Sound
  apart : w.Apart (ps.map w.spot) v
  within : ps.map w.spot ⊆ ss
  filled : ∀ p ∈ ps, v.Filled (w.spot p)

namespace Wrote
variable {ss ts : List Spot} {ps qs : List Path} {u : Workspace}

theorem none (sound : v.Sound) (apart : w.Apart [] v) : Wrote ss [] w v :=
  ⟨sound, apart, by simp, by simp⟩

theorem keepsFilled {s : Spot} (wrote : Wrote ss ps w v) (filled : w.Filled s) : v.Filled s := by
  by_cases written : s ∈ ps.map w.spot
  · obtain ⟨p, member, rfl⟩ := List.mem_map.mp written
    exact wrote.filled p member
  · exact filled.kept wrote.apart written

theorem trans (earlier : Wrote ss ps u v) (later : Wrote ts qs v w) : Wrote (ss ++ ts) (ps ++ qs) u w := by
  have spots := Workspace.spotSame earlier.apart.cwd
  have apart := earlier.apart.trans later.apart
  refine ⟨later.sound, ?_, ?_, fun p member => ?_⟩
  · rwa [spots, ← List.map_append] at apart
  · rw [List.map_append]
    exact List.append_subset.mpr ⟨fun s member => List.mem_append_left _ (earlier.within member),
      fun s member => List.mem_append_right _ (later.within (spots ▸ member))⟩
  · rcases List.mem_append.mp member with old | new
    · exact later.keepsFilled (earlier.filled p old)
    · exact spots ▸ later.filled p new

theorem after (earlier : Wrote ss ps u v) (sound : w.Sound) (apart : v.Apart [] w) : Wrote ss ps u w := by
  have still : Wrote [] [] v w := .none sound apart
  simpa using earlier.trans still

theorem before (sound : v.Sound) (apart : u.Apart [] v) (later : Wrote ss ps v w) : Wrote ss ps u w := by
  have still : Wrote [] [] u v := .none sound apart
  simpa using still.trans later

end Wrote

namespace Output

/-- What an output notes of the modules that were handed over. -/
structure Enrolled (rs ps : List Path) (o o' : Output) : Prop where
  aims : o'.directory = o.directory ∧ o'.fallback = o.fallback
  registered : o'.registered = o.registered ++ rs
  written : o'.written = o.written ++ ps
  removed : o'.removed = o.removed

theorem Enrolled.trans {rs rs' ps ps' : List Path} {o p q : Output} (earlier : Enrolled rs ps o p)
    (later : Enrolled rs' ps' p q) : Enrolled (rs ++ rs') (ps ++ ps') o q := by
  refine ⟨⟨later.aims.1.trans earlier.aims.1, later.aims.2.trans earlier.aims.2⟩, ?_, ?_,
    later.removed.trans earlier.removed⟩
  · rw [later.registered, earlier.registered, List.append_assoc]
  · rw [later.written, earlier.written, List.append_assoc]

theorem changeLeaves {o : Output} {m : GeneratedSource} {result : Except Failure Output} (sound : w.Sound)
    (marked : isGenerated m.content = true) (ran : (o.change p m).runIn w = (result, v)) :
    ∃ ps, Wrote [w.spot p] ps w v ∧ (∀ o', result = .ok o' → Enrolled [] ps o o') ∧
      ∀ f, result = .error f → ps = [] := by
  unfold change at ran
  split at ran
  · cases ran
    refine ⟨[], .none sound (.refl w), ?_, by simp⟩
    rintro _ ⟨⟩
    exact ⟨⟨rfl, rfl⟩, by simp, by simp, rfl⟩
  · cases result with
    | ok o' =>
      obtain ⟨rfl, u, r, wrote, rfl⟩ := writeOk ran
      obtain ⟨still, apart, bytes, _⟩ := writeAtomicallyLeaves sound wrote
      have filled : u.Filled (w.spot p) := .ofBegun (FileTree.begunIf bytes (encodedBegins marked))
      have wrote : Wrote [w.spot p] [p] w u := ⟨still, apart, by simp, by simpa using filled⟩
      refine ⟨[p], wrote.after (Workspace.noteSound r still) (Workspace.noteApart r u), ?_, by simp⟩
      rintro _ ⟨⟩
      exact ⟨⟨rfl, rfl⟩, by simp, rfl, rfl⟩
    | error f =>
      refine ⟨[], ?_, by simp, by simp⟩
      obtain ⟨u, rs, failed, rfl⟩ := writeFails ran
      obtain ⟨still, apart⟩ := writeAtomicallyFails sound failed
      exact .none (Workspace.notedSound rs still) (apart.trans (Workspace.notedApart rs u))

theorem handOverLeaves {o : Output} {m : GeneratedSource} {result : Except Failure (Option String × Output)}
    (sound : w.Sound) (marked : isGenerated m.content = true) (ran : (o.handOver m).runIn w = (result, v)) :
    ∃ ps, Wrote [o.spot w m] ps w v ∧
      ∀ answer o', result = .ok (answer, o') → Enrolled [(o.target m).absolute w.cwd] ps o o' := by
  have enrolled : Enrolled [(o.target m).absolute w.cwd] [] o (o.enrol m w) := ⟨⟨rfl, rfl⟩, rfl, by simp [enrol, register], rfl⟩
  cases flaw : (o.target m).firstFlaw? with
  | some flaw =>
    unfold handOver add at ran
    rw [bindIn, bindIn, resolveIn, flaw] at ran
    cases ran
    exact ⟨[], .none sound (.refl w), by simp⟩
  | none =>
    rw [handOverRun flaw, updateProbes] at ran
    cases probed : (probe (o.target m) m.content).runIn w with
    | mk current u =>
      obtain ⟨still, apart⟩ := calmSpares (calmProbe _ _) sound probed
      rw [probed] at ran
      cases current with
      | error f =>
        refine ⟨[], ?_, ?_⟩
        · cases f <;> cases ran <;> exact .none still apart
        · rintro answer o' rfl
          cases f <;> cases ran
          exact enrolled
      | ok current =>
        cases current with
        | true =>
          cases ran
          refine ⟨[], .none (Workspace.noteSound _ still) (apart.trans (Workspace.noteApart _ u)), ?_⟩
          rintro _ _ ⟨⟩
          exact enrolled.trans ⟨⟨rfl, rfl⟩, by simp, by simp, rfl⟩
        | false =>
          dsimp only at ran
          cases changed : ((o.enrol m w).change (o.target m) m).runIn u with
          | mk outcome x =>
            obtain ⟨ps, wrote, kept, failed⟩ := changeLeaves still marked changed
            have whole := Wrote.before still apart wrote
            rw [Workspace.spotSame apart.cwd] at whole
            rw [changed] at ran
            cases outcome with
            | ok q =>
              cases ran
              refine ⟨ps, whole, ?_⟩
              rintro _ _ ⟨⟩
              exact enrolled.trans (kept q rfl)
            | error f =>
              cases failed f rfl
              refine ⟨[], ?_, ?_⟩
              · cases f <;> cases ran <;> exact whole
              · rintro answer o' rfl
                cases f <;> cases ran
                exact enrolled

/-! What stands where a module was accepted. -/

theorem readBytesFrom {bytes : List UInt8} (read : (readBytes p).runIn w = (.ok bytes, v)) :
    p.flaw? = none ∧ ∃ s, w.tree.locate w.cwd p = .ok s ∧ w.tree.bytes? s = some bytes := by
  obtain ⟨unflawed, _, _, s, located, file⟩ := readBytesOk read
  exact ⟨unflawed, s, located, (FileTree.bytesIff _ _ _).mpr file⟩

theorem readTextFrom {text : String} (read : (readText p).runIn w = (.ok text, v)) :
    p.flaw? = none ∧ ∃ s bytes cs, w.tree.locate w.cwd p = .ok s ∧ w.tree.bytes? s = some bytes ∧
      Text.Utf8.decode bytes = .ok cs ∧ text = String.ofList (Text.LineEnds.unify cs) := by
  obtain ⟨bytes, x, found, rest⟩ := bindOk read
  obtain ⟨unflawed, s, located, held⟩ := readBytesFrom found
  obtain ⟨cs, _, decoded, last⟩ := bindOk rest
  cases last
  refine ⟨unflawed, s, bytes, cs, located, held, ?_, rfl⟩
  cases told : Text.Utf8.decode bytes with
  | ok ds =>
    rw [told] at decoded
    cases decoded
    rfl
  | error f =>
    rw [told] at decoded
    cases decoded

theorem currentRead {text : String} (probed : (probe p text).runIn w = (.ok true, v)) :
    ∃ u, (readText p).runIn w = (.ok text, u) := by
  obtain ⟨there, x, asked, told⟩ := bindOk probed
  have still := isFileStill asked
  subst still
  cases there with
  | false => cases told
  | true =>
    obtain ⟨tried, y, attempted, compared⟩ := bindOk told
    cases tried with
    | error message =>
      obtain ⟨_, _, _, last⟩ := bindOk compared
      cases last
    | ok old =>
      have same : old = text := by simpa using (Prod.mk.inj compared).1
      exact ⟨y, same ▸ attemptReadOk attempted⟩

theorem currentBegun {text : String} (sound : w.Sound) (marked : isGenerated text = true)
    (probed : (probe p text).runIn w = (.ok true, v)) : w.tree.begun (w.spot p) = true := by
  obtain ⟨u, read⟩ := currentRead probed
  obtain ⟨_, s, bytes, cs, located, held, decoded, rfl⟩ := readTextFrom read
  have spot : s = w.spot p := sound.located located
  exact FileTree.begunIf (spot ▸ held) (textBegins decoded marked)

theorem deliverRun (d : Delivery) (m : GeneratedSource) (rest : List GeneratedSource) (o : Output) (w : Workspace) :
    ((deliver diskAdd diskLog d (m :: rest)).run o).runIn w =
      match (o.handOver m).runIn w with
      | (.ok (answer, p), u) => ((deliver diskAdd diskLog (d.note m answer) rest).run p).runIn (heard m answer u)
      | (.error f, u) => (.error f, u) := by
  rw [deliver, StateT.run_bind, diskAddRuns, bindIn]
  cases (o.handOver m).runIn w with
  | mk result u =>
    cases result with
    | error f => rfl
    | ok pair =>
      obtain ⟨answer, p⟩ := pair
      cases answer with
      | none => rfl
      | some reason =>
        have told : ((diskLog (refusalRecord m reason)).run p).runIn u = (.ok ((), p), u.note (refusalRecord m reason)) :=
          rfl
        exact stateBindOf told

theorem heardApart (m : GeneratedSource) (answer : Option String) (sound : w.Sound) :
    (heard m answer w).Sound ∧ w.Apart [] (heard m answer w) := by
  cases answer with
  | none => exact ⟨sound, .refl w⟩
  | some reason => exact ⟨Workspace.noteSound _ sound, Workspace.noteApart _ w⟩

/- The induction is on the modules that are left; a failure that ends the pass leaves what was written before it. -/
theorem deliverLeaves {ms : List GeneratedSource} {d : Delivery} {o : Output} {result : Except Failure (Delivery × Output)}
    (sound : w.Sound) (marked : ∀ m ∈ ms, isGenerated m.content = true)
    (ran : ((deliver diskAdd diskLog d ms).run o).runIn w = (result, v)) :
    ∃ ps, Wrote (ms.map (o.spot w)) ps w v ∧
      ∀ d' o', result = .ok (d', o') → Enrolled (ms.map fun m => (o.target m).absolute w.cwd) ps o o' := by
  induction ms generalizing d o w with
  | nil =>
    cases ran
    refine ⟨[], .none sound (.refl _), ?_⟩
    rintro _ _ ⟨⟩
    exact ⟨⟨rfl, rfl⟩, by simp, by simp, rfl⟩
  | cons m rest ih =>
    rw [deliverRun] at ran
    cases handed : (o.handOver m).runIn w with
    | mk outcome u =>
      obtain ⟨ps, first, kept⟩ := handOverLeaves sound (marked m List.mem_cons_self) handed
      rw [handed] at ran
      cases outcome with
      | error f =>
        cases ran
        have more : [o.spot w m] ⊆ (m :: rest).map (o.spot w) := by simp
        exact ⟨ps, { first with within := fun s member => more (first.within member) }, by simp⟩
      | ok pair =>
        obtain ⟨answer, p⟩ := pair
        dsimp only at ran
        have enrolled := kept answer p rfl
        obtain ⟨still, told⟩ := heardApart m answer first.sound
        have next := first.after still told
        obtain ⟨qs, others, last⟩ := ih still (fun n member => marked n (List.mem_cons_of_mem _ member)) ran
        have target (n : GeneratedSource) : p.target n = o.target n := targetSame enrolled.aims n
        have cwd := next.apart.cwd
        have spots : rest.map (p.spot (heard m answer u)) = rest.map (o.spot w) := by
          refine List.map_congr_left fun n _ => ?_
          unfold spot
          rw [target, cwd]
        have whole := next.trans (spots ▸ others)
        refine ⟨ps ++ qs, whole, ?_⟩
        intro d' o' ended
        have tail := last d' o' ended
        have resolved : (rest.map fun n => (p.target n).absolute (heard m answer u).cwd) =
            rest.map fun n => (o.target n).absolute w.cwd := by
          refine List.map_congr_left fun n _ => ?_
          rw [target, cwd]
        exact enrolled.trans (resolved ▸ tail)

theorem Accepted.filled {o o' : Output} {m : GeneratedSource} (sound : w.Sound) (marked : isGenerated m.content = true)
    (accepted : Accepted o m w o' v) : v.Filled (o.spot w m) := by
  cases accepted with
  | current rs x probed noted kept =>
    have known : w.tree.begun (o.spot w m) = true := currentBegun sound marked probed
    rw [noted]
    exact (Workspace.Filled.ofBegun known).kept (Workspace.notedApart rs w) (by simp)
  | written rs later x probed wrote noted kept =>
    obtain ⟨_, _, bytes, _⟩ := writeAtomicallyLeaves (Workspace.notedSound rs sound) wrote
    rw [(Workspace.notedApart rs w).cwd] at bytes
    rw [noted]
    exact (Workspace.Filled.ofBegun (FileTree.begunIf bytes (encodedBegins marked))).kept
      (Workspace.notedApart later x) (by simp)

/- The induction is on the modules that are left. What was accepted once is replaced by generated modules only. -/
theorem deliverFills {ms : List GeneratedSource} {d d' : Delivery} {o o' : Output} (sound : w.Sound)
    (marked : ∀ m ∈ ms, isGenerated m.content = true) (isReal : o.dryRun = false)
    (ok : ((deliver diskAdd diskLog d ms).run o).runIn w = (.ok (d', o'), v)) (fine : d'.writeErrors = []) :
    ∀ m ∈ ms, v.Filled (o.spot w m) := by
  induction ms generalizing d o w with
  | nil => simp
  | cons m rest ih =>
    obtain ⟨p, u, step, still, later⟩ := deliverAccepted sound isReal ok fine
    have others : ∀ n ∈ rest, isGenerated n.content = true := fun n member => marked n (List.mem_cons_of_mem _ member)
    obtain ⟨ps, wrote, _⟩ := deliverLeaves step.sound others later
    intro n member
    rcases List.mem_cons.mp member with rfl | deeper
    · exact wrote.keepsFilled (step.accepted.filled sound (marked n List.mem_cons_self))
    · exact step.spot ▸ ih step.sound others still later n deeper

theorem passLeaves {options : PassOptions} {units : List SourceUnit} {o : Output}
    {result : Except Failure (PassResult × Output)} (sound : w.Sound)
    (ran : (passOnto o options units).runIn w = (result, v)) :
    ∃ ps, Wrote ((handed options units).map (o.spot w)) ps w v ∧ ∀ pass p, result = .ok (pass, p) →
      Enrolled ((handed options units).map fun m => (o.target m).absolute w.cwd) ps o p := by
  let records := (Analysis.ofUnits options.warningsAsErrors units).records
  have before := Workspace.notedApart records w
  cases delivered : ((deliver diskAdd diskLog {} (handed options units)).run o).runIn (w.noted records) with
  | mk outcome u =>
    obtain ⟨ps, wrote, kept⟩ := deliverLeaves (Workspace.notedSound records sound) (fun m => handedMarked) delivered
    have whole := Wrote.before (Workspace.notedSound records sound) before wrote
    rw [o.spotNoted records w] at whole
    cases outcome with
    | ok pair =>
      obtain ⟨d, q⟩ := pair
      rw [passRun delivered] at ran
      cases ran
      refine ⟨ps, whole.after (Workspace.noteSound _ wrote.sound) (Workspace.noteApart _ u), ?_⟩
      rintro _ _ ⟨⟩
      exact before.cwd ▸ kept d q rfl
    | error f =>
      have stopped : (passOnto o options units).runIn w = (.error f, u) := by
        unfold handed at delivered
        rw [passRuns]
        unfold runPass
        rw [stateBindOf (recordsRun _ o), StateT.run_bind, bindIn, delivered]
      rw [stopped] at ran
      cases ran
      exact ⟨ps, whole, by simp⟩

theorem passFills {options : PassOptions} {units : List SourceUnit} {o p : Output} {pass : PassResult} (sound : w.Sound)
    (isReal : o.dryRun = false) (ran : (passOnto o options units).runIn w = (.ok (pass, p), v))
    (fine : pass.writeErrors = []) : ∀ m ∈ handed options units, v.Filled (o.spot w m) := by
  obtain ⟨d, u, delivered, rfl, rfl⟩ := passStages ran
  let records := (Analysis.ofUnits options.warningsAsErrors units).records
  intro m member
  have filled := deliverFills (Workspace.notedSound records sound) (fun m => handedMarked) isReal delivered fine m member
  rw [o.spotNoted records w] at filled
  exact filled.kept (Workspace.noteApart _ u) (by simp)

/-! Pruning. -/

/-- What pruning takes away, up to the end or to the first file that cannot be removed. -/
structure Taken (o : Output) (seen cs gone : List Path) (w : Workspace) (p : Output) (v : Workspace) : Prop where
  sound : v.Sound
  apart : w.Apart (gone.map Path.parts) v
  same : p = { o with removed := o.removed ++ gone, obsolete := p.obsolete }
  distinct : gone.Nodup
  each : ∀ c ∈ gone, c ∈ cs ∧ c ∉ o.registered ∧ c ∉ seen ∧ (w.tree.bytes? c.parts).isSome = true ∧
    v.tree.bytes? c.parts = none

theorem removeFileTells (unflawed : p.flaw? = none) (w : Workspace) :
    (∃ v, (removeFile p).runIn w = (.ok (), v)) ∨ ∃ f, (removeFile p).runIn w = (.error (.file f), w) := by
  cases removed : (removeFile p).runIn w with
  | mk result v =>
    cases result with
    | ok _ => exact .inl ⟨v, rfl⟩
    | error f =>
      have still := removeFileFails removed
      subst still
      refine .inr ?_
      unfold removeFile refuseFlawed at removed
      have fine : (orFlawed none).runIn v = (.ok (), v) := rfl
      rw [unflawed, bindOf fine, bindOf (getIn v)] at removed
      dsimp only at removed
      split at removed
      · cases removed
        exact ⟨_, rfl⟩
      · rw [bindIn, locateIn] at removed
        cases located : v.tree.locate v.cwd p with
        | error o =>
          rw [located] at removed
          cases removed
          exact ⟨_, rfl⟩
        | ok s =>
          simp only [located] at removed
          rw [bindOf (getIn v)] at removed
          split at removed
          · cases removed
          · cases removed
            exact ⟨_, rfl⟩
          · cases removed
            exact ⟨_, rfl⟩

theorem pruneRun {c : Path} (unflawed : c.firstFlaw? = none) (o : Output) (seen rest : List Path) (w : Workspace) :
    (o.pruneFrom seen (c :: rest)).runIn w =
      let q := c.absolute w.cwd
      if o.registered.contains q || seen.contains q then (o.pruneFrom seen rest).runIn w
      else if o.dryRun then ({ o with obsolete := o.obsolete ++ [c] }.pruneFrom (q :: seen) rest).runIn w
      else match (attempt (removeFile c)).runIn w with
      | (.ok (.ok ()), u) => ({ o with removed := o.removed ++ [c] }.pruneFrom (q :: seen) rest).runIn
          (u.note ⟨Log.info, logger, "Removed obsolete " ++ c.text⟩)
      | (.ok (.error f), u) =>
        if f.obstacle = .missing then (o.pruneFrom (q :: seen) rest).runIn u else (.ok (o, some (.file f)), u)
      | (.error f, u) => (.error f, u) := by
  rw [pruneFrom]
  simp only [unflawed]
  rw [bindOf (getIn w)]
  split
  · rfl
  · split
    · rfl
    · rw [bindIn]
      cases (attempt (removeFile c)).runIn w with
      | mk result u =>
        cases result with
        | error f => rfl
        | ok tried =>
          cases tried with
          | ok _ => rfl
          | error f => simp only; split <;> rfl

theorem removedLeaves {u : Workspace} (r : Log.Record) (sound : w.Sound) (usable : p.Usable)
    (removed : (removeFile p).runIn w = (.ok (), u)) :
    (u.note r).Sound ∧ w.Apart [p.parts] (u.note r) ∧ (w.tree.bytes? p.parts).isSome = true ∧
      (u.note r).tree.bytes? p.parts = none := by
  obtain ⟨still, apart, absent⟩ := removeFileLeaves sound removed
  obtain ⟨s, bytes, located, file, _⟩ := removeFileOk removed
  have spot := sound.located located
  have noted := Workspace.noteApart r u
  have holds := noted.holds p.parts (by simp)
  rw [usable.straight.absolute] at apart absent spot
  refine ⟨Workspace.noteSound r still, apart.after noted, ?_, ?_⟩
  · rw [← spot, (FileTree.bytesIff _ _ _).mpr file]
    rfl
  · simpa [absent] using holds

/-- A candidate that was removed first is gone for good, and those to come have other spots. -/
theorem Taken.first {o p : Output} {seen rest gone : List Path} {c : Path} {u : Workspace}
    (fresh : c ∉ o.registered ∧ c ∉ seen) (step : w.Apart [c.parts] u) (held : (w.tree.bytes? c.parts).isSome = true)
    (absent : u.tree.bytes? c.parts = none)
    (tail : Taken { o with removed := o.removed ++ [c] } (c :: seen) rest gone u p v) :
    Taken o seen (c :: rest) (c :: gone) w p v := by
  refine ⟨tail.sound, step.trans tail.apart, ?_, ?_, ?_⟩
  · rw [tail.same]
    simp
  · exact List.nodup_cons.mpr ⟨fun again => (tail.each c again).2.2.1 List.mem_cons_self, tail.distinct⟩
  · intro d member
    rcases List.mem_cons.mp member with rfl | deeper
    · -- Another candidate may have led to the same spot.
      refine ⟨List.mem_cons_self, fresh.1, fresh.2, held, ?_⟩
      by_cases again : d.parts ∈ gone.map Path.parts
      · obtain ⟨q, known, same⟩ := List.mem_map.mp again
        exact same ▸ (tail.each q known).2.2.2.2
      · have holds := tail.apart.holds d.parts again
        simpa [absent] using holds
    · obtain ⟨inside, outside, unseen, there, none⟩ := tail.each d deeper
      refine ⟨List.mem_cons_of_mem _ inside, outside, fun known => unseen (List.mem_cons_of_mem _ known), ?_, none⟩
      have other : d.parts ∉ [c.parts] := by
        intro same
        rw [List.mem_singleton.mp same, absent] at there
        cases there
      rw [← step.holds d.parts other]
      exact there

theorem Taken.later {o q p : Output} {seen seen' rest gone : List Path} (c : Path) (more : seen ⊆ seen')
    (same : q = { o with obsolete := q.obsolete }) (tail : Taken q seen' rest gone w p v) :
    Taken o seen (c :: rest) gone w p v := by
  refine ⟨tail.sound, tail.apart, ?_, tail.distinct, fun d member => ?_⟩
  · rw [tail.same, same]
  · obtain ⟨inside, outside, unseen, held, none⟩ := tail.each d member
    rw [same] at outside
    exact ⟨List.mem_cons_of_mem _ inside, outside, fun known => unseen (more known), held, none⟩

/- The induction is on the candidates that are left. -/
theorem pruneLeaves {cs : List Path} (o : Output) (seen : List Path) (sound : w.Sound) (usable : ∀ c ∈ cs, c.Usable) :
    ∃ p failure v gone, (o.pruneFrom seen cs).runIn w = (.ok (p, failure), v) ∧ Taken o seen cs gone w p v ∧
      ∀ f, failure = some f → ∃ g, f = .file g := by
  induction cs generalizing o seen w with
  | nil => exact ⟨o, none, w, [], rfl, ⟨sound, .refl w, by simp, by simp, by simp⟩, by simp⟩
  | cons c rest ih =>
    have own := usable c List.mem_cons_self
    have others : ∀ q ∈ rest, q.Usable := fun q member => usable q (List.mem_cons_of_mem _ member)
    have passed : seen ⊆ c :: seen := fun _ known => List.mem_cons_of_mem _ known
    rw [pruneRun own.firstUnflawed]
    simp only [own.straight.absolute]
    split
    · obtain ⟨p, failure, v, gone, ran, tail, filed⟩ := ih o seen sound others
      exact ⟨p, failure, v, gone, ran, tail.later c (fun _ known => known) rfl, filed⟩
    · rename_i fresh
      simp only [Bool.or_eq_true, List.contains_iff_mem, not_or] at fresh
      split
      · obtain ⟨p, failure, v, gone, ran, tail, filed⟩ := ih { o with obsolete := o.obsolete ++ [c] } (c :: seen) sound others
        exact ⟨p, failure, v, gone, ran, tail.later c passed rfl, filed⟩
      · rw [attemptIn]
        rcases removeFileTells own.unflawed w with ⟨u, removed⟩ | ⟨f, failed⟩
        · rw [removed]
          obtain ⟨still, step, held, absent⟩ :=
            removedLeaves ⟨Log.info, logger, "Removed obsolete " ++ c.text⟩ sound own removed
          obtain ⟨p, failure, v, gone, ran, tail, filed⟩ := ih { o with removed := o.removed ++ [c] } (c :: seen) still others
          exact ⟨p, failure, v, c :: gone, ran, tail.first fresh step held absent, filed⟩
        · rw [failed]
          dsimp only
          split
          · obtain ⟨p, failure, v, gone, ran, tail, filed⟩ := ih o (c :: seen) sound others
            exact ⟨p, failure, v, gone, ran, tail.later c passed rfl, filed⟩
          · refine ⟨o, some (.file f), w, [], rfl, ⟨sound, .refl w, by simp, by simp, by simp⟩, ?_⟩
            rintro _ ⟨⟩
            exact ⟨f, rfl⟩

end Output

end AccessorForge
