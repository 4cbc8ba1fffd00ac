import AccessorForge.Proofs.Setbacks
/-! Jobs that fail for want of files only. A failure of this kind becomes part of a result; the others, which come from
names that no file can have and from texts without bytes, stop a command. -/
namespace AccessorForge
open Job Running
variable {α β : Type} {w v : Workspace} {p : Path}

namespace Job

/-- A job that fails only where an operation on files is not possible. -/
def FailsOnFiles (x : Job α) : Prop := ∀ w v f, x.runIn w = (.error f, v) → ∃ fault, f = .file fault

theorem onFilesPure (a : α) : (pure a : Job α).FailsOnFiles := by
  intro w v f failed
  cases failed

theorem onFilesThrow (fault : FileFault) : (throw (.file fault) : Job α).FailsOnFiles := by
  intro w v f failed
  cases failed
  exact ⟨fault, rfl⟩

theorem onFilesObstruct (o : Obstacle) (p : Path) : (obstruct o p : Job α).FailsOnFiles := onFilesThrow _

theorem onFilesGet : (get : Job Workspace).FailsOnFiles := by
  intro w v f failed
  cases failed

theorem onFilesModify (change : Workspace → Workspace) : (modify change : Job Unit).FailsOnFiles := by
  intro w v f failed
  cases failed

theorem onFilesSet (u : Workspace) : (set u : Job Unit).FailsOnFiles := by
  intro w v f failed
  cases failed

theorem onFilesBind {x : Job α} {f : α → Job β} (first : x.FailsOnFiles) (next : ∀ a, (f a).FailsOnFiles) :
    (x >>= f).FailsOnFiles := by
  intro w v e failed
  rw [bindIn] at failed
  cases ran : x.runIn w with
  | mk result u =>
    rw [ran] at failed
    cases result with
    | ok a => exact next a u v e failed
    | error stopped =>
      cases failed
      exact first w v e ran

theorem onFilesGuard {c : Prop} [Decidable c] {stop : Job PUnit} {rest : PUnit → Job α} (stopped : stop.FailsOnFiles)
    (next : ∀ u, (rest u).FailsOnFiles) : (if c then stop >>= rest else rest ⟨⟩).FailsOnFiles := by
  split
  · exact onFilesBind stopped next
  · exact next ⟨⟩

/-- What fails on files only is not stopped by a failure once this is attempted. -/
theorem attemptEnds {x : Job α} (files : x.FailsOnFiles) (w : Workspace) : ∃ told v, (attempt x).runIn w = (.ok told, v) := by
  rw [attemptIn]
  cases ran : x.runIn w with
  | mk result v =>
    cases result with
    | ok a => exact ⟨_, _, rfl⟩
    | error e =>
      obtain ⟨fault, rfl⟩ := files w v e ran
      exact ⟨_, _, rfl⟩

theorem onFilesAttempt {x : Job α} (files : x.FailsOnFiles) : (attempt x).FailsOnFiles := by
  intro w v f failed
  obtain ⟨told, u, ended⟩ := attemptEnds files w
  cases ended.symm.trans failed

theorem onFilesUnflawed (unflawed : p.flaw? = none) : (refuseFlawed p).FailsOnFiles := by
  intro w v f failed
  unfold refuseFlawed at failed
  rw [unflawed] at failed
  cases failed

theorem onFilesLocate (p : Path) : (locate p).FailsOnFiles := by
  intro w v f failed
  rw [locateIn] at failed
  split at failed
  · cases failed
  · cases failed
    exact ⟨_, rfl⟩

theorem onFilesEntry (p : Path) : FailsOnFiles <| entry? p := by
  intro w v f failed
  rw [entryIn] at failed
  split at failed
  · cases failed
  · cases failed
    exact ⟨_, rfl⟩

theorem onFilesIsFile (p : Path) : (isFile p).FailsOnFiles := onFilesBind (onFilesEntry p) fun _ => onFilesPure _

theorem onFilesIsDirectory (p : Path) : (isDirectory p).FailsOnFiles :=
  onFilesBind (onFilesEntry p) fun _ => onFilesPure _

theorem readBytesStays (unflawed : p.flaw? = none) (w : Workspace) :
    (∃ bytes, (readBytes p).runIn w = (.ok bytes, w)) ∨ ∃ f, (readBytes p).runIn w = (.error (.file f), w) := by
  have fine : (refuseFlawed p).runIn w = (.ok (), w) := by
    unfold refuseFlawed
    rw [unflawed]
    rfl
  unfold readBytes
  rw [bindOf fine, bindOf (getIn w)]
  dsimp only
  split
  · exact .inr ⟨_, rfl⟩
  · rw [bindOf (getIn w), bindIn, locateIn]
    cases w.tree.locate w.cwd p with
    | error o => exact .inr ⟨_, rfl⟩
    | ok s =>
      dsimp only
      split
      · exact .inl ⟨_, rfl⟩
      · exact .inr ⟨_, rfl⟩
      · exact .inr ⟨_, rfl⟩

theorem readTextStays (unflawed : p.flaw? = none) (w : Workspace) :
    ∃ told, (attemptRead (readText p)).runIn w = (.ok told, w) := by
  rw [attemptReadIn]
  unfold readText
  rw [bindIn]
  rcases readBytesStays unflawed w with ⟨bytes, read⟩ | ⟨f, failed⟩
  · rw [read]
    dsimp only
    cases Text.Utf8.decode bytes with
    | ok cs => exact ⟨_, rfl⟩
    | error f => exact ⟨_, rfl⟩
  · rw [failed]
    exact ⟨_, rfl⟩

/-! Writing. -/

theorem parentUnflawed (unflawed : p.flaw? = none) : p.parent.flaw? = none := by
  rw [Path.unflawedIff] at unflawed ⊢
  exact fun n member => unflawed n (List.dropLast_subset _ member)

theorem onFilesMakeDirectory (unflawed : p.flaw? = none) : (makeDirectory p).FailsOnFiles := by
  refine onFilesBind (onFilesUnflawed unflawed) fun _ => onFilesBind (onFilesLocate p) fun s => ?_
  refine onFilesBind onFilesGet fun w => onFilesGuard (onFilesObstruct _ _) fun _ => ?_
  exact onFilesBind onFilesGet fun w => onFilesGuard (onFilesObstruct _ _) fun _ => onFilesModify _

theorem onFilesMakeDirectoryUnlessThere (unflawed : p.flaw? = none) : (makeDirectoryUnlessThere p).FailsOnFiles := by
  refine onFilesBind (onFilesAttempt (onFilesMakeDirectory unflawed)) fun tried => ?_
  cases tried with
  | ok _ => exact onFilesPure _
  | error f =>
    refine onFilesBind (onFilesIsDirectory p) fun there => ?_
    split
    · exact onFilesThrow f
    · exact onFilesPure _

theorem onFilesEnsureDirectory (fuel : Nat) (unflawed : p.flaw? = none) : (ensureDirectory fuel p).FailsOnFiles := by
  induction fuel generalizing p with
  | zero => exact onFilesMakeDirectoryUnlessThere unflawed
  | succ fuel ih =>
    refine onFilesBind (onFilesAttempt (onFilesMakeDirectory unflawed)) fun tried => ?_
    cases tried with
    | ok _ => exact onFilesPure _
    | error f =>
      dsimp only
      split
      · exact onFilesBind (ih (parentUnflawed unflawed)) fun _ => onFilesMakeDirectoryUnlessThere unflawed
      · refine onFilesBind (onFilesIsDirectory p) fun there => ?_
        split
        · exact onFilesThrow f
        · exact onFilesPure _

theorem onFilesMoveOnto (source : Spot) (unflawed : p.flaw? = none) : (moveOnto source p).FailsOnFiles := by
  refine onFilesBind (onFilesUnflawed unflawed) fun _ => onFilesBind onFilesGet fun w => ?_
  refine onFilesGuard (onFilesObstruct _ _) fun _ => onFilesBind onFilesGet fun w => ?_
  split
  · exact onFilesThrow _
  · split
    · exact onFilesThrow _
    · split
      · exact onFilesThrow _
      · exact onFilesSet _
      · exact onFilesThrow _

theorem onFilesCatch {x : Job α} {f : Failure → Job α} (next : ∀ fault, (f (.file fault)).FailsOnFiles)
    (first : x.FailsOnFiles) : (tryCatchThe Failure x f).FailsOnFiles := by
  intro w v e failed
  rw [catchIn] at failed
  cases ran : x.runIn w with
  | mk result u =>
    rw [ran] at failed
    cases result with
    | ok a => cases failed
    | error e' =>
      obtain ⟨fault, rfl⟩ := first w u e' ran
      exact next fault u v e failed

theorem onFilesFill {text : String} (temporary : Spot) (directory : Path) (whole : Text.Surrogate.isBroken text = false) :
    (fill temporary directory text).FailsOnFiles := by
  refine onFilesBind onFilesGet fun w => onFilesGuard (onFilesObstruct _ _) fun _ => ?_
  rw [whole]
  exact onFilesModify _

theorem onFilesWrite {text : String} (unflawed : p.flaw? = none) (whole : Text.Surrogate.isBroken text = false) :
    (writeAtomically p text).FailsOnFiles := by
  refine onFilesBind (onFilesEnsureDirectory _ (parentUnflawed unflawed)) fun _ => onFilesBind onFilesGet fun w => ?_
  refine onFilesGuard (onFilesObstruct _ _) fun _ => onFilesBind (onFilesSet _) fun _ => ?_
  exact onFilesCatch (fun fault => onFilesBind (onFilesModify _) fun _ => onFilesThrow fault)
    (onFilesBind (onFilesFill _ _ whole) fun _ => onFilesMoveOnto _ unflawed)

end Job

/-! Handing modules over. -/

namespace Output
variable {o o' : Output} {m : GeneratedSource}

/-- A file can have the name of the module's target, and what a real run is to put there has bytes. -/
structure Deliverable (o : Output) (m : GeneratedSource) : Prop where
  unflawed : (o.target m).flaw? = none
  whole : o.dryRun = false → Text.Surrogate.isBroken m.content = false

theorem Deliverable.onwards (ready : o.Deliverable m) (more : o.Extends o') : o'.Deliverable m := by
  refine ⟨?_, fun isReal => ready.whole (more.aims.2.1.symm.trans isReal)⟩
  rw [targetSame ⟨more.aims.1, more.aims.2.2⟩]
  exact ready.unflawed

theorem onFilesProbe {text : String} (unflawed : p.flaw? = none) : (probe p text).FailsOnFiles := by
  refine onFilesBind (onFilesIsFile p) fun there => ?_
  cases there with
  | false => exact onFilesPure _
  | true =>
    intro w v f failed
    obtain ⟨told, ran⟩ := readTextStays unflawed w
    simp only [if_true] at failed
    unfold isCurrent at failed
    rw [bindOf ran] at failed
    cases told <;> cases failed

theorem onFilesChange (unflawed : p.flaw? = none) (whole : o.dryRun = false → Text.Surrogate.isBroken m.content = false) :
    (o.change p m).FailsOnFiles := by
  unfold change
  split
  · exact onFilesPure _
  · rename_i isReal
    refine onFilesBind (onFilesAttempt (onFilesWrite unflawed (whole (by simpa using isReal)))) fun tried => ?_
    cases tried with
    | error f => exact onFilesBind (onFilesModify _) fun _ => onFilesThrow f
    | ok _ => exact onFilesBind (onFilesModify _) fun _ => onFilesPure _

theorem handOverEnds (ready : o.Deliverable m) (w : Workspace) :
    ∃ answer o' v, (o.handOver m).runIn w = (.ok (answer, o'), v) := by
  have first : (o.target m).firstFlaw? = none := (Path.firstUnflawedIff _).mpr ((Path.unflawedIff _).mp ready.unflawed)
  rw [handOverRun first, updateProbes]
  cases probed : (probe (o.target m) m.content).runIn w with
  | mk result u =>
    cases result with
    | error f =>
      obtain ⟨fault, rfl⟩ := onFilesProbe ready.unflawed w u f probed
      exact ⟨_, _, _, rfl⟩
    | ok current =>
      cases current with
      | true => exact ⟨_, _, _, rfl⟩
      | false =>
        dsimp only
        cases changed : ((o.enrol m w).change (o.target m) m).runIn u with
        | mk result v =>
          cases result with
          | ok p => exact ⟨_, _, _, rfl⟩
          | error f =>
            obtain ⟨fault, rfl⟩ := onFilesChange (o := o.enrol m w) ready.unflawed ready.whole u v f changed
            exact ⟨_, _, _, rfl⟩

/-- Whether an output says of a path that its file is up to date by now, or would be after a real run. -/
def Notes (o : Output) (p : Path) : Prop := p ∈ o.written ∨ p ∈ o.unchanged ∨ p ∈ o.pending

/-- What was noted stays noted, also of files that were left alone. -/
structure Onwards (o o' : Output) : Prop where
  more : o.Extends o'
  unchanged : o.unchanged <+: o'.unchanged

theorem Onwards.refl (o : Output) : o.Onwards o := ⟨.refl o, List.prefix_rfl⟩

theorem Onwards.trans {q : Output} (earlier : o.Onwards o') (later : o'.Onwards q) : o.Onwards q :=
  ⟨earlier.more.trans later.more, earlier.unchanged.trans later.unchanged⟩

theorem Onwards.notes (onwards : o.Onwards o') (noted : o.Notes p) : o'.Notes p := by
  rcases noted with inside | inside | inside
  · exact .inl (onwards.more.written.subset inside)
  · exact .inr (.inl (onwards.unchanged.subset inside))
  · exact .inr (.inr (onwards.more.pending.subset inside))

theorem handOverNotes {answer : Option String} (ok : (o.handOver m).runIn w = (.ok (answer, o'), v)) :
    o.Onwards o' ∧ (answer = none → o'.Notes (o.target m)) ∧ ∀ reason, answer = some reason → ∃ f : FileFault, reason = f.message := by
  have more := handOverExtends ok
  cases handOverCases ok with
  | current u probed =>
    exact ⟨⟨more, List.prefix_append _ _⟩, fun _ => .inr (.inl (List.mem_append_right _ List.mem_cons_self)), by simp⟩
  | refused u v f probed ran => exact ⟨⟨more, List.prefix_rfl⟩, by simp, fun _ same => ⟨f, (Option.some.inj same).symm⟩⟩
  | unanswered u f probed => exact ⟨⟨more, List.prefix_rfl⟩, by simp, fun _ same => ⟨f, (Option.some.inj same).symm⟩⟩
  | changed u v p probed ran =>
    cases isDry : o.dryRun with
    | true =>
      cases Except.ok.inj (changeDry (o := o.enrol m w) isDry ran)
      exact ⟨⟨more, List.prefix_rfl⟩, fun _ => .inr (.inr (List.mem_append_right _ List.mem_cons_self)), by simp⟩
    | false =>
      cases changeReal (o := o.enrol m w) isDry ran
      exact ⟨⟨more, List.prefix_rfl⟩, fun _ => .inl (List.mem_append_right _ List.mem_cons_self), by simp⟩

end Output

/-- Of every module there is word: it was taken, or an error names it and says why it could not be written. -/
def Delivery.Accounts (d : Delivery) (o o' : Output) (ms : List GeneratedSource) : Prop :=
  ∀ m ∈ ms, (m ∈ d.sources ∧ o'.Notes (o.target m)) ∨ ∃ f : FileFault, writeError m f.message ∈ d.writeErrors

namespace Output
variable {o o' : Output}

theorem noteKept (d : Delivery) (m : GeneratedSource) (answer : Option String) :
    d.sources <+: (d.note m answer).sources ∧ d.writeErrors <+: (d.note m answer).writeErrors := by
  cases answer with
  | none => exact ⟨List.prefix_append _ _, List.prefix_rfl⟩
  | some reason => exact ⟨List.prefix_rfl, List.prefix_append _ _⟩

/- The induction is on the modules that are left. An output that goes on keeps its targets, so that what can be handed
over at the start can be handed over when its turn comes. -/
theorem deliverEnds {ms : List GeneratedSource} (d : Delivery) (ready : ∀ m ∈ ms, o.Deliverable m) (w : Workspace) :
    ∃ d' o' v, ((deliver diskAdd diskLog d ms).run o).runIn w = (.ok (d', o'), v) ∧ o.Onwards o' ∧
      d.sources <+: d'.sources ∧ d.writeErrors <+: d'.writeErrors ∧ d'.Accounts o o' ms := by
  induction ms generalizing d o w with
  | nil => exact ⟨d, o, w, rfl, .refl o, List.prefix_rfl, List.prefix_rfl, by simp [Delivery.Accounts]⟩
  | cons m rest ih =>
    obtain ⟨answer, p, u, handed⟩ := handOverEnds (ready m List.mem_cons_self) w
    obtain ⟨first, taken, refused⟩ := handOverNotes handed
    obtain ⟨d', o', v, later, onwards, sources, errors, accounted⟩ := ih (d.note m answer)
      (fun n member => (ready n (List.mem_cons_of_mem _ member)).onwards first.more) (heard m answer u)
    have kept := noteKept d m answer
    refine ⟨d', o', v, ?_, first.trans onwards, kept.1.trans sources, kept.2.trans errors, fun n member => ?_⟩
    · rw [deliverRun, handed]
      exact later
    · rcases List.mem_cons.mp member with rfl | deeper
      · cases answer with
        | none =>
          exact .inl ⟨sources.subset (List.mem_append_right _ List.mem_cons_self), onwards.notes (taken rfl)⟩
        | some reason =>
          obtain ⟨f, rfl⟩ := refused reason rfl
          exact .inr ⟨f, errors.subset (List.mem_append_right _ List.mem_cons_self)⟩
      · have target := targetSame ⟨first.more.aims.1, first.more.aims.2.2⟩ n
        exact target ▸ accounted n deeper

/-- A pass ends if what it hands over can be delivered, and says of every module what became of it. -/
theorem passEnds {options : PassOptions} {units : List SourceUnit} (ready : ∀ m ∈ handed options units, o.Deliverable m)
    (w : Workspace) : ∃ d o' v,
      (passOnto o options units).runIn w = (.ok ((Analysis.ofUnits options.warningsAsErrors units).result d, o'), v) ∧
      o.Onwards o' ∧ d.Accounts o o' (handed options units) := by
  obtain ⟨d, o', v, delivered, onwards, _, _, accounted⟩ := deliverEnds {} ready
    (w.noted (Analysis.ofUnits options.warningsAsErrors units).records)
  exact ⟨d, o', _, passRun delivered, onwards, accounted⟩

end Output

end AccessorForge
