import AccessorForge.Proofs.Encoding
import AccessorForge.Proofs.Rereading
/-! What stands after a real run that nothing logs into a file. Every target of its own holds its module's text,
also when reading it back unifies line ends, and no directory comes or goes when obsolete modules are removed. -/
namespace AccessorForge
open Job Running
variable {w v : Workspace} {r : Request} {g : Generation}

namespace Workspace

theorem textWritten {p : Path} {text : String} (fits : p.Fits) (readable : p.text ∉ w.refusals.reading)
    (plain : '\r' ∉ text.toList) (bytes : w.tree.bytes? p.parts = some (Text.Utf8.encode text.toList)) :
    w.text? p = some text := by
  have short : ¬ Path.maxPathBytes < Path.byteCount p.text := Nat.not_lt.mpr fits
  have held : w.held? p = some (Text.Utf8.encode text.toList) := by
    unfold held?
    rw [if_neg (by simp [readable, short]), bytes]
  unfold text?
  rw [held, Option.bind_some, Text.Utf8.encodedDecodes]
  have unified := @Text.LineEnds.unify_of_noReturn text.toList fun c member same => plain (same ▸ member)
  simp only [Except.toOption, Option.map_some, unified, String.ofList_toList]

end Workspace

namespace Output

/-- A module's file can be used, and it holds the module. -/
structure Stands (v : Workspace) (p : Path) (m : GeneratedSource) : Prop where
  usable : p.Usable
  fits : p.Fits
  text : v.text? p = some m.content

theorem Accepted.stands {o o' : Output} {m : GeneratedSource} (sound : w.Sound) (unlogged : w.logFile = none)
    (straight : (o.target m).Straight) (readable : (o.target m).text ∉ w.refusals.reading)
    (plain : '\r' ∉ m.content.toList) (accepted : Accepted o m w o' v) : Stands v (o.target m) m := by
  obtain ⟨usable, fits⟩ := accepted.usable sound straight
  refine ⟨usable, fits, ?_⟩
  cases accepted with
  | current rs x probed noted kept =>
    obtain ⟨ws, told⟩ := probeIn sound usable fits m.content
    have current : w.text? (o.target m) = some m.content := by
      have same := Except.ok.inj (Prod.mk.inj (told.symm.trans probed)).1
      simpa using same
    rw [noted, ← current]
    exact Workspace.textSame (Workspace.notedApart rs w).refusals (by rw [Workspace.notedTree rs unlogged])
  | written rs later x probed wrote noted kept =>
    have before := Workspace.notedApart rs w
    obtain ⟨_, apart, bytes, _⟩ := writeAtomicallyLeaves (Workspace.notedSound rs sound) wrote
    rw [straight.absolute] at bytes
    have after := Workspace.notedApart later x
    have still : x.logFile = none := apart.logFile.trans (before.logFile.trans unlogged)
    refine Workspace.textWritten fits ?_ plain ?_
    · rw [noted, after.refusals, apart.refusals, before.refusals]
      exact readable
    · rw [noted, Workspace.notedTree later still]
      exact bytes

/- The induction is on the modules that are left. Those to come go elsewhere, so that what was accepted stands. -/
theorem deliverStands {ms : List GeneratedSource} {d d' : Delivery} {o o' : Output} (sound : w.Sound)
    (unlogged : w.logFile = none) (isReal : o.dryRun = false)
    (ok : ((deliver diskAdd diskLog d ms).run o).runIn w = (.ok (d', o'), v)) (fine : d'.writeErrors = [])
    (straight : ∀ m ∈ ms, (o.target m).Straight) (distinct : (ms.map (o.spot w)).Nodup)
    (readable : ∀ m ∈ ms, (o.target m).text ∉ w.refusals.reading) (plain : ∀ m ∈ ms, '\r' ∉ m.content.toList) :
    ∀ m ∈ ms, Stands v (o.target m) m := by
  induction ms generalizing d o w with
  | nil => simp
  | cons m rest ih =>
    obtain ⟨p, u, step, still, later⟩ := deliverAccepted sound isReal ok fine
    have silent := step.apart.logFile.trans unlogged
    obtain ⟨fresh, others⟩ := List.nodup_cons.mp distinct
    have tail := ih step.sound silent still later
      (fun n member => step.target n ▸ straight n (List.mem_cons_of_mem _ member)) (step.spot ▸ others)
      (fun n member => step.target n ▸ step.apart.refusals ▸ readable n (List.mem_cons_of_mem _ member))
      (fun n member => plain n (List.mem_cons_of_mem _ member))
    have settled := deliverReal step.sound still later fine
    intro n member
    rcases List.mem_cons.mp member with rfl | deeper
    · obtain ⟨usable, fits, text⟩ := step.accepted.stands sound unlogged (straight n List.mem_cons_self)
        (readable n List.mem_cons_self) (plain n List.mem_cons_self)
      have own : o.spot w n = (o.target n).parts := by
        unfold spot
        rw [usable.straight.absolute]
      refine ⟨usable, fits, ?_⟩
      rw [← text]
      refine Workspace.textSame settled.apart.refusals (settled.apart.same _ ?_ ?_)
      · rw [step.spot, ← own]
        exact fresh
      · simp [silent]
    · exact step.target n ▸ tail n deeper

theorem passStands {options : PassOptions} {units : List SourceUnit} {o p : Output} {pass : PassResult}
    (sound : w.Sound) (unlogged : w.logFile = none) (isReal : o.dryRun = false)
    (ran : (passOnto o options units).runIn w = (.ok (pass, p), v)) (fine : pass.writeErrors = [])
    (straight : ∀ m ∈ handed options units, (o.target m).Straight)
    (distinct : ((handed options units).map (o.spot w)).Nodup)
    (readable : ∀ m ∈ handed options units, (o.target m).text ∉ w.refusals.reading)
    (plain : ∀ m ∈ handed options units, '\r' ∉ m.content.toList) :
    ∀ m ∈ handed options units, Stands v (o.target m) m := by
  obtain ⟨d, u, delivered, rfl, rfl⟩ := passStages ran
  let records := (Analysis.ofUnits options.warningsAsErrors units).records
  have before := Workspace.notedApart records w
  have ready := Workspace.notedSound records sound
  have silent := before.logFile.trans unlogged
  have stands := deliverStands ready silent isReal delivered fine straight (o.spotNoted records w ▸ distinct)
    (fun m member => before.refusals ▸ readable m member) plain
  have settled := deliverReal ready isReal delivered fine
  intro m member
  obtain ⟨usable, fits, text⟩ := stands m member
  refine ⟨usable, fits, ?_⟩
  have last := Workspace.noteApart ((Analysis.ofUnits options.warningsAsErrors units).result d).record u
  rw [← text]
  exact Workspace.textSame last.refusals (last.same _ (by simp) (by simp [settled.apart.logFile.trans silent]))

/-! Pruning. -/

theorem notedBack (rs : List Log.Record) (w : Workspace) : (w.noted rs).tree.Grown w.tree := by
  intro s there
  have kinds := (Workspace.notedShape rs w).kinds s
  rw [there] at kinds
  cases before : w.tree.get? s with
  | none => simp [before] at kinds
  | some e =>
    cases e with
    | directory => rfl
    | file bytes => simp [before, Entry.isFile] at kinds

theorem removedBack {p : Path} (gone : (removeFile p).runIn w = (.ok (), v)) : v.tree.Grown w.tree := by
  obtain ⟨s, bytes, located, file, rfl⟩ := removeFileOk gone
  intro r there
  have other : r ≠ s := by
    rintro rfl
    rw [FileTree.get?_erase_self _ (Workspace.spotBelow file)] at there
    cases there
  rwa [FileTree.get?_erase_of_ne _ other] at there

/-- Pruning changes no files but the candidates that nobody registered, and it makes no directories. -/
theorem pruneApart {cs : List Path} {o p : Output} {seen : List Path} (sound : w.Sound) (isReal : o.dryRun = false)
    (usable : ∀ c ∈ cs, c.Usable) (ran : (o.pruneFrom seen cs).runIn w = (.ok (p, none), v)) :
    w.Apart ((cs.filter fun c => !o.registered.contains c).map Path.parts) v ∧ v.tree.Grown w.tree := by
  induction cs generalizing o seen w with
  | nil =>
    cases ran
    exact ⟨.refl _, fun s there => there⟩
  | cons c rest ih =>
    have own := usable c List.mem_cons_self
    have others : ∀ q ∈ rest, q.Usable := fun q member => usable q (List.mem_cons_of_mem _ member)
    have fewer : (rest.filter fun c => !o.registered.contains c).map Path.parts ⊆
        ((c :: rest).filter fun c => !o.registered.contains c).map Path.parts :=
      List.map_subset _ ((List.sublist_cons_self c rest).filter _).subset
    cases pruneCleans isReal own ran with
    | known met later =>
      obtain ⟨apart, back⟩ := ih sound isReal others later
      exact ⟨apart.mono fewer, back⟩
    | missed f fresh failed missing later =>
      obtain ⟨apart, back⟩ := ih sound isReal others later
      exact ⟨apart.mono fewer, back⟩
    | removed u fresh gone later =>
      let r : Log.Record := ⟨Log.info, logger, "Removed obsolete " ++ c.text⟩
      obtain ⟨still, first, _⟩ := removeFileLeaves sound gone
      obtain ⟨apart, back⟩ := ih (o := { o with removed := o.removed ++ [c] }) (Workspace.noteSound r still) isReal
        others later
      rw [own.straight.absolute] at first
      have unregistered : (!o.registered.contains c) = true := by
        simp only [Bool.or_eq_true, not_or] at fresh
        simpa using fresh.1
      refine ⟨((first.after (Workspace.noteApart r u)).trans apart).mono ?_, fun s there => ?_⟩
      · have whole : (c :: rest).filter (fun c => !o.registered.contains c) =
            c :: rest.filter fun c => !o.registered.contains c := List.filter_cons_of_pos unregistered
        rw [whole]
        exact fun s member => member
      · exact removedBack gone s (notedBack [r] u s (back s there))

end Output

namespace Completed

theorem silent (run : Completed r w g v) (sound : w.Sound) (unlogged : w.logFile = none) :
    run.ready.logFile = none ∧ run.loaded.tree = w.tree ∧ run.ready.tree = w.tree := by
  obtain ⟨_, _, scanned, loaded⟩ := run.readySound sound
  obtain ⟨rs, first⟩ := notedIn (Settings.calmLoad _ _) run.load
  obtain ⟨ss, second⟩ := notedIn (Forest.calmLoad _ _ _) run.scan
  have quiet := loaded.logFile.trans unlogged
  have same : run.loaded.tree = w.tree := by rw [first, Workspace.notedTree rs unlogged]
  refine ⟨scanned.logFile.trans quiet, same, ?_⟩
  rw [second, Workspace.notedTree ss quiet, same]

theorem pruneFrame (run : Completed r w g v) (sound : w.Sound) (accepted : g.pass.writeErrors = []) :
    run.passed.Apart ((run.candidates.filter fun c => !run.filled.registered.contains c).map Path.parts) v ∧
      v.tree.Grown run.passed.tree := by
  obtain ⟨_, settled, _⟩ := run.settled sound accepted
  obtain ⟨listedSound, listed⟩ := run.listedSound sound accepted
  obtain ⟨rs, calm⟩ := notedIn (r.calmObsoleteCandidates _ _) run.list
  obtain ⟨pruned, back⟩ := Output.pruneApart listedSound settled.aims.2.1
    (fun c member => (run.candidatesUsable sound accepted c member).1) run.prune
  have noted : run.pruned.Apart [] v := by
    have last := Workspace.noteApart run.last run.pruned
    rwa [← run.noted] at last
  refine ⟨(listed.before pruned).after noted, fun s there => ?_⟩
  have kept : run.pruned.tree.get? s = some .directory := by
    refine Output.notedBack [run.last] run.pruned s ?_
    rwa [run.noted] at there
  have before := back s kept
  rw [calm] at before
  exact Output.notedBack rs run.passed s before

theorem grown (run : Completed r w g v) (sound : w.Sound) (accepted : g.pass.writeErrors = []) :
    w.tree.Grown v.tree := by
  obtain ⟨_, _, scanned, loaded⟩ := run.readySound sound
  obtain ⟨_, settled, _⟩ := run.settled sound accepted
  have pruned := (run.pruneFrame sound accepted).1
  exact fun s there => pruned.grown s (settled.apart.grown s (scanned.grown s (loaded.grown s there)))

theorem stands (run : Completed r w g v) (sound : w.Sound) (named : w.tree.Named) (unlogged : w.logFile = none)
    (accepted : g.pass.writeErrors = []) (distinct : run.spots.Nodup)
    (readable : ∀ m ∈ run.modules, (run.start.target m).text ∉ w.refusals.reading)
    (plain : ∀ m ∈ run.modules, '\r' ∉ m.content.toList) :
    ∀ m ∈ run.modules, Output.Stands v (run.start.target m) m := by
  obtain ⟨_, ready, _, _⟩ := run.readySound sound
  obtain ⟨_, constant, passed, _, _⟩ := run.constant sound accepted
  have stood := Output.passStands ready (run.silent sound unlogged).1 rfl run.pass accepted
    (fun m member => (run.targetStraight sound named member).1) distinct
    (fun m member => constant.refusals ▸ readable m member) plain
  have frame := (run.pruneFrame sound accepted).1
  intro m member
  obtain ⟨usable, fits, text⟩ := stood m member
  refine ⟨usable, fits, ?_⟩
  rw [← text]
  refine Workspace.textSame frame.refusals (frame.same _ ?_ (by simp [passed.logFile.trans unlogged]))
  intro removed
  obtain ⟨c, candidate, same⟩ := List.mem_map.mp removed
  obtain ⟨inside, outside⟩ := List.mem_filter.mp candidate
  have unregistered : c ∉ run.filled.registered := by simpa using outside
  rw [run.registered sound accepted (run.candidatesUsable sound accepted c inside).1.anchored, same] at unregistered
  refine unregistered (List.mem_map.mpr ⟨m, member, ?_⟩)
  exact congrArg Path.parts (usable.straight.absolute run.ready.cwd)

end Completed

end AccessorForge
