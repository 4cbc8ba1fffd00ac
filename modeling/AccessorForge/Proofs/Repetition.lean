import AccessorForge.Proofs.Aftermath
/-! Running again over what a real run left. If the run has spared its own sources and settings and every module
stands where it went, a second run finds the same classes, all their modules up to date, and nothing obsolete. -/
namespace AccessorForge
open Job Running
variable {w v : Workspace} {r : Request} {g : Generation}

/-! What a pass makes depends on the marked classes only. -/

theorem analysisSame {xs ys : List SourceUnit} (same : markedSites xs = markedSites ys) (warningsAsErrors : Bool) :
    Analysis.ofUnits warningsAsErrors xs = Analysis.ofUnits warningsAsErrors ys := by
  unfold Analysis.ofUnits
  rw [scanListing, scanListing]
  unfold pathListing
  rw [same]

namespace Workspace

def sitesAt (w : Workspace) (p : Path) : List Site := ((w.unit? p).toList.flatMap SourceUnit.sites).filter Site.isMarked

theorem markedSitesAt (ps : List Path) : markedSites (ps.filterMap w.unit?) = ps.flatMap w.sitesAt := by
  induction ps with
  | nil => rfl
  | cons p rest ih =>
    unfold markedSites at ih ⊢
    rw [List.flatMap_cons, ← ih]
    unfold sitesAt
    cases made : w.unit? p with
    | none =>
      rw [List.filterMap_cons_none made]
      rfl
    | some u =>
      rw [List.filterMap_cons_some made, List.flatMap_cons, List.filter_append]
      simp

theorem sitesCounted {ps : List Path} {counts : Path → Bool}
    (none : ∀ q ∈ ps, counts q = false → w.sitesAt q = []) : ps.flatMap w.sitesAt = (ps.filter counts).flatMap w.sitesAt := by
  induction ps with
  | nil => rfl
  | cons p rest ih =>
    have tail := ih fun q member => none q (List.mem_cons_of_mem _ member)
    rw [List.flatMap_cons, tail]
    cases counted : counts p with
    | true => rw [List.filter_cons_of_pos counted, List.flatMap_cons]
    | false =>
      rw [List.filter_cons_of_neg (by simp [counted]), none p List.mem_cons_self counted]
      rfl

end Workspace

namespace Output

/-! Modules that are up to date. -/

theorem handOverCurrent {o : Output} {m : GeneratedSource} (sound : w.Sound) (stands : Stands w (o.target m) m) :
    ∃ rs, (o.handOver m).runIn w =
      (.ok (none, { o.enrol m w with unchanged := o.unchanged ++ [o.target m] }), w.noted rs) := by
  obtain ⟨rs, probed⟩ := probeIn sound stands.usable stands.fits m.content
  rw [stands.text, decide_eq_true rfl] at probed
  refine ⟨rs ++ [⟨Log.debug, logger, "Up to date: " ++ (o.target m).text⟩], ?_⟩
  rw [handOverRun stands.usable.firstUnflawed, updateProbes, probed, ← Workspace.notedLast]
  rfl

/-- An output that was handed modules and found their files up to date. -/
def confirmed (o : Output) (w : Workspace) (ms : List GeneratedSource) : Output :=
  { o with
    unchanged := o.unchanged ++ ms.map o.target
    registered := o.registered ++ ms.map fun m => (o.target m).absolute w.cwd }

theorem standsNoted {p : Path} {m : GeneratedSource} (rs : List Log.Record) (unlogged : w.logFile = none)
    (stands : Stands w p m) : Stands (w.noted rs) p m := by
  refine { stands with text := ?_ }
  rw [← stands.text]
  exact Workspace.textSame (Workspace.notedApart rs w).refusals (by rw [Workspace.notedTree rs unlogged])

/- The induction is on the modules that are left; logging is all that happens on the way. -/
theorem deliverCurrent {ms : List GeneratedSource} (d : Delivery) (o : Output) (sound : w.Sound)
    (unlogged : w.logFile = none) (stands : ∀ m ∈ ms, Stands w (o.target m) m) :
    ∃ rs, ((deliver diskAdd diskLog d ms).run o).runIn w =
      (.ok ({ d with sources := d.sources ++ ms }, o.confirmed w ms), w.noted rs) := by
  induction ms generalizing d o w with
  | nil =>
    refine ⟨[], ?_⟩
    unfold confirmed
    simp only [List.append_nil, List.map_nil]
    rfl
  | cons m rest ih =>
    obtain ⟨first, told⟩ := handOverCurrent sound (stands m List.mem_cons_self)
    let p : Output := { o.enrol m w with unchanged := o.unchanged ++ [o.target m] }
    have before := Workspace.notedApart first w
    have target (n : GeneratedSource) : p.target n = o.target n := targetSame ⟨rfl, rfl⟩ n
    obtain ⟨rs, last⟩ := ih (d.note m none) p (Workspace.notedSound first sound) (before.logFile.trans unlogged)
      fun n member => target n ▸ standsNoted first unlogged (stands n (List.mem_cons_of_mem _ member))
    refine ⟨first ++ rs, ?_⟩
    have added : ((diskAdd m).run o).runIn w = (.ok (none, p), w.noted first) := by
      rw [diskAddRuns, told]
    have whole : p.confirmed (w.noted first) rest = o.confirmed w (m :: rest) := by
      unfold confirmed
      simp only [before.cwd, List.map_cons, p, enrol, register, List.append_assoc, List.singleton_append]
      rfl
    rw [deliver, stateBindOf added, Workspace.notedTwice, ← whole]
    refine last.trans ?_
    simp only [Delivery.note, List.append_assoc, List.singleton_append]

theorem passCurrent (options : PassOptions) (units : List SourceUnit) (o : Output) (sound : w.Sound)
    (unlogged : w.logFile = none) (stands : ∀ m ∈ handed options units, Stands w (o.target m) m) :
    ∃ rs, (passOnto o options units).runIn w =
      (.ok ((Analysis.ofUnits options.warningsAsErrors units).result { sources := handed options units },
        o.confirmed w (handed options units)), w.noted rs) := by
  let records := (Analysis.ofUnits options.warningsAsErrors units).records
  have before := Workspace.notedApart records w
  obtain ⟨rs, delivered⟩ := deliverCurrent {} o (Workspace.notedSound records sound) (before.logFile.trans unlogged)
    fun m member => standsNoted records unlogged (stands m member)
  have whole : o.confirmed (w.noted records) (handed options units) = o.confirmed w (handed options units) := by
    unfold confirmed
    rw [before.cwd]
  rw [whole] at delivered
  refine ⟨records ++ rs ++ [((Analysis.ofUnits options.warningsAsErrors units).result
    { sources := handed options units }).record], ?_⟩
  rw [← Workspace.notedLast, Workspace.notedTwice]
  exact passRun delivered

theorem pruneKnown {o : Output} {cs : List Path} (seen : List Path) (usable : ∀ c ∈ cs, c.Usable)
    (known : ∀ c ∈ cs, c ∈ o.registered) : (o.pruneFrom seen cs).runIn w = (.ok (o, none), w) := by
  induction cs with
  | nil => rfl
  | cons c rest ih =>
    have own := usable c List.mem_cons_self
    have met : (o.registered.contains c || seen.contains c) = true := by
      rw [List.contains_iff_mem.mpr (known c List.mem_cons_self)]
      rfl
    unfold pruneFrom
    rw [own.firstUnflawed]
    dsimp only
    rw [bindOf (getIn w), own.straight.absolute, if_pos met]
    exact ih (fun q member => usable q (List.mem_cons_of_mem _ member))
      fun q member => known q (List.mem_cons_of_mem _ member)

end Output

theorem checkEnds {s : Settings} {forest : Forest} {o p q : Output} {pass : PassResult} {cs : List Path}
    {t u x y z : Workspace} (ready : r.prepare.runIn w = (.ok (s, forest), t))
    (opened : (r.output s true).runIn t = (.ok o, u))
    (passed : (passOnto o s.passOptions forest.units).runIn u = (.ok (pass, p), x))
    (listed : (r.obsoleteCandidates forest p).runIn x = (.ok cs, y)) (pruned : (p.prune cs).runIn y = (.ok (q, none), z)) :
    (check r).runIn w = (.ok (.ok ⟨pass, q.pending ++ q.obsolete, forest.errors⟩), z) := by
  have settled : (attemptSettings r.prepare).runIn w = (.ok (.ok (s, forest)), t) := by
    unfold attemptSettings
    rw [resultIn, ready]
    rfl
  unfold check
  rw [bindOf settled]
  dsimp only
  rw [bindOf opened, bindOf passed]
  dsimp only
  rw [bindOf listed, bindOf pruned]
  rfl

end AccessorForge
