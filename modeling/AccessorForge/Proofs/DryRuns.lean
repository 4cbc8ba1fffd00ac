import AccessorForge.Proofs.Candidates
/-! A real run and a dry run side by side, from the same workspace. As long as every module's file is current
they do the same, the workspace included. At the first that is not, the real run writes or fails to and the
dry run notes it; from then on neither can look as if nothing had happened. -/
namespace AccessorForge
open Job Running

namespace Output

def dry (o : Output) : Output := { o with dryRun := true }

structure Extends (o p : Output) : Prop where
  written : o.written <+: p.written
  pending : o.pending <+: p.pending
  removed : o.removed <+: p.removed
  obsolete : o.obsolete <+: p.obsolete
  aims : p.directory = o.directory ∧ p.dryRun = o.dryRun ∧ p.fallback = o.fallback

theorem Extends.refl (o : Output) : o.Extends o :=
  ⟨List.prefix_rfl, List.prefix_rfl, List.prefix_rfl, List.prefix_rfl, rfl, rfl, rfl⟩

theorem Extends.trans {o p q : Output} (earlier : o.Extends p) (later : p.Extends q) : o.Extends q :=
  ⟨earlier.written.trans later.written, earlier.pending.trans later.pending,
    earlier.removed.trans later.removed, earlier.obsolete.trans later.obsolete,
    later.aims.1.trans earlier.aims.1, later.aims.2.1.trans earlier.aims.2.1,
    later.aims.2.2.trans earlier.aims.2.2⟩

/-- No change is noted, neither one made nor one due. -/
structure Untouched (o p : Output) : Prop where
  written : p.written = o.written
  pending : p.pending = o.pending
  removed : p.removed = o.removed
  obsolete : p.obsolete = o.obsolete
  aims : p.directory = o.directory ∧ p.dryRun = o.dryRun ∧ p.fallback = o.fallback

theorem Untouched.refl (o : Output) : o.Untouched o := ⟨rfl, rfl, rfl, rfl, rfl, rfl, rfl⟩

theorem Untouched.trans {o p q : Output} (earlier : o.Untouched p) (later : p.Untouched q) : o.Untouched q :=
  ⟨later.written.trans earlier.written, later.pending.trans earlier.pending,
    later.removed.trans earlier.removed, later.obsolete.trans earlier.obsolete,
    later.aims.1.trans earlier.aims.1, later.aims.2.1.trans earlier.aims.2.1,
    later.aims.2.2.trans earlier.aims.2.2⟩

theorem Untouched.target {o p : Output} (same : o.Untouched p) (m : GeneratedSource) : p.target m = o.target m := by
  unfold Output.target
  rw [same.aims.1, same.aims.2.2]

theorem Untouched.extends {o p : Output} (same : o.Untouched p) : o.Extends p :=
  ⟨same.written ▸ List.prefix_rfl, same.pending ▸ List.prefix_rfl, same.removed ▸ List.prefix_rfl,
    same.obsolete ▸ List.prefix_rfl, same.aims⟩

theorem unseen (o : Output) (unchanged registered : List Path) : o.Untouched { o with unchanged, registered } :=
  ⟨rfl, rfl, rfl, rfl, rfl, rfl, rfl⟩

/-! One module. -/

/-- Whether a file is there and current; a dry run asks the same. -/
def probe (p : Path) (text : String) : Job Bool := do if ← isFile p then isCurrent p text else pure false

def change (o : Output) (p : Path) (m : GeneratedSource) : Job Output :=
  if o.dryRun then return { o with pending := o.pending ++ [p] } else o.write p m

theorem updateProbes (o : Output) (p : Path) (m : GeneratedSource) (w : Workspace) : (o.update p m).runIn w =
    match (probe p m.content).runIn w with
    | (.ok true, v) =>
      (.ok { o with unchanged := o.unchanged ++ [p] }, v.note ⟨Log.debug, logger, "Up to date: " ++ p.text⟩)
    | (.ok false, v) => (o.change p m).runIn v
    | (.error f, v) => (.error f, v) := by
  unfold update probe
  rw [bindIn, bindIn]
  cases (isFile p).runIn w with
  | mk file v =>
    cases file with
    | error f => rfl
    | ok there =>
      cases there with
      | false => rfl
      | true =>
        simp only [if_true]
        rw [bindIn]
        cases (isCurrent p m.content).runIn v with
        | mk current u =>
          cases current with
          | error f => rfl
          | ok current => cases current <;> rfl

theorem calmIsCurrent (p : Path) (text : String) : (isCurrent p text).Calm := by
  refine calmBind (calmAttemptRead (calmReadText p)) fun tried => ?_
  cases tried with
  | ok old => exact calmPure _
  | error message => exact calmBind (calmLog _ _ _) fun _ => calmPure _

theorem calmProbe (p : Path) (text : String) : (probe p text).Calm := by
  refine calmBind (calmIsFile p) fun there => ?_
  cases there with
  | false => exact calmPure false
  | true => exact calmIsCurrent p text

theorem probeUnobstructed {p : Path} {text : String} {w v : Workspace} {f : Failure} (answered : w.Answers p)
    (failed : (probe p text).runIn w = (.error f, v)) : ∀ fault, f ≠ .file fault := by
  obtain ⟨e, found⟩ := answered
  have told : (isFile p).runIn w = (.ok (e.any Entry.isFile), w) := by
    unfold isFile
    rw [bindIn]
    unfold entry?
    rw [bindIn]
    simp only [getIn, found]
    rfl
  unfold probe at failed
  rw [bindOf told] at failed
  split at failed
  · unfold isCurrent at failed
    rw [bindIn, attemptReadIn] at failed
    rintro fault rfl
    cases read : (readText p).runIn w with
    | mk result u =>
      rw [read] at failed
      cases result with
      | ok old => cases failed
      | error g => cases g <;> cases failed
  · cases failed

theorem changeDry {o : Output} {p : Path} {m : GeneratedSource} {w v : Workspace} {result : Except Failure Output}
    (isDry : o.dryRun = true) (ran : (o.change p m).runIn w = (result, v)) :
    result = .ok { o with pending := o.pending ++ [p] } := by
  unfold change at ran
  rw [if_pos isDry] at ran
  exact (Prod.mk.inj ran).1.symm

theorem changeReal {o o' : Output} {p : Path} {m : GeneratedSource} {w v : Workspace} (isReal : o.dryRun = false)
    (ran : (o.change p m).runIn w = (.ok o', v)) : o' = { o with written := o.written ++ [p] } := by
  unfold change at ran
  rw [isReal] at ran
  obtain ⟨tried, u, _, rest⟩ := bindOk ran
  cases tried with
  | error f =>
    obtain ⟨_, _, _, thrown⟩ := bindOk rest
    cases thrown
  | ok _ =>
    obtain ⟨_, _, _, done⟩ := bindOk rest
    cases done
    rfl

def handOver (o : Output) (m : GeneratedSource) : Job (Option String × Output) := do
  let (o, failure) ← o.add m
  match failure with
  | none => return (none, o)
  | some (.file f) => return (some f.message, o)
  | some f => throw f

def enrol (o : Output) (m : GeneratedSource) (w : Workspace) : Output :=
  o.register ((o.target m).absolute w.cwd)

/-- How handing over a module ends: its file is current, it is changed, or there is an obstacle. -/
inductive Handed (o : Output) (m : GeneratedSource) (w : Workspace) :
    Option String → Output → Workspace → Prop
  | current (v : Workspace) (probed : (probe (o.target m) m.content).runIn w = (.ok true, v)) :
    Handed o m w none { o.enrol m w with unchanged := o.unchanged ++ [o.target m] }
      (v.note ⟨Log.debug, logger, "Up to date: " ++ (o.target m).text⟩)
  | changed (u v : Workspace) (o' : Output) (probed : (probe (o.target m) m.content).runIn w = (.ok false, u))
      (ran : ((o.enrol m w).change (o.target m) m).runIn u = (.ok o', v)) : Handed o m w none o' v
  | refused (u v : Workspace) (f : FileFault) (probed : (probe (o.target m) m.content).runIn w = (.ok false, u))
      (ran : ((o.enrol m w).change (o.target m) m).runIn u = (.error (.file f), v)) :
    Handed o m w (some f.message) (o.enrol m w) v
  | unanswered (v : Workspace) (f : FileFault)
      (probed : (probe (o.target m) m.content).runIn w = (.error (.file f), v)) :
    Handed o m w (some f.message) (o.enrol m w) v

theorem handOverCases {o o' : Output} {m : GeneratedSource} {w v : Workspace} {answer : Option String}
    (ok : (o.handOver m).runIn w = (.ok (answer, o'), v)) : Handed o m w answer o' v := by
  obtain ⟨⟨q, failure⟩, u, added, told⟩ := bindOk ok
  obtain ⟨absolute, t, resolved, tried⟩ := bindOk added
  obtain ⟨_, _, fine, got⟩ := bindOk resolved
  have still := (orFlawedOk fine).2.symm
  subst still
  cases got
  obtain ⟨result, s, outcome, last⟩ := bindOk tried
  rw [outcomeIn, updateProbes] at outcome
  cases probed : (probe (o.target m) m.content).runIn w with
  | mk current x =>
    rw [probed] at outcome
    cases current with
    | error f =>
      cases outcome
      cases last
      cases f with
      | file f =>
        cases told
        exact .unanswered _ f probed
      | _ => cases told
    | ok current =>
      cases current with
      | true =>
        cases outcome
        cases last
        cases told
        exact .current x probed
      | false =>
        cases changed : ((o.enrol m w).change (o.target m) m).runIn x with
        | mk ran y =>
          unfold enrol at changed
          simp only [changed] at outcome
          cases ran with
          | ok p =>
            cases outcome
            cases last
            cases told
            exact .changed x _ _ probed changed
          | error f =>
            cases outcome
            cases last
            cases f with
            | file f =>
              cases told
              exact .refused x _ f probed changed
            | _ => cases told

theorem handOverExtends {o o' : Output} {m : GeneratedSource} {w v : Workspace} {answer : Option String}
    (ok : (o.handOver m).runIn w = (.ok (answer, o'), v)) : o.Extends o' := by
  cases handOverCases ok with
  | current u probed => exact (unseen o _ _).extends
  | refused u v f probed ran => exact (unseen o o.unchanged _).extends
  | unanswered u f probed => exact (unseen o o.unchanged _).extends
  | changed u v p probed ran =>
    refine (unseen o o.unchanged (o.enrol m w).registered).extends.trans ?_
    cases isDry : o.dryRun with
    | true =>
      cases Except.ok.inj (changeDry (o := o.enrol m w) isDry ran)
      exact { Extends.refl (o.enrol m w) with
        pending := List.prefix_append _ _
        aims := ⟨rfl, isDry, rfl⟩ }
    | false =>
      cases changeReal (o := o.enrol m w) isDry ran
      exact { Extends.refl (o.enrol m w) with
        written := List.prefix_append _ _
        aims := ⟨rfl, isDry, rfl⟩ }

/-- A real run and a dry run from one workspace, each with what it gives, its output and its workspace: either
nothing had to change and they are the same, or both show it. -/
inductive Agree {α : Type} (w : Workspace) (o : Output) (refused : α → Prop) :
    α × Output × Workspace → α × Output × Workspace → Prop
  | quiet {a : α} {p : Output} {v : Workspace} (shape : w.SameShape v) (fine : ¬ refused a)
      (same : o.Untouched p) : Agree w o refused (a, p, v) (a, p.dry, v)
  | loud {a b : α} {p q : Output} {u v : Workspace} (shown : p.written ≠ [] ∨ refused a) (noted : q.pending ≠ []) :
    Agree w o refused (a, p, u) (b, q, v)

theorem pendingDry {o o' : Output} {m : GeneratedSource} {w u v : Workspace} {answer : Option String}
    (ok : (o.dry.handOver m).runIn w = (.ok (answer, o'), v))
    (probed : (probe (o.target m) m.content).runIn w = (.ok false, u)) : o'.pending ≠ [] := by
  cases handOverCases ok with
  | current x again => cases probed.symm.trans again
  | refused x y f again ran => cases changeDry (o := o.dry.enrol m w) rfl ran
  | unanswered x f again => cases probed.symm.trans again
  | changed x y p again ran =>
    cases Except.ok.inj (changeDry (o := o.dry.enrol m w) rfl ran)
    simp

theorem handOverAgree {o p q : Output} {m : GeneratedSource} {w u v : Workspace} {real dry : Option String}
    (isReal : o.dryRun = false) (answered : w.Answers (o.target m))
    (ranReal : (o.handOver m).runIn w = (.ok (real, p), u))
    (ranDry : (o.dry.handOver m).runIn w = (.ok (dry, q), v)) :
    Agree w o (· ≠ none) (real, p, u) (dry, q, v) := by
  have unobstructed {v : Workspace} {f : FileFault}
      (failed : (probe (o.target m) m.content).runIn w = (.error (.file f), v)) : False :=
    probeUnobstructed answered failed f rfl
  -- Both runs compare with the same file, so that they part only where the real one has begun to write.
  cases handOverCases ranReal with
  | unanswered v f probed => exact absurd probed unobstructed
  | current x probed =>
    cases handOverCases ranDry with
    | current x' probed' =>
      cases probed.symm.trans probed'
      exact .quiet ((calmIn (calmProbe _ _) probed).trans (Workspace.noteShape _ _)) (by simp) (unseen o _ _)
    | changed x' y p probed' ran => cases probed.symm.trans probed'
    | refused x' y f probed' ran => cases probed.symm.trans probed'
    | unanswered x' f probed' => cases probed.symm.trans probed'
  | changed x y p probed ran =>
    cases changeReal (o := o.enrol m w) isReal ran
    exact .loud (.inl (by simp)) (pendingDry ranDry probed)
  | refused x y f probed ran =>
    exact .loud (.inr (by simp)) (pendingDry ranDry probed)

end Output

/-! All modules of a pass. -/

namespace Output

/-- How a pass hands a module to its output on disk. -/
def diskAdd (m : GeneratedSource) : StateT Output Job (Option String) := do
  let (o, failure) ← (← get).add m
  set o
  match failure with
  | none => return none
  | some (.file f) => return some f.message
  | some f => (throw f : Job (Option String))

def diskLog (r : Log.Record) : StateT Output Job Unit := (modify (Workspace.note r) : Job Unit)

theorem passRuns (o : Output) (options : PassOptions) (units : List SourceUnit) :
    passOnto o options units = (runPass diskAdd diskLog options units).run o := rfl

theorem stateBindOk {α β : Type} {x : StateT Output Job α} {f : α → StateT Output Job β} {o q : Output}
    {w v : Workspace} {b : β} (ok : ((x >>= f).run o).runIn w = (.ok (b, q), v)) :
    ∃ a p u, (x.run o).runIn w = (.ok (a, p), u) ∧ ((f a).run p).runIn u = (.ok (b, q), v) := by
  rw [StateT.run_bind] at ok
  obtain ⟨⟨a, p⟩, u, first, rest⟩ := bindOk ok
  exact ⟨a, p, u, first, rest⟩

theorem liftOk {α : Type} {x : Job α} {o p : Output} {w v : Workspace} {a : α}
    (ok : ((liftM x : StateT Output Job α).run o).runIn w = (.ok (a, p), v)) :
    x.runIn w = (.ok a, v) ∧ p = o := by
  have unfolded : (liftM x : StateT Output Job α).run o = x >>= fun a => pure (a, o) := rfl
  rw [unfolded] at ok
  obtain ⟨b, u, ran, last⟩ := bindOk ok
  cases last
  exact ⟨ran, rfl⟩

theorem diskAddRuns (m : GeneratedSource) (o : Output) : (diskAdd m).run o = o.handOver m := by
  have lifted {α : Type} (x : Job α) (o : Output) :
      (liftM x : StateT Output Job α).run o = x >>= fun a => pure (a, o) := rfl
  unfold diskAdd handOver
  simp only [StateT.run_bind, StateT.run_get, pure_bind, lifted, bind_assoc, StateT.run_set]
  refine congrArg _ (funext fun pair => ?_)
  obtain ⟨p, failure⟩ := pair
  cases failure with
  | none => rfl
  | some f => cases f <;> rfl

def heard (m : GeneratedSource) (answer : Option String) (w : Workspace) : Workspace :=
  match answer with
  | some reason => w.note (refusalRecord m reason)
  | none => w

theorem deliverStep {d d' : Delivery} {m : GeneratedSource} {rest : List GeneratedSource} {o o' : Output}
    {w v : Workspace} (ok : ((deliver diskAdd diskLog d (m :: rest)).run o).runIn w = (.ok (d', o'), v)) :
    ∃ answer p u, (o.handOver m).runIn w = (.ok (answer, p), u) ∧
      ((deliver diskAdd diskLog (d.note m answer) rest).run p).runIn (heard m answer u) = (.ok (d', o'), v) := by
  obtain ⟨answer, p, u, added, last⟩ := stateBindOk ok
  rw [diskAddRuns] at added
  refine ⟨answer, p, u, added, ?_⟩
  cases answer with
  | none => exact last
  | some reason =>
    dsimp only at last
    obtain ⟨_, _, _, logged, later⟩ := stateBindOk last
    cases logged
    exact later

theorem deliverExtends {ms : List GeneratedSource} {d d' : Delivery} {o o' : Output} {w v : Workspace}
    (ok : ((deliver diskAdd diskLog d ms).run o).runIn w = (.ok (d', o'), v)) :
    o.Extends o' ∧ d.writeErrors <+: d'.writeErrors := by
  induction ms generalizing d o w with
  | nil =>
    cases ok
    exact ⟨.refl _, List.prefix_rfl⟩
  | cons m rest ih =>
    obtain ⟨answer, p, u, handed, later⟩ := deliverStep ok
    obtain ⟨more, errors⟩ := ih later
    refine ⟨(handOverExtends handed).trans more, List.IsPrefix.trans ?_ errors⟩
    cases answer with
    | none => exact List.prefix_rfl
    | some reason => exact List.prefix_append _ _

theorem keptNonempty {xs ys : List α} (more : xs <+: ys) (some : xs ≠ []) : ys ≠ [] := by
  rintro rfl
  exact some (List.prefix_nil.mp more)

/- The induction is on the modules that are left. What carries it is that a quiet step leaves the workspace in
its shape, so that the questions about the files still have answers. -/
theorem deliverAgree {ms : List GeneratedSource} {d real dry : Delivery} {o p q : Output} {w u v : Workspace}
    (isReal : o.dryRun = false) (answered : ∀ m ∈ ms, w.Answers (o.target m)) (fine : d.writeErrors = [])
    (ranReal : ((deliver diskAdd diskLog d ms).run o).runIn w = (.ok (real, p), u))
    (ranDry : ((deliver diskAdd diskLog d ms).run o.dry).runIn w = (.ok (dry, q), v)) :
    Agree w o (fun d => d.writeErrors ≠ []) (real, p, u) (dry, q, v) := by
  induction ms generalizing d o w with
  | nil =>
    cases ranReal
    cases ranDry
    exact .quiet (.refl _) (by simp [fine]) (.refl _)
  | cons m rest ih =>
    obtain ⟨answer, o1, w1, handed, later⟩ := deliverStep ranReal
    obtain ⟨answer', o2, w2, handed', later'⟩ := deliverStep ranDry
    have first := handOverAgree isReal (answered m List.mem_cons_self) handed handed'
    cases first with
    | quiet shape none same =>
      have accepted : answer = .none := by simpa using none
      subst accepted
      have others : ∀ n ∈ rest, w1.Answers (o1.target n) := by
        intro n member
        rw [same.target]
        exact Workspace.answersSame shape (answered n (List.mem_cons_of_mem _ member))
      have tail := ih (d := d.note m .none) (same.aims.2.1.trans isReal) others fine later later'
      cases tail with
      | quiet shape' fine' same' => exact .quiet (shape.trans shape') fine' (same.trans same')
      | loud shown noted => exact .loud shown noted
    | loud shown noted =>
      obtain ⟨more, errors⟩ := deliverExtends later
      obtain ⟨more', _⟩ := deliverExtends later'
      refine .loud ?_ (keptNonempty more'.pending noted)
      rcases shown with wrote | refused
      · exact .inl (keptNonempty more.written wrote)
      · refine .inr (keptNonempty errors ?_)
        cases answer with
        | none => exact absurd rfl refused
        | some reason => simp [Delivery.note]

theorem recordsLogged (rs : List Log.Record) (o p : Output) (w v : Workspace)
    (ok : ((rs.forM diskLog).run o).runIn w = (.ok ((), p), v)) :
    p = o ∧ v = w.noted rs := by
  induction rs generalizing w with
  | nil =>
    cases ok
    exact ⟨rfl, rfl⟩
  | cons r rest ih =>
    rw [List.forM] at ok
    obtain ⟨_, _, _, logged, later⟩ := stateBindOk ok
    cases logged
    exact ih _ later

theorem passAgree {o p q : Output} {options : PassOptions} {units : List SourceUnit} {w u v : Workspace}
    {real dry : PassResult} (isReal : o.dryRun = false)
    (answered : ∀ m ∈ (Analysis.ofUnits options.warningsAsErrors units).sources options, w.Answers (o.target m))
    (ranReal : (passOnto o options units).runIn w = (.ok (real, p), u))
    (ranDry : (passOnto o.dry options units).runIn w = (.ok (dry, q), v)) :
    Agree w o (fun r => r.writeErrors ≠ []) (real, p, u) (dry, q, v) ∧ dry.errorCount = real.errorCount := by
  rw [passRuns] at ranReal ranDry
  obtain ⟨_, _, _, logged, ranReal⟩ := stateBindOk ranReal
  obtain ⟨rfl, rfl⟩ := recordsLogged _ _ _ _ _ logged
  obtain ⟨_, _, _, logged', ranDry⟩ := stateBindOk ranDry
  obtain ⟨rfl, rfl⟩ := recordsLogged _ _ _ _ _ logged'
  obtain ⟨delivery, p', x, delivered, ranReal⟩ := stateBindOk ranReal
  obtain ⟨delivery', q', y, delivered', ranDry⟩ := stateBindOk ranDry
  obtain ⟨_, _, _, told, ranReal⟩ := stateBindOk ranReal
  cases told
  cases ranReal
  obtain ⟨_, _, _, told', ranDry⟩ := stateBindOk ranDry
  cases told'
  cases ranDry
  refine ⟨?_, rfl⟩
  have shape := Workspace.notedShape (Analysis.ofUnits options.warningsAsErrors units).records w
  have agree := deliverAgree isReal (fun m member => Workspace.answersSame shape (answered m member)) rfl
    delivered delivered'
  cases agree with
  | quiet shape' fine same => exact .quiet ((shape.trans shape').trans (Workspace.noteShape _ _)) fine same
  | loud shown noted => exact .loud shown noted

end Output

end AccessorForge
