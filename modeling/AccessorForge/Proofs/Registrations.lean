import AccessorForge.Proofs.Faults
/-! Modules handed over one after the other to an output that is real. Each call puts its module in place or finds it
there, or an operation on files is not possible, and then no file has changed and at most directories are new. Whatever
came of it, the target is registered, so that pruning spares it; in the end it holds what was last put there. -/
namespace AccessorForge
open Job Running
variable {w v u : Workspace} {p : Path}

/-! Room for a file. -/

/-- Except at some spots all stands as it stood, but for directories that were put at others where nothing was. The log
file does not count. -/
def Workspace.Widened (ts rooms : List Spot) (w v : Workspace) : Prop :=
  ∀ s, s ∉ ts → w.logFile ≠ some s → v.tree.get? s = w.tree.get? s ∨
    s ∈ rooms ∧ w.tree.get? s = none ∧ v.tree.get? s = some .directory

namespace Workspace.Widened
variable {ts us rooms : List Spot}

theorem refl (ts rooms : List Spot) (w : Workspace) : w.Widened ts rooms w := fun _ _ _ => .inl rfl

theorem trans (logFile : v.logFile = w.logFile) (earlier : w.Widened ts rooms v) (later : v.Widened ts rooms u) :
    w.Widened ts rooms u := by
  intro s outside unlogged
  rcases later s outside (logFile ▸ unlogged) with same | ⟨room, empty, made⟩
  · rw [same]
    exact earlier s outside unlogged
  · rcases earlier s outside unlogged with same | ⟨_, _, there⟩
    · exact .inr ⟨room, same ▸ empty, made⟩
    · cases empty.symm.trans there

theorem mono (widened : w.Widened ts rooms v) (more : ts ⊆ us) : w.Widened us rooms v :=
  fun s outside => widened s fun member => outside (more member)

theorem noted (ts rooms : List Spot) (rs : List Log.Record) (w : Workspace) : w.Widened ts rooms (w.noted rs) := by
  induction rs generalizing w with
  | nil => exact refl ts rooms w
  | cons r rest ih =>
    refine trans (noteKeeps r w).2.2 (fun s _ unlogged => .inl ?_) (ih (w.note r))
    rcases noteTree r w with same | ⟨q, bytes, more, logged, file, changed⟩
    · rw [same]
    · have other : s ≠ q := by
        rintro rfl
        exact unlogged logged
      rw [changed, FileTree.get?_put_of_ne _ _ other]

end Workspace.Widened

/-- A workspace that can be, in which files changed at some spots only and directories were put at others only. -/
structure Workspace.Spared (ts rooms : List Spot) (w v : Workspace) : Prop where
  sound : v.Sound
  apart : w.Apart ts v
  widened : w.Widened ts rooms v

namespace Workspace.Spared
variable {ts rooms : List Spot}

theorem noted (ts rooms : List Spot) (rs : List Log.Record) (sound : w.Sound) : w.Spared ts rooms (w.noted rs) :=
  ⟨notedSound rs sound, (notedApart rs w).mono (List.nil_subset ts), .noted ts rooms rs w⟩

theorem trans (earlier : w.Spared ts rooms v) (later : v.Spared ts rooms u) : w.Spared ts rooms u := by
  refine ⟨later.sound, (earlier.apart.trans later.apart).mono ?_, earlier.widened.trans earlier.apart.logFile later.widened⟩
  exact List.append_subset.mpr ⟨fun _ member => member, fun _ member => member⟩

end Workspace.Spared

namespace Job

theorem makeDirectoryWidens (sound : w.Sound) (p : Path) :
    w.Widened [] [w.spot p] ((makeDirectory p).runIn w).2 := by
  rcases makeDirectoryEnds p w with ⟨f, failed⟩ | ⟨s, _, located, empty, made⟩
  · rw [failed]
    exact .refl _ _ w
  · have here : s = w.spot p := sound.located located
    rw [made]
    intro r _ _
    by_cases same : r = s
    · have below : r ≠ [] := by
        rintro rfl
        cases same ▸ empty
      subst same
      exact .inr ⟨List.mem_singleton.mpr here, empty, FileTree.get?_put_self _ _ below⟩
    · exact .inl (FileTree.get?_put_of_ne _ _ same)

theorem ensureDirectorySpares {fuel : Nat} {result : Except Failure Unit} (sound : w.Sound)
    (ran : (ensureDirectory fuel p).runIn w = (result, v)) : w.Spared [] (p.upward.map w.spot) v := by
  have leaves : (ensureDirectory fuel p).Leaves fun u v =>
      u.Sound → u.spot = w.spot → u.Spared [] (p.upward.map w.spot) v := by
    refine leavesEnsureDirectory (fun u sound _ => .noted _ _ [] sound) ?_ fuel fun q above u sound spots => ?_
    · intro x y z first next sound spots
      have spared := first sound spots
      exact spared.trans (next spared.sound ((Workspace.spotSame spared.apart.cwd).trans spots))
    · obtain ⟨still, apart⟩ := growsMakeDirectory q u sound
      refine ⟨still, apart, fun s outside unlogged => ?_⟩
      rcases makeDirectoryWidens sound q s outside unlogged with same | ⟨room, empty, made⟩
      · exact .inl same
      · refine .inr ⟨?_, empty, made⟩
        rw [List.mem_singleton.mp room, spots]
        exact List.mem_map_of_mem above
  have after := leaves w sound rfl
  rwa [ran] at after

theorem writeAtomicallySpares {text : String} (sound : w.Sound) (wrote : (writeAtomically p text).runIn w = (.ok (), v)) :
    w.Spared [w.spot p] (p.parent.upward.map w.spot) v := by
  obtain ⟨still, apart, _⟩ := writeAtomicallyLeaves sound wrote
  obtain ⟨_, u, s, ensured, located, _, rfl⟩ := writeAtomicallyOk wrote
  have room := ensureDirectorySpares sound ensured
  have here : s = w.spot p := (room.sound.located located).trans (congrFun (Workspace.spotSame room.apart.cwd) p)
  refine ⟨still, apart, (room.widened.mono (List.nil_subset _)).trans room.apart.logFile fun r outside _ => .inl ?_⟩
  have other : r ≠ s := fun same => outside (List.mem_singleton.mpr (same.trans here))
  exact FileTree.get?_put_of_ne _ _ other

theorem writeAtomicallyUnharmed {text : String} {f : Failure} (sound : w.Sound)
    (failed : (writeAtomically p text).runIn w = (.error f, v)) : w.Spared [] (p.parent.upward.map w.spot) v := by
  obtain ⟨_, ensured⟩ := writeAtomicallyUndone failed
  exact ensureDirectorySpares sound ensured

end Job

/-! What is read at a path. -/

namespace Workspace

def readable (w : Workspace) : Workspace := { w with refusals := { w.refusals with reading := [] } }

def Tells (w : Workspace) (p : Path) (text : String) : Prop := (readText p).runIn w.readable = (.ok text, w.readable)

theorem tellsIff {text : String} : w.Tells p text ↔ p.flaw? = none ∧ ∃ s bytes cs, w.tree.locate w.cwd p = .ok s ∧
    w.tree.bytes? s = some bytes ∧ Text.Utf8.decode bytes = .ok cs ∧ text = String.ofList (Text.LineEnds.unify cs) := by
  constructor
  · exact Output.readTextFrom
  · rintro ⟨unflawed, s, bytes, cs, located, held, decoded, rfl⟩
    have fine : (refuseFlawed p).runIn w.readable = (.ok (), w.readable) := by
      unfold refuseFlawed
      rw [unflawed]
      rfl
    have found : (locate p).runIn w.readable = (.ok s, w.readable) := by
      rw [locateIn, show w.readable.tree.locate w.readable.cwd p = .ok s from located]
    have file : w.readable.tree.get? s = some (.file bytes) := (FileTree.bytesIff _ _ _).mp held
    have read : (readBytes p).runIn w.readable = (.ok bytes, w.readable) := by
      unfold readBytes
      rw [bindOf fine, bindOf (getIn _), if_neg (by simp [readable]), bindOf (getIn _), bindOf found, file]
      rfl
    unfold Tells readText
    rw [bindOf read, decoded]
    rfl

theorem Tells.kept {text : String} {ts : List Spot} (tells : w.Tells p text) (sound : w.Sound) (apart : w.Apart ts v)
    (outside : w.spot p ∉ ts) (unlogged : w.logFile ≠ some (w.spot p)) : v.Tells p text := by
  obtain ⟨unflawed, s, bytes, cs, located, held, rest⟩ := tellsIff.mp tells
  have here : s = w.spot p := sound.located located
  refine tellsIff.mpr ⟨unflawed, s, bytes, cs, ?_, ?_, rest⟩
  · rw [apart.cwd]
    exact FileTree.locateKept apart.grown located
  · rw [here, apart.same _ outside unlogged, ← here]
    exact held

theorem tellsWritten {text : String} (sound : w.Sound) (plain : '\r' ∉ text.toList)
    (wrote : (writeAtomically p text).runIn w = (.ok (), v)) : v.Tells p text := by
  obtain ⟨_, _, held, unflawed, located⟩ := writeAtomicallyLeaves sound wrote
  have unified := @Text.LineEnds.unify_of_noReturn text.toList fun c member same => plain (same ▸ member)
  exact tellsIff.mpr ⟨unflawed, _, _, _, located, held, Text.Utf8.encodedDecodes _, by rw [unified, String.ofList_toList]⟩

theorem tellsCurrent {text : String} (probed : (Output.probe p text).runIn w = (.ok true, v)) : w.Tells p text := by
  obtain ⟨u, read⟩ := Output.currentRead probed
  exact tellsIff.mpr (Output.readTextFrom read)

end Workspace

namespace Output
variable {o p q : Output} {m : GeneratedSource}

/-! One call. -/

/-- A file can have the name of a module's target, and it can hold the module's text as it is. -/
structure Plain (o : Output) (m : GeneratedSource) : Prop where
  named : ∀ n ∈ (o.target m).parts, Path.isUnpaired n = false ∧ Path.hasNulIn n = false
  whole : Text.Surrogate.isBroken m.content = false
  straight : '\r' ∉ m.content.toList

def rooms (o : Output) (w : Workspace) (m : GeneratedSource) : List Spot := (o.target m).parent.upward.map w.spot

/-- What comes of a call. Its target is registered, and noted as one that was written or was up to date already, or not
noted at all. -/
inductive Answered (o : Output) (m : GeneratedSource) (w : Workspace) : Option Failure → Output → Workspace → Prop
  | unchanged {v : Workspace} (spared : w.Spared [] [] v)
      (told : w.logFile ≠ some (o.spot w m) → v.Tells (o.target m) m.content) :
    Answered o m w none { o.enrol m w with unchanged := o.unchanged ++ [o.target m] } v
  | written {v : Workspace} (spared : w.Spared [o.spot w m] (o.rooms w m) v)
      (told : w.logFile ≠ some (o.spot w m) → v.Tells (o.target m) m.content) :
    Answered o m w none { o.enrol m w with written := o.written ++ [o.target m] } v
  | refused {v : Workspace} (f : FileFault) (spared : w.Spared [] (o.rooms w m) v) :
    Answered o m w (some (.file f)) (o.enrol m w) v

/- The cases are those of the question whether the file is current, and of the write if it is not. -/
theorem addAnswers (sound : w.Sound) (isReal : o.dryRun = false) (plain : o.Plain m) :
    ∃ answer p v, (o.add m).runIn w = (.ok (p, answer), v) ∧ Answered o m w answer p v := by
  have unflawed : (o.target m).flaw? = none := (Path.unflawedIff _).mpr plain.named
  rw [addRun ((Path.firstUnflawedIff _).mpr plain.named), updateProbes]
  cases probed : (probe (o.target m) m.content).runIn w with
  | mk result u =>
    obtain ⟨rs, rfl⟩ := notedIn (calmProbe _ _) probed
    have quiet (ts rooms : List Spot) := Workspace.Spared.noted ts rooms rs sound
    have still := (quiet [] []).sound
    cases result with
    | error f =>
      obtain ⟨fault, rfl⟩ := onFilesProbe unflawed w _ f probed
      exact ⟨_, _, _, rfl, .refused fault (quiet _ _)⟩
    | ok current =>
      cases current with
      | true =>
        have told := Workspace.tellsCurrent probed
        have noted := (quiet [] []).trans (.noted _ _ [⟨Log.debug, logger, "Up to date: " ++ (o.target m).text⟩] still)
        exact ⟨_, _, _, rfl, .unchanged noted (told.kept sound noted.apart (by simp))⟩
      | false =>
        have here : (w.noted rs).spot = w.spot := Workspace.spotSame (quiet [] []).apart.cwd
        dsimp only
        cases changed : ((o.enrol m w).change (o.target m) m).runIn (w.noted rs) with
        | mk result v =>
          have real : ((o.enrol m w).write (o.target m) m).runIn (w.noted rs) = (result, v) := by
            unfold change at changed
            rwa [if_neg (by simp [enrol, register, isReal])] at changed
          cases result with
          | error f =>
            obtain ⟨fault, rfl⟩ := onFilesChange (o := o.enrol m w) unflawed (fun _ => plain.whole) _ v f changed
            obtain ⟨x, later, failed, rfl⟩ := writeFails real
            have room := here ▸ writeAtomicallyUnharmed still failed
            exact ⟨_, _, _, rfl, .refused fault (((quiet _ _).trans room).trans (.noted _ _ later room.sound))⟩
          | ok p =>
            obtain ⟨rfl, x, r, wrote, rfl⟩ := writeOk real
            have put := here ▸ writeAtomicallySpares still wrote
            have whole := (quiet _ _).trans put
            refine ⟨_, _, _, rfl, .written (whole.trans (.noted _ _ [r] put.sound)) fun unlogged => ?_⟩
            have spot : x.spot (o.target m) = o.spot w m := congrFun (Workspace.spotSame whole.apart.cwd) _
            refine (Workspace.tellsWritten still plain.straight wrote).kept put.sound (Workspace.noteApart r x) (by simp) ?_
            rw [whole.apart.logFile, spot]
            exact unlogged

theorem Answered.aims {answer : Option Failure} (answered : Answered o m w answer p v) :
    (p.directory = o.directory ∧ p.fallback = o.fallback) ∧ p.dryRun = o.dryRun ∧
      p.registered = o.registered ++ [(o.target m).absolute w.cwd] := by
  cases answered <;> exact ⟨⟨rfl, rfl⟩, rfl, rfl⟩

def touched (o : Output) (w : Workspace) (call : GeneratedSource × Option Failure) : List Spot :=
  if call.2 = none then [o.spot w call.1] else []

theorem Answered.left {answer : Option Failure} (answered : Answered o m w answer p v) :
    v.Sound ∧ w.Apart (o.touched w (m, answer)) v := by
  cases answered with
  | unchanged spared told => exact ⟨spared.sound, spared.apart.mono (List.nil_subset _)⟩
  | written spared told => exact ⟨spared.sound, spared.apart⟩
  | refused f spared => exact ⟨spared.sound, spared.apart⟩

theorem Answered.told (answered : Answered o m w none p v) (unlogged : w.logFile ≠ some (o.spot w m)) :
    v.Tells (o.target m) m.content := by
  cases answered with
  | unchanged spared told => exact told unlogged
  | written spared told => exact told unlogged

/-! Calls one after the other. -/

/-- Modules handed over one after the other, with the answer to each. -/
def addAll (o : Output) : List GeneratedSource → Job (Output × List (Option Failure))
  | [] => return (o, [])
  | m :: rest => do
    let (o, answer) ← o.add m
    let (o, answers) ← addAll o rest
    return (o, answer :: answers)

/-- The same with what comes of every call. -/
inductive Calls : Output → Workspace → List (GeneratedSource × Option Failure) → Output → Workspace → Prop
  | done (o : Output) (w : Workspace) : Calls o w [] o w
  | call {o p q : Output} {m : GeneratedSource} {answer : Option Failure} {rest : List (GeneratedSource × Option Failure)}
      {w u v : Workspace} (ran : (o.add m).runIn w = (.ok (p, answer), u)) (answered : Answered o m w answer p u)
      (later : Calls p u rest q v) : Calls o w ((m, answer) :: rest) q v

variable {calls : List (GeneratedSource × Option Failure)}

theorem addAllCalls {ms : List GeneratedSource} (sound : w.Sound) (isReal : o.dryRun = false) (plain : ∀ m ∈ ms, o.Plain m) :
    ∃ calls q v, (o.addAll ms).runIn w = (.ok (q, calls.map Prod.snd), v) ∧ calls.map Prod.fst = ms ∧
      Calls o w calls q v := by
  induction ms generalizing o w with
  | nil => exact ⟨[], o, w, rfl, rfl, .done o w⟩
  | cons m rest ih =>
    obtain ⟨answer, p, u, ran, answered⟩ := addAnswers sound isReal (plain m List.mem_cons_self)
    obtain ⟨aims, dry, _⟩ := answered.aims
    have others : ∀ n ∈ rest, p.Plain n := by
      intro n member
      obtain ⟨named, whole, straight⟩ := plain n (List.mem_cons_of_mem _ member)
      exact ⟨targetSame aims n ▸ named, whole, straight⟩
    obtain ⟨calls, q, v, later, same, history⟩ := ih answered.left.1 (dry.trans isReal) others
    refine ⟨(m, answer) :: calls, q, v, ?_, by rw [List.map_cons, same], .call ran answered history⟩
    unfold addAll
    rw [bindOf ran]
    dsimp only
    rw [bindOf later]
    rfl

/-- What holds from the first call to the last. -/
structure Course (o : Output) (w : Workspace) (calls : List (GeneratedSource × Option Failure)) (q : Output) (v : Workspace) :
    Prop where
  sound : v.Sound
  apart : w.Apart (calls.flatMap (o.touched w)) v
  aims : q.directory = o.directory ∧ q.fallback = o.fallback
  registered : q.registered = o.registered ++ calls.map fun c => (o.target c.1).absolute w.cwd

theorem spotsKept (aims : p.directory = o.directory ∧ p.fallback = o.fallback) (cwd : u.cwd = w.cwd) : p.spot u = o.spot w := by
  funext m
  unfold spot
  rw [targetSame aims, cwd]

/- The induction is on the calls; where modules go does not change from one to the next. -/
theorem Calls.course (history : Calls o w calls q v) (sound : w.Sound) : Course o w calls q v := by
  induction history with
  | done o w => exact ⟨sound, .refl w, ⟨rfl, rfl⟩, by simp⟩
  | @call o p q m answer rest w u v ran answered later ih =>
    obtain ⟨still, apart⟩ := answered.left
    obtain ⟨aims, _, registered⟩ := answered.aims
    have tail := ih still
    have spots : p.touched u = o.touched w := by
      unfold touched
      rw [spotsKept aims apart.cwd]
    refine ⟨tail.sound, ?_, ⟨tail.aims.1.trans aims.1, tail.aims.2.trans aims.2⟩, ?_⟩
    · rw [List.flatMap_cons, ← spots]
      exact (spots ▸ apart).trans tail.apart
    · rw [tail.registered, registered, List.map_cons, List.append_assoc, List.singleton_append]
      refine congrArg _ (congrArg _ (List.map_congr_left fun c _ => ?_))
      rw [targetSame aims, apart.cwd]

theorem Calls.split {earlier later : List (GeneratedSource × Option Failure)} (history : Calls o w (earlier ++ later) q v) :
    ∃ p u, Calls o w earlier p u ∧ Calls p u later q v := by
  induction earlier generalizing o w with
  | nil => exact ⟨o, w, .done o w, history⟩
  | cons c rest ih =>
    cases history with
    | call ran answered next =>
      obtain ⟨p, u, first, second⟩ := ih next
      exact ⟨p, u, .call ran answered first, second⟩

theorem Calls.lastTold {earlier later : List (GeneratedSource × Option Failure)}
    (history : Calls o w (earlier ++ (m, none) :: later) q v) (sound : w.Sound) (unlogged : w.logFile ≠ some (o.spot w m))
    (last : ∀ c ∈ later, o.spot w c.1 = o.spot w m → c.2 ≠ none) : v.Tells (o.target m) m.content := by
  obtain ⟨p, u, before, rest⟩ := history.split
  have first := before.course sound
  cases rest with
  | call ran answered after =>
    rename_i p' u'
    obtain ⟨still, apart⟩ := answered.left
    have spots : p.spot u = o.spot w := spotsKept first.aims first.apart.cwd
    have spotsToo : p'.spot u' = o.spot w := (spotsKept answered.aims.1 apart.cwd).trans spots
    have told := answered.told (spots ▸ first.apart.logFile ▸ unlogged)
    have there : u'.spot (o.target m) = o.spot w m :=
      congrFun (Workspace.spotSame (apart.cwd.trans first.apart.cwd)) (o.target m)
    rw [targetSame first.aims] at told
    refine told.kept still (after.course still).apart (fun inside => ?_) ?_
    · obtain ⟨c, member, touched⟩ := List.mem_flatMap.mp inside
      unfold Output.touched at touched
      split at touched
      · rename_i taken
        rw [spotsToo, there] at touched
        exact last c member (List.mem_singleton.mp touched).symm taken
      · cases touched
    · rw [there, apart.logFile, first.apart.logFile]
      exact unlogged

/-! Pruning. -/

/- The induction is on the candidates that are left. One that is removed resolves to a path that is not registered. -/
theorem pruneSpares (o : Output) (seen cs : List Path) (sound : w.Sound) :
    ∃ p failure v gone, (o.pruneFrom seen cs).runIn w = (.ok (p, failure), v) ∧ v.Sound ∧ w.Apart gone v ∧
      ∀ s ∈ gone, Path.mk "/" s ∉ o.registered := by
  induction cs generalizing o seen w with
  | nil => exact ⟨o, none, w, [], rfl, sound, .refl w, by simp⟩
  | cons c rest ih =>
    cases found : c.firstFlaw? with
    | some flaw =>
      refine ⟨o, some flaw.failure, w, [], ?_, sound, .refl w, by simp⟩
      rw [pruneFrom]
      simp only [found]
      rfl
    | none =>
      have unflawed : c.flaw? = none := (Path.unflawedIff c).mpr ((Path.firstUnflawedIff c).mp found)
      rw [pruneRun found]
      dsimp only
      split
      · exact ih o seen sound
      · rename_i fresh
        simp only [Bool.or_eq_true, List.contains_iff_mem, not_or] at fresh
        split
        · exact ih { o with obsolete := o.obsolete ++ [c] } _ sound
        · rw [attemptIn]
          rcases removeFileTells unflawed w with ⟨u, removed⟩ | ⟨f, failed⟩
          · rw [removed]
            obtain ⟨still, apart, _⟩ := removeFileLeaves sound removed
            let r : Log.Record := ⟨Log.info, logger, "Removed obsolete " ++ c.text⟩
            obtain ⟨p, failure, v, gone, ran, last, later, spared⟩ :=
              ih { o with removed := o.removed ++ [c] } (c.absolute w.cwd :: seen) (Workspace.noteSound r still)
            refine ⟨p, failure, v, _, ran, last, (apart.after (Workspace.noteApart r u)).trans later, fun s member => ?_⟩
            rcases List.mem_append.mp member with own | other
            · rw [List.mem_singleton.mp own]
              exact fresh.1
            · exact spared s other
          · rw [failed]
            dsimp only
            split
            · exact ih o _ sound
            · exact ⟨o, _, w, [], rfl, sound, .refl w, by simp⟩

/-- A directory, and a file that stands where a directory would have to be made. -/
def crowded : Workspace := { tree := [(["d"], .directory), (["f"], .file [])] }

end Output

end AccessorForge
