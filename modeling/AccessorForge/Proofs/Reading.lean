import AccessorForge.Proofs.Candidates
import AccessorForge.Proofs.DryRuns
import AccessorForge.Proofs.Frames
/-! What jobs that read find out, as functions of the workspace. A path of proper names in a sound tree leads to
what stands under its names, so that nothing else in the workspace matters. -/
namespace AccessorForge
open Job Running
variable {w v : Workspace} {p : Path}

namespace Workspace

def held? (w : Workspace) (p : Path) : Option (List UInt8) :=
  if w.refusals.reading.contains p.text || decide (Path.maxPathBytes < Path.byteCount p.text) then none
  else w.tree.bytes? p.parts

def text? (w : Workspace) (p : Path) : Option String :=
  (w.held? p).bind fun bytes =>
    (Text.Utf8.decode bytes).toOption.map fun cs => String.ofList (Text.LineEnds.unify cs)

def firstLine? (w : Workspace) (p : Path) : Option String :=
  (w.held? p).bind fun bytes => (Text.Utf8.firstLine bytes).toOption.map String.ofList

theorem heldBytes {bytes : List UInt8} (held : w.held? p = some bytes) :
    p.Fits ∧ w.tree.bytes? p.parts = some bytes := by
  unfold held? at held
  split at held
  · cases held
  · rename_i open_
    simp only [Bool.or_eq_true, decide_eq_true_eq, not_or] at open_
    exact ⟨Nat.le_of_not_lt open_.2, held⟩

theorem heldSame (refusals : v.refusals = w.refusals) (same : v.tree.bytes? p.parts = w.tree.bytes? p.parts) :
    v.held? p = w.held? p := by
  unfold held?
  rw [refusals, same]

theorem textSame (refusals : v.refusals = w.refusals) (same : v.tree.bytes? p.parts = w.tree.bytes? p.parts) :
    v.text? p = w.text? p := by
  unfold text?
  rw [heldSame refusals same]

theorem firstLineSame (refusals : v.refusals = w.refusals) (same : v.tree.bytes? p.parts = w.tree.bytes? p.parts) :
    v.firstLine? p = w.firstLine? p := by
  unfold firstLine?
  rw [heldSame refusals same]

theorem textHeld {text : String} (read : w.text? p = some text) : ∃ bytes, w.held? p = some bytes := by
  unfold text? at read
  cases held : w.held? p with
  | none => simp [held] at read
  | some bytes => exact ⟨bytes, rfl⟩

theorem firstLineHeld {line : String} (read : w.firstLine? p = some line) : ∃ bytes, w.held? p = some bytes := by
  unfold firstLine? at read
  cases held : w.held? p with
  | none => simp [held] at read
  | some bytes => exact ⟨bytes, rfl⟩

end Workspace

namespace Job

theorem locateIn (p : Path) (w : Workspace) : (locate p).runIn w =
    match w.tree.locate w.cwd p with
    | .ok s => (.ok s, w)
    | .error o => (.error (.file ⟨o, p.text, none⟩), w) := by
  unfold locate
  rw [bindIn, getIn]
  dsimp only
  cases w.tree.locate w.cwd p with
  | ok s => rfl
  | error o => rfl

theorem entryIn (p : Path) (w : Workspace) : ( entry? p).runIn w =
    match w.tree.entry? w.cwd p with
    | .ok e => (.ok e, w)
    | .error o => (.error (.file ⟨o, p.text, none⟩), w) := by
  unfold entry?
  rw [bindIn, getIn]
  dsimp only
  cases w.tree.entry? w.cwd p with
  | ok e => rfl
  | error o => rfl

theorem entryOk {e : Option Entry} (ok : ( entry? p).runIn w = (.ok e, v)) :
    w.tree.entry? w.cwd p = .ok e ∧ v = w := by
  rw [entryIn] at ok
  split at ok
  · rename_i found
    cases ok
    exact ⟨found, rfl⟩
  · cases ok

theorem resolveIn (p : Path) (w : Workspace) : (resolve p).runIn w =
    match p.firstFlaw? with
    | some flaw => (.error flaw.failure, w)
    | none => (.ok (p.absolute w.cwd), w) := by
  unfold resolve
  rw [bindIn]
  cases p.firstFlaw? with
  | some flaw => rfl
  | none => rfl

theorem resolveOk {q : Path} (ok : (resolve p).runIn w = (.ok q, v)) :
    p.firstFlaw? = none ∧ q = p.absolute w.cwd ∧ v = w := by
  rw [resolveIn] at ok
  split at ok
  · cases ok
  · rename_i unflawed
    cases ok
    exact ⟨unflawed, rfl, rfl⟩

theorem readBytesIn (sound : w.Sound) (straight : p.Straight) (unflawed : p.flaw? = none) :
    (∃ bytes, w.held? p = some bytes ∧ (readBytes p).runIn w = (.ok bytes, w)) ∨
      (w.held? p = none ∧ ∃ f, (readBytes p).runIn w = (.error (.file f), w)) := by
  have fine : (refuseFlawed p).runIn w = (.ok (), w) := by
    unfold refuseFlawed
    rw [unflawed]
    rfl
  unfold readBytes Workspace.held?
  rw [bindOf fine, bindOf (getIn w)]
  by_cases denied : w.refusals.reading.contains p.text = true
  · refine .inr ⟨by rw [if_pos (by simp only [denied, Bool.true_or])], ⟨.denied, p.text, none⟩, ?_⟩
    simp only [denied, if_true]
    rw [bindIn]
    rfl
  · have allowed : w.refusals.reading.contains p.text = false := by simpa using denied
    simp only [allowed, Bool.false_eq_true, if_false, Bool.false_or, decide_eq_true_eq]
    rw [bindOf (getIn w)]
    by_cases long : Path.maxPathBytes < Path.byteCount p.text
    · refine .inr ⟨if_pos long, ⟨.nameTooLong, p.text, none⟩, ?_⟩
      rw [bindIn, locateIn]
      unfold FileTree.locate
      rw [if_pos long]
    · rw [if_neg long, bindIn, locateIn]
      have fits : p.Fits := Nat.le_of_not_lt long
      cases there : w.tree.get? p.parts with
      | some e =>
        rw [FileTree.locateThere sound.tree w.cwd straight fits there]
        simp only [there]
        cases e with
        | file bytes => exact .inl ⟨bytes, (FileTree.bytesIff _ _ _).mpr there, rfl⟩
        | directory =>
          refine .inr ⟨by unfold FileTree.bytes?; rw [there], ⟨.isDirectory, p.text, none⟩, rfl⟩
      | none =>
        have nothing : w.tree.bytes? p.parts = none := by
          unfold FileTree.bytes?
          rw [there]
        refine .inr ⟨nothing, ?_⟩
        cases located : w.tree.locate w.cwd p with
        | ok s =>
          have same : s = p.parts := by rw [sound.located located, straight.absolute]
          simp only [same, there]
          exact ⟨⟨.missing, p.text, none⟩, rfl⟩
        | error o => exact ⟨⟨o, p.text, none⟩, rfl⟩

theorem readTextIn (sound : w.Sound) (straight : p.Straight) (unflawed : p.flaw? = none) :
    ∃ told : Except String String,
      (attemptRead (readText p)).runIn w = (.ok told, w) ∧ told.toOption = w.text? p := by
  rw [attemptReadIn]
  unfold readText Workspace.text?
  rw [bindIn]
  rcases readBytesIn sound straight unflawed with ⟨bytes, held, read⟩ | ⟨held, f, failed⟩
  · rw [read, held]
    dsimp only [Option.bind]
    cases Text.Utf8.decode bytes with
    | error f => exact ⟨.error f.message, rfl, rfl⟩
    | ok cs => exact ⟨.ok _, rfl, rfl⟩
  · rw [failed, held]
    exact ⟨.error f.message, rfl, rfl⟩

theorem readFirstLineIn (sound : w.Sound) (straight : p.Straight) (unflawed : p.flaw? = none) :
    ∃ told : Except String String,
      (attemptRead (readFirstLine p)).runIn w = (.ok told, w) ∧ told.toOption = w.firstLine? p := by
  rw [attemptReadIn]
  unfold readFirstLine Workspace.firstLine?
  rw [bindIn]
  rcases readBytesIn sound straight unflawed with ⟨bytes, held, read⟩ | ⟨held, f, failed⟩
  · rw [read, held]
    dsimp only [Option.bind]
    cases Text.Utf8.firstLine bytes with
    | error f => exact ⟨.error f.message, rfl, rfl⟩
    | ok cs => exact ⟨.ok _, rfl, rfl⟩
  · rw [failed, held]
    exact ⟨.error f.message, rfl, rfl⟩

theorem isFileIn (sound : w.Sound) (usable : p.Usable) (fits : p.Fits) :
    (isFile p).runIn w = (.ok (w.tree.bytes? p.parts).isSome, w) := by
  unfold isFile
  rw [bindIn, entryIn, FileTree.entryUsable sound.tree w.cwd usable fits]
  unfold FileTree.bytes?
  cases w.tree.get? p.parts with
  | none => rfl
  | some e => cases e <;> rfl

end Job

namespace Output

theorem probeIn (sound : w.Sound) (usable : p.Usable) (fits : p.Fits) (text : String) :
    ∃ rs, (probe p text).runIn w = (.ok (decide (w.text? p = some text)), w.noted rs) := by
  unfold probe
  rw [bindOf (isFileIn sound usable fits)]
  cases there : w.tree.bytes? p.parts with
  | none =>
    have unread : w.text? p = none := by
      cases read : w.text? p with
      | none => rfl
      | some text =>
        obtain ⟨bytes, held⟩ := Workspace.textHeld read
        cases there.symm.trans (Workspace.heldBytes held).2
    exact ⟨[], by simp only [unread]; rfl⟩
  | some bytes =>
    obtain ⟨told, ran, read⟩ := readTextIn sound usable.straight usable.unflawed
    simp only [Option.isSome_some, if_true]
    unfold isCurrent
    rw [bindOf ran, ← read]
    cases told with
    | ok old => exact ⟨[], by simp only [Except.toOption, Option.some.injEq]; rfl⟩
    | error message => exact ⟨[_], by simp only [Except.toOption]; rfl⟩

end Output

end AccessorForge
