import AccessorForge.Proofs.Suppression
/-! Passes whose output refuses some names. A refused module costs the pass nothing but that module: what is
found out before, and what is handed over besides, is as if nothing were refused. The output is asked in the
order of emission and keeps what it takes; that it may also be slow or forget is not looked at. -/
namespace AccessorForge

/-- Why an output refuses a name, if it does. -/
abbrev Refusal := String → Option String

def Refusal.takes (refusal : Refusal) (s : GeneratedSource) : Bool := (refusal s.name).isNone

/-- The reports on what is refused, as a pass gives them. -/
def Refusal.notes (refusal : Refusal) (s : GeneratedSource) : Option String := (refusal s.name).map (writeError s)

section Delivery
variable {σ : Type} (refusal : Refusal) (take : σ → GeneratedSource → σ) (hear : σ → Log.Record → σ)

/-- An output that takes modules into its state unless their names are refused. -/
def refusing (s : GeneratedSource) : StateM σ (Option String) := fun st =>
  match refusal s.name with
  | some reason => (some reason, st)
  | none => (none, take st s)

def hearing (r : Log.Record) : StateM σ Unit := modify (hear · r)

/-- What one module leaves behind at the output and in the log. -/
def handedTo (st : σ) (s : GeneratedSource) : σ :=
  match refusal s.name with
  | some reason => hear st (refusalRecord s reason)
  | none => take st s

theorem refusingDelivers (ms : List GeneratedSource) (d : Delivery) (st : σ) :
    (deliver (refusing refusal take) (hearing hear) d ms).run st =
      (⟨d.sources ++ ms.filter refusal.takes, d.writeErrors ++ ms.filterMap refusal.notes⟩,
        ms.foldl (handedTo refusal take hear) st) := by
  induction ms generalizing d st with
  | nil =>
    simp [deliver]
    rfl
  | cons s rest ih =>
    cases answer : refusal s.name with
    | none =>
      have next : (deliver (refusing refusal take) (hearing hear) d (s :: rest)).run st =
          (deliver (refusing refusal take) (hearing hear) (d.note s none) rest).run (take st s) := by
        simp [deliver, refusing, answer, StateT.run, bind, StateT.bind]
      rw [next, ih]
      simp [Delivery.note, Refusal.takes, Refusal.notes, handedTo, answer]
    | some reason =>
      have next : (deliver (refusing refusal take) (hearing hear) d (s :: rest)).run st =
          (deliver (refusing refusal take) (hearing hear) (d.note s (some reason)) rest).run
            (hear st (refusalRecord s reason)) := by
        simp [deliver, refusing, hearing, answer, StateT.run, bind, StateT.bind]
        rfl
      rw [next, ih]
      simp [Delivery.note, Refusal.takes, Refusal.notes, handedTo, answer]

theorem hearsAll (rs : List Log.Record) (st : σ) :
    (rs.forM (hearing hear)).run st = ((), rs.foldl hear st) := by
  induction rs generalizing st with
  | nil => rfl
  | cons r rest ih => exact ih (hear st r)

/-- The modules that a pass hands over. -/
def handedOver (options : PassOptions) (units : List SourceUnit) : List GeneratedSource :=
  (Analysis.ofUnits options.warningsAsErrors units).sources options

/-- The result of a pass whose output refuses what it refuses. -/
def resultUnder (options : PassOptions) (units : List SourceUnit) : PassResult :=
  (Analysis.ofUnits options.warningsAsErrors units).result
    ⟨(handedOver options units).filter refusal.takes, (handedOver options units).filterMap refusal.notes⟩

theorem refusingPasses (options : PassOptions) (units : List SourceUnit) (st : σ) :
    (runPass (refusing refusal take) (hearing hear) options units).run st =
      (resultUnder refusal options units,
        hear ((handedOver options units).foldl (handedTo refusal take hear)
          ((Analysis.ofUnits options.warningsAsErrors units).records.foldl hear st))
          (resultUnder refusal options units).record) := by
  let analysis := Analysis.ofUnits options.warningsAsErrors units
  let delivered := (deliver (refusing refusal take) (hearing hear) {} (analysis.sources options)).run
    ((analysis.records.forM (hearing hear)).run st).2
  have stages : (runPass (refusing refusal take) (hearing hear) options units).run st =
      (analysis.result delivered.1, hear delivered.2 (analysis.result delivered.1).record) := rfl
  have ends : delivered = _ := refusingDelivers refusal take hear _ _ _
  rw [stages, ends, hearsAll]
  rfl

end Delivery

/-! Modules kept in memory, with the log beside them. -/

structure Channels where
  memory : Memory := []
  records : List Log.Record := []

namespace Channels

def take (c : Channels) (s : GeneratedSource) : Channels := { c with memory := c.memory.add s }

def hear (c : Channels) (r : Log.Record) : Channels := { c with records := c.records ++ [r] }

end Channels

def passInChannels (refusal : Refusal) (options : PassOptions) (units : List SourceUnit) : PassResult × Channels :=
  let run : StateM Channels PassResult :=
    runPass (refusing refusal Channels.take) (hearing Channels.hear) options units
  run.run {}

/-- The refusal of a list of names for one and the same reason. -/
def refusalOf (refused : List String) (reason : String) : Refusal := fun name =>
  if refused.contains name then some reason else none

def entryFor (s : GeneratedSource) : String × GeneratedSource := (s.name, s)

theorem addedAll (m : Memory) (ms : List GeneratedSource) :
    ms.foldl Memory.add m = Ledger.putAll m (ms.map entryFor) := by
  rw [Ledger.putAll, List.foldl_map]
  rfl

theorem takenOnly (refusal : Refusal) (m : Memory) (ms : List GeneratedSource) :
    ms.foldl (handedTo refusal Memory.add fun m _ => m) m =
      Ledger.putAll m ((ms.filter refusal.takes).map entryFor) := by
  rw [← addedAll, List.foldl_filter]
  congr 1
  funext m s
  unfold handedTo Refusal.takes
  cases refusal s.name <;> rfl

theorem passInMemory (refused : List String) (reason : String) (options : PassOptions) (units : List SourceUnit) :
    runPassInMemory refused reason options units =
      (resultUnder (refusalOf refused reason) options units,
        Ledger.putAll [] (((handedOver options units).filter (refusalOf refused reason).takes).map entryFor)) := by
  have adding : Memory.addUnless refused reason = refusing (refusalOf refused reason) Memory.add := by
    funext s m
    unfold Memory.addUnless refusing refusalOf
    by_cases named : s.name ∈ refused
    · simp [named]
      rfl
    · simp [named]
      rfl
  have silent : (fun _ => pure () : Log.Record → StateM Memory Unit) = hearing fun m _ => m := rfl
  have unheard (rs : List Log.Record) (m : Memory) : rs.foldl (fun m _ => m) m = m := by
    induction rs with
    | nil => rfl
    | cons r rest ih => exact ih
  unfold runPassInMemory
  rw [adding, silent]
  simp only [refusingPasses, unheard, takenOnly]

theorem channelsAfter (refusal : Refusal) (ms : List GeneratedSource) (c : Channels) :
    ms.foldl (handedTo refusal Channels.take Channels.hear) c =
      ⟨Ledger.putAll c.memory ((ms.filter refusal.takes).map entryFor),
        c.records ++ ms.filterMap fun s => (refusal s.name).map (refusalRecord s)⟩ := by
  induction ms generalizing c with
  | nil => simp [Ledger.putAll]
  | cons s rest ih =>
    rw [List.foldl_cons, ih]
    cases answer : refusal s.name with
    | none => simp [handedTo, answer, Channels.take, Refusal.takes, Ledger.putAll, entryFor, Memory.add]
    | some reason => simp [handedTo, answer, Channels.hear, Refusal.takes]

theorem heardAll (rs : List Log.Record) (c : Channels) :
    rs.foldl Channels.hear c = { c with records := c.records ++ rs } := by
  induction rs generalizing c with
  | nil => simp
  | cons r rest ih => simp [ih, Channels.hear]

theorem passHeard (refusal : Refusal) (options : PassOptions) (units : List SourceUnit) :
    passInChannels refusal options units =
      (resultUnder refusal options units,
        ⟨Ledger.putAll [] (((handedOver options units).filter refusal.takes).map entryFor),
          (Analysis.ofUnits options.warningsAsErrors units).records ++
            ((handedOver options units).filterMap fun s => (refusal s.name).map (refusalRecord s)) ++
            [(resultUnder refusal options units).record]⟩) := by
  unfold passInChannels
  simp only [refusingPasses, heardAll, channelsAfter, Channels.hear, List.nil_append]

/-! What is reported. -/

def reports (rs : List Log.Record) : List Log.Record := rs.filter (·.logger = "componentgen.diagnostics")

theorem reportsAppend (rs ts : List Log.Record) : reports (rs ++ ts) = reports rs ++ reports ts := List.filter_append ..

theorem reportsNone {rs : List Log.Record} {logger : String} (other : logger ≠ "componentgen.diagnostics")
    (named : ∀ r ∈ rs, r.logger = logger) : reports rs = [] := by
  rw [reports, List.filter_eq_nil_iff]
  intro r member
  simpa [named r member] using other

theorem reportsFound (warningsAsErrors : Bool) (units : List SourceUnit) :
    reports (Analysis.ofUnits warningsAsErrors units).records =
      (Analysis.ofUnits warningsAsErrors units).diagnostics.map Diagnostic.record := by
  unfold Analysis.ofUnits Analysis.ofContainers validate
  simp only [reportsAppend, Analysis.diagnostics, List.map_flatMap]
  have found (cs : List Container) : reports (cs.map Analysis.foundRecord) = [] := by
    refine @reportsNone _ "componentgen.core.services.scanner" (by decide) fun r member => ?_
    obtain ⟨c, _, rfl⟩ := List.mem_map.mp member
    rfl
  have suppressions (vs : List Verdict) : reports (vs.filterMap Verdict.suppression) = [] := by
    refine @reportsNone _ Verdict.logger (by decide) fun r member => ?_
    obtain ⟨v, _, told⟩ := List.mem_filterMap.mp member
    unfold Verdict.suppression at told
    split at told
    · cases told
    · cases Option.some.inj told
      rfl
  have told (vs : List Verdict) : reports (vs.flatMap fun v => v.container.diagnostics.map Diagnostic.record) =
      vs.flatMap fun v => v.container.diagnostics.map Diagnostic.record := by
    rw [reports, List.filter_eq_self]
    intro r member
    obtain ⟨v, _, inside⟩ := List.mem_flatMap.mp member
    obtain ⟨d, _, rfl⟩ := List.mem_map.mp inside
    exact decide_eq_true rfl
  rw [found, suppressions, told]
  rfl

theorem reportsHeard (refusal : Refusal) (options : PassOptions) (units : List SourceUnit) :
    reports (passInChannels refusal options units).2.records =
      (Analysis.ofUnits options.warningsAsErrors units).diagnostics.map Diagnostic.record := by
  have refusals : reports ((handedOver options units).filterMap fun s => (refusal s.name).map (refusalRecord s)) = [] := by
    refine @reportsNone _ passLogger (by decide) fun r member => ?_
    obtain ⟨s, _, told⟩ := List.mem_filterMap.mp member
    obtain ⟨reason, _, rfl⟩ := Option.map_eq_some_iff.mp told
    rfl
  have last : reports [(resultUnder refusal options units).record] = [] := by
    refine @reportsNone _ passLogger (by decide) fun r member => ?_
    rw [List.mem_singleton.mp member]
    rfl
  rw [passHeard]
  simp only [reportsAppend, reportsFound, refusals, last, List.append_nil]

/-- A pass whose output refuses some names beside the pass whose output takes all of them. What is found, what is
reported and what is suppressed is the same; of the modules that the whole pass hands over, those of a refused
name are noted as errors and the others arrive, in the same order and with the same content; and the output
holds what it would hold, less the refused names. -/
theorem refusalsIsolated (refusal : Refusal) (options : PassOptions) (units : List SourceUnit) :
    let partly := passInChannels refusal options units
    let whole := passInChannels (fun _ => none) options units
    partly.1.containers = whole.1.containers ∧ partly.1.diagnostics = whole.1.diagnostics ∧
    partly.1.suppressed = whole.1.suppressed ∧
    reports partly.2.records = reports whole.2.records ∧
    reports whole.2.records = whole.1.diagnostics.map Diagnostic.record ∧
    whole.1.writeErrors = [] ∧
    partly.1.sources = whole.1.sources.filter (fun s => refusal s.name = none) ∧
    partly.1.writeErrors = whole.1.sources.filterMap (fun s => (refusal s.name).map (writeError s)) ∧
    partly.2.memory = whole.2.memory.filter (fun e => refusal e.1 = none) ∧
    (∀ name, refusal name = none → Ledger.get? partly.2.memory name = Ledger.get? whole.2.memory name) ∧
    ∀ refused reason, refusal = refusalOf refused reason →
      runPassInMemory refused reason options units = (partly.1, partly.2.memory) := by
  intro partly whole
  have ended : partly = _ := passHeard refusal options units
  have total : whole = _ := passHeard (fun _ => none) options units
  have all : (handedOver options units).filter (Refusal.takes fun _ => none) = handedOver options units := by
    simp [Refusal.takes]
  have sources : whole.1.sources = handedOver options units := by
    rw [total]
    exact all
  have keeps (name : String) : decide (refusal name = none) = (refusal name).isNone := by
    cases refusal name <;> rfl
  have memory : partly.2.memory = whole.2.memory.filter (fun e => refusal e.1 = none) := by
    simp only [ended, total, all, keeps]
    rw [Ledger.filterPutAll fun name => (refusal name).isNone, List.filter_map]
    rfl
  refine ⟨?_, ?_, ?_, ?_, ?_, ?_, ?_, ?_, memory, ?_, ?_⟩
  · rw [ended, total]
    rfl
  · rw [ended, total]
    rfl
  · rw [ended, total]
    rfl
  · exact (reportsHeard refusal options units).trans (reportsHeard _ options units).symm
  · rw [total]
    exact (congrArg reports (congrArg (·.2.records) total.symm)).trans (reportsHeard _ options units)
  · rw [total]
    simp [resultUnder, Analysis.result, Refusal.notes]
  · rw [sources, ended]
    simp only [keeps]
    rfl
  · rw [sources, ended]
    rfl
  · intro name taken
    rw [memory, Ledger.getFilter fun name => refusal name = none]
    simp [taken]
  · rintro refused reason rfl
    rw [passInMemory, ended]

end AccessorForge
