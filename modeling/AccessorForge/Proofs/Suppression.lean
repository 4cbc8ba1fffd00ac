import AccessorForge.Proofs.Clashes
import Mathlib.Data.List.Nodup
/-! Which containers a pass suppresses, what it reports and what it hands over. Settling goes through the
containers once with a map of claimed output names; the statements have no map, they name the earlier
containers that are generated. -/
namespace AccessorForge

/-! The scanned containers. -/

def scannedContainers (units : List SourceUnit) : List Container := (Containers.scan units).aggregate.values

theorem aggregateKeeps (c : Container) :
    c.aggregate.fullName = c.fullName ∧ c.aggregate.diagnostics = c.diagnostics := by
  have one (c : Container) (a : Annotation) :
      (c.merge a).fullName = c.fullName ∧ (c.merge a).diagnostics = c.diagnostics := by
    unfold Container.merge
    repeat' split
    all_goals exact ⟨rfl, rfl⟩
  have all (as : List Annotation) (c : Container) : (as.foldl Container.merge c).fullName = c.fullName ∧
      (as.foldl Container.merge c).diagnostics = c.diagnostics := by
    induction as generalizing c with
    | nil => exact ⟨rfl, rfl⟩
    | cons a rest ih =>
      obtain ⟨name, told⟩ := ih (c.merge a)
      exact ⟨name.trans (one c a).1, told.trans (one c a).2⟩
  exact all c.annotations c

theorem listedContainer {units : List SourceUnit} {name : String} {c : Container}
    (member : (name, c) ∈ Containers.scan units) : c.fullName = name ∧ c.diagnostics = [] := by
  rw [scanListing] at member
  obtain ⟨key, _, found⟩ := List.mem_filterMap.mp member
  cases group : (markedSites units).filter (·.fullName = key) with
  | nil => simp [group, Site.merged] at found
  | cons first rest =>
    have named : first.fullName = key := by
      have inside : first ∈ (markedSites units).filter (·.fullName = key) := group ▸ List.mem_cons_self
      simpa using (List.mem_filter.mp inside).2
    simp only [group, Site.merged, Option.map_some, Option.some.injEq, Prod.mk.injEq] at found
    obtain ⟨rfl, rfl⟩ := found
    exact ⟨named, rfl⟩

theorem scannedFresh {units : List SourceUnit} {c : Container} (member : c ∈ scannedContainers units) :
    c.diagnostics = [] := by
  obtain ⟨entry, inside, rfl⟩ := List.mem_map.mp member
  obtain ⟨raw, listed, rfl⟩ := List.mem_map.mp inside
  exact (aggregateKeeps raw.2).2.trans (listedContainer listed).2

theorem scannedNames (units : List SourceUnit) :
    (scannedContainers units).map (·.fullName) = (Containers.scan units).keys := by
  unfold scannedContainers Containers.aggregate Ledger.values Ledger.keys
  rw [List.map_map, List.map_map]
  refine List.map_congr_left fun entry member => ?_
  exact (aggregateKeeps entry.2).1.trans (listedContainer member).1

/-! Judging. Nothing that judging does to a container shows in its module. -/

theorem precedencePlanned (c : Container) : c.applyPrecedence.planned = c.planned := by
  have auto : c.applyPrecedence.autoNamed = c.autoNamed := by
    unfold Container.autoNamed Container.applyPrecedence
    cases c.defaults with
    | none => rfl
    | some visibility => simp [List.filter_filter]
  unfold Container.planned
  rw [auto]
  rfl

theorem precedenceModule (c : Container) (scope : ImportScope) (runtimeModule : String) :
    c.applyPrecedence.generate scope runtimeModule = c.generate scope runtimeModule := by
  unfold Container.generate Container.render Container.mixinClass
  rw [precedencePlanned]
  rfl

theorem reportModule (c : Container) (ds : List Diagnostic) (scope : ImportScope) (runtimeModule : String) :
    (c.reportAll ds).generate scope runtimeModule = c.generate scope runtimeModule := rfl

def Container.SameModule (c d : Container) : Prop :=
  ∀ (scope : ImportScope) (runtimeModule : String), c.generate scope runtimeModule = d.generate scope runtimeModule

namespace Container.SameModule

theorem fullName {c d : Container} (same : c.SameModule d) : c.fullName = d.fullName :=
  congrArg GeneratedSource.container (same .all "")

theorem outputName {c d : Container} (same : c.SameModule d) :
    Naming.outputName c.name = Naming.outputName d.name :=
  congrArg GeneratedSource.name (same .all "")

end Container.SameModule

structure Judged (c : Container) (v : Verdict) : Prop where
  kept : v.kept = true ↔ ¬ c.Flawed
  module : v.container.SameModule c
  location : v.container.location = c.location
  found : v.container.diagnostics = c.findings

theorem judgeFresh (warningsAsErrors : Bool) {c : Container} (fresh : c.diagnostics = []) :
    Judged c (Verdict.judge warningsAsErrors c) := by
  have told : c.examine.diagnostics = c.findings := by
    simp [Container.examine, Container.reportAll, Container.findings, fresh]
  have errors : c.examine.hasErrors warningsAsErrors = true ↔ c.Flawed := by
    have someError : c.findings.any (·.isError) = !c.findings.isEmpty := by
      have all := c.findingsAreErrors
      cases found : c.findings with
      | nil => rfl
      | cons d rest => simp [all d (found ▸ List.mem_cons_self)]
    have either : c.examine.hasErrors warningsAsErrors = !c.findings.isEmpty := by
      unfold Container.hasErrors
      rw [told, someError, ite_self]
    rw [either, Bool.not_eq_true', ← Bool.not_eq_true, List.isEmpty_iff, c.findingsFine, not_not]
  unfold Verdict.judge
  by_cases flawed : c.Flawed
  · rw [if_pos (errors.mpr flawed)]
    exact ⟨by simp [flawed], reportModule c _, rfl, told⟩
  · rw [if_neg (fun wrong => flawed (errors.mp wrong))]
    exact ⟨by simp [flawed], precedenceModule c.examine, rfl, told⟩

/-! Settling. -/

def Verdict.outputName (v : Verdict) : String := Naming.outputName v.container.name

/-- What becomes of a verdict, given whether its output name is taken. -/
inductive Ruling (warningsAsErrors : Bool) (taken : Prop) (v : Verdict) : Verdict → Prop
  | dropped (flawed : v.kept = false) : Ruling warningsAsErrors taken v v
  | alone (fine : v.kept = true) (free : ¬ taken) : Ruling warningsAsErrors taken v v
  | second (fine : v.kept = true) (after : taken) (earlier : String) : Ruling warningsAsErrors taken v
      ⟨v.container.report (Verdict.collision v.outputName earlier v.container), !warningsAsErrors⟩

theorem settleOne (warningsAsErrors : Bool) (claimed : Verdict.Claimed) (v : Verdict) (rest : List Verdict) :
    ∃ w renewed,
      Verdict.settleFrom warningsAsErrors claimed (v :: rest) =
        w :: Verdict.settleFrom warningsAsErrors renewed rest ∧
      Ruling warningsAsErrors (v.outputName ∈ claimed.keys) v w ∧
      ∀ name, name ∈ renewed.keys ↔ name ∈ claimed.keys ∨ (w.kept = true ∧ w.outputName = name) := by
  have renewedKeys (name : String) : name ∈ (Ledger.put v.outputName v.container.fullName claimed).keys ↔
      name ∈ claimed.keys ∨ v.outputName = name := by
    rw [Ledger.keysPutEq, mem_appendNew, eq_comm (a := v.outputName)]
  cases kept : v.kept with
  | false =>
    refine ⟨v, claimed, ?_, .dropped kept, fun name => by simp [kept]⟩
    simp only [Verdict.settleFrom, kept, Bool.false_eq_true, if_false]
  | true =>
    cases found : Ledger.get? claimed v.outputName with
    | none =>
      have free := Ledger.getNoneIff.mp found
      refine ⟨v, Ledger.put v.outputName v.container.fullName claimed, ?_, .alone kept free, ?_⟩
      · unfold Verdict.outputName at found
        simp only [Verdict.settleFrom, kept, if_true, found]
        rfl
      · intro name
        simp only [renewedKeys, kept, true_and]
    | some earlier =>
      have taken : v.outputName ∈ claimed.keys := by
        by_contra free
        rw [Ledger.getNoneIff.mpr free] at found
        cases found
      have ruled := @Ruling.second warningsAsErrors _ v kept taken earlier
      unfold Verdict.outputName at found
      cases warningsAsErrors with
      | true =>
        refine ⟨_, claimed, ?_, ruled, fun name => by simp⟩
        simp only [Verdict.settleFrom, kept, if_true, found]
        rfl
      | false =>
        refine ⟨_, Ledger.put v.outputName v.container.fullName claimed, ?_, ruled, ?_⟩
        · simp only [Verdict.settleFrom, kept, if_true, found, Bool.false_eq_true, if_false]
          rfl
        · intro name
          rw [renewedKeys]
          simp [Verdict.outputName, Container.report]

/-- The names claimed at the start apart, a name is taken if an earlier verdict that stands has it. -/
theorem settleRuled (warningsAsErrors : Bool) (vs : List Verdict) (claimed : Verdict.Claimed) (i : Nat) (v : Verdict)
    (there : vs[i]? = some v) :
    ∃ w, (Verdict.settleFrom warningsAsErrors claimed vs)[i]? = some w ∧
      Ruling warningsAsErrors (v.outputName ∈ claimed.keys ∨ ∃ (j : Nat) (e : Verdict), j < i ∧
        (Verdict.settleFrom warningsAsErrors claimed vs)[j]? = some e ∧ e.kept = true ∧
        e.outputName = v.outputName) v w := by
  -- With the claims at the start left open, those that the first verdict adds go over to the later ones.
  induction vs generalizing claimed i with
  | nil => simp at there
  | cons first rest ih =>
    obtain ⟨w, renewed, unfolded, ruling, keys⟩ := settleOne warningsAsErrors claimed first rest
    rw [unfolded]
    cases i with
    | zero =>
      cases Option.some.inj there
      refine ⟨w, rfl, ?_⟩
      simpa using ruling
    | succ i =>
      obtain ⟨later, found, ruled⟩ := ih renewed i there
      refine ⟨later, found, ?_⟩
      convert ruled using 1
      rw [keys, or_assoc]
      refine or_congr_right ?_
      constructor
      · rintro ⟨j, e, before, here, stands, same⟩
        cases j with
        | zero =>
          cases Option.some.inj here
          exact .inl ⟨stands, same⟩
        | succ j => exact .inr ⟨j, e, by omega, here, stands, same⟩
      · rintro (⟨stands, same⟩ | ⟨j, e, before, here, stands, same⟩)
        · exact ⟨0, w, by omega, rfl, stands, same⟩
        · exact ⟨j + 1, e, by omega, here, stands, same⟩

theorem settleLength (warningsAsErrors : Bool) (vs : List Verdict) (claimed : Verdict.Claimed) :
    (Verdict.settleFrom warningsAsErrors claimed vs).length = vs.length := by
  induction vs generalizing claimed with
  | nil => rfl
  | cons first rest ih =>
    obtain ⟨w, renewed, unfolded, _⟩ := settleOne warningsAsErrors claimed first rest
    rw [unfolded, List.length_cons, List.length_cons, ih]

/-! The verdicts on the scanned containers. -/

def settledVerdicts (warningsAsErrors : Bool) (units : List SourceUnit) : List Verdict :=
  (Analysis.ofUnits warningsAsErrors units).verdicts

theorem settledOf (warningsAsErrors : Bool) (units : List SourceUnit) :
    settledVerdicts warningsAsErrors units =
      Verdict.settleFrom warningsAsErrors [] ((scannedContainers units).map (Verdict.judge warningsAsErrors)) := rfl

/-- The errors of a container come first; a warning may follow that its output is second to another's. -/
inductive Reported (c : Container) (second : Prop) : List Diagnostic → Prop
  | errors (first : c.Flawed ∨ ¬ second) : Reported c second c.findings
  | warned (fine : ¬ c.Flawed) (after : second) (d : Diagnostic) (code : d.code = "RCG003")
      (warning : d.isError = false) (location : d.location = c.location) : Reported c second (c.findings ++ [d])

structure Settled (warningsAsErrors : Bool) (c : Container) (second : Prop) (w : Verdict) : Prop where
  kept : w.kept = true ↔ ¬ (c.Flawed ∨ (warningsAsErrors = true ∧ second))
  module : w.container.SameModule c
  reported : Reported c second w.container.diagnostics

theorem settledIfRuled {warningsAsErrors : Bool} {c : Container} {taken : Prop} {v w : Verdict}
    (judged : Judged c v) (ruling : Ruling warningsAsErrors taken v w) :
    Settled warningsAsErrors c taken w := by
  cases ruling with
  | dropped flawed =>
    have wrong : c.Flawed := by
      by_contra fine
      rw [judged.kept.mpr fine] at flawed
      cases flawed
    exact ⟨by simp [flawed, wrong], judged.module, judged.found ▸ .errors (.inl wrong)⟩
  | alone stands free =>
    have fine := judged.kept.mp stands
    exact ⟨by simp [stands, fine, free], judged.module, judged.found ▸ .errors (.inr free)⟩
  | second stands after earlier =>
    have fine := judged.kept.mp stands
    refine ⟨by simp [fine, after], fun scope runtimeModule => judged.module scope runtimeModule, ?_⟩
    have told : (v.container.report (Verdict.collision v.outputName earlier v.container)).diagnostics =
        c.findings ++ [Verdict.collision v.outputName earlier v.container] := by
      rw [← judged.found]
      rfl
    rw [told]
    exact .warned fine after _ rfl rfl judged.location

/-- An earlier container that is generated has the output of this one. -/
def SecondAmong (cs : List Container) (suppressed : List String) (i : Nat) (c : Container) : Prop :=
  ∃ (j : Nat) (e : Container), j < i ∧ cs[j]? = some e ∧ e.fullName ∉ suppressed ∧
    Naming.outputName e.name = Naming.outputName c.name

section Verdicts
variable (warningsAsErrors : Bool) (units : List SourceUnit)

def suppressedNames : List String := (Analysis.ofUnits warningsAsErrors units).suppressed

theorem settledLength : (settledVerdicts warningsAsErrors units).length = (scannedContainers units).length := by
  rw [settledOf, settleLength, List.length_map]

/-- Whose output a verdict comes second to is first said in terms of the verdicts. -/
theorem settledAt {i : Nat} {c : Container} (there : (scannedContainers units)[i]? = some c) :
    ∃ w, (settledVerdicts warningsAsErrors units)[i]? = some w ∧
      Settled warningsAsErrors c (∃ (j : Nat) (e : Verdict), j < i ∧
        (settledVerdicts warningsAsErrors units)[j]? = some e ∧ e.kept = true ∧
        e.outputName = Naming.outputName c.name) w := by
  have judged := judgeFresh warningsAsErrors (scannedFresh (List.mem_of_getElem? there))
  have listed : ((scannedContainers units).map (Verdict.judge warningsAsErrors))[i]? =
      some (Verdict.judge warningsAsErrors c) := by
    rw [List.getElem?_map, there, Option.map_some]
  obtain ⟨w, found, ruling⟩ := settleRuled warningsAsErrors _ [] i _ listed
  refine ⟨w, found, ?_⟩
  have settled := settledIfRuled judged ruling
  simpa [Ledger.keys, Verdict.outputName, judged.module.outputName, settledOf] using settled

theorem settledBack {i : Nat} {w : Verdict} (there : (settledVerdicts warningsAsErrors units)[i]? = some w) :
    ∃ c, (scannedContainers units)[i]? = some c ∧ w.container.SameModule c := by
  obtain ⟨inside, _⟩ := List.getElem?_eq_some_iff.mp there
  rw [settledLength] at inside
  have listed := List.getElem?_eq_getElem inside
  obtain ⟨w', found, settled⟩ := settledAt warningsAsErrors units listed
  rw [there] at found
  cases Option.some.inj found
  exact ⟨_, listed, settled.module⟩

theorem settledSame {β : Type} (f : Container → β) (invariant : ∀ c d, c.SameModule d → f c = f d) :
    (settledVerdicts warningsAsErrors units).map (fun w => f w.container) = (scannedContainers units).map f := by
  apply List.ext_getElem?
  intro i
  rw [List.getElem?_map, List.getElem?_map]
  cases there : (scannedContainers units)[i]? with
  | none =>
    have outside : (settledVerdicts warningsAsErrors units)[i]? = none := by
      rw [List.getElem?_eq_none_iff] at there ⊢
      rwa [settledLength]
    rw [outside]
    rfl
  | some c =>
    obtain ⟨w, found, settled⟩ := settledAt warningsAsErrors units there
    rw [found, Option.map_some, Option.map_some, invariant _ _ settled.module]

theorem settledNames :
    (settledVerdicts warningsAsErrors units).map (fun w => w.container.fullName) =
      (scannedContainers units).map (·.fullName) :=
  settledSame warningsAsErrors units (·.fullName) fun _ _ same => same.fullName

theorem scannedNodup : ((scannedContainers units).map (·.fullName)).Nodup := by
  rw [scannedNames]
  exact scanKeysNodup units

theorem suppressedIff {w : Verdict} (there : w ∈ settledVerdicts warningsAsErrors units) :
    w.container.fullName ∈ suppressedNames warningsAsErrors units ↔ w.kept = false := by
  have unique := scannedNodup units
  rw [← settledNames warningsAsErrors] at unique
  have apart := List.inj_on_of_nodup_map unique
  constructor
  · intro listed
    obtain ⟨other, inside, same⟩ := List.mem_map.mp listed
    obtain ⟨member, dropped⟩ := List.mem_filter.mp inside
    rw [← apart member there same]
    simpa using dropped
  · intro dropped
    exact List.mem_map.mpr ⟨w, List.mem_filter.mpr ⟨there, by simp [dropped]⟩, rfl⟩

theorem secondIff (i : Nat) (c : Container) :
    (∃ (j : Nat) (e : Verdict), j < i ∧ (settledVerdicts warningsAsErrors units)[j]? = some e ∧ e.kept = true ∧
      e.outputName = Naming.outputName c.name) ↔
    SecondAmong (scannedContainers units) (suppressedNames warningsAsErrors units) i c := by
  constructor
  · rintro ⟨j, w, before, there, stands, same⟩
    obtain ⟨e, listed, module⟩ := settledBack warningsAsErrors units there
    refine ⟨j, e, before, listed, ?_, module.outputName ▸ same⟩
    rw [← module.fullName, suppressedIff warningsAsErrors units (List.mem_of_getElem? there), stands]
    simp
  · rintro ⟨j, e, before, listed, generated, same⟩
    obtain ⟨w, there, settled⟩ := settledAt warningsAsErrors units listed
    refine ⟨j, w, before, there, ?_, settled.module.outputName.trans same⟩
    rw [← settled.module.fullName, suppressedIff warningsAsErrors units (List.mem_of_getElem? there)] at generated
    simpa using generated

theorem verdictAt {i : Nat} {c : Container} (there : (scannedContainers units)[i]? = some c) :
    ∃ w, (settledVerdicts warningsAsErrors units)[i]? = some w ∧
      Settled warningsAsErrors c
        (SecondAmong (scannedContainers units) (suppressedNames warningsAsErrors units) i c) w := by
  obtain ⟨w, found, settled⟩ := settledAt warningsAsErrors units there
  rw [secondIff] at settled
  exact ⟨w, found, settled⟩

theorem suppressedWhen {i : Nat} {c : Container} (there : (scannedContainers units)[i]? = some c) :
    c.fullName ∈ suppressedNames warningsAsErrors units ↔
      c.Malformed ∨ c.Clashing ∨ (warningsAsErrors = true ∧
        SecondAmong (scannedContainers units) (suppressedNames warningsAsErrors units) i c) := by
  obtain ⟨w, found, settled⟩ := verdictAt warningsAsErrors units there
  rw [← settled.module.fullName, suppressedIff warningsAsErrors units (List.mem_of_getElem? found),
    ← Bool.not_eq_true, settled.kept, not_not, Container.Flawed, or_assoc]

theorem handedModules (options : PassOptions) :
    (Analysis.ofUnits options.warningsAsErrors units).sources options =
      ((scannedContainers units).map fun c => c.generate options.importScope options.runtimeModule).filter
        fun m => m.container ∉ suppressedNames options.warningsAsErrors units := by
  have modules := settledSame options.warningsAsErrors units
    (fun c => c.generate options.importScope options.runtimeModule) fun _ _ same => same _ _
  rw [← modules, List.filter_map]
  unfold Analysis.sources keptContainers
  rw [List.map_map]
  congr 1
  refine List.filter_congr fun w member => ?_
  have named := suppressedIff options.warningsAsErrors units member
  cases kept : w.kept with
  | true => simpa [Container.generate, kept] using named
  | false => simpa [Container.generate, kept] using named

end Verdicts

/-! What an output answers. -/

def taken (ms : List GeneratedSource) (answers : List (Option String)) : List GeneratedSource :=
  (ms.zip answers).filterMap fun (m, answer) => if answer = none then some m else none

def refusals (ms : List GeneratedSource) (answers : List (Option String)) : List String :=
  (ms.zip answers).filterMap fun (m, answer) => answer.map (writeError m)

/-- The pass as a function of the state of its output and log. -/
def passFrom {σ : Type} (add : GeneratedSource → StateM σ (Option String)) (log : Log.Record → StateM σ Unit)
    (options : PassOptions) (units : List SourceUnit) (s : σ) : PassResult :=
  (Id.run ((runPass add log options units).run s)).1

theorem deliverOne {σ : Type} (add : GeneratedSource → StateM σ (Option String))
    (log : Log.Record → StateM σ Unit) (m : GeneratedSource) (rest : List GeneratedSource) (d : Delivery) (s : σ) :
    ∃ (answer : Option String) (t : σ),
      (deliver add log d (m :: rest)).run s = (deliver add log (d.note m answer) rest).run t := by
  cases answered : (add m).run s with
  | mk answer t =>
    cases answer with
    | none =>
      refine ⟨none, t, ?_⟩
      simp [deliver, answered]
      rfl
    | some reason =>
      refine ⟨some reason, (Id.run ((log (refusalRecord m reason)).run t)).2, ?_⟩
      simp [deliver, answered]
      rfl

theorem deliveredAll {σ : Type} (add : GeneratedSource → StateM σ (Option String))
    (log : Log.Record → StateM σ Unit) (ms : List GeneratedSource) (d : Delivery) (s : σ) :
    ∃ answers, answers.length = ms.length ∧
      (Id.run ((deliver add log d ms).run s)).1 =
        ⟨d.sources ++ taken ms answers, d.writeErrors ++ refusals ms answers⟩ := by
  induction ms generalizing d s with
  | nil => exact ⟨[], rfl, by simp [deliver, taken, refusals]⟩
  | cons m rest ih =>
    obtain ⟨answer, t, stepped⟩ := deliverOne add log m rest d s
    obtain ⟨answers, same, delivered⟩ := ih (d.note m answer) t
    refine ⟨answer :: answers, congrArg (· + 1) same, ?_⟩
    rw [stepped, delivered]
    cases answer <;> simp [Delivery.note, taken, refusals]

theorem passResult {σ : Type} (add : GeneratedSource → StateM σ (Option String))
    (log : Log.Record → StateM σ Unit) (options : PassOptions) (units : List SourceUnit) (s : σ) :
    ∃ answers,
      answers.length = ((Analysis.ofUnits options.warningsAsErrors units).sources options).length ∧
      passFrom add log options units s = (Analysis.ofUnits options.warningsAsErrors units).result
        ⟨taken ((Analysis.ofUnits options.warningsAsErrors units).sources options) answers,
          refusals ((Analysis.ofUnits options.warningsAsErrors units).sources options) answers⟩ := by
  obtain ⟨answers, same, delivered⟩ := deliveredAll add log
    ((Analysis.ofUnits options.warningsAsErrors units).sources options) {}
    (Id.run (((Analysis.ofUnits options.warningsAsErrors units).records.forM log).run s)).2
  refine ⟨answers, same, ?_⟩
  rw [List.nil_append, List.nil_append] at delivered
  rw [← delivered]
  rfl

/-! The text of a module. -/

def Container.preamble (c : Container) (scope : ImportScope) (runtimeModule : String) : String :=
  let imports := c.copiedImports scope
  "\n".intercalate (
    [c.header] ++ importLines imports ++
    ["from " ++ runtimeModule ++ " import " ++ runtimeNames ++ "\n\n",
      c.requirementLines (c.localNames imports) ++ c.mixinHead])

/-- The block of each planned accessor, in the order of the plan. -/
def Container.blocks (c : Container) (scope : ImportScope) : List String :=
  c.planned.map (c.accessorBlock (c.localNames (c.copiedImports scope)))

theorem renderedWhole (c : Container) (scope : ImportScope) (runtimeModule : String) :
    c.render scope runtimeModule = c.preamble scope runtimeModule ++ String.join (c.blocks scope) := by
  have last (parts : List String) (some : parts ≠ []) (b e : String) :
      "\n".intercalate (parts ++ [b ++ e]) = "\n".intercalate (parts ++ [b]) ++ e := by
    rw [String.intercalate_append_of_ne_nil some (by simp), String.intercalate_append_of_ne_nil some (by simp),
      String.intercalate_singleton, String.intercalate_singleton, String.append_assoc, String.append_assoc,
      String.append_assoc]
  have pair (parts : List String) (a b : String) : parts ++ [a, b] = (parts ++ [a]) ++ [b] := by simp
  unfold Container.render Container.preamble Container.mixinClass Container.blocks
  simp only [pair]
  exact last _ (by simp) _ _

/-- What a pass makes of the scanned containers, whatever its output answers. A container is suppressed exactly
if it is flawed or, where warnings count as errors, second to a container that is not suppressed. Reported are
the problems of its overrides, then those of its accessor names, then that it is second. All other containers
are handed over whole in the order of the scan. -/
theorem passSuppresses {σ : Type} (add : GeneratedSource → StateM σ (Option String))
    (log : Log.Record → StateM σ Unit) (options : PassOptions) (units : List SourceUnit) (s : σ) :
    let r := passFrom add log options units s
    let cs := scannedContainers units
    let generated (c : Container) := c.generate options.importScope options.runtimeModule
    let handed := (cs.map generated).filter fun m => m.container ∉ r.suppressed
    (∀ (i : Nat) (c : Container), cs[i]? = some c →
      (c.fullName ∈ r.suppressed ↔
        c.Malformed ∨ c.Clashing ∨ (options.warningsAsErrors = true ∧ SecondAmong cs r.suppressed i c)) ∧
      (∃ e, r.containers[i]? = some e ∧ e.fullName = c.fullName ∧
        Reported c (SecondAmong cs r.suppressed i c) e.diagnostics) ∧
      (∃ ofOverrides ofNames, c.findings = ofOverrides ++ ofNames ∧
        ofOverrides.map (fun d => (d.code, d.location)) = c.annotations.flatMap problemsDue ∧
        (∀ d ∈ ofNames, d.code = "RCG004" ∧ d.location = c.location) ∧ (ofNames = [] ↔ ¬ c.Clashing) ∧
        ∀ d ∈ c.findings, d.isError = true) ∧
      (generated c).content =
        c.preamble options.importScope options.runtimeModule ++ String.join (c.blocks options.importScope) ∧
      (generated c).container = c.fullName) ∧
    r.containers.length = cs.length ∧
    r.diagnostics = r.containers.flatMap (·.diagnostics) ∧
    (cs.map (·.fullName)).Nodup ∧ r.suppressed.Sublist (cs.map (·.fullName)) ∧
    ∃ answers, answers.length = handed.length ∧
      r.sources = taken handed answers ∧ r.writeErrors = refusals handed answers := by
  intro r cs generated handed
  obtain ⟨answers, same, result⟩ := passResult add log options units s
  have result : r = _ := result
  have suppressed : r.suppressed = suppressedNames options.warningsAsErrors units := by rw [result]; rfl
  have containers : r.containers = (settledVerdicts options.warningsAsErrors units).map (·.container) := by
    rw [result]
    rfl
  have modules : (Analysis.ofUnits options.warningsAsErrors units).sources options = handed := by
    rw [handedModules, ← suppressed]
  rw [modules] at same result
  refine ⟨?_, ?_, ?_, scannedNodup units, ?_, answers, same, by rw [result]; rfl, by rw [result]; rfl⟩
  · intro i c there
    refine ⟨?_, ?_, ⟨c.checkOverrides, c.checkAccessorNames, rfl, c.overridesAsDue, c.namesAsDue, c.namesFine,
      c.findingsAreErrors⟩, renderedWhole c _ _, rfl⟩
    · rw [suppressed]
      exact suppressedWhen options.warningsAsErrors units there
    · obtain ⟨w, found, settled⟩ := verdictAt options.warningsAsErrors units there
      refine ⟨w.container, ?_, settled.module.fullName, ?_⟩
      · rw [containers, List.getElem?_map, found, Option.map_some]
      · rw [suppressed]
        exact settled.reported
  · rw [containers, List.length_map, settledLength]
  · rw [containers, List.flatMap_map, result]
    rfl
  · rw [suppressed, ← settledNames options.warningsAsErrors]
    exact List.filter_sublist.map _

end AccessorForge
