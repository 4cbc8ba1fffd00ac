import AccessorForge.Proofs.Refusals
/-! Containers that want the same output. Settling keeps a map of claimed names, the output a map of registered
ones; both are told here by the containers before. What is said of the output is about the one in memory, which
refuses nothing. -/
namespace AccessorForge

/-! Settling, one verdict at a time. -/

/-- The last verdict that stands under an output name. -/
def lastStanding (name : String) (ws : List Verdict) : Option Verdict :=
  (ws.filter fun w => w.kept && w.outputName = name).getLast?

theorem lastStandingSome {name : String} {ws : List Verdict} :
    (lastStanding name ws).isSome ↔ ∃ w ∈ ws, w.kept = true ∧ w.outputName = name := by
  unfold lastStanding
  rw [Option.isSome_iff_ne_none, Ne, List.getLast?_eq_none_iff, List.filter_eq_nil_iff]
  simp

namespace Verdict

/-- What becomes of a verdict when the one before it under the same name is known. -/
def ruled (warningsAsErrors : Bool) (v : Verdict) : Option String → Verdict
  | some earlier =>
    if v.kept then ⟨v.container.report (collision v.outputName earlier v.container), !warningsAsErrors⟩ else v
  | none => v

def claims (ws : List Verdict) : List (String × String) :=
  (ws.filter (·.kept)).map fun w => (w.outputName, w.container.fullName)

theorem ruledOutput (warningsAsErrors : Bool) (v : Verdict) (earlier : Option String) :
    (v.ruled warningsAsErrors earlier).outputName = v.outputName := by
  unfold ruled
  cases earlier with
  | none => rfl
  | some name => by_cases kept : v.kept <;> simp [kept, outputName, Container.report]

theorem settleHead (warningsAsErrors : Bool) (claimed : Claimed) (v : Verdict) (rest : List Verdict) :
    let w := v.ruled warningsAsErrors (Ledger.get? claimed v.outputName)
    settleFrom warningsAsErrors claimed (v :: rest) =
      w :: settleFrom warningsAsErrors (Ledger.putAll claimed (claims [w])) rest := by
  intro w
  have ruling : w = v.ruled warningsAsErrors (Ledger.get? claimed (Naming.outputName v.container.name)) := rfl
  by_cases kept : v.kept
  · cases found : Ledger.get? claimed (Naming.outputName v.container.name) with
    | none =>
      simp only [found, ruled] at ruling
      simp only [settleFrom, ruling, kept, found, claims, outputName, if_true, Ledger.putAll, List.filter_cons_of_pos,
        List.filter_nil, List.map_cons, List.map_nil, List.foldl_cons, List.foldl_nil]
    | some earlier =>
      simp only [found, ruled, kept, if_true] at ruling
      cases warningsAsErrors <;>
        simp only [settleFrom, ruling, kept, found, claims, outputName, Container.report, if_true] <;> rfl
  · have same : w = v := by
      rw [ruling]
      unfold ruled
      split <;> simp [kept]
    simp [settleFrom, same, kept, claims, Ledger.putAll]

theorem claimsCons (w : Verdict) (ws : List Verdict) : claims (w :: ws) = claims [w] ++ claims ws := by
  cases kept : w.kept <;> simp [claims, kept]

theorem settleFromAppend (warningsAsErrors : Bool) (claimed : Claimed) (vs us : List Verdict) :
    settleFrom warningsAsErrors claimed (vs ++ us) =
      settleFrom warningsAsErrors claimed vs ++
        settleFrom warningsAsErrors (Ledger.putAll claimed (claims (settleFrom warningsAsErrors claimed vs))) us := by
  induction vs generalizing claimed with
  | nil => simp [settleFrom, claims, Ledger.putAll]
  | cons v rest ih =>
    rw [List.cons_append, settleHead, settleHead, ih, List.cons_append, claimsCons _ (settleFrom ..), Ledger.putAllAppend]

theorem claimedBefore (name : String) (ws : List Verdict) :
    Ledger.get? (Ledger.putAll [] (claims ws)) name = (lastStanding name ws).map (·.container.fullName) := by
  rw [Ledger.getPutAll, claims, List.filter_map, List.filter_filter, List.getLast?_map, lastStanding]
  simp [Function.comp_def, Bool.and_comm, Ledger.get?]

/-- The later verdicts do not matter, and of the earlier ones only the last that stands under the same name. -/
theorem settleAround (warningsAsErrors : Bool) (before : List Verdict) (v : Verdict) (after : List Verdict) :
    ∃ rest, settle warningsAsErrors (before ++ v :: after) = settle warningsAsErrors before ++
      v.ruled warningsAsErrors
        ((lastStanding v.outputName (settle warningsAsErrors before)).map (·.container.fullName)) :: rest := by
  unfold settle
  rw [settleFromAppend, settleHead, claimedBefore]
  exact ⟨_, rfl⟩

/-- Whether no error was found in the container. -/
def clear (v : Verdict) : Bool := !v.container.hasErrors false

/-- A verdict before settling: what stands has nothing to report. -/
structure Fresh (v : Verdict) : Prop where
  clear : v.clear = v.kept
  silent : v.kept = true → v.container.diagnostics = []
  codes : ∀ d ∈ v.container.diagnostics, d.code ≠ "RCG003"

theorem ruledClear {warningsAsErrors : Bool} {v : Verdict} (fresh : v.Fresh) (earlier : Option String) :
    (v.ruled warningsAsErrors earlier).clear = v.kept := by
  cases earlier with
  | none => exact fresh.clear
  | some name =>
    by_cases kept : v.kept
    · simp [ruled, kept, clear, Container.hasErrors, Container.report, fresh.silent kept, collision, Diagnostic.isError]
    · simpa [ruled, kept] using fresh.clear

theorem ruledStands {warningsAsErrors : Bool} {v : Verdict} (fresh : v.Fresh) (kept : v.kept = true)
    (earlier : Option String) :
    let w := v.ruled warningsAsErrors earlier
    w.container.diagnostics = (earlier.map fun name => collision w.outputName name w.container).toList ∧
      w.kept = !(warningsAsErrors && earlier.isSome) := by
  intro w
  cases earlier with
  | none => exact ⟨fresh.silent kept, by simpa [w, ruled] using kept⟩
  | some name =>
    have ruling : w = ⟨v.container.report (collision v.outputName name v.container), !warningsAsErrors⟩ := by
      simp [w, ruled, kept]
    rw [ruling]
    exact ⟨by simp [Container.report, fresh.silent kept, outputName, collision, Container.location], by simp⟩

end Verdict

theorem judgedFresh (warningsAsErrors : Bool) {c : Container} (fresh : c.diagnostics = []) :
    (Verdict.judge warningsAsErrors c).Fresh := by
  have judged := judgeFresh warningsAsErrors fresh
  have silent : (Verdict.judge warningsAsErrors c).kept = true ↔ c.findings = [] := by
    rw [judged.kept, c.findingsFine]
  refine ⟨?_, fun kept => judged.found.trans (silent.mp kept), fun d member => ?_⟩
  · unfold Verdict.clear Container.hasErrors
    rw [judged.found, Bool.eq_iff_iff, silent]
    cases found : c.findings with
    | nil => simp
    | cons d rest => simp [c.findingsAreErrors d (found ▸ List.mem_cons_self)]
  · rw [judged.found] at member
    exact c.findingsCodes d member

/-! The settled verdicts. -/

section Settled
variable {warningsAsErrors : Bool} {vs : List Verdict} (fresh : ∀ v ∈ vs, v.Fresh)
include fresh

theorem settledSplit {us rest : List Verdict} {w : Verdict}
    (there : Verdict.settle warningsAsErrors vs = us ++ w :: rest) :
    ∃ v : Verdict, v.Fresh ∧
      w = v.ruled warningsAsErrors ((lastStanding v.outputName us).map (·.container.fullName)) := by
  have long : us.length < vs.length := by
    rw [← settleLength warningsAsErrors vs [], ← Verdict.settle, there]
    simp
  obtain ⟨later, whole⟩ := Verdict.settleAround warningsAsErrors (vs.take us.length) vs[us.length] (vs.drop (us.length + 1))
  rw [List.getElem_cons_drop, List.take_append_drop, there] at whole
  have same : us.length = (Verdict.settle warningsAsErrors (vs.take us.length)).length := by
    rw [Verdict.settle, settleLength, List.length_take]
    omega
  obtain ⟨before, after⟩ := List.append_inj whole same
  exact ⟨vs[us.length], fresh _ (List.getElem_mem long), by rw [(List.cons.inj after).1, ← before]⟩

theorem settledClear {us rest : List Verdict} {w : Verdict}
    (there : Verdict.settle warningsAsErrors vs = us ++ w :: rest) (clear : w.clear = true) :
    w.container.diagnostics = ((lastStanding w.outputName us).map fun e =>
        Verdict.collision w.outputName e.container.fullName w.container).toList ∧
      w.kept = !(warningsAsErrors && (lastStanding w.outputName us).isSome) := by
  obtain ⟨v, new, ruling⟩ := settledSplit fresh there
  have kept : v.kept = true := by rwa [ruling, Verdict.ruledClear new] at clear
  have named : w.outputName = v.outputName := by rw [ruling, Verdict.ruledOutput]
  obtain ⟨told, stands⟩ := @Verdict.ruledStands warningsAsErrors v new kept
    ((lastStanding v.outputName us).map (·.container.fullName))
  rw [← ruling] at told stands
  rw [named] at *
  exact ⟨by simpa [Option.map_map, Function.comp_def] using told, by simpa using stands⟩

theorem settledFlawed {us rest : List Verdict} {w : Verdict}
    (there : Verdict.settle warningsAsErrors vs = us ++ w :: rest) (flawed : w.clear = false) :
    w.kept = false ∧ ∀ d ∈ w.container.diagnostics, d.code ≠ "RCG003" := by
  obtain ⟨v, new, ruling⟩ := settledSplit fresh there
  have dropped : v.kept = false := by rwa [ruling, Verdict.ruledClear new] at flawed
  have same : w = v := by
    rw [ruling]
    unfold Verdict.ruled
    split <;> simp [dropped]
  rw [same]
  exact ⟨dropped, new.codes⟩

theorem settledLenient (lenient : warningsAsErrors = false) {w : Verdict}
    (member : w ∈ Verdict.settle warningsAsErrors vs) : w.kept = w.clear := by
  obtain ⟨us, rest, there⟩ := List.append_of_mem member
  cases clear : w.clear with
  | true => simp [(settledClear fresh there clear).2, lenient]
  | false => exact (settledFlawed fresh there clear).1

theorem settledKept {w : Verdict} (member : w ∈ Verdict.settle warningsAsErrors vs) (kept : w.kept = true) :
    w.clear = true := by
  obtain ⟨us, rest, there⟩ := List.append_of_mem member
  by_contra flawed
  rw [Bool.not_eq_true] at flawed
  rw [(settledFlawed fresh there flawed).1] at kept
  cases kept

/-- Where warnings count as errors, an earlier error-free container is as good as one that stands: if it does not
stand itself, one before it does. -/
theorem standsBefore (strict : warningsAsErrors = true) {us rest : List Verdict}
    (there : Verdict.settle warningsAsErrors vs = us ++ rest) (name : String) :
    (lastStanding name us).isSome ↔ ∃ e ∈ us, e.clear = true ∧ e.outputName = name := by
  rw [lastStandingSome]
  constructor
  · rintro ⟨e, member, kept, named⟩
    exact ⟨e, member, settledKept fresh (there ▸ List.mem_append_left _ member) kept, named⟩
  · rintro ⟨e, member, clear, named⟩
    cases kept : e.kept with
    | true => exact ⟨e, member, kept, named⟩
    | false =>
      obtain ⟨before, after, parted⟩ := List.append_of_mem member
      have whole : Verdict.settle warningsAsErrors vs = before ++ e :: (after ++ rest) := by rw [there, parted]; simp
      have dropped := (settledClear fresh whole clear).2
      rw [kept, strict, Bool.true_and, eq_comm, Bool.not_eq_false', lastStandingSome, named] at dropped
      obtain ⟨f, earlier, stands, same⟩ := dropped
      exact ⟨f, parted ▸ List.mem_append_left _ earlier, stands, same⟩

theorem standingApart (strict : warningsAsErrors = true) {us rest : List Verdict}
    (there : Verdict.settle warningsAsErrors vs = us ++ rest) :
    ((us.filter (·.kept)).map Verdict.outputName).Nodup := by
  induction us using List.reverseRecOn generalizing rest with
  | nil => simp
  | append_singleton us w ih =>
    have whole : Verdict.settle warningsAsErrors vs = us ++ w :: rest := by rw [there]; simp
    have before := ih whole
    cases kept : w.kept with
    | false => simpa [kept] using before
    | true =>
      have clear := settledKept fresh (whole ▸ by simp : w ∈ Verdict.settle warningsAsErrors vs) kept
      have alone := (settledClear fresh whole clear).2
      rw [kept, strict, Bool.true_and, eq_comm, Bool.not_eq_true', ← Bool.not_eq_true, lastStandingSome] at alone
      rw [List.filter_append, List.map_append, List.nodup_append]
      refine ⟨before, by simp [kept], fun a earlier b last same => ?_⟩
      obtain ⟨e, member, rfl⟩ := List.mem_map.mp earlier
      obtain ⟨inside, stands⟩ := List.mem_filter.mp member
      exact alone ⟨e, inside, stands, by simpa [kept, same] using last⟩

end Settled

/-! Registrations that replace a module. -/

def replacements (m : Memory) : List GeneratedSource → Nat
  | [] => 0
  | s :: rest => (if s.name ∈ Ledger.keys m then 1 else 0) + replacements (m.add s) rest

theorem replacementsConcat (m : Memory) (ss : List GeneratedSource) (s : GeneratedSource) :
    replacements m (ss ++ [s]) =
      replacements m ss + if s.name ∈ Ledger.keys m ∨ s.name ∈ ss.map (·.name) then 1 else 0 := by
  induction ss generalizing m with
  | nil => simp [replacements]
  | cons first rest ih =>
    have known : s.name ∈ Ledger.keys (m.add first) ↔ s.name ∈ Ledger.keys m ∨ s.name = first.name := by
      rw [Memory.add, Ledger.keysPutEq, mem_appendNew]
    simp only [List.cons_append, replacements, ih, known, List.map_cons, List.mem_cons, or_assoc, Nat.add_assoc]

def ofCollision (d : Diagnostic) : Bool := d.code = "RCG003"

/- From the end: a module replaces one just if a verdict that stands before it has its output, and that is reported. -/
theorem replacementsReported {warningsAsErrors : Bool} (lenient : warningsAsErrors = false) {vs : List Verdict}
    (fresh : ∀ v ∈ vs, v.Fresh) (scope : ImportScope) (runtimeModule : String) {us rest : List Verdict}
    (there : Verdict.settle warningsAsErrors vs = us ++ rest) :
    replacements [] ((us.filter (·.kept)).map fun w => w.container.generate scope runtimeModule) =
      (us.flatMap (·.container.diagnostics)).countP ofCollision := by
  induction us using List.reverseRecOn generalizing rest with
  | nil => rfl
  | append_singleton us w ih =>
    have whole : Verdict.settle warningsAsErrors vs = us ++ w :: rest := by rw [there]; simp
    have before := ih whole
    have kept := settledLenient fresh lenient (whole ▸ by simp : w ∈ Verdict.settle warningsAsErrors vs)
    rw [List.filter_append, List.map_append, List.flatMap_append, List.countP_append, ← before]
    cases clear : w.clear with
    | false =>
      have silent : w.container.diagnostics.countP ofCollision = 0 := by
        rw [List.countP_eq_zero]
        intro d member
        simpa [ofCollision] using (settledFlawed fresh whole clear).2 d member
      simp [kept, clear, silent]
    | true =>
      have told := (settledClear fresh whole clear).1
      have known : w.outputName ∈ ((us.filter (·.kept)).map fun w => w.container.generate scope runtimeModule).map (·.name) ↔
          (lastStanding w.outputName us).isSome := by
        rw [lastStandingSome]
        simp [Container.generate, Verdict.outputName, and_assoc]
      have named : (w.container.generate scope runtimeModule).name = w.outputName := rfl
      simp only [kept, clear, List.filter_cons_of_pos, List.filter_nil, List.map_cons, List.map_nil]
      simp only [replacementsConcat, named, known, List.flatMap_singleton, told]
      cases lastStanding w.outputName us <;> simp [Ledger.keys, ofCollision, Verdict.collision, Diagnostic.outputCollision]

/-! The containers of a pass. -/

/-- The containers in which no error was found. -/
def errorFree (cs : List Container) : List Container := cs.filter fun c => !c.hasErrors false

/-- Those of some containers that have the output of this one and are not suppressed. -/
def rivals (suppressed : List String) (c : Container) (cs : List Container) : List Container :=
  cs.filter fun e => e.fullName ∉ suppressed && Naming.outputName e.name = Naming.outputName c.name

def collisionBetween (e c : Container) : Diagnostic :=
  ⟨.warning, "RCG003", "Output '" ++ Naming.outputName c.name ++ "' is also generated for " ++ e.fullName ++
    "; the module for " ++ c.fullName ++ " replaces it", c.location⟩

section Pass
variable (warningsAsErrors : Bool) (units : List SourceUnit)

theorem scannedJudged :
    ∀ v ∈ (scannedContainers units).map (Verdict.judge warningsAsErrors), v.Fresh := by
  intro v member
  obtain ⟨c, scanned, rfl⟩ := List.mem_map.mp member
  exact judgedFresh warningsAsErrors (scannedFresh scanned)

theorem errorFreeSettled : errorFree ((settledVerdicts warningsAsErrors units).map (·.container)) =
    ((settledVerdicts warningsAsErrors units).filter Verdict.clear).map (·.container) := List.filter_map

theorem errorFreeSplit {before after : List Container} {c : Container}
    (there : errorFree ((settledVerdicts warningsAsErrors units).map (·.container)) = before ++ c :: after) :
    ∃ us w rest, settledVerdicts warningsAsErrors units = us ++ w :: rest ∧ w.clear = true ∧ w.container = c ∧
      before = (us.filter Verdict.clear).map (·.container) := by
  rw [errorFreeSettled, List.map_eq_append_iff] at there
  obtain ⟨first, later, parted, rfl, mapped⟩ := there
  obtain ⟨w, last, rfl, rfl, _⟩ := List.map_eq_cons_iff.mp mapped
  obtain ⟨us, vs, whole, rfl, found⟩ := List.filter_eq_append_iff.mp parted
  obtain ⟨skipped, rest, rfl, none, clear, _⟩ := List.filter_eq_cons_iff.mp found
  refine ⟨us ++ skipped, w, rest, by rw [whole]; simp, clear, rfl, ?_⟩
  rw [List.filter_append, List.filter_eq_nil_iff.mpr none, List.append_nil]

theorem rivalsStanding {us rest : List Verdict} {w : Verdict}
    (there : settledVerdicts warningsAsErrors units = us ++ w :: rest) :
    (rivals (suppressedNames warningsAsErrors units) w.container
      ((us.filter Verdict.clear).map (·.container))).getLast? = (lastStanding w.outputName us).map (·.container) := by
  unfold rivals lastStanding
  rw [List.filter_map, List.filter_filter, List.getLast?_map]
  congr 2
  refine List.filter_congr fun e member => ?_
  have inside : e ∈ settledVerdicts warningsAsErrors units := there ▸ List.mem_append_left _ member
  have named := suppressedIff warningsAsErrors units inside
  cases kept : e.kept with
  | false => simp [named, kept]
  | true =>
    have clear := settledKept (scannedJudged warningsAsErrors units) inside kept
    simp [named, kept, clear, Verdict.outputName]
    rfl

theorem standingContainers : keptContainers (settledVerdicts warningsAsErrors units) =
    (errorFree ((settledVerdicts warningsAsErrors units).map (·.container))).filter
      (·.fullName ∉ suppressedNames warningsAsErrors units) := by
  rw [errorFreeSettled, keptContainers, List.filter_map, List.filter_filter]
  congr 1
  refine List.filter_congr fun e inside => ?_
  have named := suppressedIff warningsAsErrors units inside
  cases kept : e.kept with
  | false => simp [named, kept]
  | true => simp [named, kept, settledKept (scannedJudged warningsAsErrors units) inside kept]

theorem rivalsSome {suppressed : List String} {c : Container} {cs : List Container} :
    (rivals suppressed c cs).getLast?.isSome ↔
      ∃ e ∈ cs, e.fullName ∉ suppressed ∧ Naming.outputName e.name = Naming.outputName c.name := by
  rw [Option.isSome_iff_ne_none, Ne, List.getLast?_eq_none_iff, rivals, List.filter_eq_nil_iff]
  simp

theorem toldNearest {before after : List Container} {c : Container}
    (there : errorFree ((settledVerdicts warningsAsErrors units).map (·.container)) = before ++ c :: after) :
    c.diagnostics = ((rivals (suppressedNames warningsAsErrors units) c before).getLast?.map
      (collisionBetween · c)).toList := by
  obtain ⟨us, w, rest, whole, clear, rfl, rfl⟩ := errorFreeSplit warningsAsErrors units there
  rw [(settledClear (scannedJudged warningsAsErrors units) whole clear).1, rivalsStanding warningsAsErrors units whole,
    Option.map_map]
  rfl

variable {warningsAsErrors} in
theorem firstSurvives (strict : warningsAsErrors = true) {before after : List Container} {c : Container}
    (there : errorFree ((settledVerdicts warningsAsErrors units).map (·.container)) = before ++ c :: after) :
    c.fullName ∈ suppressedNames warningsAsErrors units ↔
      ∃ e ∈ before, Naming.outputName e.name = Naming.outputName c.name := by
  obtain ⟨us, w, rest, whole, clear, rfl, rfl⟩ := errorFreeSplit warningsAsErrors units there
  have fresh := scannedJudged warningsAsErrors units
  have inside : w ∈ settledVerdicts warningsAsErrors units := by rw [whole]; simp
  have stands := (settledClear fresh whole clear).2
  rw [suppressedIff warningsAsErrors units inside, stands, strict, Bool.true_and, Bool.not_eq_false',
    standsBefore fresh strict whole]
  simp [Verdict.outputName, and_assoc]

end Pass

/-- Of the error-free containers of a pass, in the order of the scan, one is told of a collision exactly if there
is a container before it with the same output that is generated, and it is told the nearest of these. Where
warnings count as errors, the first container of each output is generated and no other. Otherwise all are
generated; the output then holds the last module of each name, at the place of the first, and as many
registrations have replaced a module as collisions were told. -/
theorem collisionsSettled (reason : String) (options : PassOptions) (units : List SourceUnit) :
    let r := (runPassInMemory [] reason options units).1
    let memory := (runPassInMemory [] reason options units).2
    let fine := errorFree r.containers
    let generated (c : Container) := c.generate options.importScope options.runtimeModule
    (∀ before c after, fine = before ++ c :: after →
      ((∃ d ∈ c.diagnostics, d.code = "RCG003") ↔
        ∃ e ∈ before, e.fullName ∉ r.suppressed ∧ Naming.outputName e.name = Naming.outputName c.name) ∧
      c.diagnostics = ((rivals r.suppressed c before).getLast?.map (collisionBetween · c)).toList) ∧
    (∀ c ∈ r.containers, c ∉ fine → ∀ d ∈ c.diagnostics, d.code ≠ "RCG003") ∧
    r.sources = (fine.filter (·.fullName ∉ r.suppressed)).map generated ∧
    (options.warningsAsErrors = true →
      (r.sources.map (·.name)).Nodup ∧
      ∀ before c after, fine = before ++ c :: after →
        (c.fullName ∈ r.suppressed ↔ ∃ e ∈ before, Naming.outputName e.name = Naming.outputName c.name)) ∧
    (options.warningsAsErrors = false →
      (∀ c ∈ fine, c.fullName ∉ r.suppressed) ∧ r.sources = fine.map generated ∧
      memory.keys = (fine.map fun c => Naming.outputName c.name).eraseDups ∧ memory.keys.Nodup ∧
      (∀ name, Ledger.get? memory name = (fine.filter (Naming.outputName ·.name = name)).getLast?.map generated) ∧
      replacements [] r.sources = (r.diagnostics.filter (·.code = "RCG003")).length) := by
  intro r memory fine generated
  let ws := settledVerdicts options.warningsAsErrors units
  have fresh := scannedJudged options.warningsAsErrors units
  have pass := passInMemory [] reason options units
  have taken : (handedOver options units).filter (refusalOf [] reason).takes = handedOver options units := by
    simp [refusalOf, Refusal.takes]
  rw [taken] at pass
  have containers : r.containers = ws.map (·.container) := congrArg (·.1.containers) pass
  have suppressed : r.suppressed = suppressedNames options.warningsAsErrors units := congrArg (·.1.suppressed) pass
  have sources : r.sources = (keptContainers ws).map generated := (congrArg (·.1.sources) pass).trans taken
  have registered : memory = Ledger.putAll [] (r.sources.map entryFor) := by
    rw [sources]
    exact congrArg (·.2) pass
  have diagnostics : r.diagnostics = ws.flatMap (·.container.diagnostics) := congrArg (·.1.diagnostics) pass
  have fineOnes : fine = errorFree (ws.map (·.container)) := congrArg errorFree containers
  have generatedOnes : r.sources = (fine.filter (·.fullName ∉ r.suppressed)).map generated := by
    rw [sources, standingContainers, ← suppressed, fineOnes]
  refine ⟨?told, ?flawed, generatedOnes, ?strict, ?lenient⟩
  case told =>
    intro before c after there
    rw [suppressed]
    have told := toldNearest options.warningsAsErrors units (fineOnes ▸ there)
    refine ⟨?_, told⟩
    rw [told, ← rivalsSome]
    cases (rivals (suppressedNames options.warningsAsErrors units) c before).getLast? <;> simp [collisionBetween]
  case flawed =>
    intro c member flawed
    rw [containers] at member
    obtain ⟨w, inside, rfl⟩ := List.mem_map.mp member
    obtain ⟨us, rest, whole⟩ := List.append_of_mem inside
    have unclear : w.clear = false := by
      by_contra clear
      rw [Bool.not_eq_false] at clear
      refine flawed ?_
      rw [fineOnes, errorFreeSettled]
      exact List.mem_map.mpr ⟨w, List.mem_filter.mpr ⟨inside, clear⟩, rfl⟩
    exact (settledFlawed fresh whole unclear).2
  case strict =>
    intro strict
    refine ⟨?_, ?_⟩
    · have apart := standingApart fresh strict (List.append_nil _).symm
      rw [sources, keptContainers, List.map_map, List.map_map]
      exact apart
    · intro before c after there
      rw [suppressed]
      exact firstSurvives units strict (fineOnes ▸ there)
  case lenient =>
    intro lenient
    have none : ∀ c ∈ fine, c.fullName ∉ r.suppressed := by
      intro c member
      rw [fineOnes, errorFreeSettled] at member
      obtain ⟨w, found, rfl⟩ := List.mem_map.mp member
      obtain ⟨inside, clear⟩ := List.mem_filter.mp found
      rw [suppressed, suppressedIff options.warningsAsErrors units inside, settledLenient fresh lenient inside, clear]
      simp
    have all : r.sources = fine.map generated := by
      rw [generatedOnes, List.filter_eq_self.mpr fun c member => decide_eq_true (none c member)]
    have keys : memory.keys = (fine.map fun c => Naming.outputName c.name).eraseDups := by
      rw [registered, Ledger.keysPutAllEmpty, all, List.map_map, List.map_map]
      rfl
    refine ⟨none, all, keys, keys ▸ eraseDupsNodup _, ?_, ?_⟩
    · intro name
      rw [registered, all, Ledger.getPutAll, List.filter_map, List.filter_map, List.getLast?_map, List.getLast?_map]
      simp [Ledger.get?, Function.comp_def, entryFor, generated, Container.generate]
      rfl
    · have reported := replacementsReported lenient fresh options.importScope options.runtimeModule
        (List.append_nil _).symm
      rw [sources, diagnostics, keptContainers, List.map_map, ← List.countP_eq_length_filter]
      exact reported

end AccessorForge
