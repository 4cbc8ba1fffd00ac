import AccessorForge.Proofs.FileNames
import AccessorForge.Proofs.Suppression
/-! The names of classes. Every class in a file that can be read is named by a word, so that its full name ends with
its own name after the last dot, and the module for it has a name of its own kind: one file name, without a slash. -/
namespace AccessorForge
open Syntax

/-- No separator stands in a name. -/
def Naming.IsPlain (name : String) : Prop := ∀ mark, Text.Separates mark → mark ∉ name.toList

/-! What readers yield. -/

namespace Syntax.Reader
variable {α β : Type} {P : α → Prop} {Q : β → Prop}

def Yields (P : α → Prop) (x : Reader α) : Prop := ∀ c a d, x c = some (a, d) → P a

theorem bindRead {x : Reader α} {f : α → Reader β} {c d : Cursor} {b : β} (ran : (x >>= f) c = some (b, d)) :
    ∃ a e, x c = some (a, e) ∧ f a e = some (b, d) := by
  obtain ⟨⟨a, e⟩, read, later⟩ := Option.bind_eq_some_iff.mp ran
  exact ⟨a, e, read, later⟩

theorem yieldsBind {x : Reader α} {f : α → Reader β} (first : Yields P x) (next : ∀ a, P a → Yields Q (f a)) :
    Yields Q (x >>= f) := by
  intro c b d ran
  obtain ⟨a, e, read, later⟩ := bindRead ran
  exact next a (first c a e read) e b d later

theorem yieldsAny (x : Reader α) : Yields (fun _ => True) x := fun _ _ _ _ => trivial

theorem yieldsThen {x : Reader α} {f : α → Reader β} (next : ∀ a, Yields Q (f a)) : Yields Q (x >>= f) :=
  yieldsBind (yieldsAny x) fun a _ => next a

theorem yieldsPure {a : α} (fine : P a) : Yields P (pure a : Reader α) := by
  intro c b d ran
  cases ran
  exact fine

theorem yieldsFailure : Yields P (failure : Reader α) := by
  intro c a d ran
  cases ran

theorem yieldsIf {b : Bool} {x y : Reader α} (left : Yields P x) (right : Yields P y) :
    Yields P (if b then x else y) := by
  cases b with
  | true => exact left
  | false => exact right

/-- Whatever is read or refused on the way, the reader ends with what comes after. -/
theorem yieldsAfter {b : Bool} {x : Reader Unit} {next : Unit → Reader α} (later : ∀ u, Yields P (next u)) :
    Yields P (if b then x >>= next else next ⟨⟩) := yieldsIf (yieldsThen later) (later ⟨⟩)

theorem yieldsEither {γ : Type} {b : Bool} {x y : Reader γ} {next : γ → Reader α} (later : ∀ u, Yields P (next u)) :
    Yields P (if b then x >>= next else y >>= next) := yieldsIf (yieldsThen later) (yieldsThen later)

theorem yieldsRepeated {step : Reader (Option α)} (yields : Yields (fun o => ∀ a ∈ o, P a) step) :
    Yields (fun as => ∀ a ∈ as, P a) (repeated step) := by
  have within (fuel : Nat) : Yields (fun as => ∀ a ∈ as, P a) (repeatWithin step fuel) := by
    induction fuel with
    | zero => exact yieldsFailure
    | succ fuel ih =>
      refine yieldsBind yields fun told fine => ?_
      cases told with
      | none => exact yieldsPure (by simp)
      | some a =>
        refine yieldsBind ih fun rest others => yieldsPure ?_
        intro b member
        rcases List.mem_cons.mp member with rfl | later
        · exact fine b rfl
        · exact others b later
  exact yieldsThen fun c => within c.limit

theorem wordPlain {mark : Char} (separates : Text.Separates mark) {cs : List Char} (word : Lexer.isWordText cs = true) :
    mark ∉ cs := by
  intro there
  simp only [Lexer.isWordText, Bool.and_eq_true, Bool.or_eq_true] at word
  obtain ⟨chars, shape⟩ := word
  have own := List.all_eq_true.mp chars mark there
  rcases separates with rfl | rfl | rfl | rfl
  · exact absurd own (by decide)
  · exact absurd own (by decide)
  · exact absurd own (by decide)
  · rcases shape with ascii | identifier
    · exact absurd (List.all_eq_true.mp ascii _ there) (by decide)
    · cases cs with
      | nil => cases there
      | cons c rest =>
        simp only [Text.Identifier.isIdentifier, Bool.and_eq_true] at identifier
        rcases List.mem_cons.mp there with rfl | later
        · exact absurd identifier.1 (by decide +kernel)
        · exact absurd (List.all_eq_true.mp identifier.2 _ later) (by decide +kernel)

theorem yieldsIdentifier : Yields Naming.IsPlain identifier := by
  have needed (p : Token → Bool) : Yields (fun t => p t = true) (need p) := by
    intro c t d ran
    obtain ⟨fits, e, asked, later⟩ := bindRead ran
    obtain ⟨told, x, looked, answered⟩ := bindRead asked
    cases looked
    unfold advance at later
    cases there : c.rest with
    | nil =>
      rw [there] at answered
      cases answered
      cases later
    | cons u rest =>
      rw [there] at answered
      cases answered
      cases fine : p u with
      | false =>
        rw [fine] at later
        cases later
      | true =>
        rw [fine] at later
        simp only [if_true, there] at later
        cases later
        exact fine
  refine yieldsBind (needed isIdentifier) fun t fine => yieldsPure fun mark separates => ?_
  rw [String.toList_ofList]
  refine Text.Compose.normalFormPlain separates fun there => ?_
  simp only [isIdentifier, Bool.and_eq_true, decide_eq_true_eq] at fine
  exact wordPlain separates (t.isWord fine.1) there

end Syntax.Reader

/-! Statements. -/

/-- No class in a statement has a separator in its name. -/
def Syntax.Stmt.Plain (s : Stmt) : Prop := ∀ p ∈ placesIn s, Naming.IsPlain p.name

def Syntax.Clause.Plain (c : Clause) : Prop := ∀ s ∈ c.body, s.Plain

theorem plainAll {body : List Stmt} (each : ∀ s ∈ body, s.Plain) : ∀ p ∈ placesInAll body, Naming.IsPlain p.name := by
  induction body with
  | nil => simp [placesInAll]
  | cons s rest ih =>
    intro p member
    rw [placesInAll] at member
    rcases List.mem_append.mp member with here | later
    · exact each s List.mem_cons_self p here
    · exact ih (fun t deeper => each t (List.mem_cons_of_mem _ deeper)) p later

theorem plainFunction (name : String) (decorators : List Expr) {body : List Stmt} (each : ∀ s ∈ body, s.Plain) :
    (Stmt.function name decorators body).Plain := by
  intro p member
  rw [placesIn] at member
  obtain ⟨q, inside, rfl⟩ := List.mem_map.mp member
  exact plainAll each q inside

theorem plainClass (start : Pos) {name : String} (decorators : List Expr) {body : List Stmt}
    (own : Naming.IsPlain name) (each : ∀ s ∈ body, s.Plain) : (Stmt.classDef start name decorators body).Plain := by
  intro p member
  rw [placesIn] at member
  rcases List.mem_cons.mp member with rfl | deeper
  · exact own
  · obtain ⟨q, inside, rfl⟩ := List.mem_map.mp deeper
    exact plainAll each q inside

theorem plainBlock (span : Span) (kind : BlockKind) {clauses : List Clause} (each : ∀ c ∈ clauses, c.Plain) :
    (Stmt.block span kind clauses).Plain := by
  intro p member
  rw [placesIn] at member
  induction clauses with
  | nil => simp [placesInClauses] at member
  | cons c rest ih =>
    obtain ⟨role, heads, body⟩ := c
    rw [placesInClauses] at member
    rcases List.mem_append.mp member with here | later
    · exact plainAll (each _ List.mem_cons_self) p here
    · exact ih (fun d deeper => each d (List.mem_cons_of_mem _ deeper)) later

theorem plainBare {s : Stmt} (bare : placesIn s = []) : s.Plain := by
  intro p member
  rw [bare] at member
  cases member

namespace Syntax.Grammar
open Reader
variable {r : Rules} {depth : Nat} {body : Reader (List Stmt)}

abbrev YieldsPlain (x : Reader Stmt) : Prop := Yields Stmt.Plain x

abbrev YieldsBody (x : Reader (List Stmt)) : Prop := Yields (fun ss => ∀ s ∈ ss, s.Plain) x

abbrev YieldsClauses (x : Reader (List Clause)) : Prop := Yields (fun cs => ∀ c ∈ cs, c.Plain) x

theorem yieldsBare {s : Stmt} (bare : placesIn s = []) : YieldsPlain (pure s) := yieldsPure (plainBare bare)

theorem yieldsSimply (p : Reader Unit) : YieldsPlain (simply p) := yieldsThen fun _ => yieldsBare rfl

theorem yieldsExpressionStatement : YieldsPlain (expressionStatement r) := by
  refine yieldsThen fun first => yieldsThen fun equals => yieldsIf ?_ ?_
  · exact yieldsThen fun _ => yieldsThen fun _ => yieldsBare rfl
  · refine yieldsThen fun colon => yieldsIf (yieldsAfter fun _ => ?_) ?_
    · refine yieldsThen fun _ => yieldsThen fun given => ?_
      exact yieldsIf (yieldsThen fun _ => yieldsBare rfl) (yieldsThen fun _ => yieldsBare rfl)
    · refine yieldsThen fun operator => yieldsIf (yieldsAfter fun _ => ?_) (yieldsBare rfl)
      exact yieldsThen fun _ => yieldsBare rfl

theorem yieldsImport : YieldsPlain importStatement :=
  yieldsThen fun _ => yieldsThen fun _ => yieldsThen fun _ => yieldsThen fun _ => yieldsBare rfl

theorem yieldsImportFrom : YieldsPlain importFromStatement := by
  refine yieldsThen fun start => yieldsThen fun _ => yieldsThen fun dots => yieldsThen fun ends => ?_
  refine yieldsEither fun module => ?_
  exact yieldsThen fun _ => yieldsThen fun names => yieldsThen fun _ => yieldsBare rfl

theorem yieldsSimpleStatement : YieldsPlain (simpleStatement r) := by
  unfold simpleStatement
  refine yieldsThen fun _ => yieldsIf (yieldsBare rfl) ?_
  refine yieldsThen fun _ => yieldsIf yieldsImport ?_
  refine yieldsThen fun _ => yieldsIf yieldsImportFrom ?_
  refine yieldsThen fun _ => yieldsIf (yieldsBare rfl) ?_
  refine yieldsThen fun _ => yieldsIf (yieldsSimply _) ?_
  refine yieldsThen fun _ => yieldsIf (yieldsSimply _) ?_
  refine yieldsThen fun _ => yieldsIf (yieldsSimply _) ?_
  refine yieldsThen fun _ => yieldsIf (yieldsSimply _) ?_
  refine yieldsThen fun _ => yieldsIf (yieldsSimply _) ?_
  exact yieldsThen fun _ => yieldsIf (yieldsSimply _) yieldsExpressionStatement

theorem yieldsSimpleStatements : YieldsBody (simpleStatements r) := by
  refine yieldsBind yieldsSimpleStatement fun first fine => ?_
  refine yieldsBind (yieldsRepeated (P := Stmt.Plain) ?_) fun more others => yieldsThen fun _ => yieldsPure ?_
  · refine yieldsThen fun _ => yieldsIf ?_ (yieldsPure (by simp))
    refine yieldsThen fun _ => yieldsIf (yieldsPure (by simp)) ?_
    refine yieldsBind yieldsSimpleStatement fun s fine => yieldsPure ?_
    intro t same
    cases same
    exact fine
  · intro s member
    rcases List.mem_cons.mp member with rfl | later
    · exact fine
    · exact others s later

theorem yieldsSome {x : Reader Stmt} (yields : YieldsPlain x) :
    Yields (fun o => ∀ s ∈ o, s.Plain) (do return some (← x) : Reader (Option Stmt)) := by
  refine yieldsBind yields fun s fine => yieldsPure ?_
  intro t same
  cases same
  exact fine

section
variable (inner : YieldsBody body)
include inner

theorem yieldsSuite : YieldsBody (suite r body) := by
  unfold suite
  refine yieldsThen fun _ => yieldsThen fun _ => yieldsIf ?_ yieldsSimpleStatements
  refine yieldsThen fun _ => yieldsBind inner fun ss fine => yieldsThen fun _ => yieldsPure fine

theorem yieldsElse : YieldsClauses (elseClause r body) := by
  unfold elseClause
  refine yieldsThen fun _ => yieldsIf ?_ (yieldsPure (by simp))
  exact yieldsBind (yieldsSuite inner) fun ss fine => yieldsPure (List.forall_mem_singleton.mpr fine)

theorem yieldsConditional : YieldsPlain (conditional r body) := by
  have within (fuel : Nat) : YieldsPlain (conditionalWithin r body fuel) := by
    induction fuel with
    | zero => exact yieldsFailure
    | succ fuel ih =>
      refine yieldsThen fun start => yieldsThen fun _ => yieldsThen fun condition => ?_
      refine yieldsBind (yieldsSuite inner) fun ss fine => yieldsThen fun further => ?_
      have last (clauses : List Clause) (others : ∀ c ∈ clauses, c.Plain) : YieldsPlain (do
          return .block (← spanFrom start) .conditional (.mk .suite [condition] ss :: clauses)) :=
        yieldsThen fun span => yieldsPure (plainBlock _ _ (List.forall_mem_cons.mpr ⟨fine, others⟩))
      refine yieldsIf (yieldsBind ih fun s chained => yieldsBind (yieldsPure ?_) last) (yieldsBind (yieldsElse inner) last)
      exact List.forall_mem_singleton.mpr (List.forall_mem_singleton.mpr chained)
  exact yieldsThen fun c => within c.limit

theorem yieldsWhile : YieldsPlain (whileLoop r body) := by
  refine yieldsThen fun start => yieldsThen fun _ => yieldsThen fun condition => ?_
  refine yieldsBind (yieldsSuite inner) fun ss fine => yieldsBind (yieldsElse inner) fun cs others => ?_
  refine yieldsThen fun span => yieldsPure (plainBlock _ _ ?_)
  exact List.forall_mem_cons.mpr ⟨fine, others⟩

theorem yieldsFor (start : Pos) : YieldsPlain (forLoop r body start) := by
  refine yieldsThen fun _ => yieldsThen fun targets => yieldsThen fun _ => yieldsThen fun source => ?_
  refine yieldsBind (yieldsSuite inner) fun ss fine => yieldsBind (yieldsElse inner) fun cs others => ?_
  refine yieldsThen fun span => yieldsPure (plainBlock _ _ ?_)
  exact List.forall_mem_cons.mpr ⟨fine, others⟩

theorem yieldsWith (start : Pos) : YieldsPlain (withBlock r body start) := by
  refine yieldsThen fun _ => yieldsThen fun items => yieldsBind (yieldsSuite inner) fun ss fine => ?_
  refine yieldsThen fun span => yieldsPure (plainBlock _ _ ?_)
  exact List.forall_mem_singleton.mpr fine

theorem yieldsHandler : Yields (fun o => ∀ pair ∈ o, pair.2.Plain) (handler r body) := by
  unfold handler
  refine yieldsThen fun _ => yieldsIf ?_ (yieldsPure (by simp))
  refine yieldsThen fun _ => yieldsIf ?_ ?_
  · refine yieldsBind (yieldsSuite inner) fun ss fine => yieldsPure ?_
    rintro pair same
    cases same
    exact fine
  · refine yieldsThen fun _ => yieldsThen fun _ => yieldsThen fun _ => ?_
    refine yieldsBind (yieldsSuite inner) fun ss fine => yieldsPure ?_
    rintro pair same
    cases same
    exact fine

theorem yieldsFinally : YieldsClauses (finallyClause r body) := by
  unfold finallyClause
  refine yieldsThen fun _ => yieldsIf ?_ (yieldsPure (by simp))
  exact yieldsBind (yieldsSuite inner) fun ss fine => yieldsPure (List.forall_mem_singleton.mpr fine)

theorem yieldsGuarded : YieldsPlain (guarded r body) := by
  refine yieldsThen fun start => yieldsThen fun _ => yieldsBind (yieldsSuite inner) fun ss fine => ?_
  refine yieldsBind (yieldsRepeated (yieldsHandler inner)) fun handlers caught => ?_
  refine yieldsAfter fun _ => ?_
  have last (clauses : List Clause) (others : ∀ c ∈ clauses, c.Plain) : YieldsPlain (do
      let final ← finallyClause r body
      if handlers.isEmpty && final.isEmpty then failure
      return .block (← spanFrom start) (if handlers.any (·.1) then .other else .guarded)
        (.mk .suite [] ss :: handlers.map (·.2) ++ clauses ++ final)) := by
    refine yieldsBind (yieldsFinally inner) fun final ends => yieldsAfter fun _ => ?_
    refine yieldsThen fun span => yieldsPure (plainBlock _ _ ?_)
    refine List.forall_mem_append.mpr ⟨List.forall_mem_append.mpr ⟨List.forall_mem_cons.mpr ⟨fine, ?_⟩, others⟩, ends⟩
    exact List.forall_mem_map.mpr caught
  exact yieldsIf (yieldsBind (yieldsPure (by simp)) last) (yieldsBind (yieldsElse inner) last)

theorem yieldsCase : Yields (fun o => ∀ c ∈ o, c.Plain) (caseClause r depth body) := by
  unfold caseClause
  refine yieldsThen fun _ => yieldsIf ?_ (yieldsPure (by simp))
  refine yieldsThen fun _ => yieldsThen fun _ => yieldsEither fun guards => ?_
  refine yieldsBind (yieldsSuite inner) fun ss fine => yieldsPure ?_
  rintro c same
  cases same
  exact fine

theorem yieldsMatch (start : Pos) (subject : Expr) : YieldsPlain (matchBlock r depth body start subject) := by
  refine yieldsThen fun _ => yieldsBind (yieldsRepeated (yieldsCase inner)) fun cases fine => ?_
  refine yieldsAfter fun _ => yieldsThen fun _ => yieldsThen fun span => yieldsPure (plainBlock _ _ ?_)
  exact List.forall_mem_cons.mpr ⟨List.forall_mem_nil _, fine⟩

theorem yieldsFunction (decorators : List Expr) : YieldsPlain (functionDefinition r body decorators) := by
  refine yieldsThen fun _ => yieldsThen fun name => yieldsThen fun _ => yieldsThen fun _ => yieldsThen fun _ => ?_
  refine yieldsThen fun _ => yieldsAfter fun _ => ?_
  exact yieldsBind (yieldsSuite inner) fun ss fine => yieldsPure (plainFunction name decorators fine)

theorem yieldsClass (decorators : List Expr) : YieldsPlain (classDefinition r body decorators) := by
  refine yieldsThen fun start => yieldsThen fun _ => yieldsBind yieldsIdentifier fun name own => ?_
  have last : YieldsPlain (do return .classDef start name decorators (← suite r body)) :=
    yieldsBind (yieldsSuite inner) fun ss fine => yieldsPure (plainClass start decorators own fine)
  exact yieldsThen fun _ => yieldsIf (yieldsThen fun _ => yieldsThen fun _ => last) last

theorem yieldsAsync : YieldsPlain (asyncStatement r body) := by
  refine yieldsThen fun start => yieldsThen fun _ => ?_
  refine yieldsThen fun _ => yieldsIf (yieldsFunction inner []) ?_
  exact yieldsThen fun _ => yieldsIf (yieldsFor inner start) (yieldsWith inner start)

theorem yieldsDecorated : YieldsPlain (decorated r body) := by
  refine yieldsThen fun decorators => yieldsThen fun _ => yieldsIf (yieldsClass inner decorators) ?_
  exact yieldsThen fun _ => yieldsFunction inner decorators

theorem yieldsCompound : Yields (fun o => ∀ s ∈ o, s.Plain) (compound? r depth body) := by
  unfold compound?
  refine yieldsThen fun start => ?_
  refine yieldsThen fun _ => yieldsIf (yieldsSome (yieldsConditional inner)) ?_
  refine yieldsThen fun _ => yieldsIf (yieldsSome (yieldsClass inner [])) ?_
  refine yieldsThen fun _ => yieldsIf (yieldsSome (yieldsDecorated inner)) ?_
  refine yieldsThen fun _ => yieldsIf (yieldsSome (yieldsFunction inner [])) ?_
  refine yieldsThen fun _ => yieldsIf (yieldsSome (yieldsAsync inner)) ?_
  refine yieldsThen fun _ => yieldsIf (yieldsSome (yieldsWith inner start)) ?_
  refine yieldsThen fun _ => yieldsIf (yieldsSome (yieldsFor inner start)) ?_
  refine yieldsThen fun _ => yieldsIf (yieldsSome (yieldsGuarded inner)) ?_
  refine yieldsThen fun _ => yieldsIf (yieldsSome (yieldsWhile inner)) ?_
  refine yieldsThen fun _ => yieldsIf ?_ (yieldsPure (by simp))
  refine yieldsThen fun header => ?_
  cases header with
  | none => exact yieldsPure (by simp)
  | some subject => exact yieldsSome (yieldsMatch inner start subject)

theorem yieldsStatement : YieldsBody (statement r depth body) := by
  refine yieldsBind (yieldsCompound inner) fun told fine => ?_
  cases told with
  | none => exact yieldsSimpleStatements
  | some s => exact yieldsPure (List.forall_mem_singleton.mpr (fine s rfl))

theorem yieldsStatementsOnce : YieldsBody (statementsOnce r depth body) := by
  refine yieldsBind (yieldsRepeated (P := fun ss => ∀ s ∈ ss, s.Plain) ?_) fun lists fine => yieldsPure ?_
  · refine yieldsThen fun _ => yieldsIf (yieldsPure (by simp)) ?_
    refine yieldsBind (yieldsStatement inner) fun ss fine => yieldsPure ?_
    intro t same
    cases same
    exact fine
  · intro s member
    obtain ⟨ss, known, inside⟩ := List.mem_flatten.mp member
    exact fine ss known s inside

end

/- By induction on how deep blocks may lie. -/
theorem yieldsStatements (nesting : Nat) : YieldsBody (statements r depth nesting) := by
  induction nesting with
  | zero => exact yieldsFailure
  | succ nesting ih => exact yieldsStatementsOnce ih

end Syntax.Grammar

theorem readPlain {source : List Char} {tree : Syntax.Module} (read : readModule source = some tree) :
    ∀ p ∈ placesInAll tree, Naming.IsPlain p.name := by
  unfold readModule at read
  obtain ⟨tokens, _, read⟩ := Option.bind_eq_some_iff.mp read
  obtain ⟨⟨body, rest⟩, ran, rfl⟩ := Option.map_eq_some_iff.mp read
  obtain ⟨statements, last, inside, later⟩ := Reader.bindRead ran
  have same : statements = body := by
    obtain ⟨_, _, _, done⟩ := Reader.bindRead later
    cases done
    rfl
  rw [← same]
  exact plainAll (Grammar.yieldsStatements _ _ _ _ inside)

/-! The modules of a pass. -/

theorem aggregateOrigin (c : Container) : c.aggregate.name = c.name ∧ c.aggregate.unit = c.unit := by
  have one (c : Container) (a : Annotation) : (c.merge a).name = c.name ∧ (c.merge a).unit = c.unit := by
    unfold Container.merge
    repeat' split
    all_goals exact ⟨rfl, rfl⟩
  have all (as : List Annotation) (c : Container) :
      (as.foldl Container.merge c).name = c.name ∧ (as.foldl Container.merge c).unit = c.unit := by
    induction as generalizing c with
    | nil => exact ⟨rfl, rfl⟩
    | cons a rest ih =>
      obtain ⟨name, unit⟩ := ih (c.merge a)
      exact ⟨name.trans (one c a).1, unit.trans (one c a).2⟩
  exact all c.annotations c

theorem scannedMerged {units : List SourceUnit} {c : Container} (scanned : c ∈ scannedContainers units) :
    ∃ raw, Site.merged ((markedSites units).filter (·.fullName = c.fullName)) = some raw ∧ c = raw.aggregate := by
  obtain ⟨entry, inside, rfl⟩ := List.mem_map.mp scanned
  obtain ⟨raw, listed, rfl⟩ := List.mem_map.mp inside
  have named : raw.2.aggregate.fullName = raw.1 := (aggregateKeeps raw.2).1.trans (listedContainer listed).1
  rw [scanListing] at listed
  obtain ⟨key, _, found⟩ := List.mem_filterMap.mp listed
  obtain ⟨merged, gathered, rfl⟩ := Option.map_eq_some_iff.mp found
  refine ⟨merged, ?_, rfl⟩
  rw [named]
  exact gathered

theorem scannedSite {units : List SourceUnit} {c : Container} (member : c ∈ scannedContainers units) :
    ∃ s, (markedSites units).find? (·.fullName = c.fullName) = some s ∧ c.name = s.name ∧ c.unit = s.unit := by
  obtain ⟨raw, merged, same⟩ := scannedMerged member
  obtain ⟨name, unit⟩ := aggregateOrigin raw
  rw [← List.head?_filter]
  cases group : (markedSites units).filter (·.fullName = c.fullName) with
  | nil => simp [group, Site.merged] at merged
  | cons first rest =>
    simp only [group, Site.merged, Option.some.injEq] at merged
    rw [← same, ← merged] at name unit
    exact ⟨first, rfl, name, unit⟩

theorem handedFrom {options : PassOptions} {units : List SourceUnit} {m : GeneratedSource}
    (member : m ∈ (Analysis.ofUnits options.warningsAsErrors units).sources options) :
    ∃ u ∈ units, ∃ p ∈ placesInAll u.tree, m.name = Naming.outputName p.name ∧ m.origin = u.path.map Path.text := by
  rw [handedModules] at member
  obtain ⟨c, scanned, rfl⟩ := List.mem_map.mp (List.mem_filter.mp member).1
  obtain ⟨s, found, name, unit⟩ := scannedSite scanned
  obtain ⟨u, known, sited⟩ := List.mem_flatMap.mp (List.mem_filter.mp (List.mem_of_find?_eq_some found)).1
  obtain ⟨p, placed, rfl⟩ := List.mem_map.mp sited
  refine ⟨u, known, p, placed, congrArg Naming.outputName name, ?_⟩
  unfold Container.generate
  rw [unit]

end AccessorForge
