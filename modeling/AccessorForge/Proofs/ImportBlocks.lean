import AccessorForge.Proofs.Namesakes
import AccessorForge.Proofs.NamesInScope
/-! Which imports of a unit are copied into a generated module. Statements are followed through conditions and handlers
to what they come down to in the end; a block is copied if that is imports alone, and an import of the generated module
itself, however deep, keeps it out. -/
namespace AccessorForge
open Syntax

/-! The last segment of a dotted name. -/

namespace Naming

/-- The name ends in this word, after its last dot if it has one. -/
def EndsIn (dotted last : String) : Prop :=
  '.' ∉ last.toList ∧ (dotted = last ∨ ∃ ahead, dotted = ahead ++ "." ++ last)

theorem lastSegmentPlain (s : List Char) : '.' ∉ defaultPropertyChars s := by
  rw [defaultPropertyChars, List.mem_reverse]
  intro within
  simpa using List.mem_takeWhile_imp within

theorem lastSegmentSplits (s : List Char) :
    s = defaultPropertyChars s ∨ ∃ ahead, s = ahead ++ '.' :: defaultPropertyChars s := by
  have parts : s.reverse.takeWhile (· ≠ '.') ++ s.reverse.dropWhile (· ≠ '.') = s.reverse :=
    List.takeWhile_append_dropWhile
  have whole := congrArg List.reverse parts
  rw [List.reverse_append, List.reverse_reverse, ← defaultPropertyChars] at whole
  cases left : s.reverse.dropWhile (· ≠ '.') with
  | nil =>
    rw [left] at whole
    exact .inl whole.symm
  | cons c more =>
    have stops := List.head?_dropWhile_not (fun d => decide (d ≠ '.')) s.reverse
    have dot : c = '.' := by
      rw [left] at stops
      simpa using stops
    rw [left, List.reverse_cons, List.append_assoc, dot] at whole
    exact .inr ⟨more.reverse, whole.symm⟩

theorem lastSegmentIff (dotted last : String) : lastSegment dotted = last ↔ EndsIn dotted last := by
  rw [lastSegment, defaultProperty]
  constructor
  · rintro rfl
    refine ⟨by simpa using lastSegmentPlain dotted.toList, ?_⟩
    rcases lastSegmentSplits dotted.toList with whole | ⟨ahead, split⟩
    · exact .inl (by rw [← whole, String.ofList_toList])
    · refine .inr ⟨String.ofList ahead, String.toList_inj.mp ?_⟩
      simpa using split
  · rintro ⟨plain, rfl | ⟨ahead, rfl⟩⟩
    · rw [(lastSegmentEnds [] plain).2, String.ofList_toList]
    · have ends := (lastSegmentEnds ahead.toList plain).1
      rw [String.toList_append, String.toList_append, List.append_assoc]
      exact (congrArg String.ofList ends).trans String.ofList_toList

end Naming

/-! What a statement comes down to. -/

namespace Syntax

def Stmt.IsImport (s : Stmt) : Prop := ∃ i, plainImport s = some i

/-- A condition or a handler, but not one for groups. -/
def Stmt.branches : Stmt → Bool
  | .block _ .conditional _ | .block _ .guarded _ => true
  | _ => false

/-- What is found at the ends of a statement, through the bodies of all clauses of conditions and handlers. -/
inductive Leaf : Stmt → Stmt → Prop
  | here {s : Stmt} (single : s.branches = false) : Leaf s s
  | inside {span : Span} {kind : BlockKind} {clauses : List Clause} {clause : Clause} {t l : Stmt}
      (branches : (Stmt.block span kind clauses).branches = true) (listed : clause ∈ clauses)
      (member : t ∈ clause.body) (deeper : Leaf t l) : Leaf (.block span kind clauses) l

/-- The statement itself and what stands in it at any depth. -/
inductive Part : Stmt → Stmt → Prop
  | whole (s : Stmt) : Part s s
  | ofClause {span : Span} {kind : BlockKind} {clauses : List Clause} {clause : Clause} {t r : Stmt}
      (listed : clause ∈ clauses) (member : t ∈ clause.body) (deeper : Part t r) : Part (.block span kind clauses) r
  | ofFunction {name : String} {decorators : List Expr} {body : List Stmt} {t r : Stmt}
      (member : t ∈ body) (deeper : Part t r) : Part (.function name decorators body) r
  | ofClass {start : Pos} {name : String} {decorators : List Expr} {body : List Stmt} {t r : Stmt}
      (member : t ∈ body) (deeper : Part t r) : Part (.classDef start name decorators body) r

/-- A block that only imports, and does import something. -/
structure Stmt.GuardsImports (s : Stmt) : Prop where
  branches : s.branches = true
  only : ∀ l, Leaf s l → l.IsImport ∨ l = .pass
  some : ∃ l, Leaf s l ∧ l.IsImport

end Syntax

/-! The check for blocks that only import. -/

theorem areImportOnlyIff (ss : List Stmt) : areImportOnly ss = true ↔ ∀ s ∈ ss, isImportOnly s = true := by
  induction ss with
  | nil => simp [areImportOnly]
  | cons s rest ih => simp [areImportOnly, ih]

theorem areClausesImportOnlyIff (cs : List Clause) :
    areClausesImportOnly cs = true ↔ ∀ c ∈ cs, ∀ s ∈ c.body, isImportOnly s = true := by
  induction cs with
  | nil => simp [areClausesImportOnly]
  | cons c rest ih =>
    obtain ⟨role, heads, body⟩ := c
    simp [areClausesImportOnly, areImportOnlyIff, ih, Clause.body]

theorem branchesOnly {span : Span} {kind : BlockKind} {clauses : List Clause}
    (branches : (Stmt.block span kind clauses).branches = true) :
    isImportOnly (.block span kind clauses) = areClausesImportOnly clauses := by
  cases kind <;> first | rfl | cases branches

theorem singleOnly {s : Stmt} (single : s.branches = false) : isImportOnly s = true ↔ s.IsImport ∨ s = .pass := by
  cases s with
  | block span kind clauses =>
    have noImport : ¬ (Stmt.block span kind clauses).IsImport := by simp [Stmt.IsImport, plainImport]
    cases kind with
    | other => exact iff_of_false (by simp [isImportOnly]) fun either => either.elim noImport (by simp)
    | _ => cases single
  | _ => simp [isImportOnly, Stmt.IsImport, plainImport]

theorem leafOnly {s l : Stmt} (leaf : Leaf s l) (only : isImportOnly s = true) : l.IsImport ∨ l = .pass := by
  induction leaf with
  | here single => exact (singleOnly single).mp only
  | inside branches listed member deeper ih =>
    rw [branchesOnly branches, areClausesImportOnlyIff] at only
    exact ih (only _ listed _ member)

mutual
theorem leavesOnly {s : Stmt} (each : ∀ l, Leaf s l → l.IsImport ∨ l = .pass) : isImportOnly s = true := by
  cases branching : s.branches with
  | false => exact (singleOnly branching).mpr (each s (.here branching))
  | true =>
    cases s with
    | block span kind clauses =>
      rw [branchesOnly branching]
      exact leavesOnlyClauses fun clause listed t member l leaf => each l (.inside branching listed member leaf)
    | _ => cases branching

theorem leavesOnlyAll {ss : List Stmt} (each : ∀ s ∈ ss, ∀ l, Leaf s l → l.IsImport ∨ l = .pass) :
    areImportOnly ss = true := by
  cases ss with
  | nil => rfl
  | cons s rest =>
    obtain ⟨first, others⟩ := List.forall_mem_cons.mp each
    rw [areImportOnly, leavesOnly first, leavesOnlyAll others]
    rfl

theorem leavesOnlyClauses {cs : List Clause}
    (each : ∀ c ∈ cs, ∀ s ∈ c.body, ∀ l, Leaf s l → l.IsImport ∨ l = .pass) : areClausesImportOnly cs = true := by
  cases cs with
  | nil => rfl
  | cons c rest =>
    obtain ⟨role, heads, body⟩ := c
    obtain ⟨first, others⟩ := List.forall_mem_cons.mp each
    exact Bool.and_eq_true_iff.mpr ⟨leavesOnlyAll first, leavesOnlyClauses others⟩
end

theorem importOnlyIff (s : Stmt) : isImportOnly s = true ↔ ∀ l, Leaf s l → l.IsImport ∨ l = .pass :=
  ⟨fun only _ leaf => leafOnly leaf only, leavesOnly⟩

/-! The walk through all parts of a statement. -/

theorem importsOfAllIff (ss : List Stmt) (i : Import) : i ∈ importsOfAll ss ↔ ∃ s ∈ ss, i ∈ importsOf s := by
  induction ss with
  | nil => simp [importsOfAll]
  | cons s rest ih => simp [importsOfAll, ih]

theorem importsOfClausesIff (cs : List Clause) (i : Import) :
    i ∈ importsOfClauses cs ↔ ∃ c ∈ cs, ∃ s ∈ c.body, i ∈ importsOf s := by
  induction cs with
  | nil => simp [importsOfClauses]
  | cons c rest ih =>
    obtain ⟨role, heads, body⟩ := c
    simp [importsOfClauses, importsOfAllIff, ih, Clause.body]

theorem partImports {s r : Stmt} {i : Import} (part : Part s r) (plain : plainImport r = some i) : i ∈ importsOf s := by
  induction part with
  | whole s =>
    rw [(plainCopied plain .all).2]
    exact List.mem_singleton_self i
  | ofClause listed member _ ih =>
    rw [importsOf, importsOfClausesIff]
    exact ⟨_, listed, _, member, ih plain⟩
  | ofFunction member _ ih =>
    rw [importsOf, importsOfAllIff]
    exact ⟨_, member, ih plain⟩
  | ofClass member _ ih =>
    rw [importsOf, importsOfAllIff]
    exact ⟨_, member, ih plain⟩

mutual
theorem importsFromParts {s : Stmt} {i : Import} (among : i ∈ importsOf s) : ∃ r, Part s r ∧ plainImport r = some i := by
  cases s with
  | importModules span names => exact ⟨_, .whole _, congrArg some (List.mem_singleton.mp among).symm⟩
  | importFrom span source names => exact ⟨_, .whole _, congrArg some (List.mem_singleton.mp among).symm⟩
  | block span kind clauses =>
    obtain ⟨c, listed, t, member, r, part, plain⟩ := importsFromClauses among
    exact ⟨r, .ofClause listed member part, plain⟩
  | function name decorators body =>
    obtain ⟨t, member, r, part, plain⟩ := importsFromAll among
    exact ⟨r, .ofFunction member part, plain⟩
  | classDef start name decorators body =>
    obtain ⟨t, member, r, part, plain⟩ := importsFromAll among
    exact ⟨r, .ofClass member part, plain⟩
  | pass => cases among
  | assign targets value => cases among
  | other => cases among

theorem importsFromAll {ss : List Stmt} {i : Import} (among : i ∈ importsOfAll ss) :
    ∃ s ∈ ss, ∃ r, Part s r ∧ plainImport r = some i := by
  cases ss with
  | nil => cases among
  | cons s rest =>
    rcases List.mem_append.mp among with here | later
    · exact ⟨s, List.mem_cons_self, importsFromParts here⟩
    · obtain ⟨t, member, found⟩ := importsFromAll later
      exact ⟨t, List.mem_cons_of_mem _ member, found⟩

theorem importsFromClauses {cs : List Clause} {i : Import} (among : i ∈ importsOfClauses cs) :
    ∃ c ∈ cs, ∃ s ∈ c.body, ∃ r, Part s r ∧ plainImport r = some i := by
  cases cs with
  | nil => cases among
  | cons c rest =>
    obtain ⟨role, heads, body⟩ := c
    rcases List.mem_append.mp among with here | later
    · exact ⟨_, List.mem_cons_self, importsFromAll here⟩
    · obtain ⟨d, listed, found⟩ := importsFromClauses later
      exact ⟨d, List.mem_cons_of_mem _ listed, found⟩
end

theorem importsOfIff (s : Stmt) (i : Import) : i ∈ importsOf s ↔ ∃ r, Part s r ∧ plainImport r = some i :=
  ⟨importsFromParts, fun ⟨_, part, plain⟩ => partImports part plain⟩

/-! The check and the walk agree: in a block that only imports, the imports are what it comes down to. -/

theorem leafPart {s l : Stmt} (leaf : Leaf s l) : Part s l := by
  induction leaf with
  | here single => exact .whole _
  | inside branches listed member deeper ih => exact .ofClause listed member ih

theorem partLeaf {s r : Stmt} {i : Import} (part : Part s r) (plain : plainImport r = some i)
    (only : isImportOnly s = true) : Leaf s r := by
  induction part with
  | whole s =>
    refine .here ?_
    cases s with
    | block span kind clauses => cases plain
    | _ => rfl
  | @ofClause span kind clauses clause t r listed member deeper ih =>
    have branches : (Stmt.block span kind clauses).branches = true := by
      cases kind with
      | other => cases only
      | _ => rfl
    rw [branchesOnly branches, areClausesImportOnlyIff] at only
    exact .inside branches listed member (ih plain (only _ listed _ member))
  | ofFunction member deeper ih => cases only
  | ofClass member deeper ih => cases only

theorem guardsImportsIff (s : Stmt) :
    s.GuardsImports ↔ s.branches = true ∧ isImportOnly s = true ∧ importsOf s ≠ [] := by
  constructor
  · rintro ⟨branches, only, l, leaf, i, plain⟩
    exact ⟨branches, (importOnlyIff s).mpr only, List.ne_nil_of_mem (partImports (leafPart leaf) plain)⟩
  · rintro ⟨branches, only, some⟩
    obtain ⟨i, rest, imports⟩ := List.exists_cons_of_ne_nil some
    obtain ⟨r, part, plain⟩ := (importsOfIff s i).mp (imports ▸ List.mem_cons_self)
    exact ⟨branches, (importOnlyIff s).mp only, r, partLeaf part plain only, i, plain⟩

/-! Directives. -/

namespace Import

/-- The word is the last segment of a module that is imported or imported from, or a name that is taken from one. -/
def Names (stem : String) : Import → Prop
  | .ofModules names => ∃ a ∈ names, Naming.EndsIn a.name stem
  | .fromModule source names => (∃ m, source = some m ∧ Naming.EndsIn m stem) ∨ ∃ a ∈ names, a.name = stem

theorem refersIff (i : Import) (stem : String) : i.refersTo stem = true ↔ i.Names stem := by
  cases i with
  | ofModules names => simp [refersTo, Names, Naming.lastSegmentIff]
  | fromModule source names => cases source <;> simp [refersTo, Names, Naming.lastSegmentIff]

end Import

def ImportDirective.HasImport (d : ImportDirective) (i : Import) : Prop :=
  ∃ r, Part d.statement r ∧ plainImport r = some i

def ImportDirective.NamesIn (d : ImportDirective) (stem : String) : Prop := ∃ i, d.HasImport i ∧ i.Names stem

theorem ImportDirective.refersIff (d : ImportDirective) (stem : String) : d.refersTo stem = true ↔ d.NamesIn stem := by
  simp [refersTo, imports, NamesIn, HasImport, importsOfIff, Import.refersIff]

instance (s : Stmt) : Decidable s.IsImport :=
  decidable_of_iff ((plainImport s).isSome = true) Option.isSome_iff_exists

instance (s : Stmt) : Decidable s.GuardsImports := decidable_of_iff _ (guardsImportsIff s).symm

instance (d : ImportDirective) (stem : String) : Decidable (d.NamesIn stem) := decidable_of_iff _ (d.refersIff stem)

def Syntax.Stmt.place : Stmt → Span
  | .importModules span _ | .importFrom span _ _ | .block span _ _ => span
  | _ => default

def SourceUnit.directive (u : SourceUnit) (s : Stmt) : ImportDirective := ⟨s, excerpt u.text s.place⟩

theorem importSpanAll (s : Stmt) : importSpan .all s = if s.IsImport ∨ s.GuardsImports then some s.place else none := by
  have guards := guardsImportsIff s
  cases s with
  | block span kind clauses =>
    have noImport : ¬ (Stmt.block span kind clauses).IsImport := by simp [Stmt.IsImport, plainImport]
    cases kind with
    | other =>
      have apart : ¬ (Stmt.block span .other clauses).GuardsImports := fun both => by cases both.branches
      simp [importSpan, noImport, apart]
    | _ => simp_all [importSpan, Stmt.branches, Stmt.place]
  | _ => simp_all [importSpan, Stmt.branches, Stmt.IsImport, plainImport, Stmt.place]

theorem importSpanPlain (s : Stmt) : importSpan .module s = if s.IsImport then some s.place else none := by
  cases s with
  | block span kind clauses => cases kind <;> simp [importSpan, Stmt.IsImport, plainImport]
  | _ => simp [importSpan, Stmt.IsImport, plainImport, Stmt.place]

namespace SourceUnit
variable (u : SourceUnit)

theorem directivesBy {scope : ImportScope} {chosen : Stmt → Prop} [DecidablePred chosen]
    (spans : ∀ s, importSpan scope s = if chosen s then some s.place else none) :
    u.importDirectives scope = (u.tree.filter fun s => chosen s).map u.directive := by
  rw [importDirectives, ← List.filterMap_eq_map, List.filterMap_filter]
  refine List.filterMap_congr fun s _ => ?_
  by_cases taken : chosen s <;> simp [spans, taken, directive, excerpt]

theorem directivesAll : u.importDirectives .all =
    (u.tree.filter fun s => s.IsImport ∨ s.GuardsImports).map u.directive := u.directivesBy importSpanAll

theorem directivesPlain : u.importDirectives .module = (u.importDirectives .all).filter (·.statement.IsImport) := by
  have plain (s : Stmt) : (decide s.IsImport && decide (s.IsImport ∨ s.GuardsImports)) = decide s.IsImport := by
    by_cases isImport : s.IsImport <;> simp [isImport]
  rw [u.directivesBy importSpanPlain, directivesAll, List.filter_map, List.filter_filter]
  congr 1
  refine List.filter_congr fun s _ => ?_
  exact (plain s).symm

end SourceUnit

/-- The imports that a unit offers are, in the order of the text and each with its own text, the import statements at
its top and the blocks there that come down to imports alone; asked for anything but all of them, it offers the
statements only. Those are copied in which no import, however deep, is of a module called like the generated one, so
that what is copied never imports the generated module. -/
theorem importsCopied (c : Container) :
    (∀ word, c.unit.importDirectives (.ofString word) =
      let all := (c.unit.tree.filter fun s => s.IsImport ∨ s.GuardsImports).map c.unit.directive
      if word = "all" then all else all.filter (·.statement.IsImport)) ∧
    ∀ scope, (c.copiedImports scope =
        (c.unit.importDirectives scope).filter fun d => ¬ d.NamesIn (Naming.moduleStem c.name)) ∧
      ∀ d ∈ c.copiedImports scope, ∀ i, d.HasImport i → ¬ i.Names (Naming.moduleStem c.name) := by
  have kept (scope : ImportScope) : c.copiedImports scope =
      (c.unit.importDirectives scope).filter fun d => ¬ d.NamesIn (Naming.moduleStem c.name) := by
    refine List.filter_congr fun d _ => ?_
    rw [Bool.eq_iff_iff]
    simp [← d.refersIff]
  refine ⟨fun word => ?_, fun scope => ⟨kept scope, fun d copied i held named => ?_⟩⟩
  · rw [ImportScope.ofString]
    split
    · exact c.unit.directivesAll
    · rw [c.unit.directivesPlain, c.unit.directivesAll]
  · rw [kept, List.mem_filter, decide_eq_true_eq] at copied
    exact copied.2 ⟨i, held, named⟩

/-- A unit that imports its generated module beside others, on a condition. -/
def selfImporting : Container :=
  { workshop with unit := ⟨"m", "from kit import Gear\nif True:\n    import a_getters\n    import os\n",
      [.importFrom ⟨⟨1, 0⟩, ⟨1, 20⟩⟩ (some "kit") [⟨"Gear", none⟩], .block ⟨⟨2, 0⟩, ⟨4, 13⟩⟩ .conditional [.mk .suite []
        [.importModules ⟨⟨3, 4⟩, ⟨3, 20⟩⟩ [⟨"a_getters", none⟩], .importModules ⟨⟨4, 4⟩, ⟨4, 13⟩⟩ [⟨"os", none⟩]]]], none⟩ }

theorem importsCopiedSelf : ∃ d ∈ selfImporting.copiedImports .all, (selfImporting.unit.importDirectives .all).length = 2 ∧
    (selfImporting.copiedImports .all).length = 1 ∧ d.HasImport (.fromModule (some "kit") [⟨"Gear", none⟩]) ∧
    ¬ (Import.fromModule (some "kit") [⟨"Gear", none⟩]).Names "a_getters" := by
  have told : ((selfImporting.copiedImports .all).any fun d =>
      plainImport d.statement = some (.fromModule (some "kit") [⟨"Gear", none⟩])) = true := by decide +kernel
  simp only [List.any_eq_true, decide_eq_true_eq] at told
  obtain ⟨d, copied, plain⟩ := told
  have held : d.HasImport (.fromModule (some "kit") [⟨"Gear", none⟩]) := ⟨_, .whole _, plain⟩
  have stem : Naming.moduleStem selfImporting.name = "a_getters" := by decide +kernel
  have apart := ((importsCopied selfImporting).2 .all).2 d copied _ held
  exact ⟨d, copied, by decide +kernel, by decide +kernel, held, stem ▸ apart⟩

end AccessorForge
