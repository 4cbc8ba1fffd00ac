import AccessorForge.Proofs.Running
import AccessorForge.Proofs.Suppression
/-! Which names a generated module can resolve. It has the imports that are copied into it, and it imports names of
the container's own module inside the accessors. Statements are copied or left out whole, and of the definitions
only those count that are statements of the module themselves; a name can be lost by either. -/
namespace AccessorForge
open Syntax

/-! Names at the top of a unit. -/

namespace Import

def aliases : Import → List Alias
  | .ofModules names => names
  | .fromModule _ names => names

/-- One of its names, imported alone. -/
def only : Import → Alias → Import
  | .ofModules _, a => .ofModules [a]
  | .fromModule source _, a => .fromModule source [a]

theorem boundOnly (i : Import) (name : String) : name ∈ i.bound ↔ ∃ a ∈ i.aliases, name ∈ (i.only a).bound := by
  cases i <;> simp [bound, aliases, only, eq_comm]

theorem refersOnly (i : Import) (stem : String) (some : i.aliases ≠ []) :
    i.refersTo stem = true ↔ ∃ a ∈ i.aliases, (i.only a).refersTo stem = true := by
  cases i with
  | ofModules names => simp [refersTo, aliases, only]
  | fromModule source names =>
    obtain ⟨first, rest, rfl⟩ := List.exists_cons_of_ne_nil some
    cases source with
    | none => simp [refersTo, aliases, only]
    | some m => by_cases same : Naming.lastSegment m = stem <;> simp [refersTo, aliases, only, same]

end Import

def plainImport : Stmt → Option Import
  | .importModules _ names => some (.ofModules names)
  | .importFrom _ source names => some (.fromModule source names)
  | _ => none

mutual
/-- The classes and functions of a statement that end up as names of its module: those outside of all others, also
behind a condition or a handler. -/
def definitionsIn : Stmt → List String
  | .function name _ _ | .classDef _ name _ _ => [name]
  | .block _ .conditional clauses | .block _ .guarded clauses => definitionsInClauses clauses
  | _ => []

def definitionsInAll : List Stmt → List String
  | [] => []
  | s :: rest => definitionsIn s ++ definitionsInAll rest

def definitionsInClauses : List Clause → List String
  | [] => []
  | .mk _ _ body :: rest => definitionsInAll body ++ definitionsInClauses rest
end

/-- The names of plain imports, each by itself, that do not refer to a module, and the defined names. -/
def SourceUnit.topNames (u : SourceUnit) (stem : String) : List String :=
  (u.tree.filterMap plainImport).flatMap (fun i =>
    (i.aliases.filter fun a => !(i.only a).refersTo stem).flatMap fun a => (i.only a).bound) ++
  definitionsInAll u.tree

/-- Whether the unit has three statements, and each is as asked. -/
def SourceUnit.madeOf (u : SourceUnit) (first second third : Stmt → Bool) : Bool :=
  match u.tree with
  | [a, b, c] => first a && second b && third c
  | _ => false

theorem madeOfIff (u : SourceUnit) (first second third : Stmt → Bool) : u.madeOf first second third = true ↔
    ∃ a b c, u.tree = [a, b, c] ∧ first a = true ∧ second b = true ∧ third c = true := by
  unfold SourceUnit.madeOf
  split
  · rename_i a b c tree
    simp [tree, and_assoc]
  · rename_i other
    refine iff_of_false Bool.false_ne_true ?_
    rintro ⟨a, b, c, tree, -⟩
    exact other a b c tree

/-! Names in a generated module. -/

namespace Container

/-- Whether the statement is copied: it only imports, and none of its names refers to the generated module. -/
def Copies (c : Container) (scope : ImportScope) (s : Stmt) : Prop :=
  (importSpan scope s).isSome ∧ ∀ i ∈ importsOf s, i.refersTo (Naming.moduleStem c.name) = false

instance (c : Container) (scope : ImportScope) (s : Stmt) : Decidable (c.Copies scope s) :=
  inferInstanceAs (Decidable (_ ∧ _))

def resolvable (c : Container) (scope : ImportScope) : List String :=
  (c.copiedImports scope).flatMap ImportDirective.bound ++ c.localNames (c.copiedImports scope)

theorem resolvableEither (c : Container) (scope : ImportScope) (name : String) : name ∈ c.resolvable scope ↔
    (∃ d ∈ c.copiedImports scope, name ∈ d.bound) ∨ name ∈ c.unit.moduleLevelNames := by
  unfold resolvable localNames
  by_cases copied : ∃ d ∈ c.copiedImports scope, name ∈ d.bound
  · simp [copied]
  · simp [copied]

theorem copiedIff (c : Container) (scope : ImportScope) (name : String) :
    (∃ d ∈ c.copiedImports scope, name ∈ d.bound) ↔
      ∃ s ∈ c.unit.tree, (importSpan scope s).isSome ∧
        (∀ i ∈ importsOf s, i.refersTo (Naming.moduleStem c.name) = false) ∧ ∃ i ∈ importsOf s, name ∈ i.bound := by
  unfold copiedImports SourceUnit.importDirectives
  simp only [List.mem_filter, List.mem_filterMap, Option.map_eq_some_iff, ImportDirective.refersTo,
    ImportDirective.imports, ImportDirective.bound, List.mem_flatMap, Bool.not_eq_true', List.any_eq_false,
    Bool.not_eq_true, Option.isSome_iff_exists]
  constructor
  · rintro ⟨d, ⟨⟨s, there, span, found, rfl⟩, spared⟩, bound⟩
    exact ⟨s, there, ⟨span, found⟩, spared, bound⟩
  · rintro ⟨s, there, ⟨span, found⟩, spared, bound⟩
    exact ⟨_, ⟨⟨s, there, span, found, rfl⟩, spared⟩, bound⟩

theorem definedIff (u : SourceUnit) (name : String) :
    name ∈ u.moduleLevelNames ↔ ∃ s ∈ u.tree, name ∈ definedBy s := List.mem_flatMap

end Container

theorem plainCopied {s : Stmt} {i : Import} (plain : plainImport s = some i) (scope : ImportScope) :
    (importSpan scope s).isSome ∧ importsOf s = [i] := by
  cases s <;> simp [plainImport] at plain <;> subst plain <;> simp [importSpan, importsOf]

/-- A name can be resolved in the generated module exactly if it is bound by an import statement or a block of
imports none of whose names refers to that module, or defined by a statement of the unit's module itself. A
plain import is as good as each of its names if none of them refers to the generated module, and a class or function
that is a statement of the module is found; one behind a condition or a handler is not found by that. What is not
bound by a copied import is imported inside the accessor. -/
theorem namesInScope (c : Container) : ∀ a ∈ c.planned,
    let name := Naming.leadingName a.typeName
    let stem := Naming.moduleStem c.name
    let lazyNames := c.localNames (c.copiedImports .all)
    (name ∈ c.resolvable .all ↔
      (∃ s ∈ c.unit.tree, (importSpan .all s).isSome ∧ (∀ i ∈ importsOf s, i.refersTo stem = false) ∧
        ∃ i ∈ importsOf s, name ∈ i.bound) ∨
      ∃ s ∈ c.unit.tree, name ∈ definedBy s) ∧
    (∀ s ∈ c.unit.tree, ∀ i, plainImport s = some i → (∀ b ∈ i.aliases, (i.only b).refersTo stem = false) →
      ∀ b ∈ i.aliases, name ∈ (i.only b).bound → name ∈ c.resolvable .all) ∧
    (∀ s ∈ c.unit.tree, name ∈ definedBy s → name ∈ c.resolvable .all) ∧
    (name ∈ c.resolvable .all → (∃ d ∈ c.copiedImports .all, name ∈ d.bound) ∨
      c.accessorBlock lazyNames a = "\n" ++ a.render (some c.unit.module)) := by
  intro a _ name stem lazyNames
  have exact : name ∈ c.resolvable .all ↔ _ ∨ _ := c.resolvableEither .all name
  rw [c.copiedIff, Container.definedIff] at exact
  refine ⟨exact, ?_, fun s there defined => exact.mpr (.inr ⟨s, there, defined⟩), ?_⟩
  · intro s there i plain spared b listed bound
    obtain ⟨copied, only⟩ := plainCopied plain .all
    have kept : i.refersTo stem = false := by
      rw [← Bool.not_eq_true, i.refersOnly stem (List.ne_nil_of_mem listed)]
      rintro ⟨d, member, refers⟩
      rw [spared d member] at refers
      cases refers
    refine exact.mpr (.inl ⟨s, there, copied, ?_, ?_⟩)
    · simpa [only] using kept
    · simpa [only] using (i.boundOnly name).mpr ⟨b, listed, bound⟩
  · intro found
    refine (List.mem_append.mp found).imp List.mem_flatMap.mp fun isLocal => ?_
    have late : Container.isLocal lazyNames a.typeName = true := by
      unfold Container.isLocal
      exact List.contains_iff_mem.mpr isLocal
    unfold Container.accessorBlock
    rw [if_pos late]

/-- A class with an imported type and one of its own module. -/
def workshop : Container where
  fullName := "m.A"
  name := "A"
  namespaceName := "m"
  unit := ⟨"m", "from kit import Gear\nclass Widget: pass\n",
    [.importFrom ⟨⟨1, 0⟩, ⟨1, 20⟩⟩ (some "kit") [⟨"Gear", none⟩], .classDef ⟨2, 0⟩ "Widget" [] [.pass]], none⟩
  declared := ⟨2, 0⟩
  required := ["Gear", "Widget"]
  defaults := some publicVisibility

theorem namesInScopeWorkshop :
    ⟨"public", "Widget", "Widget"⟩ ∈ workshop.planned ∧ "Widget" ∈ workshop.resolvable .all := by
  have planned : ⟨"public", "Widget", "Widget"⟩ ∈ workshop.planned := by decide
  have found := (namesInScope workshop ⟨"public", "Widget", "Widget"⟩ planned).2.2.1
  exact ⟨planned, found (.classDef ⟨2, 0⟩ "Widget" [] [.pass]) (by simp [workshop]) (by decide)⟩

/-- Two types of one container, of which each has a name at the top of the unit that the generated module does not have. -/
def lostNames : String :=
  "import os, a_getters\nif True:\n    class Widget: pass\n" ++
  "@require_component_getters\n@require_component(Widget, os.Path)\nclass A: pass\n"

theorem lostNamesUnresolved : ∃ u c, SourceUnit.read "m" lostNames none = .ok u ∧ c ∈ scannedContainers [u] ∧
    c.fullName ∉ suppressedNames false [u] ∧ c.planned.map (·.typeName) = ["Widget", "os.Path"] ∧
    ∀ a ∈ c.planned, Naming.leadingName a.typeName ∈ u.topNames (Naming.moduleStem c.name) ∧
      Naming.leadingName a.typeName ∉ c.resolvable .all := by
  have told : (SourceUnit.read "m" lostNames none).toOption.any (fun u => (scannedContainers [u]).any fun c =>
      c.fullName ∉ suppressedNames false [u] && c.planned.map (·.typeName) = ["Widget", "os.Path"] &&
      c.planned.all fun a => Naming.leadingName a.typeName ∈ u.topNames (Naming.moduleStem c.name) &&
        Naming.leadingName a.typeName ∉ c.resolvable .all) = true := by
    decide +kernel
  simp only [Option.any_eq_true, List.any_eq_true, List.all_eq_true, Bool.and_eq_true, decide_eq_true_eq] at told
  obtain ⟨u, read, c, scanned, ⟨kept, planned⟩, lost⟩ := told
  exact ⟨u, c, okOf read, scanned, kept, planned, lost⟩

end AccessorForge
