import AccessorForge.Proofs.NamesInScope
/-! Names of a unit that are both imported and defined. Where they stand decides what they mean in the unit: the last
binding counts. In the generated module a copied import counts, wherever it stands, and only what no copied import
binds is taken from the unit itself. -/
namespace AccessorForge
open Syntax

namespace Container
variable {c : Container} {scope : ImportScope} {name : String} {before after : List Stmt} {s : Stmt}

/-- Some of these statements of the unit is copied, and imports the name. -/
def CopiedFrom (c : Container) (scope : ImportScope) (name : String) (ss : List Stmt) : Prop :=
  ∃ s ∈ ss, c.Copies scope s ∧ ∃ i ∈ importsOf s, name ∈ i.bound

theorem localIff (c : Container) (scope : ImportScope) (name : String) :
    name ∈ c.localNames (c.copiedImports scope) ↔
      (∃ s ∈ c.unit.tree, name ∈ definedBy s) ∧ ¬ c.CopiedFrom scope name c.unit.tree := by
  unfold CopiedFrom Copies localNames
  simp only [and_assoc]
  rw [← copiedIff, ← definedIff]
  simp only [List.mem_filter, Bool.not_eq_true', List.contains_eq_mem, List.mem_flatMap, decide_eq_false_iff_not]

theorem definitionUncopied (defined : name ∈ definedBy s) : importSpan scope s = none := by
  cases s <;> simp_all [definedBy, importSpan]

theorem copiedAround (split : c.unit.tree = before ++ s :: after) (defined : name ∈ definedBy s) :
    c.CopiedFrom scope name c.unit.tree ↔ c.CopiedFrom scope name before ∨ c.CopiedFrom scope name after := by
  unfold CopiedFrom Copies
  rw [split]
  simp only [List.mem_append, List.mem_cons, or_and_right, exists_or, exists_eq_left, definitionUncopied defined,
    Option.isSome_none, Bool.false_eq_true, false_and, false_or]

theorem blockAs (c : Container) (names : List String) (a : Accessor) : c.accessorBlock names a =
    "\n" ++ a.render (if Naming.leadingName a.typeName ∈ names then some c.unit.module else none) := by
  simp [accessorBlock, isLocal]

/-- If no copied import of a type's name stands below its definition, the name means the definition in the unit. The
accessor imports that one exactly if no copied import above it has the name either; else it looks up what the import
binds. -/
theorem lastDefinitionLocal (c : Container) (scope : ImportScope) (a : Accessor) {before after : List Stmt} {s : Stmt}
    (split : c.unit.tree = before ++ s :: after) (defined : Naming.leadingName a.typeName ∈ definedBy s)
    (last : ¬ c.CopiedFrom scope (Naming.leadingName a.typeName) after) :
    let name := Naming.leadingName a.typeName
    let lazyNames := c.localNames (c.copiedImports scope)
    (name ∈ lazyNames ↔ ¬ c.CopiedFrom scope name before) ∧
    (¬ c.CopiedFrom scope name before → c.accessorBlock lazyNames a = "\n" ++ a.render (some c.unit.module)) ∧
    (c.CopiedFrom scope name before → c.accessorBlock lazyNames a = "\n" ++ a.render none ∧
      ∃ d ∈ c.copiedImports scope, name ∈ d.bound) := by
  intro name lazyNames
  have isLocal : name ∈ lazyNames ↔ ¬ c.CopiedFrom scope name before := by
    have somewhere : ∃ s ∈ c.unit.tree, name ∈ definedBy s := ⟨s, by simp [split], defined⟩
    rw [c.localIff, copiedAround split defined, or_iff_left last, and_iff_right somewhere]
  refine ⟨isLocal, fun free => ?_, fun copied => ⟨?_, ?_⟩⟩
  · rw [c.blockAs, if_pos (isLocal.mpr free)]
  · rw [c.blockAs, if_neg (fun found => isLocal.mp found copied)]
  · obtain ⟨t, there, ⟨spanned, spared⟩, bound⟩ := (copiedAround split defined).mpr (.inl copied)
    exact (c.copiedIff scope name).mpr ⟨t, there, spanned, spared, bound⟩

theorem lastDefinitionLocalWorkshop :
    ¬ workshop.CopiedFrom .all "Widget" [] ∧ "Widget" ∈ workshop.localNames (workshop.copiedImports .all) := by
  have nothing (ss : List Stmt) (other : ∀ s ∈ ss, ∀ i ∈ importsOf s, "Widget" ∉ i.bound) :
      ¬ workshop.CopiedFrom .all "Widget" ss :=
    fun ⟨s, there, _, i, among, bound⟩ => other s there i among bound
  have told := @lastDefinitionLocal workshop .all ⟨"public", "Widget", "Widget"⟩ [_] [] _ rfl (by decide)
    (nothing [] (by decide))
  exact ⟨nothing [] (by decide), told.1.mpr (nothing _ (by decide))⟩

end Container

/-- The unit's own class replaces the imported one, for everything that follows. -/
def replacedType : String :=
  "from kit import Widget\nclass Widget: pass\n" ++
  "@require_component_getters\n@require_component(Widget)\nclass A: pass\n"

/-- The import comes first, the class of that name is the last to bind it, and yet the accessor looks up the import. -/
theorem replacedTypeNotLocal : ∃ u c i w x, SourceUnit.read "m" replacedType none = .ok u ∧ c ∈ scannedContainers [u] ∧
    c.fullName ∉ suppressedNames false [u] ∧ c.unit.tree = [i, w, x] ∧
    plainImport i = some (.fromModule (some "kit") [⟨"Widget", none⟩]) ∧
    definedBy w = ["Widget"] ∧ definedBy x = ["A"] ∧
    c.planned = [⟨"public", "Widget", "Widget"⟩] ∧ "Widget" ∉ c.localNames (c.copiedImports .all) ∧
    c.accessorBlock (c.localNames (c.copiedImports .all)) ⟨"public", "Widget", "Widget"⟩ =
      "\n" ++ Accessor.render ⟨"public", "Widget", "Widget"⟩ none := by
  have told : (SourceUnit.read "m" replacedType none).toOption.any (fun u => (scannedContainers [u]).any fun c =>
      c.fullName ∉ suppressedNames false [u] &&
      c.unit.madeOf (fun i => plainImport i = some (.fromModule (some "kit") [⟨"Widget", none⟩]))
        (fun w => definedBy w = ["Widget"]) (fun x => definedBy x = ["A"]) &&
      c.planned = [⟨"public", "Widget", "Widget"⟩] && "Widget" ∉ c.localNames (c.copiedImports .all)) = true := by
    decide +kernel
  simp only [Option.any_eq_true, List.any_eq_true, Bool.and_eq_true, madeOfIff, decide_eq_true_eq] at told
  obtain ⟨u, read, c, scanned, ⟨⟨kept, i, w, x, tree, imports, first, last⟩, planned⟩, lost⟩ := told
  refine ⟨u, c, i, w, x, okOf read, scanned, kept, tree, imports, first, last, planned, lost, ?_⟩
  rw [Container.blockAs, if_neg]
  exact lost

end AccessorForge
