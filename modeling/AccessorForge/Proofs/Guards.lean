import AccessorForge.Proofs.NamesInScope
import AccessorForge.Syntax.Scope
/-! The names that copied imports need. A block of imports is copied with its conditions and its handlers as they
stand, and those read names. What is copied above such a block are imports again, so of all that binds a name in the
unit only they can give it; what the unit itself defines is not there, nor what a left out import binds. -/
namespace AccessorForge

/-- The names that an import binds. What a star stands for is up to the imported module. -/
def Import.gives (starred : Import → List String) (i : Import) : List String :=
  if "*" ∈ i.bound then starred i else i.bound

namespace Syntax

/-! Names at work. -/

/-- What happens to a name of a module as its statements are carried out. -/
inductive Use
  | reads (name : String)
  | binds (name : String)
  deriving DecidableEq, Repr

mutual
/-- The names that a target binds; the others that it mentions it reads. -/
def targetNames : Expr → List String
  | .name _ id => [id]
  | .starred _ value => targetNames value
  | .tuple _ items | .list _ items => targetNamesOf items
  | _ => []

def targetNamesOf : List Expr → List String
  | [] => []
  | e :: rest => targetNames e ++ targetNamesOf rest
end

/-- Names that the inner parts have for themselves: those of a function, and the targets of a comprehension. -/
def Form.ownNames (form : Form) (parts : List Expr) : List String :=
  match form with
  | .function parameters => parameters.map (·.name) ++ (parts.getLast?.map (·.bindings true)).getD []
  | .comprehension _ _ => (form.assigned parts).flatMap fun (role, e) => if role = .target then targetNames e else []
  | _ => []

/-- How many parts at the front take effect after the others: a bound name, and the elements of a comprehension. -/
def Form.lateCount : Form → Nat
  | .binding => 1
  | form => form.elementCount

mutual
/-- What an expression does with names of its module, in the order in which it is evaluated. A function within it counts
as called where it stands; `own` are the names of the functions and comprehensions around the expression. -/
def Expr.uses (own : List String) : Expr → List Use
  | .name _ id => if id ∈ own then [] else [.reads id]
  | .text _ _ => []
  | .attribute _ value _ | .starred _ value => value.uses own
  | .call _ callee args keywords => callee.uses own ++ usesOf own args ++ keywordUses own keywords
  | .tuple _ items | .list _ items => usesOf own items
  | .subscript _ value index => value.uses own ++ index.uses own
  | .compound _ form parts =>
    let perPart := partUses own (own ++ form.ownNames parts) form.roles parts
    (perPart.drop form.lateCount ++ perPart.take form.lateCount).flatten

def usesOf (own : List String) : List Expr → List Use
  | [] => []
  | e :: rest => e.uses own ++ usesOf own rest

def partUses (own inner : List String) : List Role → List Expr → List (List Use)
  | _, [] => []
  | .bound :: roles, .name _ id :: rest =>
    (if id ∈ own then [] else [.binds id]) :: partUses own inner roles rest
  | .operand :: roles, e :: rest | .firstSource :: roles, e :: rest | .bound :: roles, e :: rest =>
    e.uses own :: partUses own inner roles rest
  | _ :: roles, e :: rest => e.uses inner :: partUses own inner roles rest
  | [], e :: rest => e.uses own :: partUses own inner [] rest

def keywordUses (own : List String) : List Keyword → List Use
  | [] => []
  | .mk _ value :: rest => value.uses own ++ keywordUses own rest
end

/- Each `v` of `rows` that is open is the `last` so far: `v` is the comprehension's own, and elements come last. -/
example : (Expr.compound default (.comprehension .list [⟨false, 1⟩])
    [.compound default .binding [.name default "last", .name default "v"], .name default "v", .name default "rows",
      .attribute default (.name default "v") "open"]).uses [] = [.reads "rows", .binds "last"] := by
  decide

def ClauseRole.bound : ClauseRole → List String
  | .handler (some name) => [name]
  | _ => []

section
variable (starred : Import → List String)

mutual
/-- What imports and blocks of them do with names, in the order of the text. -/
def Stmt.uses : Stmt → List Use
  | .importModules _ names => ((Import.ofModules names).gives starred).map .binds
  | .importFrom _ source names => ((Import.fromModule source names).gives starred).map .binds
  | .block _ _ clauses => clauseUses clauses
  | _ => []

def blockUses : List Stmt → List Use
  | [] => []
  | s :: rest => s.uses ++ blockUses rest

def clauseUses : List Clause → List Use
  | [] => []
  | .mk role heads body :: rest =>
    usesOf [] heads ++ role.bound.map .binds ++ blockUses body ++ clauseUses rest
end

end

/-- The name is read at a place where nothing has bound it yet. -/
def Unmet (uses : List Use) (name : String) : Prop :=
  ∃ earlier later, uses = earlier ++ .reads name :: later ∧ .binds name ∉ earlier

theorem unmetAppend {us vs : List Use} {name : String} :
    Unmet (us ++ vs) name ↔ Unmet us name ∨ .binds name ∉ us ∧ Unmet vs name := by
  constructor
  · rintro ⟨earlier, later, split, unbound⟩
    rcases List.append_eq_append_iff.mp split with ⟨more, rfl, rest⟩ | ⟨more, rfl, rest⟩
    · refine .inr ⟨fun bound => unbound (List.mem_append_left _ bound), more, later, rest, fun bound => ?_⟩
      exact unbound (List.mem_append_right _ bound)
    · cases more with
      | nil => exact .inr ⟨by simpa using unbound, [], later, by simpa using rest.symm, List.not_mem_nil⟩
      | cons first more =>
        obtain ⟨rfl, rfl⟩ := List.cons.inj rest
        exact .inl ⟨earlier, more, rfl, unbound⟩
  · rintro (⟨earlier, later, rfl, unbound⟩ | ⟨unbound, earlier, later, rfl, free⟩)
    · exact ⟨earlier, later ++ vs, by simp, unbound⟩
    · refine ⟨us ++ earlier, later, by simp, fun bound => ?_⟩
      exact (List.mem_append.mp bound).elim unbound free

/-- By induction on the items: each but the first is reached with what those before it have bound. -/
theorem unmetFlatMap {α : Type} {uses : α → List Use} {xs : List α} {name : String} :
    Unmet (xs.flatMap uses) name ↔ ∃ before x after, xs = before ++ x :: after ∧ Unmet (uses x) name ∧
      ∀ y ∈ before, .binds name ∉ uses y := by
  induction xs with
  | nil => simp [Unmet]
  | cons x rest ih =>
    rw [List.flatMap_cons, unmetAppend, ih]
    constructor
    · rintro (unmet | ⟨unbound, before, y, after, rfl, unmet, free⟩)
      · exact ⟨[], x, rest, rfl, unmet, by simp⟩
      · exact ⟨x :: before, y, after, rfl, unmet, List.forall_mem_cons.mpr ⟨unbound, free⟩⟩
    · rintro ⟨_ | ⟨first, before⟩, y, after, split, unmet, free⟩
      · obtain ⟨rfl, rfl⟩ := List.cons.inj split
        exact .inl unmet
      · obtain ⟨rfl, rfl⟩ := List.cons.inj split
        obtain ⟨unbound, free⟩ := List.forall_mem_cons.mp free
        exact .inr ⟨unbound, before, y, after, rfl, unmet, free⟩

/-! Every import of a block takes effect in it. -/

section
variable {starred : Import → List String} {i : Import} {name : String}

mutual
theorem importsBind {s : Stmt} (only : isImportOnly s = true) (among : i ∈ importsOf s) (given : name ∈ i.gives starred) :
    .binds name ∈ s.uses starred := by
  cases s with
  | importModules span names =>
    rw [List.mem_singleton.mp among] at given
    exact List.mem_map_of_mem given
  | importFrom span source names =>
    rw [List.mem_singleton.mp among] at given
    exact List.mem_map_of_mem given
  | pass => cases among
  | block span kind clauses =>
    have guards : areClausesImportOnly clauses = true := by
      cases kind with
      | conditional => exact only
      | guarded => exact only
      | other => cases only
    exact importsBindClauses guards among given
  | assign targets value => cases only
  | function word decorators body => cases only
  | classDef start word decorators body => cases only
  | other => cases only

theorem importsBindAll {ss : List Stmt} (only : areImportOnly ss = true) (among : i ∈ importsOfAll ss)
    (given : name ∈ i.gives starred) : .binds name ∈ blockUses starred ss := by
  cases ss with
  | nil => cases among
  | cons s rest =>
    obtain ⟨first, others⟩ := Bool.and_eq_true_iff.mp only
    rw [blockUses, List.mem_append]
    exact (List.mem_append.mp among).imp (importsBind first · given) (importsBindAll others · given)

theorem importsBindClauses {cs : List Clause} (only : areClausesImportOnly cs = true)
    (among : i ∈ importsOfClauses cs) (given : name ∈ i.gives starred) : .binds name ∈ clauseUses starred cs := by
  cases cs with
  | nil => cases among
  | cons clause rest =>
    obtain ⟨role, heads, body⟩ := clause
    obtain ⟨first, others⟩ := Bool.and_eq_true_iff.mp only
    rw [clauseUses, List.mem_append, List.mem_append]
    exact (List.mem_append.mp among).imp (fun here => .inr (importsBindAll first here given))
      (importsBindClauses others · given)
end

end
end Syntax

open Syntax

namespace Container

/-- What is copied of these statements of the unit. -/
def copiedOf (c : Container) (ss : List Stmt) : List ImportDirective :=
  (ss.filterMap fun s => (importSpan .all s).map fun span =>
    (⟨s, excerptOf (keptLines [] c.unit.text.toList) span⟩ : ImportDirective)).filter fun d =>
      !d.refersTo (Naming.moduleStem c.name)

def course (c : Container) (starred : Import → List String) (ss : List Stmt) : List Use :=
  (c.copiedOf ss).flatMap fun d => d.statement.uses starred

theorem copiedOfTree (c : Container) : c.copiedImports .all = c.copiedOf c.unit.tree := rfl

theorem copiedOfAppend (c : Container) (ss ts : List Stmt) : c.copiedOf (ss ++ ts) = c.copiedOf ss ++ c.copiedOf ts := by
  simp [copiedOf]

theorem copiedOfOne {c : Container} {s : Stmt} (copied : c.Copies .all s) : ∃ text, c.copiedOf [s] = [⟨s, text⟩] := by
  obtain ⟨spanned, spared⟩ := copied
  obtain ⟨span, spans⟩ := Option.isSome_iff_exists.mp spanned
  refine ⟨excerptOf (keptLines [] c.unit.text.toList) span, ?_⟩
  simpa [copiedOf, spans, ImportDirective.refersTo, ImportDirective.imports] using spared

theorem copiedOfNone {c : Container} {s : Stmt} (left : ¬ c.Copies .all s) : c.copiedOf [s] = [] := by
  cases spans : importSpan .all s with
  | none => simp [copiedOf, spans]
  | some span =>
    have refers : ∃ i ∈ importsOf s, i.refersTo (Naming.moduleStem c.name) = true := by
      simpa [Copies, spans] using left
    simpa [copiedOf, spans, ImportDirective.refersTo, ImportDirective.imports] using refers

theorem copiedOnly {c : Container} {s : Stmt} (copied : c.Copies .all s) : isImportOnly s = true := by
  have spanned := copied.1
  unfold importSpan at spanned
  split at spanned
  · rfl
  · rfl
  · split at spanned <;> simp_all
  · split at spanned <;> simp_all
  · cases spanned

theorem courseIs (c : Container) (starred : Import → List String) (ss : List Stmt) :
    c.course starred ss = ss.flatMap fun s => if c.Copies .all s then s.uses starred else [] := by
  induction ss with
  | nil => rfl
  | cons s rest ih =>
    have parts : c.copiedOf (s :: rest) = c.copiedOf [s] ++ c.copiedOf rest := c.copiedOfAppend [s] rest
    unfold course at ih ⊢
    rw [parts, List.flatMap_append, ih, List.flatMap_cons]
    by_cases copied : c.Copies .all s
    · obtain ⟨text, one⟩ := copiedOfOne copied
      simp [one, copied]
    · simp [copiedOfNone copied, copied]

theorem courseBinds (c : Container) (starred : Import → List String) (ss : List Stmt) (name : String) :
    .binds name ∈ c.course starred ss ↔ ∃ t ∈ ss, c.Copies .all t ∧ .binds name ∈ t.uses starred := by
  rw [courseIs, List.mem_flatMap]
  refine exists_congr fun t => and_congr_right' ?_
  split <;> simp_all

/-- A copied block of imports stands between the copies of what is copied above and below it. Where it reads a name,
in a condition or a handler, the name is bound by then in the generated module exactly if the block has bound it or a
statement above that is copied too; all names of the imports copied above are bound. So what the copied imports read
too early is what one of the blocks reads without binding it first, and no copied statement above it binds. -/
theorem copiedGuardsMet (c : Container) (starred : Import → List String) :
    (∀ before s after, c.unit.tree = before ++ s :: after → c.Copies .all s →
      (∃ text, c.copiedImports .all = c.copiedOf before ++ ⟨s, text⟩ :: c.copiedOf after) ∧
      (∀ earlier name later, s.uses starred = earlier ++ .reads name :: later →
        (.binds name ∈ c.course starred before ++ earlier ↔
          (∃ t ∈ before, c.Copies .all t ∧ .binds name ∈ t.uses starred) ∨ .binds name ∈ earlier)) ∧
      (∀ t ∈ before, c.Copies .all t → ∀ i ∈ importsOf t, ∀ name ∈ i.gives starred,
        .binds name ∈ c.course starred before)) ∧
    ∀ name, Unmet (c.course starred c.unit.tree) name ↔
      ∃ before s after, c.unit.tree = before ++ s :: after ∧ c.Copies .all s ∧ Unmet (s.uses starred) name ∧
        ∀ t ∈ before, c.Copies .all t → .binds name ∉ t.uses starred := by
  refine ⟨fun before s after split copied => ⟨?_, fun earlier name later _ => ?_, ?_⟩, fun name => ?_⟩
  · obtain ⟨text, one⟩ := copiedOfOne copied
    refine ⟨text, ?_⟩
    rw [copiedOfTree, split, copiedOfAppend, ← List.singleton_append, copiedOfAppend, one, List.singleton_append]
  · rw [List.mem_append, courseBinds]
  · intro t there kept i among name given
    exact (c.courseBinds starred before name).mpr ⟨t, there, kept, importsBind (copiedOnly kept) among given⟩
  · rw [courseIs, unmetFlatMap]
    have unread : ¬ Unmet [] name := fun ⟨_, _, split, _⟩ => by simp at split
    refine exists₃_congr fun before s after => and_congr_right' ?_
    by_cases copied : c.Copies .all s
    · rw [if_pos copied, and_iff_right copied]
      refine and_congr_right' (forall₂_congr fun t _ => ?_)
      split <;> simp_all
    · rw [if_neg copied]
      exact iff_of_false (fun both => unread both.1) fun both => copied both.1

end Container

/-- A condition on a setting of the unit itself. -/
def settingGuard : String := "DEBUG = True\nif DEBUG:\n    import os\n@require_component_getters\nclass A: pass\n"

/-- The setting stands above the block that asks for it, and nothing that is copied binds it. -/
theorem settingGuardUnmet : ∃ u c t s x, SourceUnit.read "m" settingGuard none = .ok u ∧ c ∈ scannedContainers [u] ∧
    c.fullName ∉ suppressedNames false [u] ∧ c.unit.tree = [t, s, x] ∧ definedBy t = ["DEBUG"] ∧ c.Copies .all s ∧
    s.uses (fun _ => []) = [.reads "DEBUG", .binds "os"] ∧ Unmet (c.course (fun _ => []) c.unit.tree) "DEBUG" := by
  have told : (SourceUnit.read "m" settingGuard none).toOption.any (fun u => (scannedContainers [u]).any fun c =>
      c.fullName ∉ suppressedNames false [u] &&
      c.unit.madeOf (fun t => definedBy t = ["DEBUG"] && ¬ c.Copies .all t)
        (fun s => c.Copies .all s && s.uses (fun _ => []) = [.reads "DEBUG", .binds "os"])
        (fun x => ¬ c.Copies .all x)) = true := by
    decide +kernel
  simp only [Option.any_eq_true, List.any_eq_true, Bool.and_eq_true, madeOfIff, decide_eq_true_eq] at told
  obtain ⟨u, read, c, scanned, kept, t, s, x, tree, ⟨setting, defined⟩, ⟨copied, uses⟩, marked⟩ := told
  have course : c.course (fun _ => []) c.unit.tree = [.reads "DEBUG", .binds "os"] := by
    rw [c.courseIs, tree]
    simp [defined, copied, marked, uses]
  refine ⟨u, c, t, s, x, okOf read, scanned, kept, tree, setting, copied, uses, [], [.binds "os"], course, ?_⟩
  exact List.not_mem_nil

end AccessorForge
