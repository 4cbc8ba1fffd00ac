import AccessorForge.Container
import AccessorForge.Proofs.Ledgers
/-! Scanning compared with a listing of classes by their paths. The walk keeps a stack of enclosing names and
one map for all units; the listing has neither: every class is told with the names around it, and the classes
of one full name are put together afterwards. Main statement: both give the same containers. -/
namespace AccessorForge
open Syntax

/-- A class in a statement, with the names of the classes and functions around it there, outermost first. -/
structure Place where
  enclosing : List String
  start : Pos
  name : String
  decorators : List Expr

def Place.within (outer : String) (p : Place) : Place := { p with enclosing := outer :: p.enclosing }

mutual
/-- All classes in a statement in the order of the source, outer ones before inner ones. -/
def placesIn : Stmt → List Place
  | .function name _ body => (placesInAll body).map (Place.within name)
  | .classDef start name decorators body =>
    ⟨[], start, name, decorators⟩ :: (placesInAll body).map (Place.within name)
  | .block _ _ clauses => placesInClauses clauses
  | _ => []

def placesInAll : List Stmt → List Place
  | [] => []
  | s :: rest => placesIn s ++ placesInAll rest

def placesInClauses : List Clause → List Place
  | [] => []
  | .mk _ _ body :: rest => placesInAll body ++ placesInClauses rest
end

/-! What a decorator says. -/

def annotationAt (u : SourceUnit) (d : Expr) : Option Annotation :=
  match decoratorKind d with
  | some .group => some (u.groupOf d)
  | some .override => some (u.overrideOf d)
  | _ => none

/-- The dotted names among the operands by place of a requirement that is called. -/
def requirementsAt (d : Expr) : List String :=
  match decoratorKind d, d with
  | some .requirement, .call _ _ operands _ => operands.filterMap dottedName
  | _, _ => []

def isMark (d : Expr) : Bool := decoratorKind d = some .group || decoratorKind d = some .override

/-- A class where it stands in a unit. -/
structure Site extends Place where
  unit : SourceUnit

namespace Site

/-- The module, where it has a name, and the names around the class. -/
def surroundings (s : Site) : String := ".".intercalate (s.unit.moduleScope ++ s.enclosing)

def fullName (s : Site) : String :=
  if s.surroundings = "" then s.name else s.surroundings ++ "." ++ s.name

/-- A full name is the path with dots, as far as all names on it are names. -/
theorem fullNameDotted (s : Site) (named : "" ∉ s.enclosing) :
    s.fullName = ".".intercalate (s.unit.moduleScope ++ s.enclosing ++ [s.name]) := by
  have nameless : "" ∉ s.unit.moduleScope ++ s.enclosing := by
    unfold SourceUnit.moduleScope
    split
    · simpa using named
    · rename_i there
      simpa [named] using fun none => there (Eq.symm none)
  unfold fullName surroundings
  cases path : s.unit.moduleScope ++ s.enclosing with
  | nil => simp
  | cons outer rest =>
    have first : outer ≠ "" := by
      rintro rfl
      exact nameless (path ▸ List.mem_cons_self)
    have seen : ".".intercalate (outer :: rest) ≠ "" := by
      cases rest with
      | nil => simpa using first
      | cons next rest =>
        rw [String.intercalate_cons_cons]
        intro empty
        simp [String.append_eq_empty_iff, first] at empty
    rw [if_neg seen, String.intercalate_append_of_ne_nil (by simp) (by simp), String.intercalate_singleton]

def isMarked (s : Site) : Bool := s.decorators.any isMark

def annotations (s : Site) : List Annotation := s.decorators.filterMap (annotationAt s.unit)

def requirements (s : Site) : List String := s.decorators.flatMap requirementsAt

/-- What the classes of one full name amount to: the first of them tells what it is and where. -/
def merged : List Site → Option Container
  | [] => none
  | first :: rest =>
    some {
      fullName := first.fullName
      name := first.name
      namespaceName := first.surroundings
      unit := first.unit
      declared := first.start
      required := ((first :: rest).flatMap requirements).eraseDups
      annotations := (first :: rest).flatMap annotations }

end Site

def SourceUnit.sites (u : SourceUnit) : List Site := (placesInAll u.tree).map fun p => ⟨p, u⟩

def markedSites (units : List SourceUnit) : List Site := (units.flatMap SourceUnit.sites).filter Site.isMarked

def pathListing (units : List SourceUnit) : Containers :=
  Ledger.tabulated ((markedSites units).map Site.fullName).eraseDups fun name =>
    Site.merged ((markedSites units).filter (·.fullName = name))

/-! What one class adds. -/

def Container.gain (c : Container) (as : List Annotation) (ts : List String) : Container :=
  { c with annotations := c.annotations ++ as, required := ts.foldl appendNew c.required }

theorem gainNothing (c : Container) : c.gain [] [] = c := by simp [Container.gain]

theorem gainTwice (c : Container) (as bs : List Annotation) (ts us : List String) :
    (c.gain as ts).gain bs us = c.gain (as ++ bs) (ts ++ us) := by
  simp [Container.gain, List.foldl_append]

theorem gainDecorator (u : SourceUnit) (c : Container) (d : Expr) {kind : DecoratorKind}
    (known : decoratorKind d = some kind) :
    Container.absorbDecorator u c d kind = c.gain (annotationAt u d).toList (requirementsAt d) := by
  cases kind with
  | group => simp [Container.absorbDecorator, SourceUnit.annotationOf, annotationAt, requirementsAt, known,
      Container.annotate, Container.gain]
  | override => simp [Container.absorbDecorator, SourceUnit.annotationOf, annotationAt, requirementsAt, known,
      Container.annotate, Container.gain]
  | requirement =>
    have each (ts : List String) (c : Container) : ts.foldl Container.require c = c.gain [] ts := by
      induction ts generalizing c with
      | nil => rw [List.foldl_nil, gainNothing]
      | cons t rest ih => rw [List.foldl_cons, ih]; simp [Container.gain, Container.require]
    have same : requiredTypes d = requirementsAt d := by
      unfold requirementsAt
      rw [known]
      cases d <;> rfl
    simp [Container.absorbDecorator, SourceUnit.annotationOf, annotationAt, known, each, same]

namespace Site

def declaration (s : Site) : Declaration := ⟨s.surroundings, s.name, s.start, s.decorators⟩

def opened (s : Site) : Container := s.unit.opened s.declaration

def absorbed (c : Container) (s : Site) : Container := c.absorb s.unit s.declaration

theorem selectedIfMarked (s : Site) : s.declaration.isSelected = s.isMarked := by
  have each (d : Expr) : ((decoratorKind d).any DecoratorKind.selects) = isMark d := by
    unfold isMark
    cases decoratorKind d with
    | none => rfl
    | some kind => cases kind <;> rfl
  unfold isMarked Declaration.isSelected Declaration.kinds declaration
  induction s.decorators with
  | nil => rfl
  | cons d rest ih =>
    rw [List.any_cons, ← ih, ← each d, List.filterMap_cons]
    cases decoratorKind d <;> rfl

theorem absorbedGains (c : Container) (s : Site) : absorbed c s = c.gain s.annotations s.requirements := by
  unfold absorbed Container.absorb Declaration.kinds declaration annotations requirements
  induction s.decorators generalizing c with
  | nil => exact (gainNothing c).symm
  | cons d rest ih =>
    rw [List.filterMap_cons]
    cases known : decoratorKind d with
    | none =>
      have silent : annotationAt s.unit d = none ∧ requirementsAt d = [] := by
        constructor <;> simp [annotationAt, requirementsAt, known]
      rw [Option.map_none, ih, List.filterMap_cons, List.flatMap_cons, silent.1, silent.2]
      rfl
    | some kind =>
      rw [Option.map_some, List.foldl_cons, ih]
      change (Container.absorbDecorator s.unit c d kind).gain _ _ = _
      rw [gainDecorator s.unit c d known, gainTwice]
      cases told : annotationAt s.unit d <;> simp [told]

theorem absorbedAll (c : Container) (group : List Site) :
    group.foldl absorbed c = c.gain (group.flatMap annotations) (group.flatMap requirements) := by
  induction group generalizing c with
  | nil => exact (gainNothing c).symm
  | cons s rest ih => rw [List.foldl_cons, ih, absorbedGains, gainTwice, List.flatMap_cons, List.flatMap_cons]

theorem gatheredMerged (group : List Site) : Ledger.gathered opened absorbed group = merged group := by
  cases group with
  | nil => rfl
  | cons first rest =>
    have required := foldlAppendNew [] ((first :: rest).flatMap requirements)
    simp only [List.eraseDups_nil, List.nil_append] at required
    simp only [Ledger.gathered, merged, absorbedAll, Container.gain, opened, SourceUnit.opened, required]
    rfl

end Site

/-! The walk. -/

/-- Take in a class that stands at some place below the names in `scope`. -/
def meet (u : SourceUnit) (scope : List String) (cs : Containers) (p : Place) : Containers :=
  cs.declare u ⟨".".intercalate (scope ++ p.enclosing), p.name, p.start, p.decorators⟩

theorem meetWithin (u : SourceUnit) (scope : List String) (name : String) (places : List Place)
    (cs : Containers) :
    (places.map (Place.within name)).foldl (meet u scope) cs = places.foldl (meet u (scope ++ [name])) cs := by
  rw [List.foldl_map]
  congr 1
  funext cs p
  simp [meet, Place.within]

theorem leaveEntered (v : Walk) (name : String) (cs : Containers) :
    Walk.leave { v.enter name with containers := cs } = { v with containers := cs } := by
  simp [Walk.leave, Walk.enter]

/- A structural induction over the grammar. The stack is back where it was after each node, which is what lets
the rest of a block see the same enclosing names as its beginning. -/
mutual
theorem visitListed (u : SourceUnit) (v : Walk) (s : Stmt) :
    v.visit u s = { v with containers := (placesIn s).foldl (meet u v.scope) v.containers } := by
  cases s with
  | function name body =>
    rw [Walk.visit, visitAllListed, leaveEntered, placesIn, meetWithin]
    rfl
  | classDef start name decorators body =>
    rw [Walk.visit, visitAllListed, leaveEntered, placesIn, List.foldl_cons, meetWithin]
    simp [Walk.declare, Walk.enter, meet]
  | block span kind clauses => rw [Walk.visit, visitClausesListed, placesIn]
  | _ => rfl

theorem visitAllListed (u : SourceUnit) (v : Walk) (body : List Stmt) :
    v.visitAll u body = { v with containers := (placesInAll body).foldl (meet u v.scope) v.containers } := by
  cases body with
  | nil => rfl
  | cons s rest => rw [Walk.visitAll, visitAllListed, visitListed, placesInAll, List.foldl_append]

theorem visitClausesListed (u : SourceUnit) (v : Walk) (clauses : List Clause) :
    v.visitClauses u clauses =
      { v with containers := (placesInClauses clauses).foldl (meet u v.scope) v.containers } := by
  cases clauses with
  | nil => rfl
  | cons clause rest =>
    obtain ⟨role, heads, body⟩ := clause
    rw [Walk.visitClauses, visitClausesListed, visitAllListed, placesInClauses, List.foldl_append]
end

def meetSite (cs : Containers) (s : Site) : Containers := cs.declare s.unit s.declaration

theorem scanUnitListed (cs : Containers) (u : SourceUnit) : cs.scanUnit u = u.sites.foldl meetSite cs := by
  unfold Containers.scanUnit SourceUnit.sites
  rw [visitAllListed, List.foldl_map]
  rfl

theorem scanListed (units : List SourceUnit) :
    Containers.scan units = (units.flatMap SourceUnit.sites).foldl meetSite [] := by
  unfold Containers.scan
  rw [List.foldl_flatMap]
  congr 1
  funext cs u
  exact scanUnitListed cs u

theorem scanCollects (units : List SourceUnit) :
    Containers.scan units = Ledger.collect Site.fullName Site.opened Site.absorbed (markedSites units) := by
  rw [scanListed, Ledger.collect, markedSites, List.foldl_filter]
  congr 1
  funext cs s
  rw [meetSite, Containers.declare, s.selectedIfMarked]
  rfl

theorem scanListing (units : List SourceUnit) : Containers.scan units = pathListing units := by
  rw [scanCollects, Ledger.collectTabulates, pathListing]
  congr 1
  funext name
  exact Site.gatheredMerged _

theorem scanKeys (units : List SourceUnit) :
    (Containers.scan units).keys = ((markedSites units).map Site.fullName).eraseDups := by
  rw [scanCollects, Ledger.keysCollect]

theorem scanKeysNodup (units : List SourceUnit) : (Containers.scan units).keys.Nodup := by
  rw [scanKeys]
  exact eraseDupsNodup _

/-- The scan is the listing of classes by their paths: its keys are the full names of the marked classes in the
order in which they first come, and each container is what all classes of its name amount to. A full name is
the path with dots between. No visit changes the enclosing names. -/
theorem scanFollowsPaths (units : List SourceUnit) :
    Containers.scan units = pathListing units ∧
      (Containers.scan units).keys = ((markedSites units).map Site.fullName).eraseDups ∧
      (Containers.scan units).keys.Nodup ∧
      (∀ s ∈ markedSites units, "" ∉ s.enclosing →
        s.fullName = ".".intercalate (s.unit.moduleScope ++ s.enclosing ++ [s.name])) ∧
      ∀ (u : SourceUnit) (v : Walk) (s : Stmt), (v.visit u s).scope = v.scope := by
  refine ⟨scanListing units, scanKeys units, scanKeysNodup units, fun s _ => s.fullNameDotted, ?_⟩
  intro u v s
  rw [visitListed]

end AccessorForge
