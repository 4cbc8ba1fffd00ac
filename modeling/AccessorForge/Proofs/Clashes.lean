import AccessorForge.Pass
import AccessorForge.Proofs.ClassPaths
/-! What the checks of one container find. Two kinds of flaw keep a container from being generated, and either
shows as an error: an override without a type or a name, and two planned accessors that want the same name. -/
namespace AccessorForge

/-! Malformed overrides. -/

/-- Some override does not say of which type, or under which name. -/
def Container.Malformed (c : Container) : Prop :=
  ∃ o, .override o ∈ c.annotations ∧ (o.typeName = none ∨ o.name = none ∨ o.name = some "")

/-- What is due for an annotation: a code for the type, then one for the name, both at its own place. -/
def problemsDue : Annotation → List (String × Location)
  | .group _ _ => []
  | .override o =>
    (if o.typeName = none then [("RCG001", o.location)] else []) ++
      if o.name = none ∨ o.name = some "" then [("RCG002", o.location)] else []

theorem problemsAsDue (a : Annotation) : (problemsOf a).map (fun d => (d.code, d.location)) = problemsDue a := by
  cases a with
  | group visibility location => rfl
  | override o =>
    have types : (malformedTypeOf o).map (fun d => (d.code, d.location)) =
        if o.typeName = none then [("RCG001", o.location)] else [] := by
      unfold malformedTypeOf
      cases o.typeName <;> rfl
    have names : (malformedNameOf o).map (fun d => (d.code, d.location)) =
        if o.name = none ∨ o.name = some "" then [("RCG002", o.location)] else [] := by
      unfold malformedNameOf
      cases o.name with
      | none => rfl
      | some name => by_cases empty : name = "" <;> simp [empty, Diagnostic.malformedName]
    rw [problemsOf, List.map_append, types, names]
    rfl

theorem problemsAreErrors (a : Annotation) : ∀ d ∈ problemsOf a, d.isError = true := by
  intro d member
  cases a with
  | group visibility location => cases member
  | override o =>
    rcases List.mem_append.mp member with ofType | ofName
    · unfold malformedTypeOf at ofType
      split at ofType
      · rw [List.mem_singleton.mp ofType]
        rfl
      · cases ofType
    · unfold malformedNameOf at ofName
      split at ofName
      · rw [List.mem_singleton.mp ofName]
        rfl
      · split at ofName
        · rw [List.mem_singleton.mp ofName]
          rfl
        · cases ofName

namespace Container

theorem overridesAsDue (c : Container) :
    c.checkOverrides.map (fun d => (d.code, d.location)) = c.annotations.flatMap problemsDue := by
  unfold checkOverrides
  rw [List.map_flatMap]
  exact congrArg (fun f => c.annotations.flatMap f) (funext problemsAsDue)

theorem overridesFine (c : Container) : c.checkOverrides = [] ↔ ¬ c.Malformed := by
  rw [← @List.map_eq_nil_iff _ _ (fun d : Diagnostic => (d.code, d.location)), overridesAsDue,
    List.flatMap_eq_nil_iff]
  constructor
  · rintro fine ⟨o, member, wrong⟩
    have none := fine _ member
    rcases wrong with ofType | ofName
    · simp [problemsDue, ofType] at none
    · simp [problemsDue, ofName] at none
  · intro fine a member
    cases a with
    | group visibility location => rfl
    | override o =>
      have typed : o.typeName ≠ none := fun absent => fine ⟨o, member, .inl absent⟩
      have named : ¬ (o.name = none ∨ o.name = some "") := fun absent => fine ⟨o, member, .inr absent⟩
      simp only [problemsDue, if_neg typed, if_neg named, List.nil_append]

end Container

/-! Names wanted twice. -/

def Accessor.Apart (a b : Accessor) : Prop := ∀ name ∈ a.taken, name ∉ b.taken

/-- Two of the planned accessors have a name in common, be it a property or a cache field. -/
def Container.Clashing (c : Container) : Prop :=
  ∃ (i j : Nat) (a b : Accessor),
    i < j ∧ c.planned[i]? = some a ∧ c.planned[j]? = some b ∧ ∃ name ∈ a.taken, name ∈ b.taken

theorem apartUnlessClashing (c : Container) : ¬ c.Clashing ↔ c.planned.Pairwise Accessor.Apart := by
  rw [List.pairwise_iff_getElem]
  constructor
  · intro apart i j hi hj before name mine yours
    exact apart ⟨i, j, _, _, before, List.getElem?_eq_getElem hi, List.getElem?_eq_getElem hj, name, mine, yours⟩
  · rintro apart ⟨i, j, a, b, before, first, second, name, mine, yours⟩
    obtain ⟨hi, rfl⟩ := List.getElem?_eq_some_iff.mp first
    obtain ⟨hj, rfl⟩ := List.getElem?_eq_some_iff.mp second
    exact apart i j hi hj before name mine yours

theorem unclashed (owners : Owners) (a : Accessor) :
    clashOf owners a = none ↔ ∀ name ∈ a.taken, name ∉ owners.keys := by
  unfold clashOf
  rw [List.findSome?_eq_none_iff]
  refine forall₂_congr fun name _ => ?_
  rw [Option.map_eq_none_iff, Ledger.getNoneIff]

theorem claimedKeys (owners : Owners) (a : Accessor) (name : String) :
    name ∈ (claim owners a).keys ↔ name ∈ owners.keys ∨ name ∈ a.taken := by
  unfold claim Accessor.taken
  rw [Ledger.keysPutEq, mem_appendNew, Ledger.keysPutEq, mem_appendNew]
  simp [or_assoc]

/- The owners are the names of all accessors before, as long as none of those clashed. -/
theorem clashesNone (location : Location) (owners : Owners) (planned : List Accessor) :
    clashesFrom location owners planned = [] ↔
      (∀ a ∈ planned, ∀ name ∈ a.taken, name ∉ owners.keys) ∧ planned.Pairwise Accessor.Apart := by
  induction planned generalizing owners with
  | nil => simp [clashesFrom]
  | cons a rest ih =>
    rw [List.pairwise_cons, List.forall_mem_cons, ← unclashed]
    unfold clashesFrom
    cases clash : clashOf owners a with
    | some found => simp
    | none =>
      simp only [ih, claimedKeys, not_or, forall_and, true_and]
      have turned : (∀ b ∈ rest, ∀ name ∈ b.taken, name ∉ a.taken) ↔ ∀ b ∈ rest, a.Apart b := by
        refine forall₂_congr fun b _ => ?_
        exact ⟨fun h name mine yours => h name yours mine, fun h name yours mine => h name mine yours⟩
      rw [turned, and_assoc]

theorem clashShape (location : Location) (owners : Owners) (planned : List Accessor) :
    ∀ d ∈ clashesFrom location owners planned,
      d.code = "RCG004" ∧ d.isError = true ∧ d.location = location := by
  induction planned generalizing owners with
  | nil => simp [clashesFrom]
  | cons a rest ih =>
    unfold clashesFrom
    split
    · intro d member
      rcases List.mem_cons.mp member with rfl | later
      · exact ⟨rfl, rfl, rfl⟩
      · exact ih owners d later
    · exact ih (claim owners a)

namespace Container

theorem namesFine (c : Container) : c.checkAccessorNames = [] ↔ ¬ c.Clashing := by
  unfold checkAccessorNames
  rw [clashesNone, apartUnlessClashing]
  simp [Ledger.keys]

/-- A container is flawed by what it says itself. -/
def Flawed (c : Container) : Prop := c.Malformed ∨ c.Clashing

def findings (c : Container) : List Diagnostic := c.checkOverrides ++ c.checkAccessorNames

theorem findingsFine (c : Container) : c.findings = [] ↔ ¬ c.Flawed := by
  unfold findings Flawed
  rw [List.append_eq_nil_iff, overridesFine, namesFine, not_or]

theorem namesAsDue (c : Container) : ∀ d ∈ c.checkAccessorNames,
    d.code = "RCG004" ∧ d.location = c.location := by
  intro d member
  obtain ⟨code, _, place⟩ := clashShape c.location [] c.planned d member
  exact ⟨code, place⟩

theorem findingsAreErrors (c : Container) : ∀ d ∈ c.findings, d.isError = true := by
  intro d member
  rcases List.mem_append.mp member with ofOverride | ofNames
  · obtain ⟨a, _, told⟩ := List.mem_flatMap.mp ofOverride
    exact problemsAreErrors a d told
  · exact (clashShape _ _ _ d ofNames).2.1

theorem findingsCodes (c : Container) : ∀ d ∈ c.findings, d.code ≠ "RCG003" := by
  intro d member
  rcases List.mem_append.mp member with ofOverride | ofNames
  · have listed : (d.code, d.location) ∈ c.annotations.flatMap problemsDue := by
      rw [← c.overridesAsDue]
      exact List.mem_map.mpr ⟨d, ofOverride, rfl⟩
    obtain ⟨a, _, due⟩ := List.mem_flatMap.mp listed
    cases a with
    | group visibility location => cases due
    | override o =>
      rcases List.mem_append.mp due with ofType | ofName
      · split at ofType <;> simp_all
      · split at ofName <;> simp_all
  · rw [(c.namesAsDue d ofNames).1]
    decide

end Container

end AccessorForge
