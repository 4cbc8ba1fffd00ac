import Mathlib.Data.List.Sort
import AccessorForge.Proofs.Clashes
/-! Which accessors are reported for a name that is taken already. A reported accessor takes no names, so it is
in nobody's way: what counts for an accessor are the ones before it that were not reported themselves. -/
namespace AccessorForge
namespace Accessor
variable {plan : List Accessor} {told more : List Nat} {i j n : Nat} {name : String} {a b : Accessor}

/-- What the accessor at `j` finds taken: `name`, by the accessor `a` at `i`, which is not among the reported. -/
structure Owns (plan : List Accessor) (told : List Nat) (j : Nat) (name : String) (i : Nat) (a : Accessor) : Prop where
  before : i < j
  spared : i ∉ told
  planned : plan[i]? = some a
  takes : name ∈ a.taken

/-- The accessor at this place wants a name that is taken. -/
def Thwarted (plan : List Accessor) (told : List Nat) (j : Nat) : Prop :=
  ∃ b, plan[j]? = some b ∧ ∃ name ∈ b.taken, ∃ i a, Owns plan told j name i a

/-- The places of the reported accessors of a plan, in its order. -/
structure Reported (plan : List Accessor) (told : List Nat) : Prop where
  ascending : told.Pairwise (· < ·)
  exact : ∀ j, j ∈ told ↔ Thwarted plan told j

/-- Of the names of `b`, the property and then the cache field, the first that is taken. -/
def FirstTaken (plan : List Accessor) (told : List Nat) (j : Nat) (b : Accessor) (name : String) : Prop :=
  name = b.property ∨ name = b.cacheField ∧ ∀ i a, ¬ Owns plan told j b.property i a

/-- The error for the accessor at `j`. The taken name has one owner. -/
def Reports (location : Location) (plan : List Accessor) (told : List Nat) (j : Nat) (d : Diagnostic) : Prop :=
  ∃ b name i a, plan[j]? = some b ∧ FirstTaken plan told j b name ∧
    (∀ k e, Owns plan told j name k e ↔ k = i ∧ e = a) ∧
    d = ⟨.error, Diagnostic.duplicateAccessor, clashMessage b.typeName name a.typeName, location⟩

/-! What is reported later says nothing about the names taken before. -/

theorem ownsLater (later : ∀ k ∈ more, j ≤ k) :
    Owns plan (told ++ more) j name i a ↔ Owns plan told j name i a := by
  constructor
  · rintro ⟨before, spared, planned, takes⟩
    exact ⟨before, fun early => spared (List.mem_append_left _ early), planned, takes⟩
  · rintro ⟨before, spared, planned, takes⟩
    refine ⟨before, fun among => ?_, planned, takes⟩
    rcases List.mem_append.mp among with early | late
    · exact spared early
    · have := later i late
      omega

theorem thwartedLater (later : ∀ k ∈ more, j ≤ k) : Thwarted plan (told ++ more) j ↔ Thwarted plan told j := by
  simp only [Thwarted, ownsLater later]

theorem reportsLater {location : Location} {d : Diagnostic} (later : ∀ k ∈ more, j ≤ k)
    (reports : Reports location plan told j d) : Reports location plan (told ++ more) j d := by
  simpa only [Reports, FirstTaken, ownsLater later] using reports

theorem ownerUnique {k : Nat} {e : Accessor} (exact : ∀ m < n, m ∉ told → ¬ Thwarted plan told m)
    (first : Owns plan told n name i a) (second : Owns plan told n name k e) : k = i ∧ e = a := by
  have apart : ∀ {i k : Nat} {a e : Accessor}, Owns plan told n name i a → Owns plan told n name k e → ¬ i < k := by
    intro i k a e first second early
    exact exact k second.before second.spared
      ⟨e, second.planned, name, second.takes, i, a, early, first.spared, first.planned, first.takes⟩
  have same : k = i := Nat.le_antisymm (Nat.le_of_not_lt (apart first second)) (Nat.le_of_not_lt (apart second first))
  subst same
  exact ⟨rfl, Option.some.inj (second.planned.symm.trans first.planned)⟩

theorem reportedUnique {other : List Nat} (first : Reported plan told) (second : Reported plan other) :
    told = other := by
  refine List.Pairwise.eq_of_mem_iff first.ascending second.ascending fun j => ?_
  induction j using Nat.strong_induction_on with
  | h j ih =>
    have owners (name : String) (i : Nat) (a : Accessor) : Owns plan told j name i a ↔ Owns plan other j name i a :=
      ⟨fun o => ⟨o.before, mt (ih i o.before).mpr o.spared, o.planned, o.takes⟩,
        fun o => ⟨o.before, mt (ih i o.before).mp o.spared, o.planned, o.takes⟩⟩
    rw [first.exact, second.exact, Thwarted, Thwarted]
    simp only [owners]

theorem ownsNext : Owns plan told (n + 1) name i a ↔
    Owns plan told n name i a ∨ i = n ∧ i ∉ told ∧ plan[i]? = some a ∧ name ∈ a.taken := by
  constructor
  · rintro ⟨before, spared, planned, takes⟩
    rcases Nat.lt_or_eq_of_le (Nat.le_of_lt_succ before) with early | last
    · exact .inl ⟨early, spared, planned, takes⟩
    · exact .inr ⟨last, spared, planned, takes⟩
  · rintro (⟨before, spared, planned, takes⟩ | ⟨rfl, spared, planned, takes⟩)
    · exact ⟨Nat.lt_succ_of_lt before, spared, planned, takes⟩
    · exact ⟨Nat.lt_succ_self i, spared, planned, takes⟩

/-! The walk over the plan. -/

theorem getClaim (owners : Owners) (b : Accessor) (name : String) :
    Ledger.get? (claim owners b) name = if name ∈ b.taken then some b.typeName else Ledger.get? owners name := by
  unfold claim Accessor.taken
  rw [Ledger.getPut, Ledger.getPut]
  by_cases field : name = b.cacheField <;> by_cases property : name = b.property <;> simp [field, property]

theorem clashFound {owners : Owners} {owner : String} (clash : clashOf owners b = some (name, owner)) :
    Ledger.get? owners name = some owner ∧
      (name = b.property ∨ name = b.cacheField ∧ Ledger.get? owners b.property = none) := by
  unfold clashOf Accessor.taken at clash
  simp only [List.findSome?_cons, List.findSome?_nil] at clash
  cases atProperty : Ledger.get? owners b.property with
  | some first =>
    simp only [atProperty, Option.map_some, Option.some.injEq, Prod.mk.injEq] at clash
    obtain ⟨rfl, rfl⟩ := clash
    exact ⟨atProperty, .inl rfl⟩
  | none =>
    cases atField : Ledger.get? owners b.cacheField with
    | none => simp [atProperty, atField] at clash
    | some second =>
      simp only [atProperty, atField, Option.map_none, Option.map_some, Option.some.injEq, Prod.mk.injEq] at clash
      obtain ⟨rfl, rfl⟩ := clash
      exact ⟨atField, .inr ⟨rfl, rfl⟩⟩

/-- After `n` accessors the reported ones are known as far as that, and `owners` holds the names of the others. -/
structure Survey (plan : List Accessor) (n : Nat) (told : List Nat) (owners : Owners) : Prop where
  ascending : told.Pairwise (· < ·)
  within : ∀ j ∈ told, j < n
  exact : ∀ j < n, j ∈ told ↔ Thwarted plan told j
  owned : ∀ name typeName,
    Ledger.get? owners name = some typeName ↔ ∃ i a, Owns plan told n name i a ∧ a.typeName = typeName

namespace Survey
variable {owners : Owners}

theorem start (plan : List Accessor) : Survey plan 0 [] [] where
  ascending := List.Pairwise.nil
  within := by simp
  exact := by simp
  owned name typeName := by
    refine ⟨fun found => by simp [Ledger.get?] at found, ?_⟩
    rintro ⟨i, a, owns, -⟩
    exact absurd owns.before (Nat.not_lt_zero i)

theorem takenIff (survey : Survey plan n told owners) (name : String) :
    Ledger.get? owners name = none ↔ ∀ i a, ¬ Owns plan told n name i a := by
  rw [Option.eq_none_iff_forall_ne_some]
  simp only [ne_eq, survey.owned, not_exists, not_and]
  exact ⟨fun absent i a owns => absent _ i a owns rfl, fun absent _ i a owns _ => absent i a owns⟩

theorem clashSome (survey : Survey plan n told owners) {owner : String} (next : plan[n]? = some b)
    (clash : clashOf owners b = some (name, owner)) (location : Location) :
    Thwarted plan told n ∧
      Reports location plan told n
        ⟨.error, Diagnostic.duplicateAccessor, clashMessage b.typeName name owner, location⟩ := by
  obtain ⟨found, place⟩ := clashFound clash
  have wanted : name ∈ b.taken := by
    rcases place with rfl | ⟨rfl, -⟩
    · exact List.mem_cons_self
    · exact List.mem_cons_of_mem _ List.mem_cons_self
  have isFirst : FirstTaken plan told n b name :=
    place.imp_right fun atField => ⟨atField.1, (survey.takenIff _).mp atField.2⟩
  obtain ⟨i, a, owns, rfl⟩ := (survey.owned name owner).mp found
  refine ⟨⟨b, next, name, wanted, i, a, owns⟩, b, name, i, a, next, isFirst, fun k e => ⟨fun also => ?_, ?_⟩, rfl⟩
  · exact ownerUnique (fun m early spared => mt (survey.exact m early).mpr spared) owns also
  · rintro ⟨rfl, rfl⟩
    exact owns

theorem clashNone (survey : Survey plan n told owners) (next : plan[n]? = some b) (free : clashOf owners b = none) :
    ¬ Thwarted plan told n := by
  rintro ⟨e, planned, name, wanted, i, a, owns⟩
  obtain rfl : b = e := Option.some.inj (next.symm.trans planned)
  have unowned := (unclashed owners b).mp free name wanted
  exact (survey.takenIff name).mp (Ledger.getNoneIff.mpr unowned) i a owns

theorem report (survey : Survey plan n told owners) (thwarted : Thwarted plan told n) :
    Survey plan (n + 1) (told ++ [n]) owners := by
  have late {j : Nat} (early : j ≤ n) : ∀ k ∈ [n], j ≤ k := by simpa using early
  refine ⟨?_, ?_, ?_, ?_⟩
  · exact List.pairwise_append.mpr ⟨survey.ascending, List.pairwise_singleton _ n, by simpa using survey.within⟩
  · intro j member
    rcases List.mem_append.mp member with early | last
    · exact Nat.lt_succ_of_lt (survey.within j early)
    · exact List.mem_singleton.mp last ▸ Nat.lt_succ_self n
  · intro j bound
    rw [thwartedLater (late (Nat.le_of_lt_succ bound)), List.mem_append, List.mem_singleton]
    rcases Nat.lt_or_eq_of_le (Nat.le_of_lt_succ bound) with early | rfl
    · rw [survey.exact j early, or_iff_left (Nat.ne_of_lt early)]
    · simp [thwarted]
  · intro name typeName
    rw [survey.owned]
    refine exists₂_congr fun i a => and_congr_left' ?_
    rw [ownsNext, ownsLater (late (Nat.le_refl n)), or_iff_left]
    rintro ⟨rfl, unreported, -⟩
    exact unreported (List.mem_append_right told (List.mem_singleton_self i))

theorem claimed (survey : Survey plan n told owners) (next : plan[n]? = some b) (free : clashOf owners b = none) :
    Survey plan (n + 1) told (claim owners b) := by
  have unthwarted := survey.clashNone next free
  have spared : n ∉ told := fun member => Nat.lt_irrefl n (survey.within n member)
  refine ⟨survey.ascending, fun j member => Nat.lt_succ_of_lt (survey.within j member), ?_, ?_⟩
  · intro j bound
    rcases Nat.lt_or_eq_of_le (Nat.le_of_lt_succ bound) with early | rfl
    · exact survey.exact j early
    · exact iff_of_false spared unthwarted
  · intro name typeName
    rw [getClaim]
    simp only [ownsNext, or_and_right, exists_or]
    split
    · rename_i mine
      have unowned := (survey.takenIff name).mp (Ledger.getNoneIff.mpr ((unclashed owners b).mp free name mine))
      rw [or_iff_right (fun ⟨i, a, owns, _⟩ => unowned i a owns), Option.some.injEq]
      constructor
      · rintro rfl
        exact ⟨n, b, ⟨rfl, spared, next, mine⟩, rfl⟩
      · rintro ⟨_, a, ⟨rfl, -, planned, -⟩, rfl⟩
        rw [Option.some.inj (next.symm.trans planned)]
    · rename_i notMine
      rw [survey.owned, or_iff_left]
      rintro ⟨_, a, ⟨rfl, -, planned, takes⟩, -⟩
      exact notMine (Option.some.inj (next.symm.trans planned) ▸ takes)

theorem finished (survey : Survey plan n told owners) (past : plan.length ≤ n) : Reported plan told := by
  refine ⟨survey.ascending, fun j => ?_⟩
  by_cases within : j < n
  · exact survey.exact j within
  · have beyond : plan[j]? = none := List.getElem?_eq_none (Nat.le_trans past (Nat.le_of_not_lt within))
    refine iff_of_false (fun member => within (survey.within j member)) ?_
    rintro ⟨b, planned, -⟩
    rw [beyond] at planned
    cases planned

end Survey

/-- By induction on the accessors that are left; the survey carries what is known of the others. -/
theorem clashesRun (location : Location) {rest : List Accessor} {owners : Owners} (survey : Survey plan n told owners)
    (left : plan.drop n = rest) :
    ∃ more, Reported plan (told ++ more) ∧
      List.Forall₂ (Reports location plan (told ++ more)) more (clashesFrom location owners rest) := by
  induction rest generalizing n told owners with
  | nil =>
    refine ⟨[], ?_, List.Forall₂.nil⟩
    rw [List.append_nil]
    exact survey.finished (List.drop_eq_nil_iff.mp left)
  | cons b rest ih =>
    have next : plan[n]? = some b := by rw [← List.head?_drop, left, List.head?_cons]
    have after : plan.drop (n + 1) = rest := by rw [← List.tail_drop, left, List.tail_cons]
    unfold clashesFrom
    cases clash : clashOf owners b with
    | some found =>
      obtain ⟨name, owner⟩ := found
      obtain ⟨thwarted, reports⟩ := survey.clashSome next clash location
      obtain ⟨more, reported, rows⟩ := ih (survey.report thwarted) after
      rw [List.append_assoc, List.singleton_append] at reported rows
      refine ⟨n :: more, reported, .cons (reportsLater ?_ reports) rows⟩
      have ordered := (List.pairwise_cons.mp (List.pairwise_append.mp reported.ascending).2.1).1
      intro k member
      rcases List.mem_cons.mp member with rfl | late
      · exact Nat.le_refl k
      · exact Nat.le_of_lt (ordered k late)
    | none => exact ih (survey.claimed next clash) after

end Accessor

open Accessor

theorem disjointUnlessClashing (c : Container) :
    ¬ c.Clashing ↔ ∀ (i j : Nat) (a b : Accessor),
      i ≠ j → c.planned[i]? = some a → c.planned[j]? = some b → a.Apart b := by
  constructor
  · intro apart i j a b different first second name mine yours
    rcases Nat.lt_or_gt_of_ne different with before | after
    · exact apart ⟨i, j, a, b, before, first, second, name, mine, yours⟩
    · exact apart ⟨j, i, b, a, after, second, first, name, yours, mine⟩
  · rintro apart ⟨i, j, a, b, before, first, second, name, mine, yours⟩
    exact apart i j a b (Nat.ne_of_lt before) first second name mine yours

/-- No name is reported exactly if no two accessors of the plan share a property or cache field. Else there is one way
to tell the reported ones from the others, and each has its own error, in the order of the plan. -/
theorem namesCheckedInOrder (c : Container) :
    (c.checkAccessorNames = [] ↔ ∀ (i j : Nat) (a b : Accessor),
      i ≠ j → c.planned[i]? = some a → c.planned[j]? = some b → a.Apart b) ∧
    ∃ told, (∀ other, Reported c.planned other ↔ other = told) ∧
      List.Forall₂ (Reports c.location c.planned told) told c.checkAccessorNames := by
  refine ⟨c.namesFine.trans (disjointUnlessClashing c), ?_⟩
  obtain ⟨told, reported, rows⟩ := clashesRun c.location (Survey.start c.planned) rfl
  rw [List.nil_append] at reported rows
  refine ⟨told, fun other => ⟨fun also => reportedUnique also reported, ?_⟩, rows⟩
  rintro rfl
  exact reported

end AccessorForge
