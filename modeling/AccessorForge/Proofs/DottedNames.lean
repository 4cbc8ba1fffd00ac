import AccessorForge.Proofs.ImportBlocks
/-! What the dotted name of an expression tells. Names and attributes taken of them, one after the other, have one, and
cut at its dots it gives their identifiers back; so two such chains have the same name exactly if they are the same
chain. A decorator counts by the last identifier of its callee alone. -/
namespace AccessorForge
open Syntax

namespace Naming
variable {ids : List String}

def segments (dotted : String) : List String := (dotted.toList.splitOn '.').map String.ofList

theorem segmentsJoined (some_ : ids ≠ []) (dotless : ∀ id ∈ ids, '.' ∉ id.toList) :
    segments (".".intercalate ids) = ids := by
  have plain : ∀ word ∈ ids.map String.toList, '.' ∉ word := by simpa using dotless
  have cut := List.splitOn_intercalate '.' plain (by simpa using some_)
  rw [segments, String.toList_intercalate, show ".".toList = ['.'] from rfl, cut, List.map_map]
  simp [Function.comp_def]

theorem lastOfJoined {front : List String} {last : String} (dotless : '.' ∉ last.toList) :
    lastSegment (".".intercalate (front ++ [last])) = last := by
  rw [lastSegmentIff]
  refine ⟨dotless, ?_⟩
  by_cases alone : front = []
  · simp [alone]
  · refine .inr ⟨".".intercalate front, ?_⟩
    rw [String.intercalate_append_of_ne_nil alone (by simp), String.intercalate_singleton]

end Naming

/-! Chains. -/

/-- The identifiers of a name and of the attributes taken of it, from the name outward. -/
inductive Chain : Expr → List String → Prop where
  | root (span : Span) (id : String) : Chain (.name span id) [id]
  | link {value : Expr} {ids : List String} (span : Span) (attr : String) (inner : Chain value ids) :
      Chain (.attribute span value attr) (ids ++ [attr])

/-- The chain that the expression is, or that it calls, has no dot in any identifier. Nothing is asked of an expression
that is no chain and calls none. -/
def Syntax.Expr.Dotless (e : Expr) : Prop := ∀ ids, Chain e.head ids → ∀ id ∈ ids, '.' ∉ id.toList

variable {e f : Expr} {ids others : List String} {name : String}

theorem chainSome (chain : Chain e ids) : ids ≠ [] := by
  cases chain <;> simp

theorem chainHead (chain : Chain e ids) : e.head = e := by
  cases chain <;> rfl

theorem chainUnique (chain : Chain e ids) (again : Chain e others) : ids = others := by
  induction chain generalizing others with
  | root span id =>
    cases again
    rfl
  | link span attr inner ih =>
    cases again with
    | link _ _ innerToo => rw [ih innerToo]

theorem chainNamed (chain : Chain e ids) : dottedName e = some (".".intercalate ids) := by
  induction chain with
  | root span id => simp [dottedName]
  | link span attr inner ih =>
    rw [dottedName, ih, Option.map_some, String.intercalate_append_of_ne_nil (chainSome inner) (by simp),
      String.intercalate_singleton]

theorem namedChain (named : dottedName e = some name) : ∃ ids, Chain e ids := by
  -- The name goes down the attributes; no other kind of expression has one.
  induction e using dottedName.induct generalizing name with
  | case1 span id => exact ⟨[id], .root span id⟩
  | case2 span value attr ih =>
    obtain ⟨inner, found, _⟩ := Option.map_eq_some_iff.mp named
    obtain ⟨ids, chain⟩ := ih found
    exact ⟨ids ++ [attr], .link span attr chain⟩
  | case3 e other chained =>
    unfold dottedName at named
    split at named
    · exact absurd rfl (other _ _)
    · exact absurd rfl (chained _ _ _)
    · cases named

theorem namedIff : (dottedName e).isSome = true ↔ ∃ ids, Chain e ids := by
  rw [Option.isSome_iff_exists]
  constructor
  · intro ⟨name, named⟩
    exact namedChain named
  · intro ⟨ids, chain⟩
    exact ⟨_, chainNamed chain⟩

theorem chainSegments (dotless : e.Dotless) (named : dottedName e = some name) : Chain e (Naming.segments name) := by
  obtain ⟨ids, chain⟩ := namedChain named
  have plain := dotless ids ((chainHead chain).symm ▸ chain)
  cases (chainNamed chain).symm.trans named
  rwa [Naming.segmentsJoined (chainSome chain) plain]

theorem sameNameIff (dotless : e.Dotless) (dotlessToo : f.Dotless) :
    (∃ name, dottedName e = some name ∧ dottedName f = some name) ↔ ∃ ids, Chain e ids ∧ Chain f ids := by
  constructor
  · intro ⟨name, named, namedToo⟩
    exact ⟨_, chainSegments dotless named, chainSegments dotlessToo namedToo⟩
  · intro ⟨ids, chain, chainToo⟩
    exact ⟨_, chainNamed chain, chainNamed chainToo⟩

/-! Decorators. -/

theorem ofWordIff (s : String) (kind : DecoratorKind) : DecoratorKind.ofWord s = some kind ↔ s = kind.word := by
  constructor
  · intro found
    exact (by simpa using List.find?_some found : kind.word = s).symm
  · intro same
    subst same
    cases kind <;> decide

theorem kindOfChain (dotless : e.Dotless) (chain : Chain e.head ids) (kind : DecoratorKind) :
    decoratorKind e = some kind ↔ ids.getLast? = some kind.word := by
  obtain ⟨front, last, rfl⟩ := (List.eq_nil_or_concat' ids).resolve_left (chainSome chain)
  have plain := dotless _ chain last (by simp)
  simp [decoratorKind, chainNamed chain, Naming.lastOfJoined plain, ofWordIff]

theorem kindIff (dotless : e.Dotless) (kind : DecoratorKind) :
    decoratorKind e = some kind ↔ ∃ ids, Chain e.head ids ∧ ids.getLast? = some kind.word := by
  constructor
  · intro found
    obtain ⟨name, named, _⟩ := Option.bind_eq_some_iff.mp found
    obtain ⟨ids, chain⟩ := namedChain named
    exact ⟨ids, chain, (kindOfChain dotless chain kind).mp found⟩
  · intro ⟨ids, chain, last⟩
    exact (kindOfChain dotless chain kind).mpr last

theorem kindSame (dotless : e.Dotless) (dotlessToo : f.Dotless) (chain : Chain e.head ids)
    (chainToo : Chain f.head others) (last : ids.getLast? = others.getLast?) : decoratorKind e = decoratorKind f := by
  refine Option.ext fun kind => ?_
  rw [kindOfChain dotless chain, kindOfChain dotlessToo chainToo, last]

/-- Chains, and they alone, have a dotted name; it tells the whole chain. What kind of decorator an expression is comes
from the last identifier of the chain that it is or calls, whatever stands before it and among the arguments. -/
theorem dottedNamesFaithful (e f : Expr) (dotless : e.Dotless) (dotlessToo : f.Dotless) :
    ((dottedName e).isSome = true ↔ ∃ ids, Chain e ids) ∧
    (∀ name, dottedName e = some name → Chain e (Naming.segments name)) ∧
    ((∃ name, dottedName e = some name ∧ dottedName f = some name) ↔ ∃ ids, Chain e ids ∧ Chain f ids) ∧
    (∀ kind, decoratorKind e = some kind ↔ ∃ ids, Chain e.head ids ∧ ids.getLast? = some kind.word) ∧
    (∀ ids others, Chain e.head ids → Chain f.head others → ids.getLast? = others.getLast? →
      decoratorKind e = decoratorKind f) :=
  ⟨namedIff, fun _ named => chainSegments dotless named, sameNameIff dotless dotlessToo, kindIff dotless,
    fun _ _ chain chainToo last => kindSame dotless dotlessToo chain chainToo last⟩

def nowhere : Span := ⟨⟨1, 0⟩, ⟨1, 0⟩⟩

/-- A decorator that is called by its qualified name, and one that is left bare. -/
def qualifiedMarker : Expr :=
  .call nowhere (.attribute nowhere (.name nowhere "kit") "require_component_getters") [.text nowhere "private"] []

def bareMarker : Expr := .name nowhere "require_component_getters"

theorem dottedNamesFaithfulMarkers : qualifiedMarker.Dotless ∧ bareMarker.Dotless ∧
    decoratorKind qualifiedMarker = decoratorKind bareMarker := by
  have called : Chain qualifiedMarker.head ["kit", "require_component_getters"] := .link _ _ (.root _ _)
  have bare : Chain bareMarker.head ["require_component_getters"] := .root _ _
  have dotless : qualifiedMarker.Dotless := fun ids chain => chainUnique called chain ▸ by decide
  have dotlessToo : bareMarker.Dotless := fun ids chain => chainUnique bare chain ▸ by decide
  exact ⟨dotless, dotlessToo, (dottedNamesFaithful _ _ dotless dotlessToo).2.2.2.2 _ _ called bare rfl⟩

end AccessorForge
