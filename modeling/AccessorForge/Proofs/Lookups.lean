import AccessorForge.Proofs.Expressions
import AccessorForge.Proofs.Fields
/-! Accessors that look up a component: what one of them does when it is read, and what its lookup asks for. -/
namespace AccessorForge.Hosting
open Running Syntax

/-- An accessor for the components of one type: its property and cache field, the type as the text gives it with
the places of the call around it, and where it was written. -/
structure Memo where
  property : String
  field : String
  type : Expr
  call : Span
  method : Span
  self : Span
  origin : Origin

/-- The instance has the host's own method for lookups in place. -/
def World.AsksHost (w : World) (x : ObjectId) : Prop :=
  w.slot? x "get_component" = some (.method .getComponent) ∧ w.cell? x "get_component" = none

namespace Memo
variable {m : Memo} {w v : World} {x : ObjectId}

def fill (m : Memo) : Expr := .call m.call (.attribute m.method (.name m.self "self") "get_component") [m.type] []

def getter (m : Memo) : Getter := .lookup m.field m.fill m.origin

def frame (m : Memo) (x : ObjectId) : Frame := ⟨x, m.origin, [], []⟩

def lookup (m : Memo) (n : Nat) (x : ObjectId) : Act Datum :=
  ((reach n).evaluate (m.frame x) m.fill).run' [("self", .object x)]

/-- What was looked up is kept in the field and read from there. -/
def store (m : Memo) (n : Nat) (x : ObjectId) (d : Datum) : Act Datum := do
  (reach n).assign x m.field d
  (reach n).read x m.field

/-- Asking the instance for a component of the type, to some depth, gives this now. -/
def Gives (m : Memo) (n : Nat) (w : World) (x : ObjectId) (d : Datum) : Prop :=
  ∃ v, (m.lookup n x).runIn w = (.ok d, v)

/-- The accessor that a class keeps under a property, if it looks up a component. -/
def of? (property : String) : Getter → Option Memo
  | .lookup field (.call call (.attribute method (.name self "self") "get_component") [type] []) origin =>
    some ⟨property, field, type, call, method, self, origin⟩
  | _ => none

theorem ofSome {property : String} {g : Getter} (known : of? property g = some m) :
    m.property = property ∧ g = m.getter := by
  unfold of? at known
  split at known
  · cases known
    exact ⟨rfl, rfl⟩
  · cases known

theorem fillPlain (plain : m.type.yields = false ∧ m.type.bindings true = []) :
    m.fill.yields = false ∧ m.fill.bindings true = [] := by
  unfold fill
  simp [Expr.yields, anyYields, anyKeywordYields, Expr.bindings, bindingsOf, keywordBindings, plain]

theorem dottedPlain {e : Expr} {name : String} (dotted : dottedName e = some name) :
    e.yields = false ∧ e.bindings true = [] := by
  induction e using dottedName.induct generalizing name with
  | case1 s id => exact ⟨rfl, rfl⟩
  | case2 s value attr ih =>
    obtain ⟨_, inner, _⟩ := Option.map_eq_some_iff.mp dotted
    exact ih inner
  | case3 e other chained =>
    unfold dottedName at dotted
    split at dotted
    · exact absurd rfl (other _ _)
    · exact absurd rfl (chained _ _ _)
    · cases dotted

theorem frameMark (visible : Ledger.get? m.origin.scope "UNRESOLVED" = none) (bound : Ledger Datum) :
    (m.frame x).value bound "UNRESOLVED" = .ok .unresolved := by
  unfold Frame.value
  simp only [frame, visible]
  rfl

theorem getterRuns (plain : m.type.yields = false ∧ m.type.bindings true = [])
    (visible : Ledger.get? m.origin.scope "UNRESOLVED" = none) (n : Nat) (x : ObjectId) :
    (reach n).runGetter x m.getter = (do
      let cached ← (reach n).read x m.field
      if cached.isUnresolved then m.lookup n x >>= m.store n x
      else (reach n).read x m.field : Act Datum) := by
  obtain ⟨still, unbound⟩ := fillPlain plain
  have mark := frameMark (x := x) visible [("self", .object x)]
  unfold getter Reach.runGetter
  dsimp only
  rw [if_neg (by simp [still]), unbound]
  refine bind_congr fun cached => ?_
  change (ofAnswer ((m.frame x).value [("self", .object x)] "UNRESOLVED") >>= _) = _
  rw [mark]
  change (pure Datum.unresolved >>= _ : Act Datum) = _
  rw [pure_bind, sameUnresolved]
  rfl

theorem lookupKeeps {own : ObjectId → Getter → Prop} {I : World → Prop} {n : Nat}
    (keeping : (reach n).Keeping own I) : Act.Keeps I (m.lookup n x) :=
  Eval.keepsRun (keeping.evaluate (m.frame x) m.fill) [("self", .object x)]

/-! What the lookup asks for. -/

theorem publicName {name : String} (open' : name.startsWith "__" = false) (owner : String) :
    privateName owner name = name := by
  unfold privateName
  simp [open']

theorem calleeIs {k : Nat} (open' : w.accessor? x "__getattribute__" = none) (asks : w.AsksHost x) :
    (((reach (k + 2)).evaluate (m.frame x) (.attribute m.method (.name m.self "self") "get_component")).run
      [("self", .object x)]).runIn w = (.ok (.method x .getComponent, [("self", .object x)]), w) := by
  have read : ((reach (k + 1)).read x "get_component").runIn w = (.ok (.method x .getComponent), w) := by
    refine Reach.readThroughOf open' ?_
    unfold Reach.readOwn
    rw [bindOf (getIn w), asks.1]
    dsimp only
    rw [asks.2]
    rfl
  have instance' : (((reach (k + 1)).evaluate (m.frame x) (.name m.self "self")).run [("self", .object x)]).runIn w =
      (.ok (.object x, [("self", .object x)]), w) := by
    change (((reach k).expression (m.frame x) (.name m.self "self")).run [("self", .object x)]).runIn w = _
    unfold Reach.expression Frame.private
    dsimp only
    rw [publicName (by decide +kernel)]
    rfl
  change (((reach (k + 1)).expression (m.frame x) (.attribute m.method (.name m.self "self") "get_component")).run
    [("self", .object x)]).runIn w = _
  unfold Reach.expression Frame.private
  dsimp only
  rw [publicName (by decide +kernel), StateT.run_bind, bindOf instance']
  change ((reach (k + 1)).read x "get_component" >>= fun d => pure (d, [("self", Datum.object x)])).runIn w = _
  rw [bindOf read]
  rfl

theorem rowOne {n : Nat} {f : Frame} {e : Expr} (single : e.isStarred = false) :
    (reach n).row f [e] = (do return [← (reach n).evaluate f e]) := by
  unfold Reach.row
  cases e with
  | starred => cases single
  | _ => simp only [List.flatMapM_cons, List.flatMapM_nil, bind_assoc, pure_bind, List.append_nil]

/-- The type is the name of a class that was known where the accessor was written. -/
def Names (m : Memo) (c : ClassId) : Prop :=
  ∃ span id, m.type = .name span id ∧ privateName m.origin.ownerName id ∉ ["self", "__class__"] ∧
    Ledger.get? m.origin.scope (privateName m.origin.ownerName id) = some c

theorem typeIs {k : Nat} {c : ClassId} (named : m.Names c) (bound : Ledger Datum) :
    (((reach (k + 1)).evaluate (m.frame x) m.type).run bound).runIn w = (.ok (.cls c, bound), w) := by
  obtain ⟨span, id, same, apart, known⟩ := named
  have value : (m.frame x).value bound (privateName m.origin.ownerName id) = .ok (.cls c) := by
    rw [List.mem_cons, List.mem_singleton, not_or] at apart
    unfold Frame.value
    change (if false = true then _ else if _ = "self" then _ else if _ = "__class__" then _ else _) = _
    rw [if_neg (by decide), if_neg apart.1, if_neg apart.2]
    simp only [frame, known]
  rw [same]
  change (((reach k).expression (m.frame x) (.name span id)).run bound).runIn w = _
  unfold Reach.expression Frame.private
  change (ofAnswer ((m.frame x).value bound (privateName m.origin.ownerName id)) >>= fun d =>
    pure (d, bound)).runIn w = _
  rw [value]
  rfl

theorem namedSingle {c : ClassId} (named : m.Names c) : m.type.isStarred = false := by
  obtain ⟨_, _, same, _⟩ := named
  rw [same]
  rfl

theorem lookupIs {k : Nat} {c : ClassId} (open' : w.accessor? x "__getattribute__" = none) (asks : w.AsksHost x)
    (named : m.Names c) : (m.lookup (k + 3) x).runIn w =
      ((reach (k + 1)).applyMethod x .getComponent ⟨[.cls c], []⟩).runIn w := by
  have placed : (((reach (k + 2)).row (m.frame x) [m.type]).run [("self", .object x)]).runIn w =
      (.ok ([.cls c], [("self", .object x)]), w) := by
    rw [rowOne (namedSingle named), StateT.run_bind, bindOf (typeIs named _)]
    rfl
  change (((reach (k + 2)).expression (m.frame x) m.fill).run _ >>= fun p => pure p.1).runIn w = _
  unfold fill Reach.expression
  dsimp only
  rw [StateT.run_bind, bind_assoc, bindOf (calleeIs open' asks), StateT.run_bind, bind_assoc, bindOf placed]
  change (((reach (k + 1)).applyMethod x .getComponent ⟨[.cls c], []⟩ >>= fun d => pure (d, [("self", Datum.object x)])) >>=
    fun p => pure p.1).runIn w = _
  rw [bind_assoc, bindIn]
  cases ((reach (k + 1)).applyMethod x .getComponent ⟨[.cls c], []⟩).runIn w with
  | mk result u => cases result <;> rfl

theorem lookupNamed {k : Nat} {d : Datum} {c : ClassId} (open' : w.accessor? x "__getattribute__" = none)
    (asks : w.AsksHost x) (named : m.Names c) (gives : m.Gives (k + 3) w x d) :
    ∃ v, ((reach (k + 1)).applyMethod x .getComponent ⟨[.cls c], []⟩).runIn w = (.ok d, v) := by
  obtain ⟨v, ok⟩ := gives
  exact ⟨v, (lookupIs open' asks named).symm.trans ok⟩

end Memo

/-! The mark itself is an instance of no class but the root of all. -/

theorem findMOk {p : Datum → Act Bool} {items : List Datum} {w v : World} {d : Datum}
    (ok : (items.findM? p).runIn w = (.ok (some d), v)) : ∃ t u, (p d).runIn t = (.ok true, u) := by
  induction items generalizing w with
  | nil => cases ok
  | cons e rest ih =>
    obtain ⟨found, u, ran, next⟩ := bindOk (x := p e) ok
    cases found with
    | true =>
      cases next
      exact ⟨w, v, ran⟩
    | false => exact ih next

theorem markUntyped {r : Reach} {w v : World} {c : ClassId} (below : c ≠ ClassTable.base) (depth : Nat) :
    (r.isOfType .unresolved depth (.cls c)).runIn w ≠ (.ok true, v) := by
  intro ok
  cases depth with
  | zero => cases ok
  | succ depth =>
    unfold Reach.isOfType at ok
    rw [bindOf (getIn w)] at ok
    have typed : Operation.isOfType w .unresolved (.cls c) = .ok (decide (c = ClassTable.base)) := rfl
    dsimp only at ok
    rw [typed] at ok
    have root : decide (c = ClassTable.base) = true := Except.ok.inj (congrArg Prod.fst ok)
    exact below (of_decide_eq_true root)

theorem componentProper {r : Reach} {w v : World} {o : ObjectId} {c : ClassId} {d : Datum}
    (below : c ≠ ClassTable.base)
    (ok : (r.applyMethod o .getComponent ⟨[.cls c], []⟩).runIn w = (.ok d, v)) : d ≠ .unresolved := by
  rintro rfl
  obtain ⟨type, _, given, attached⟩ := bindOk ok
  cases given
  obtain ⟨kept, _, _, listed⟩ := bindOk attached
  obtain ⟨items, t, _, first⟩ := bindOk listed
  obtain ⟨found, u, ran, same⟩ := bindOk (x := items.findM? fun x => r.isOfType x Datum.maxDepth (.cls c)) first
  cases found with
  | none => cases same
  | some e =>
    cases same
    obtain ⟨_, _, typed⟩ := findMOk ran
    exact markUntyped below _ typed

end AccessorForge.Hosting
