import AccessorForge.Hosting.Decoration
import AccessorForge.Proofs.Plans
import AccessorForge.Proofs.Worlds
import Mathlib.Data.List.Forall2
/-! Decorators read from the source against the same decorators run. The reading looks an argument up by its
name, else by its place, and goes from the top down; a run binds arguments to parameters and goes from the
bottom up. Operands are plain here: what a decorator does with other values is not said. -/
namespace AccessorForge.Hosting
open Act Running Syntax
variable {α β : Type}

theorem eachOf {f : α → Option β} {xs : List α} {ys : List β} (all : xs.mapM f = some ys) :
    List.Forall₂ (fun x y => f x = some y) xs ys := by
  induction xs generalizing ys with
  | nil =>
    cases all
    exact .nil
  | cons x rest ih =>
    simp only [List.mapM_cons, Option.bind_eq_bind, Option.bind_eq_some_iff] at all
    obtain ⟨y, first, more, others, same⟩ := all
    cases same
    exact .cons first (ih others)

theorem eachAt {f : α → Option β} {xs : List α} {ys : List β} (all : List.Forall₂ (fun x y => f x = some y) xs ys)
    (i : Nat) : ys[i]? = (xs[i]?).bind f := by
  induction all generalizing i with
  | nil => rfl
  | cons first _ ih =>
    cases i with
    | zero => simp [first]
    | succ i => simpa using ih i

theorem sourceOf {f : α → Option β} {xs : List α} {ys : List β} (all : List.Forall₂ (fun x y => f x = some y) xs ys)
    {y : β} (member : y ∈ ys) : ∃ x ∈ xs, f x = some y := by
  obtain ⟨i, here⟩ := List.getElem?_of_mem member
  have there := eachAt all i
  rw [here] at there
  obtain ⟨x, found, same⟩ := Option.bind_eq_some_iff.mp there.symm
  exact ⟨x, List.mem_of_getElem? found, same⟩

theorem imageOf {f : α → Option β} {xs : List α} {ys : List β} (all : List.Forall₂ (fun x y => f x = some y) xs ys)
    {x : α} {y : β} (member : x ∈ xs) (same : f x = some y) : y ∈ ys := by
  obtain ⟨i, here⟩ := List.getElem?_of_mem member
  have there := eachAt all i
  rw [here, Option.bind_some, same] at there
  exact List.mem_of_getElem? there

theorem eachDefined {f : α → Option β} {xs : List α} {ys : List β}
    (all : List.Forall₂ (fun x y => f x = some y) xs ys) : ∀ x ∈ xs, (f x).isSome := by
  intro x member
  obtain ⟨i, here⟩ := List.getElem?_of_mem member
  have within : i < ys.length := all.length_eq ▸ (List.getElem?_eq_some_iff.mp here).1
  have there := eachAt all i
  rw [here, Option.bind_some, List.getElem?_eq_getElem within] at there
  exact there ▸ rfl

theorem allOf {f : α → Option β} {xs : List α} (each : ∀ x ∈ xs, (f x).isSome) : ∃ ys, xs.mapM f = some ys := by
  induction xs with
  | nil => exact ⟨[], rfl⟩
  | cons x rest ih =>
    obtain ⟨y, first⟩ := Option.isSome_iff_exists.mp (each x List.mem_cons_self)
    obtain ⟨ys, others⟩ := ih fun x member => each x (List.mem_cons_of_mem _ member)
    exact ⟨y :: ys, by rw [List.mapM_cons, first, others]; rfl⟩

/-! Arguments and parameters. -/

theorem lookupOther (names : List (String × Datum)) {n m : String} (other : m ≠ n) :
    (names.filter (·.1 ≠ n)).lookup m = names.lookup m := by
  induction names with
  | nil => rfl
  | cons head rest ih =>
    obtain ⟨k, d⟩ := head
    by_cases dropped : k = n
    · subst dropped
      have passed : (m == k) = false := by simpa using other
      rw [List.filter_cons_of_neg (by simp), List.lookup_cons, passed, ih]
    · rw [List.filter_cons_of_pos (by simpa using dropped), List.lookup_cons, List.lookup_cons, ih]

/-- A parameter gets the argument of its name, else that of its place, else its default. -/
theorem boundAs {parameters : List Parameter} (ordinary : ∀ p ∈ parameters, p.kind = .ordinary)
    (distinct : (parameters.map (·.name)).Nodup) {defaults : List Datum} {g : Given} {bound : Ledger Datum}
    (ok : bindParameters id parameters defaults g = some bound) {i : Nat} {p : Parameter}
    (here : parameters[i]? = some p) :
    Ledger.get? bound p.name = ((g.names.lookup p.name).or g.places[i]?).or
      (if p.hasDefault then defaults[(parameters.take i).countP (·.hasDefault)]? else none) := by
  induction parameters generalizing defaults g bound i with
  | nil => cases here
  | cons first rest ih =>
    obtain ⟨fresh, distinct⟩ := List.nodup_cons.mp distinct
    have kind := ordinary first List.mem_cons_self
    have step {ds : List Datum} {g' : Given} {m : Ledger Datum} (ok : bindParameters id rest ds g' = some m) {j : Nat}
        (here : rest[j]? = some p) :=
      ih (fun q member => ordinary q (List.mem_cons_of_mem _ member)) distinct ok here
    unfold bindParameters at ok
    simp only [kind, id_eq] at ok
    have later : ∀ {j}, rest[j]? = some p → p.name ≠ first.name := fun found same =>
      fresh (List.mem_map.mpr ⟨p, List.mem_of_getElem? found, same⟩)
    have moved : ∀ j, (if first.hasDefault then defaults.drop 1 else defaults)[(rest.take j).countP (·.hasDefault)]? =
        defaults[((first :: rest).take (j + 1)).countP (·.hasDefault)]? := by
      intro j
      rw [List.take_succ_cons, List.countP_cons]
      cases first.hasDefault <;> simp [Nat.add_comm]
    cases places : g.places with
    | cons d ds =>
      simp only [places] at ok
      split at ok
      · cases ok
      · rename_i unnamed
        obtain ⟨more, others, whole⟩ := Option.map_eq_some_iff.mp ok
        subst whole
        cases i with
        | zero =>
          cases here
          have none : g.names.lookup p.name = none := Option.not_isSome_iff_eq_none.mp unnamed
          rw [Ledger.get?_put_self, none]
          rfl
        | succ i =>
          have found : rest[i]? = some p := here
          rw [Ledger.get?_put_of_ne _ _ (later found), step others found, moved]
          rfl
    | nil =>
      simp only [places] at ok
      obtain ⟨d, given, ok⟩ := Option.bind_eq_some_iff.mp ok
      obtain ⟨more, others, whole⟩ := Option.map_eq_some_iff.mp ok
      subst whole
      cases i with
      | zero =>
        cases here
        rw [Ledger.get?_put_self, ← given]
        simp [List.head?_eq_getElem?]
      | succ i =>
        have found : rest[i]? = some p := here
        rw [Ledger.get?_put_of_ne _ _ (later found), step others found, moved, lookupOther _ (later found)]
        simp

variable {classes : Resolution}

theorem namedGiven {keywords : List Keyword} {names : List (String × Datum)}
    (all : keywords.mapM (namedOperandOf classes) = some names) (n : String) :
    names.lookup n = (keywords.find? (·.name? = some n)).bind fun k => operandOf classes k.value := by
  have each := eachOf all
  clear all
  induction each with
  | nil => rfl
  | @cons k entry _ _ first _ ih =>
    obtain ⟨name, value⟩ := k
    cases name with
    | none => cases first
    | some m =>
      obtain ⟨d, given, same⟩ := Option.map_eq_some_iff.mp first
      subst same
      by_cases here : m = n
      · subst here
        rw [List.lookup_cons, beq_self_eq_true, List.find?_cons_of_pos (by simp [Keyword.name?])]
        exact given.symm
      · have other : (n == m) = false := by simpa using fun same : n = m => here same.symm
        rw [List.lookup_cons, other, List.find?_cons_of_neg (by simpa [Keyword.name?] using here)]
        exact ih

theorem givenParts {args : List Expr} {keywords : List Keyword} {g : Given}
    (given : givenTo classes args keywords = some g) :
    args.mapM (operandOf classes) = some g.places ∧ keywords.mapM (namedOperandOf classes) = some g.names := by
  unfold givenTo at given
  simp only [Option.bind_eq_bind, Option.bind_eq_some_iff] at given
  obtain ⟨places, byPlace, names, byName, whole⟩ := given
  split at whole
  · cases whole
  · cases whole
    exact ⟨byPlace, byName⟩

theorem argumentPlain (span : Span) (callee : Expr) {args : List Expr} {keywords : List Keyword} {g : Given}
    (given : givenTo classes args keywords = some g) {n : String} {i : Nat} {e : Expr}
    (found : argument (.call span callee args keywords) n i = some e) : (operandOf classes e).isSome := by
  obtain ⟨byPlace, byName⟩ := givenParts given
  simp only [argument] at found
  split at found
  · rename_i k named
    cases found
    have defined := eachDefined (eachOf byName) k (List.mem_of_find?_eq_some named)
    obtain ⟨name, value⟩ := k
    cases name with
    | none => cases defined
    | some m => simpa [namedOperandOf, Keyword.value] using defined
  · exact eachDefined (eachOf byPlace) e (List.mem_of_getElem? found)

theorem argumentGiven {span : Span} {callee : Expr} {args : List Expr} {keywords : List Keyword} {g : Given}
    (given : givenTo classes args keywords = some g) (n : String) (i : Nat) :
    (g.names.lookup n).or g.places[i]? =
      (argument (.call span callee args keywords) n i).bind (operandOf classes) := by
  obtain ⟨byPlace, byName⟩ := givenParts given
  have named := namedGiven byName n
  have plain (e : Expr) := @argumentPlain _ span callee _ _ _ given n i e
  simp only [argument] at plain ⊢
  cases found : keywords.find? (·.name? = some n) with
  | none =>
    rw [found] at named
    simp only [named, eachAt (eachOf byPlace) i, Option.bind_none, Option.none_or]
  | some k =>
    rw [found] at named plain
    obtain ⟨d, read⟩ := Option.isSome_iff_exists.mp (plain k.value rfl)
    simp only [named, Option.bind_some, read, Option.some_or]

theorem operandText {e : Expr} {v : String} (is : operandOf classes e = some (.text v)) : literalText e = some v := by
  unfold operandOf at is
  split at is
  · cases is
    rfl
  · obtain ⟨_, _, is⟩ := Option.bind_eq_some_iff.mp is
    obtain ⟨_, _, is⟩ := Option.map_eq_some_iff.mp is
    cases is

theorem operandClass {e : Expr} {c : ClassId} (is : operandOf classes e = some (.cls c)) :
    ∃ name, dottedName e = some name ∧ classes name = some c := by
  unfold operandOf at is
  split at is
  · cases is
  · obtain ⟨name, dotted, is⟩ := Option.bind_eq_some_iff.mp is
    obtain ⟨c', known, is⟩ := Option.map_eq_some_iff.mp is
    cases is
    exact ⟨name, dotted, known⟩

/-! What a decorator records, and what is read of it. -/

theorem readAs {parameters : List Parameter} (ordinary : ∀ p ∈ parameters, p.kind = .ordinary)
    (distinct : (parameters.map (·.name)).Nodup) (span : Span) (callee : Expr) {args : List Expr}
    {keywords : List Keyword} {g : Given} (given : givenTo classes args keywords = some g) {bound : Ledger Datum}
    (ok : boundTo parameters g = some bound) {i : Nat} {p : Parameter} (here : parameters[i]? = some p) :
    Ledger.get? bound p.name =
      ((argument (.call span callee args keywords) p.name i).bind (operandOf classes)).or
        (if p.hasDefault then defaultVisibility[(parameters.take i).countP (·.hasDefault)]? else none) := by
  rw [boundAs ordinary distinct ok here, argumentGiven given]

theorem visibilityRead {d : Expr} {i : Nat} {v : String}
    (bound : ((argument d "visibility" i).bind (operandOf classes)).or (some (.text publicVisibility)) =
      some (.text v)) (plain : ∀ e, argument d "visibility" i = some e → (operandOf classes e).isSome) :
    SourceUnit.visibilityAt d i = v := by
  unfold SourceUnit.visibilityAt
  cases found : argument d "visibility" i with
  | none =>
    rw [found] at bound
    simpa using bound
  | some e =>
    obtain ⟨x, read⟩ := Option.isSome_iff_exists.mp (plain e found)
    rw [found, Option.bind_some, read, Option.some_or] at bound
    cases bound
    rw [Option.bind_some, operandText read]
    rfl

theorem getterOrdinary : ∀ p ∈ getterParameters, p.kind = .ordinary := by decide

theorem getterDistinct : (getterParameters.map (·.name)).Nodup := by decide

theorem markerOrdinary : ∀ p ∈ markerParameters, p.kind = .ordinary := by decide

theorem markerDistinct : (markerParameters.map (·.name)).Nodup := by decide

/-- The arguments that the run-time function receives are those that the reading tells. -/
theorem overrideReceived {d : Expr} {x : Decoration} (u : SourceUnit) (kind : decoratorKind d = some .override)
    (called : decorationOf classes d = some x) :
    ∃ o type name t, annotationAt u d = some (.override o) ∧ x = .requireOne t (.text name) (.text o.visibility) ∧
      o.typeName = some type ∧ classes type = some t ∧ o.name = some name := by
  unfold decorationOf at called
  simp only [kind, Option.bind_eq_bind, Option.bind_some] at called
  cases d with
  | call span callee args keywords =>
    simp only [Option.bind_eq_some_iff] at called
    obtain ⟨g, given, bound, ok, called⟩ := called
    split at called
    · rename_i t name v isType isName isVisibility
      cases called
      have read {i : Nat} {p : Parameter} (here : getterParameters[i]? = some p) :=
        readAs getterOrdinary getterDistinct span callee given ok here
      rw [read (i := 0) rfl] at isType
      rw [read (i := 1) rfl] at isName
      rw [read (i := 2) rfl] at isVisibility
      simp only [Bool.false_eq_true, if_false, Option.or_none] at isType isName
      obtain ⟨e, typed, isType⟩ := Option.bind_eq_some_iff.mp isType
      obtain ⟨f, named, isName⟩ := Option.bind_eq_some_iff.mp isName
      obtain ⟨type, dotted, known⟩ := operandClass isType
      have shown := visibilityRead isVisibility fun _ => argumentPlain span callee given
      refine ⟨_, type, name, t, by rw [annotationAt, kind]; rfl, ?_, ?_, known, ?_⟩
      · rw [shown]
      · rw [typed, Option.bind_some, dotted]
      · rw [named, Option.bind_some, operandText isName]
    · cases called
  | _ => cases called

theorem groupReceived {d : Expr} {x : Decoration} (u : SourceUnit) (kind : decoratorKind d = some .group)
    (called : decorationOf classes d = some x) :
    ∃ v place, annotationAt u d = some (.group v place) ∧ x = .markGroup (.text v) := by
  unfold decorationOf at called
  simp only [kind, Option.bind_eq_bind, Option.bind_some] at called
  refine ⟨SourceUnit.visibilityAt d 0, _, by rw [annotationAt, kind]; rfl, ?_⟩
  cases d with
  | call span callee args keywords =>
    simp only [Option.bind_eq_some_iff] at called
    obtain ⟨g, given, bound, ok, called⟩ := called
    split at called
    · rename_i v isVisibility
      cases called
      rw [readAs markerOrdinary markerDistinct span callee given ok (i := 0) rfl]
        at isVisibility
      rw [visibilityRead isVisibility fun _ => argumentPlain span callee given]
    · cases called
  | _ =>
    cases called
    rfl

theorem classesRead {es : List Expr} {ds : List Datum} {cs : List ClassId}
    (read : List.Forall₂ (fun e d => operandOf classes e = some d) es ds) (are : classesIn ds = some cs) :
    List.Forall₂ (fun t c => classes t = some c) (es.filterMap dottedName) cs := by
  have each := eachOf are
  clear are
  induction read generalizing cs with
  | nil =>
    cases each
    exact .nil
  | cons first _ ih =>
    cases each with
    | cons isClass others =>
      split at isClass
      · cases isClass
        obtain ⟨name, dotted, known⟩ := operandClass first
        rw [List.filterMap_cons, dotted]
        exact .cons known (ih others)
      · cases isClass

theorem requirementReceived {d : Expr} {x : Decoration} (kind : decoratorKind d = some .requirement)
    (called : decorationOf classes d = some x) :
    ∃ types, x = .require types ∧ List.Forall₂ (fun t c => classes t = some c) (requirementsAt d) types := by
  unfold decorationOf at called
  simp only [kind, Option.bind_eq_bind, Option.bind_some] at called
  cases d with
  | call span callee args keywords =>
    simp only [Option.bind_eq_some_iff] at called
    obtain ⟨g, given, places, row, types, are, called⟩ := called
    cases called
    refine ⟨types, rfl, ?_⟩
    unfold Given.row? at row
    split at row
    · cases row
      have read := classesRead (eachOf (givenParts given).1) are
      unfold requirementsAt
      rw [kind]
      exact read
    · cases row
  | _ => cases called

/-! What comes onto the class. -/

theorem ownOrder {w : World} (whole : w.Whole) {c : ClassId} (known : c < w.classes.length) :
    ∃ above, w.classes.order c = c :: above := by
  have first := whole.ownFirst c w.classes[c] (List.getElem?_eq_getElem known)
  unfold ClassTable.order
  rw [List.getElem?_eq_getElem known]
  exact List.head?_eq_some_iff.mp first

theorem setSlotOrder (t : ClassTable) (c d : ClassId) (name : String) (s : Slot) :
    (t.setSlot c name s).order d = t.order d := by
  unfold ClassTable.order ClassTable.setSlot
  rw [List.getElem?_modify]
  cases t[d]? with
  | none => rfl
  | some k => by_cases here : c = d <;> simp [here]

theorem setSlotOwn {w : World} (whole : w.Whole) {c : ClassId} (known : c < w.classes.length) (name : String) (s : Slot) :
    (w.classes.setSlot c name s).slot? c name = some s := by
  obtain ⟨above, order⟩ := ownOrder whole known
  unfold ClassTable.slot? ClassTable.search
  rw [setSlotOrder, order, List.findSome?_cons]
  unfold ClassTable.setSlot
  rw [List.getElem?_modify, List.getElem?_eq_getElem known]
  simp [Ledger.get?_put_self]

theorem setSlotOther (t : ClassTable) (c d : ClassId) {name other : String} (apart : other ≠ name) (s : Slot) :
    (t.setSlot c name s).slot? d other = t.slot? d other := by
  unfold ClassTable.slot? ClassTable.search
  rw [setSlotOrder]
  refine findSomeSame fun k _ => ?_
  unfold ClassTable.setSlot
  rw [List.getElem?_modify]
  cases t[k]? with
  | none => rfl
  | some j => by_cases here : c = k <;> simp [here, Ledger.get?_put_of_ne _ _ apart]

theorem memMergeTypes {old new : List ClassId} {k : ClassId} :
    k ∈ ClassTable.mergeTypes old new ↔ k ∈ old ∨ k ∈ new := by
  unfold ClassTable.mergeTypes
  induction new generalizing old with
  | nil => simp
  | cons c rest ih =>
    rw [List.foldl_cons, ih, List.mem_cons]
    split
    · rename_i known
      constructor
      · rintro (old | later)
        · exact .inl old
        · exact .inr (.inr later)
      · rintro (old | same | later)
        · exact .inl old
        · exact .inl (same ▸ known)
        · exact .inr later
    · rw [List.mem_append, List.mem_singleton, or_assoc]

def Decoration.types : Decoration → List ClassId
  | .require types => types
  | .requireOne type _ _ => [type]
  | .markGroup _ => []

def Decoration.mark? : Decoration → Option Value
  | .markGroup visibility => some visibility
  | _ => none

/-- What stands on a class when some types have been recorded there, and a visibility or none. -/
structure Recorded (w : World) (c : ClassId) (types : ClassId → Prop) (mark : Option Value) : Prop where
  whole : w.Whole
  known : c < w.classes.length
  required : ∃ now, w.classes.required? c = some now ∧ ∀ k, k ∈ now ↔ types k
  visibility : w.classes.groupVisibility c = mark

variable {w : World} {c : ClassId} {types : ClassId → Prop} {mark : Option Value}

theorem requireRecords (before : Recorded w c types mark) (own : c ≠ ClassTable.base) (new : List ClassId) :
    ∃ v, (Act.require c new).runIn w = (.ok (.flag true), v) ∧ Recorded v c (fun k => types k ∨ k ∈ new) mark := by
  obtain ⟨now, seen, each⟩ := before.required
  have made : w.classes.require? c new = some (w.classes.setSlot c ClassTable.requiredName
      (.required (ClassTable.mergeTypes (ClassTable.mergeTypes [] now) new))) := by
    unfold ClassTable.require?
    rw [seen]
    rfl
  generalize merged : ClassTable.mergeTypes (ClassTable.mergeTypes [] now) new = all at made
  refine ⟨{ w with classes := w.classes.setSlot c ClassTable.requiredName (.required all) }, ?_, ?_⟩
  · unfold Act.require changeable
    rw [bindOf (getIn w), made, if_neg own]
    rfl
  · refine ⟨setSlotWhole before.whole c _ _, ?_, ⟨all, ?_, fun k => ?_⟩, ?_⟩
    · exact (List.length_modify _ _ _).symm ▸ before.known
    · unfold ClassTable.required?
      rw [setSlotOwn before.whole before.known]
    · rw [← merged, memMergeTypes, memMergeTypes, each]
      simp
    · unfold ClassTable.groupVisibility
      rw [setSlotOther _ _ _ (by decide)]
      exact before.visibility

theorem markGroupRecords (before : Recorded w c types mark) (own : c ≠ ClassTable.base) (v : Value) :
    ∃ u, (Act.markGroup c v).runIn w = (.ok (.flag true), u) ∧ Recorded u c types (some v) := by
  refine ⟨{ w with classes := w.classes.markGroup c v }, ?_, ?_⟩
  · unfold Act.markGroup changeable
    rw [if_neg own]
    rfl
  · refine ⟨setSlotWhole before.whole c _ _, ?_, ?_, ?_⟩
    · exact (List.length_modify _ _ _).symm ▸ before.known
    · obtain ⟨now, seen, each⟩ := before.required
      refine ⟨now, ?_, each⟩
      unfold ClassTable.required? ClassTable.markGroup
      rw [setSlotOther _ _ _ (by decide)]
      exact seen
    · unfold ClassTable.groupVisibility ClassTable.markGroup
      rw [setSlotOwn before.whole before.known]

theorem decorateRecords (before : Recorded w c types mark) (own : c ≠ ClassTable.base) (d : Decoration) :
    ∃ v, (decorate c d).runIn w = (.ok (.flag true), v) ∧
      Recorded v c (fun k => types k ∨ k ∈ d.types) (d.mark?.or mark) := by
  cases d with
  | require new => exact requireRecords before own new
  | requireOne type name visibility => exact requireRecords before own [type]
  | markGroup visibility =>
    obtain ⟨v, ran, after⟩ := markGroupRecords before own visibility
    refine ⟨v, ran, ?_⟩
    simpa [Decoration.types, Decoration.mark?] using after

theorem applyAllRecords (before : Recorded w c types mark) (own : c ≠ ClassTable.base) (ds : List Decoration) :
    ∃ v, (applyAll c ds).runIn w = (.ok (), v) ∧
      Recorded v c (fun k => types k ∨ ∃ d ∈ ds, k ∈ d.types) ((ds.filterMap Decoration.mark?).getLast?.or mark) := by
  induction ds generalizing w types mark with
  | nil => exact ⟨w, rfl, by simpa using before⟩
  | cons d rest ih =>
    obtain ⟨u, ran, between⟩ := decorateRecords before own d
    obtain ⟨v, later, after⟩ := ih between
    refine ⟨v, (bindOf ran).trans later, ?_⟩
    have same : (((d :: rest).filterMap Decoration.mark?).getLast?.or mark) =
        (rest.filterMap Decoration.mark?).getLast?.or (d.mark?.or mark) := by
      rw [List.filterMap_cons]
      cases d.mark? with
      | none => rfl
      | some m =>
        rw [List.getLast?_cons]
        cases (rest.filterMap Decoration.mark?).getLast? <;> rfl
    have each : (fun k => types k ∨ ∃ e ∈ d :: rest, k ∈ e.types) =
        fun k => (types k ∨ k ∈ d.types) ∨ ∃ e ∈ rest, k ∈ e.types := by
      funext k
      simp [or_assoc]
    rw [same, each]
    exact after

/-! What is read of all decorators of a class. -/

/-- An override that names its type and has a name of its own. -/
def Names (o : Override) (type : String) : Prop := o.typeName = some type ∧ ∃ name, o.name = some name ∧ name ≠ ""

theorem mergedTypes (c : Container) (as : List Annotation) (type : String) :
    type ∈ Ledger.keys (as.foldl Container.merge c).overrides ↔
      type ∈ Ledger.keys c.overrides ∨ ∃ o, Annotation.override o ∈ as ∧ Names o type := by
  have typed : type ∈ (entriesIn as).map (·.1) ↔ ∃ o, Annotation.override o ∈ as ∧ Names o type := by
    constructor
    · intro member
      obtain ⟨e, listed, rfl⟩ := List.mem_map.mp member
      obtain ⟨o, sound, rfl⟩ := List.mem_map.mp listed
      obtain ⟨t, name, known, named, given⟩ := soundTyped sound
      exact ⟨o, (memSound.mp sound).1, by simp [Override.entry, known], name, named, given⟩
    · rintro ⟨o, member, known, name, named, given⟩
      have whole : o.isWellFormed = true := by simp [Override.isWellFormed, known, named, given]
      exact List.mem_map.mpr ⟨o.entry, List.mem_map.mpr ⟨o, memSound.mpr ⟨member, whole⟩, rfl⟩, by simp [Override.entry, known]⟩
  rw [mergedOverrides, Ledger.keysPutAll, memFoldlAppendNew, typed]

/-- What the decorators of one class amount to, once they are aggregated. -/
def classContainer (s : Site) : Container := (Site.absorbed s.opened s).aggregate

theorem classContainerParts (s : Site) :
    (∀ type, type ∈ (classContainer s).required ↔ type ∈ s.requirements) ∧
      (classContainer s).defaults = (s.annotations.filterMap groupText).getLast? ∧
      ∀ type, type ∈ Ledger.keys (classContainer s).overrides ↔
        ∃ o, Annotation.override o ∈ s.annotations ∧ Names o type := by
  unfold classContainer Container.aggregate
  rw [Site.absorbedGains]
  refine ⟨fun type => ?_, ?_, fun type => ?_⟩
  · rw [mergedRequired]
    change type ∈ s.requirements.foldl appendNew [] ↔ _
    rw [← List.eraseDups_nil, foldlAppendNew, List.nil_append, List.mem_eraseDups]
  · rw [mergedDefaults]
    exact Option.or_none
  · rw [mergedTypes]
    exact or_iff_right List.not_mem_nil

theorem scannedAlone {units : List SourceUnit} {s : Site}
    (alone : (markedSites units).filter (·.fullName = s.fullName) = [s]) :
    Ledger.get? (Containers.scan units).aggregate s.fullName = some (classContainer s) := by
  have scanned : Ledger.get? (Containers.scan units) s.fullName = some (Site.absorbed s.opened s) := by
    rw [scanCollects, Ledger.getCollect, alone]
    rfl
  have mapped : ∀ (cs : Containers), Ledger.get? cs.aggregate s.fullName =
      (Ledger.get? cs s.fullName).map Container.aggregate := by
    intro cs
    induction cs with
    | nil => rfl
    | cons head rest ih =>
      obtain ⟨k, c⟩ := head
      change Ledger.get? ((k, c.aggregate) :: Containers.aggregate rest) s.fullName = _
      rw [Ledger.getCons, Ledger.getCons, ih]
      split <;> rfl
  rw [mapped, scanned]
  rfl

/-! Both together. -/

def Decoration.isNamed : Decoration → Bool
  | .requireOne _ (.text name) _ => name ≠ ""
  | .requireOne _ _ _ => false
  | _ => true

/-- Decorators of the plain forms, a name with every getter, and the group marker at most once. -/
structure Plain (classes : Resolution) (decorators : List Expr) : Prop where
  called : ∀ d ∈ decorators, (decorationOf classes d).any Decoration.isNamed = true
  marked : (decorators.filter (decoratorKind · = some .group)).length ≤ 1

theorem Plain.calls {decorators : List Expr} (plain : Plain classes decorators) {d : Expr} (member : d ∈ decorators) :
    ∃ x, decorationOf classes d = some x ∧ x.isNamed = true := by
  have named := plain.called d member
  cases called : decorationOf classes d with
  | none =>
    rw [called] at named
    cases named
  | some x =>
    rw [called] at named
    exact ⟨x, rfl, named⟩

theorem kindOf {d : Expr} {x : Decoration} (called : decorationOf classes d = some x) : ∃ kind, decoratorKind d = some kind := by
  unfold decorationOf at called
  obtain ⟨kind, known, _⟩ := Option.bind_eq_some_iff.mp called
  exact ⟨kind, known⟩

theorem annotatedKind {u : SourceUnit} {d : Expr} {o : Override} (told : annotationAt u d = some (.override o)) :
    decoratorKind d = some .override := by
  unfold annotationAt at told
  split at told
  · cases told
  · assumption
  · cases told

theorem requiredKind {d : Expr} {type : String} (told : type ∈ requirementsAt d) :
    decoratorKind d = some .requirement := by
  unfold requirementsAt at told
  split at told
  · assumption
  · cases told

theorem recordedToRead {s : Site} (plain : Plain classes s.decorators) {d : Expr} (member : d ∈ s.decorators)
    {x : Decoration} (called : decorationOf classes d = some x) {k : ClassId} (recorded : k ∈ x.types) :
    ∃ type, (type ∈ s.requirements ∨ ∃ o, Annotation.override o ∈ s.annotations ∧ Names o type) ∧
      classes type = some k := by
  obtain ⟨kind, known⟩ := kindOf called
  cases kind with
  | group =>
    obtain ⟨v, _, _, rfl⟩ := groupReceived s.unit known called
    cases recorded
  | override =>
    obtain ⟨o, type, name, t, told, rfl, typed, resolved, named⟩ := overrideReceived s.unit known called
    cases List.mem_singleton.mp recorded
    obtain ⟨_, again, isNamed⟩ := plain.calls member
    cases called.symm.trans again
    exact ⟨type, .inr ⟨o, List.mem_filterMap.mpr ⟨d, member, told⟩, typed, name, named, of_decide_eq_true isNamed⟩,
      resolved⟩
  | requirement =>
    obtain ⟨types, rfl, each⟩ := requirementReceived known called
    obtain ⟨type, found, resolved⟩ := sourceOf each recorded
    exact ⟨type, .inl (List.mem_flatMap.mpr ⟨d, member, found⟩), resolved⟩

theorem readToRecorded {s : Site} (plain : Plain classes s.decorators) {type : String} {k : ClassId}
    (resolved : classes type = some k)
    (told : type ∈ s.requirements ∨ ∃ o, Annotation.override o ∈ s.annotations ∧ Names o type) :
    ∃ d ∈ s.decorators, ∃ x, decorationOf classes d = some x ∧ k ∈ x.types := by
  rcases told with required | ⟨o, annotated, typed, _⟩
  · obtain ⟨d, member, told⟩ := List.mem_flatMap.mp required
    obtain ⟨x, called, _⟩ := plain.calls member
    obtain ⟨types, rfl, each⟩ := requirementReceived (requiredKind told) called
    exact ⟨d, member, _, called, imageOf each told resolved⟩
  · obtain ⟨d, member, told⟩ := List.mem_filterMap.mp annotated
    obtain ⟨x, called, _⟩ := plain.calls member
    obtain ⟨o', type', name, t, told', rfl, typed', resolved', _⟩ :=
      overrideReceived s.unit (annotatedKind told) called
    cases told.symm.trans told'
    cases typed.symm.trans typed'
    cases resolved.symm.trans resolved'
    exact ⟨d, member, _, called, List.mem_singleton_self _⟩

theorem marksAgree (u : SourceUnit) {decorators : List Expr} {ds : List Decoration}
    (each : List.Forall₂ (fun d x => decorationOf classes d = some x) decorators ds) :
    ds.filterMap Decoration.mark? = ((decorators.filterMap (annotationAt u)).filterMap groupText).map Value.text := by
  induction each with
  | nil => rfl
  | @cons d x _ _ called _ ih =>
    have first : x.mark? = ((annotationAt u d).bind groupText).map Value.text := by
      obtain ⟨kind, known⟩ := kindOf called
      cases kind with
      | group =>
        obtain ⟨v, place, told, rfl⟩ := groupReceived u known called
        rw [told]
        rfl
      | override =>
        obtain ⟨o, _, _, _, told, rfl, _⟩ := overrideReceived u known called
        rw [told]
        rfl
      | requirement =>
        obtain ⟨types, rfl, _⟩ := requirementReceived known called
        rw [annotationAt, known]
        rfl
    rw [List.filterMap_cons, first, ih, List.filterMap_cons]
    cases told : annotationAt u d with
    | none => rfl
    | some a =>
      rw [List.filterMap_cons, Option.bind_some]
      cases groupText a <;> rfl

theorem marksCounted (u : SourceUnit) (decorators : List Expr) :
    ((decorators.filterMap (annotationAt u)).filterMap groupText).length =
      (decorators.filter (decoratorKind · = some .group)).length := by
  rw [List.filterMap_filterMap, List.length_filterMap_eq_countP, ← List.countP_eq_length_filter]
  congr 1
  funext d
  unfold annotationAt
  cases decoratorKind d with
  | none => rfl
  | some kind => cases kind <;> rfl

/-- The decorators of a class, read from the source or run, tell the same: the types that running them records are
those that the scan and the aggregation have, the recorded visibility is the aggregated one, and every getter
gets the type, the name and the visibility that were read. -/
theorem decoratorsAgree {w : World} (reached : w.Reachable) {c : ClassId} (known : c < w.classes.length)
    (own : c ≠ ClassTable.base) (fresh : w.classes.required? c = some []) {s : Site}
    (plain : Plain classes s.decorators) :
    (∃ v types, (decorateAll classes c s.decorators).runIn w = (.ok (), v) ∧
      v.classes.required? c = some types ∧
      (∀ k, k ∈ types ↔ ∃ type,
        (type ∈ (classContainer s).required ∨ type ∈ Ledger.keys (classContainer s).overrides) ∧
          classes type = some k) ∧
      v.classes.groupVisibility c = ((classContainer s).defaults.map Value.text).or (w.classes.groupVisibility c)) ∧
    (∀ d ∈ s.decorators, decoratorKind d = some .override → ∃ o type name t,
      s.unit.annotationOf d .override = some (.override o) ∧
        decorationOf classes d = some (.requireOne t (.text name) (.text o.visibility)) ∧
        o.typeName = some type ∧ classes type = some t ∧ o.name = some name) ∧
    ∀ units, (markedSites units).filter (·.fullName = s.fullName) = [s] →
      Ledger.get? (Containers.scan units).aggregate s.fullName = some (classContainer s) := by
  refine ⟨?_, ?_, fun units => scannedAlone⟩
  · obtain ⟨ds, all⟩ := allOf fun d member => Option.isSome_iff_exists.mpr ((plain.calls member).imp fun _ => And.left)
    have each := eachOf all
    have before : Recorded w c (fun _ => False) (w.classes.groupVisibility c) :=
      ⟨reachableWhole reached, known, ⟨[], fresh, fun k => iff_false_right id |>.mpr (List.not_mem_nil)⟩, rfl⟩
    obtain ⟨v, ran, after⟩ := applyAllRecords before own ds.reverse
    obtain ⟨types, required, members⟩ := after.required
    obtain ⟨readRequired, readDefaults, readOverrides⟩ := classContainerParts s
    refine ⟨v, types, ?_, required, fun k => ?_, ?_⟩
    · unfold decorateAll
      rw [all]
      exact ran
    · rw [members]
      constructor
      · rintro (none | ⟨x, member, recorded⟩)
        · exact none.elim
        · obtain ⟨d, found, called⟩ := sourceOf each (List.mem_reverse.mp member)
          obtain ⟨type, told, resolved⟩ := recordedToRead plain found called recorded
          exact ⟨type, told.imp (readRequired type).mpr (readOverrides type).mpr, resolved⟩
      · rintro ⟨type, told, resolved⟩
        obtain ⟨d, member, x, called, recorded⟩ :=
          readToRecorded plain resolved (told.imp (readRequired type).mp (readOverrides type).mp)
        exact .inr ⟨x, List.mem_reverse.mpr (imageOf each member called), recorded⟩
    · have few := marksCounted s.unit s.decorators ▸ plain.marked
      rw [after.visibility, readDefaults, List.filterMap_reverse, List.getLast?_reverse, marksAgree s.unit each]
      unfold Site.annotations
      congr 1
      match (s.decorators.filterMap (annotationAt s.unit)).filterMap groupText, few with
      | [], _ => rfl
      | [v], _ => rfl
  · intro d member kind
    obtain ⟨x, called, _⟩ := plain.calls member
    obtain ⟨o, type, name, t, told, rfl, rest⟩ := overrideReceived s.unit kind called
    refine ⟨o, type, name, t, ?_, called, rest⟩
    rw [← told, annotationAt, kind]
    rfl

def turretUnit : SourceUnit :=
  let text := "@require_component(Body, parts.Health)\n@require_component_getters(visibility=\"protected\")\n" ++
    "@require_component_getter(Engine, visibility=\"private\", name=\"engine\")\nclass Turret:\n    pass\n"
  ⟨"units", text, (readModule text.toList).getD [], none⟩

def turretSite : Site :=
  match turretUnit.tree with
  | [.classDef start name decorators _] => ⟨⟨[], start, name, decorators⟩, turretUnit⟩
  | _ => ⟨⟨[], default, "", []⟩, turretUnit⟩

def turretWorld : World :=
  World.after {} (["Body", "Health", "Engine", "Turret"].map fun name => .defineClass name [] false)

def turretClasses : Resolution := fun name =>
  Ledger.get? turretWorld.names (if name = "parts.Health" then "Health" else name)

theorem decoratorsAgreeTurret : turretSite.decorators.length = 3 ∧
    ∃ v types, (decorateAll turretClasses 5 turretSite.decorators).runIn turretWorld = (.ok (), v) ∧
      v.classes.required? 5 = some types ∧ (∀ k, k ∈ types ↔ ∃ type,
        (type ∈ (classContainer turretSite).required ∨ type ∈ Ledger.keys (classContainer turretSite).overrides) ∧
          turretClasses type = some k) ∧
      v.classes.groupVisibility 5 =
        ((classContainer turretSite).defaults.map Value.text).or (turretWorld.classes.groupVisibility 5) := by
  refine ⟨by decide +kernel, ?_⟩
  exact (decoratorsAgree ⟨_, rfl⟩ (by decide +kernel) (by decide) (by decide +kernel)
    ⟨by decide +kernel, by decide +kernel⟩).1

end AccessorForge.Hosting
