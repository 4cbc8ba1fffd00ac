import AccessorForge.Proofs.Requirements
/-! Linear orders of ancestors. Merging keeps every order that goes in, and names no class twice; so in every world
the order of a class has the orders of its ancestors in it, each as it is. -/
namespace AccessorForge.Hosting

/-! Merging. -/

theorem goodHeadApart {lists : List (List ClassId)} {c : ClassId} (found : goodHead lists = some c) :
    ∀ l ∈ lists, c ∉ l.tail := by
  obtain ⟨k, _, found⟩ := List.exists_of_findSome?_eq_some found
  split at found
  · cases found
  · split at found
    · cases found
    · next free =>
      cases found
      simpa using free

theorem mergeOrdersKeep {fuel : Nat} {lists : List (List ClassId)} {order : List ClassId}
    (merged : mergeOrders fuel lists = some order) : ∀ l ∈ lists, l.Sublist order := by
  induction fuel generalizing lists order with
  | zero => cases merged
  | succ fuel ih =>
    intro l member
    cases l with
    | nil => exact List.nil_sublist order
    | cons d rest =>
      have kept : d :: rest ∈ lists.filter (!·.isEmpty) := List.mem_filter.mpr ⟨member, rfl⟩
      rcases mergeOrdersStep merged with ⟨empty, _⟩ | ⟨first, others, _, tail, rfl⟩
      · simp [empty] at kept
      · have later := ih tail _ (List.mem_map_of_mem kept)
        rw [dropHead] at later
        split at later
        · next here => exact here ▸ later.cons_cons d
        · exact later.cons first

/- A head that is taken stands in no tail, and so in none of the lists that are left. -/
theorem mergeOrdersNodup {fuel : Nat} {lists : List (List ClassId)} {order : List ClassId}
    (merged : mergeOrders fuel lists = some order) (unique : ∀ l ∈ lists, l.Nodup) : order.Nodup := by
  induction fuel generalizing lists order with
  | zero => cases merged
  | succ fuel ih =>
    rcases mergeOrdersStep merged with ⟨_, rfl⟩ | ⟨first, others, head, tail, rfl⟩
    · exact List.nodup_nil
    · have dropped : ∀ l ∈ (lists.filter (!·.isEmpty)).map (dropHead first), l.Nodup ∧ first ∉ l := by
        rintro _ member
        obtain ⟨l, kept, rfl⟩ := List.mem_map.mp member
        have before := unique l (List.mem_filter.mp kept).1
        have apart := goodHeadApart head l kept
        refine ⟨before.sublist (dropHeadSublist first l), ?_⟩
        cases l with
        | nil => exact List.not_mem_nil
        | cons d rest =>
          rw [dropHead]
          split
          · exact apart
          · next other => exact fun there => (List.mem_cons.mp there).elim (fun same => other same.symm) apart
      refine List.nodup_cons.mpr ⟨fun again => ?_, ih tail fun l member => (dropped l member).1⟩
      obtain ⟨l, member, there⟩ := mergeOrdersWithin tail first again
      exact (dropped l member).2 there

theorem repetitionFree {bases : List ClassId} (free : hasRepetition bases = false) : bases.Nodup := by
  induction bases with
  | nil => exact List.nodup_nil
  | cons c rest ih =>
    obtain ⟨apart, others⟩ := Bool.or_eq_false_iff.mp free
    exact List.nodup_cons.mpr ⟨by simpa using apart, ih others⟩

/-- The class itself, then its ancestors: a merge of the orders of its bases and of the bases themselves. -/
theorem orderOfParts {self : ClassId} {bases : List ClassId} {orders : List (List ClassId)} {order : List ClassId}
    (ordered : orderOf self bases orders = some order) :
    ∃ above, order = self :: above ∧ ((∀ l ∈ orders, l.Nodup) → above.Nodup) ∧ (∀ l ∈ orders, l.Sublist above) ∧
      ∀ d ∈ above, d ∈ bases ∨ ∃ l ∈ orders, d ∈ l := by
  unfold orderOf at ordered
  split at ordered
  · cases ordered
  · next free =>
    obtain ⟨above, merged, rfl⟩ := Option.map_eq_some_iff.mp ordered
    refine ⟨above, rfl, fun unique => mergeOrdersNodup merged fun l member => ?_,
      fun l member => mergeOrdersKeep merged l (List.mem_append_left _ member), fun d ancestor => ?_⟩
    · rcases List.mem_append.mp member with theirs | own
      · exact unique l theirs
      · exact List.mem_singleton.mp own ▸ repetitionFree (by simpa using free)
    · obtain ⟨l, member, there⟩ := mergeOrdersWithin merged d ancestor
      rcases List.mem_append.mp member with theirs | own
      · exact .inr ⟨l, theirs, there⟩
      · exact .inl (List.mem_singleton.mp own ▸ there)

/-! The order of a class. -/

/-- No class stands in an order twice, and the ancestors of an ancestor keep their order. -/
structure ClassTable.Linear (t : ClassTable) : Prop where
  unique : ∀ c, (t.order c).Nodup
  sorted : ∀ c, ∀ d ∈ t.order c, (t.order d).Sublist (t.order c)

theorem linearSame {t u : ClassTable} (linear : t.Linear) (same : ∀ c, u.order c = t.order c) : u.Linear := by
  refine ⟨fun c => same c ▸ linear.unique c, fun c d ancestor => ?_⟩
  rw [same] at ancestor
  rw [same, same]
  exact linear.sorted c d ancestor

theorem orderUnknown {t : ClassTable} {c : ClassId} (unknown : t.length ≤ c) : t.order c = [] := by
  rw [ClassTable.order, List.getElem?_eq_none unknown]
  rfl

theorem linearGrown {w : World} (whole : w.Whole) (linear : w.classes.Linear) {u : ClassTable} {slots : Ledger Slot}
    (grows : w.classes.Grows u slots) : u.Linear := by
  obtain ⟨bases, known, ordered⟩ := grows.last
  obtain ⟨above, new, unique, kept, source⟩ := orderOfParts ordered
  have theirs : ∀ b ∈ bases, (w.classes.order b).Sublist above := fun b base => kept _ (List.mem_map_of_mem base)
  have inside : ∀ d ∈ above, d < w.classes.length ∧ (w.classes.order d).Sublist above := by
    intro d ancestor
    rcases source d ancestor with base | ⟨l, member, there⟩
    · exact ⟨known d base, theirs d base⟩
    · obtain ⟨b, base, rfl⟩ := List.mem_map.mp member
      exact ⟨orderWithin whole b d there, (linear.sorted b d there).trans (theirs b base)⟩
  have unique := unique fun l member => by
    obtain ⟨b, _, rfl⟩ := List.mem_map.mp member
    exact linear.unique b
  have place (c : ClassId) : c < w.classes.length ∨ c = w.classes.length ∨ u.order c = [] := by
    rcases Nat.lt_trichotomy c w.classes.length with earlier | last | later
    · exact .inl earlier
    · exact .inr (.inl last)
    · exact .inr (.inr (orderUnknown (grows.length ▸ later)))
  refine ⟨fun c => ?_, fun c d ancestor => ?_⟩
  · rcases place c with earlier | rfl | unknown
    · exact grows.order earlier ▸ linear.unique c
    · rw [new]
      exact List.nodup_cons.mpr ⟨fun ancestor => Nat.lt_irrefl _ (inside _ ancestor).1, unique⟩
    · exact unknown ▸ List.nodup_nil
  · rcases place c with earlier | rfl | unknown
    · rw [grows.order earlier] at ancestor ⊢
      rw [grows.order (orderWithin whole c d ancestor)]
      exact linear.sorted c d ancestor
    · rw [new] at ancestor
      rcases List.mem_cons.mp ancestor with rfl | higher
      · exact .refl _
      · rw [grows.order (inside d higher).1, new]
        exact (inside d higher).2.cons _
    · rw [unknown] at ancestor
      cases ancestor

/-! Places of ancestors. -/

theorem notBehind {before behind : List ClassId} {c d : ClassId} (unique : (before ++ c :: behind).Nodup)
    (later : d ∈ behind) : ¬ [d, c].Sublist (before ++ c :: behind) := by
  intro sublist
  obtain ⟨front, back, parts, left, right⟩ := List.sublist_append_iff.mp sublist
  cases front with
  | cons e more =>
    obtain ⟨rfl, _⟩ := List.cons.inj parts
    have early : d ∈ before := left.subset List.mem_cons_self
    exact (List.nodup_append.mp unique).2.2 d early d (List.mem_cons_of_mem c later) rfl
  | nil =>
    cases parts
    obtain ⟨alone, _⟩ := List.nodup_cons.mp (List.nodup_append.mp unique).2.1
    rcases List.sublist_cons_iff.mp right with inside | ⟨rest, same, _⟩
    · exact alone (inside.subset (by simp))
    · cases same
      exact alone later

section
variable {w : World} (whole : w.Whole) (linear : w.classes.Linear) {c d e : ClassId}
include whole linear

theorem orderShorter (ancestor : e ∈ (w.classes.order c).tail) :
    (w.classes.order e).length < (w.classes.order c).length := by
  have above := List.mem_of_mem_tail ancestor
  have part := linear.sorted c e above
  refine Nat.lt_of_le_of_ne part.length_le fun same => ?_
  obtain ⟨further, own⟩ := ownOrder whole (orderWithin whole c e above)
  have order := (part.eq_of_length same).symm.trans own
  have unique := linear.unique c
  rw [order] at ancestor unique
  exact (List.nodup_cons.mp unique).1 ancestor

/-- Among the ancestors of a class, none derives from one that stands before it. -/
theorem behindApart {before behind : List ClassId} (parts : w.classes.order c = before ++ e :: behind)
    (later : d ∈ behind) : w.classes.isSubclass d e = false := by
  have unique : (before ++ e :: behind).Nodup := parts ▸ linear.unique c
  have above : d ∈ w.classes.order c := by simp [parts, later]
  have apart : e ≠ d := by
    rintro rfl
    exact (List.nodup_cons.mp (List.nodup_append.mp unique).2.1).1 later
  by_contra derives
  obtain ⟨others, own⟩ := ownOrder whole (orderWithin whole c d above)
  have after : e ∈ others := by simpa [ClassTable.isSubclass, own, apart] using derives
  have pair : [d, e].Sublist (d :: others) := (List.singleton_sublist.mpr after).cons_cons d
  exact notBehind unique later (parts ▸ pair.trans (own ▸ linear.sorted c d above))

end

/-! Steps and runs. -/

theorem stepLinear {w : World} (whole : w.Whole) (a : Action) (linear : w.classes.Linear) :
    (w.step a).2.classes.Linear := by
  rcases stepClasses whole a with ⟨c, types, seen, _, _, step⟩ | amends | ⟨_, _, grows⟩
  · exact step ▸ linearSame linear fun c => setSlotOrder _ _ c _ _
  · exact linearSame linear amends.order
  · exact linearGrown whole linear grows

theorem initialLinear : ClassTable.initial.Linear := by
  have unique : ∀ c < 2, (ClassTable.initial.order c).Nodup := by decide
  have sorted : ∀ c < 2, ∀ d ∈ ClassTable.initial.order c,
    (ClassTable.initial.order d).Sublist (ClassTable.initial.order c) := by decide
  refine ⟨fun c => ?_, fun c d ancestor => ?_⟩
  · match c with
    | 0 => exact unique 0 (by decide)
    | 1 => exact unique 1 (by decide)
    | c + 2 => exact List.nodup_nil
  · match c with
    | 0 => exact sorted 0 (by decide) d ancestor
    | 1 => exact sorted 1 (by decide) d ancestor
    | c + 2 => cases ancestor

theorem momentLinear (run : List Action) (i : Nat) : (World.moment {} run i).classes.Linear :=
  throughout (I := fun w => w.classes.Linear) initialWhole initialLinear (fun a _ _ whole => stepLinear whole a) i

end AccessorForge.Hosting
