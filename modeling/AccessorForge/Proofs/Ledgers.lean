import AccessorForge.Ledger
import Mathlib.Data.List.Induction
/-! Ledgers as functions of what was put into them. A ledger is known by the order of its keys and by what it
holds under each; one that collects a list by key has the keys in the order of their first occurrence. -/
namespace AccessorForge
variable {α β : Type}

/-! First occurrences. -/

theorem eraseDupsConcat (xs : List String) (x : String) :
    (xs ++ [x]).eraseDups = appendNew xs.eraseDups x := by
  rw [List.eraseDups_append]
  unfold appendNew
  by_cases known : x ∈ xs
  · have gone : [x].removeAll xs = [] := by simp [List.removeAll, known]
    simp [gone, List.mem_eraseDups, known]
  · have kept : [x].removeAll xs = [x] := by simp [List.removeAll, known]
    simp [kept, List.mem_eraseDups, known, List.eraseDups_cons]

theorem appendNewNodup {xs : List String} (unique : xs.Nodup) (x : String) : (appendNew xs x).Nodup := by
  unfold appendNew
  split
  · exact unique
  · rename_i fresh
    rw [List.nodup_append]
    refine ⟨unique, by simp, ?_⟩
    intro a member b single same
    rw [List.mem_singleton.mp single] at same
    exact fresh (same ▸ member)

theorem eraseDupsNodup (xs : List String) : xs.eraseDups.Nodup := by
  induction xs using List.reverseRecOn with
  | nil => simp
  | append_singleton xs x ih =>
    rw [eraseDupsConcat]
    exact appendNewNodup ih x

theorem foldlAppendNew (xs ys : List String) :
    ys.foldl appendNew xs.eraseDups = (xs ++ ys).eraseDups := by
  induction ys generalizing xs with
  | nil => simp
  | cons y rest ih =>
    rw [List.foldl_cons, ← eraseDupsConcat, ih]
    simp

theorem foldlAppendNewNodup {xs : List String} (unique : xs.Nodup) : xs.foldl appendNew [] = xs := by
  induction xs using List.reverseRecOn with
  | nil => rfl
  | append_singleton xs x ih =>
    obtain ⟨before, -, apart⟩ := List.nodup_append.mp unique
    have new : x ∉ xs := fun there => apart x there x List.mem_cons_self rfl
    rw [List.foldl_append, ih before, List.foldl_cons, List.foldl_nil, appendNew, if_neg new]

theorem memFoldlAppendNew {xs ys : List String} {x : String} : x ∈ ys.foldl appendNew xs ↔ x ∈ xs ∨ x ∈ ys := by
  induction ys generalizing xs with
  | nil => simp
  | cons y rest ih => simp [ih, mem_appendNew, or_assoc]

theorem foldlAppendNewKnown {xs ys : List String} (known : ∀ y ∈ ys, y ∈ xs) : ys.foldl appendNew xs = xs := by
  induction ys with
  | nil => rfl
  | cons y rest ih =>
    have there := known y List.mem_cons_self
    simp only [List.foldl_cons, appendNew, if_pos there]
    exact ih fun z member => known z (List.mem_cons_of_mem _ member)

namespace Ledger

/-! Keys and what is held under them. -/

theorem getCons (k j : String) (v : α) (rest : Ledger α) :
    get? ((j, v) :: rest) k = if j = k then some v else get? rest k := by
  by_cases same : j = k <;> simp [get?, same]

theorem getNoneIff {m : Ledger α} {k : String} : get? m k = none ↔ k ∉ keys m := by
  induction m with
  | nil => simp [get?, keys]
  | cons head rest ih =>
    obtain ⟨j, v⟩ := head
    rw [getCons]
    by_cases same : j = k
    · simp [keys, same]
    · have other : k ≠ j := fun back => same back.symm
      rw [if_neg same, ih]
      simp [keys, other]

theorem memberOfGet {m : Ledger α} {k : String} {v : α} (found : get? m k = some v) : (k, v) ∈ m := by
  induction m with
  | nil => simp [get?] at found
  | cons head rest ih =>
    obtain ⟨j, w⟩ := head
    rw [getCons] at found
    split at found
    · rename_i same
      cases Option.some.inj found
      simp [same]
    · exact List.mem_cons_of_mem _ (ih found)

theorem hasKeys (m : Ledger α) (k : String) : has m k = decide (k ∈ keys m) := by
  rw [Bool.eq_iff_iff, decide_eq_true_iff]
  simp [has, keys]

theorem getOfMember {m : Ledger α} (unique : (keys m).Nodup) {k : String} {v : α} (member : (k, v) ∈ m) :
    get? m k = some v := by
  induction m with
  | nil => cases member
  | cons head rest ih =>
    obtain ⟨fresh, unique⟩ := List.nodup_cons.mp unique
    rw [getCons]
    rcases List.mem_cons.mp member with rfl | later
    · simp
    · have other : head.1 ≠ k := fun same => fresh (List.mem_map.mpr ⟨_, later, same.symm⟩)
      rw [if_neg other, ih unique later]

theorem sameLedger {m n : Ledger α} (unique : (keys m).Nodup) (order : keys m = keys n)
    (held : ∀ k, get? m k = get? n k) : m = n := by
  induction m generalizing n with
  | nil => exact (List.map_eq_nil_iff.mp order.symm).symm
  | cons head rest ih =>
    obtain ⟨j, v⟩ := head
    cases n with
    | nil => simp [keys] at order
    | cons other tail =>
      obtain ⟨k, w⟩ := other
      obtain ⟨fresh, unique⟩ := List.nodup_cons.mp unique
      obtain ⟨same, after⟩ : j = k ∧ keys rest = keys tail := by simpa [keys] using order
      subst same
      have first := held j
      rw [getCons, getCons, if_pos rfl, if_pos rfl] at first
      cases Option.some.inj first
      rw [ih unique after]
      intro k
      by_cases here : j = k
      · subst here
        rw [getNoneIff.mpr fresh, getNoneIff.mpr (after ▸ fresh)]
      · simpa only [getCons, if_neg here] using held k

theorem keysPutEq (m : Ledger α) (k : String) (v : α) : keys (put k v m) = appendNew (keys m) k :=
  keys_put m k v

theorem getPut (m : Ledger α) (k l : String) (v : α) :
    get? (put k v m) l = if l = k then some v else get? m l := by
  split
  · rename_i same
    rw [same, get?_put_self]
  · rename_i other
    exact get?_put_of_ne m v other

theorem putNew {m : Ledger α} {k : String} (new : k ∉ keys m) (v : α) : put k v m = m ++ [(k, v)] := by
  induction m with
  | nil => rfl
  | cons e rest ih =>
    obtain ⟨other, later⟩ := not_or.mp fun either => new (List.mem_cons.mpr either)
    rw [put, if_neg fun same => other same.symm, ih later]
    rfl

theorem putSame {m : Ledger α} {k : String} {v : α} (held : get? m k = some v) : put k v m = m := by
  induction m with
  | nil => cases held
  | cons head rest ih =>
    obtain ⟨j, w⟩ := head
    rw [getCons] at held
    unfold put
    split at held
    · next same => rw [if_pos same, ← Option.some.inj held, same]
    · next other => rw [if_neg other, ih held]

/-! Putting entries in one after the other. -/

def putAll (m : Ledger α) (es : List (String × α)) : Ledger α := es.foldl (fun m e => put e.1 e.2 m) m

theorem putAllAppend (m : Ledger α) (es fs : List (String × α)) :
    putAll m (es ++ fs) = putAll (putAll m es) fs := List.foldl_append

theorem putAllConcat (m : Ledger α) (es : List (String × α)) (e : String × α) :
    putAll m (es ++ [e]) = put e.1 e.2 (putAll m es) := putAllAppend m es [e]

theorem keysPutAll (m : Ledger α) (es : List (String × α)) :
    keys (putAll m es) = (es.map (·.1)).foldl appendNew (keys m) := by
  induction es generalizing m with
  | nil => rfl
  | cons e rest ih =>
    rw [putAll, List.foldl_cons, ← putAll, ih, keysPutEq]
    rfl

theorem keysPutAllEmpty (es : List (String × α)) : keys (putAll [] es) = (es.map (·.1)).eraseDups := by
  rw [keysPutAll]
  simpa [keys] using foldlAppendNew [] (es.map (·.1))

theorem getPutAll (m : Ledger α) (es : List (String × α)) (k : String) :
    get? (putAll m es) k = ((es.filter (·.1 = k)).getLast?.map (·.2)).or (get? m k) := by
  induction es using List.reverseRecOn with
  | nil => rfl
  | append_singleton es e ih =>
    rw [putAllConcat, getPut, ih, List.filter_append]
    by_cases same : e.1 = k
    · simp [same]
    · have other : ¬ k = e.1 := fun back => same back.symm
      simp [same, other]

theorem putAllAgain (es fs : List (String × α)) : putAll (putAll [] es) (es ++ fs) = putAll [] (es ++ fs) := by
  apply sameLedger
  · rw [keysPutAll, keysPutAllEmpty, foldlAppendNew]
    exact eraseDupsNodup _
  · have known : ∀ k ∈ es.map (·.1), k ∈ (es.map (·.1)).eraseDups := fun k member => List.mem_eraseDups.mpr member
    rw [keysPutAll, keysPutAllEmpty, keysPutAllEmpty, List.map_append, List.foldl_append,
      foldlAppendNewKnown known, foldlAppendNew]
  · intro k
    rw [getPutAll, getPutAll, getPutAll, List.filter_append, List.getLast?_append]
    cases (fs.filter (·.1 = k)).getLast? <;> cases (es.filter (·.1 = k)).getLast? <;> rfl

/-! Keeping only some of the keys. -/

theorem filterPut (keep : String → Bool) (m : Ledger α) (k : String) (v : α) :
    (put k v m).filter (fun e => keep e.1) =
      if keep k then put k v (m.filter fun e => keep e.1) else m.filter fun e => keep e.1 := by
  induction m with
  | nil => cases kept : keep k <;> simp [put, kept]
  | cons head rest ih =>
    obtain ⟨j, w⟩ := head
    by_cases same : j = k
    · subst same
      cases kept : keep j <;> simp [put, kept]
    · cases kept : keep k <;> cases here : keep j <;> simp [put, same, here, ih, kept]

theorem getFilter (keep : String → Bool) (m : Ledger α) (k : String) :
    get? (m.filter fun e => keep e.1) k = if keep k then get? m k else none := by
  induction m with
  | nil => simp [get?]
  | cons head rest ih =>
    obtain ⟨j, w⟩ := head
    by_cases same : j = k
    · subst same
      cases kept : keep j <;> simp [kept, ih, getCons]
    · cases here : keep j <;> simp [here, ih, getCons, same]

theorem filterPutAll (keep : String → Bool) (m : Ledger α) (es : List (String × α)) :
    (putAll m es).filter (fun e => keep e.1) =
      putAll (m.filter fun e => keep e.1) (es.filter fun e => keep e.1) := by
  induction es generalizing m with
  | nil => rfl
  | cons e rest ih =>
    rw [putAll, List.foldl_cons, ← putAll, ih, filterPut]
    cases kept : keep e.1 <;> simp [putAll, kept]

/-! Collecting a list by key. -/

/-- Take an element in under its key: `start` opens what is held there, `step` adds to it. -/
def collectOne (key : α → String) (start : α → β) (step : β → α → β) (m : Ledger β) (a : α) : Ledger β :=
  put (key a) (step ((get? m (key a)).getD (start a)) a) m

def collect (key : α → String) (start : α → β) (step : β → α → β) (xs : List α) : Ledger β :=
  xs.foldl (collectOne key start step) []

def gathered (start : α → β) (step : β → α → β) : List α → Option β
  | [] => none
  | first :: rest => some ((first :: rest).foldl step (start first))

theorem gatheredConcat (start : α → β) (step : β → α → β) (xs : List α) (x : α) :
    gathered start step (xs ++ [x]) = some (step ((gathered start step xs).getD (start x)) x) := by
  cases xs with
  | nil => simp [gathered]
  | cons first rest => simp [gathered, List.foldl_append]

theorem collectConcat (key : α → String) (start : α → β) (step : β → α → β) (xs : List α) (x : α) :
    collect key start step (xs ++ [x]) = collectOne key start step (collect key start step xs) x := by
  simp [collect, List.foldl_append]

theorem keysCollect (key : α → String) (start : α → β) (step : β → α → β) (xs : List α) :
    keys (collect key start step xs) = (xs.map key).eraseDups := by
  induction xs using List.reverseRecOn with
  | nil => rfl
  | append_singleton xs x ih =>
    rw [collectConcat, collectOne, keysPutEq, ih, List.map_append, List.map_singleton, eraseDupsConcat]

theorem getCollect (key : α → String) (start : α → β) (step : β → α → β) (xs : List α) (k : String) :
    get? (collect key start step xs) k = gathered start step (xs.filter (key · = k)) := by
  induction xs using List.reverseRecOn with
  | nil => rfl
  | append_singleton xs x ih =>
    rw [collectConcat, collectOne, getPut, List.filter_append]
    by_cases same : k = key x
    · subst same
      rw [if_pos rfl, ih, ← gatheredConcat]
      simp
    · have other : ¬ key x = k := fun back => same back.symm
      rw [if_neg same, ih]
      simp [other]

def tabulated (ks : List String) (f : String → Option β) : Ledger β :=
  ks.filterMap fun k => (f k).map fun v => (k, v)

theorem getTabulated (ks : List String) (f : String → Option β) (k : String) :
    get? (tabulated ks f) k = if k ∈ ks then f k else none := by
  induction ks with
  | nil => rfl
  | cons j rest ih =>
    have unfolded : tabulated (j :: rest) f = ((f j).map fun v => (j, v)).toList ++ tabulated rest f := by
      cases hj : f j <;> simp [tabulated, hj]
    rw [unfolded]
    cases hj : f j with
    | none =>
      simp only [Option.map_none, Option.toList_none, List.nil_append, ih, List.mem_cons]
      by_cases same : k = j
      · subst same
        simp [hj]
      · simp [same]
    | some v =>
      simp only [Option.map_some, Option.toList_some, List.cons_append, List.nil_append, getCons, ih,
        List.mem_cons]
      by_cases same : j = k
      · subst same
        simp [hj]
      · have other : k ≠ j := fun back => same back.symm
        simp [same, other]

theorem keysTabulated {ks : List String} {f : String → Option β} (every : ∀ k ∈ ks, (f k).isSome) :
    keys (tabulated ks f) = ks := by
  induction ks with
  | nil => rfl
  | cons j rest ih =>
    obtain ⟨v, hv⟩ := Option.isSome_iff_exists.mp (every j List.mem_cons_self)
    have tail := ih fun k member => every k (List.mem_cons_of_mem _ member)
    simp only [tabulated, keys] at tail
    simp [tabulated, keys, hv, tail]

theorem collectTabulates (key : α → String) (start : α → β) (step : β → α → β) (xs : List α) :
    collect key start step xs =
      tabulated (xs.map key).eraseDups fun k => gathered start step (xs.filter (key · = k)) := by
  have every : ∀ k ∈ (xs.map key).eraseDups, (gathered start step (xs.filter (key · = k))).isSome := by
    intro k member
    obtain ⟨a, inside, same⟩ := List.mem_map.mp (List.mem_eraseDups.mp member)
    have found : a ∈ xs.filter (key · = k) := List.mem_filter.mpr ⟨inside, by simpa using same⟩
    cases group : xs.filter (key · = k) with
    | nil => simp [group] at found
    | cons first rest => rfl
  apply sameLedger
  · rw [keysCollect]
    exact eraseDupsNodup _
  · rw [keysCollect, keysTabulated every]
  · intro k
    rw [getCollect, getTabulated]
    split
    · rfl
    · rename_i absent
      have none : xs.filter (key · = k) = [] := by
        rw [List.filter_eq_nil_iff]
        intro a inside same
        exact absent (List.mem_eraseDups.mpr (List.mem_map.mpr ⟨a, inside, by simpa using same⟩))
      rw [none]
      rfl

end Ledger

end AccessorForge
