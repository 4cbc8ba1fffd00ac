/-! Maps that remember the order in which their keys first came. A key set again keeps its place. -/
namespace AccessorForge

abbrev Ledger (α : Type) := List (String × α)

namespace Ledger
variable {α : Type}

def get? (m : Ledger α) (k : String) : Option α := (m.find? (·.1 = k)).map (·.2)

def has (m : Ledger α) (k : String) : Bool := m.any (·.1 = k)

def keys (m : Ledger α) : List String := m.map (·.1)

def values (m : Ledger α) : List α := m.map (·.2)

def put (k : String) (v : α) : Ledger α → Ledger α
  | [] => [(k, v)]
  | (j, w) :: rest => if j = k then (k, v) :: rest else (j, w) :: put k v rest

def erase (m : Ledger α) (k : String) : Ledger α := m.filter (·.1 ≠ k)

theorem keys_put (m : Ledger α) (k : String) (v : α) :
    keys (put k v m) = if k ∈ keys m then keys m else keys m ++ [k] := by
  induction m with
  | nil => rfl
  | cons head rest ih =>
    obtain ⟨j, w⟩ := head
    by_cases h : j = k
    · subst h
      simp [put, keys]
    · have hk : k ≠ j := fun e => h e.symm
      simp only [keys] at ih
      by_cases hm : k ∈ List.map (·.1) rest <;> simp_all [put, keys]

theorem get?_put_self (m : Ledger α) (k : String) (v : α) : get? (put k v m) k = some v := by
  induction m with
  | nil => simp [put, get?]
  | cons head rest ih =>
    obtain ⟨j, w⟩ := head
    by_cases h : j = k
    · simp [put, get?, h]
    · simpa [put, get?, h] using ih

theorem get?_put_of_ne (m : Ledger α) {k l : String} (v : α) (h : l ≠ k) :
    get? (put k v m) l = get? m l := by
  have hkl : k ≠ l := fun e => h e.symm
  induction m with
  | nil => simp [put, get?, hkl]
  | cons head rest ih =>
    obtain ⟨j, w⟩ := head
    by_cases hj : j = k
    · subst hj
      simp [put, get?, hkl]
    · by_cases hl : j = l
      · subst hl
        simp [put, get?, hj]
      · simpa [put, get?, hj, hl] using ih

end Ledger

def appendNew (xs : List String) (x : String) : List String := if x ∈ xs then xs else xs ++ [x]

theorem mem_appendNew {xs : List String} {x y : String} : y ∈ appendNew xs x ↔ y ∈ xs ∨ y = x := by
  unfold appendNew
  split
  · rename_i h
    exact ⟨Or.inl, fun e => e.elim id fun e => e ▸ h⟩
  · simp

end AccessorForge
