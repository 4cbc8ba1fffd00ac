/-! Line ends. A carriage return, alone or before a line feed, counts as one line feed. -/
namespace AccessorForge.Text.LineEnds

def unify : List Char → List Char
  | [] => []
  | '\r' :: '\n' :: rest => '\n' :: unify rest
  | c :: rest => (if c = '\r' then '\n' else c) :: unify rest

theorem unify_of_noReturn {cs : List Char} (h : ∀ c ∈ cs, c ≠ '\r') : unify cs = cs := by
  induction cs with
  | nil => rfl
  | cons c rest ih =>
    have hc : c ≠ '\r' := h c (by simp)
    rw [unify]
    · rw [if_neg hc, ih fun d hd => h d (by simp [hd])]
    · intro _ e
      exact absurd e hc

end AccessorForge.Text.LineEnds
