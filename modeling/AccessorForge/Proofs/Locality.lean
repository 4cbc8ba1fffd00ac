import AccessorForge.Pass
import AccessorForge.Proofs.Ledgers
/-! Suppression is local. A container that is not generated claims no output name and is nobody's predecessor,
so that a pass without it does the same for all others. -/
namespace AccessorForge

namespace Verdict
variable (warningsAsErrors : Bool)

theorem settleFirst (claimed : Claimed) (v : Verdict) :
    ∃ w renewed,
      (∀ rest, settleFrom warningsAsErrors claimed (v :: rest) = w :: settleFrom warningsAsErrors renewed rest) ∧
      (w.kept = false → renewed = claimed) := by
  cases kept : v.kept with
  | false =>
    refine ⟨v, claimed, fun rest => ?_, fun _ => rfl⟩
    simp only [settleFrom, kept, Bool.false_eq_true, if_false]
  | true =>
    cases found : Ledger.get? claimed (Naming.outputName v.container.name) with
    | none =>
      refine ⟨v, Ledger.put (Naming.outputName v.container.name) v.container.fullName claimed, fun rest => ?_,
        fun dropped => absurd (kept.symm.trans dropped) (by simp)⟩
      simp only [settleFrom, kept, if_true, found]
    | some earlier =>
      let warned :=
        v.container.report (collision (Naming.outputName v.container.name) earlier v.container)
      cases warningsAsErrors with
      | true =>
        refine ⟨⟨warned, false⟩, claimed, fun rest => ?_, fun _ => rfl⟩
        simp only [settleFrom, kept, if_true, found, warned]
      | false =>
        refine ⟨⟨warned, true⟩, Ledger.put (Naming.outputName v.container.name) v.container.fullName claimed,
          fun rest => ?_, fun dropped => absurd dropped (by simp)⟩
        simp only [settleFrom, kept, if_true, found, Bool.false_eq_true, if_false, warned]

/- The claims are left open: those of the verdicts before the dropped one are the same with it and without it. -/
theorem settleWithout (vs : List Verdict) (claimed : Claimed) (i : Nat)
    (dropped : (settleFrom warningsAsErrors claimed vs)[i]?.map kept = some false) :
    settleFrom warningsAsErrors claimed (vs.eraseIdx i) =
      (settleFrom warningsAsErrors claimed vs).eraseIdx i := by
  induction vs generalizing claimed i with
  | nil => rfl
  | cons v rest ih =>
    obtain ⟨w, renewed, unfolded, unclaimed⟩ := settleFirst warningsAsErrors claimed v
    rw [unfolded] at dropped ⊢
    cases i with
    | zero =>
      have unkept : w.kept = false := by simpa using dropped
      rw [unclaimed unkept]
      rfl
    | succ i =>
      have later := ih renewed i (by simpa using dropped)
      rw [List.eraseIdx_cons_succ, List.eraseIdx_cons_succ, unfolded, later]

end Verdict

theorem keptWithout {vs : List Verdict} {i : Nat} (dropped : vs[i]?.map Verdict.kept = some false) :
    keptContainers (vs.eraseIdx i) = keptContainers vs := by
  induction vs generalizing i with
  | nil => rfl
  | cons v rest ih =>
    cases i with
    | zero =>
      have unkept : v.kept = false := by simpa using dropped
      simp [keptContainers, unkept]
    | succ i =>
      have later := ih (i := i) (by simpa using dropped)
      simp only [keptContainers] at later
      cases kept : v.kept <;> simp [keptContainers, kept, later]

theorem eraseMapped {α β : Type} (f : α → β) (xs : List α) (i : Nat) :
    (xs.map f).eraseIdx i = (xs.eraseIdx i).map f := by
  simp only [List.eraseIdx_eq_take_drop_succ, List.map_append, List.map_take, List.map_drop]

theorem erasedAt {α : Type} {m : Ledger α} {i : Nat} {name : String} (unique : m.keys.Nodup)
    (listed : m.keys[i]? = some name) : m.erase name = m.eraseIdx i := by
  induction m generalizing i with
  | nil => rfl
  | cons head rest ih =>
    obtain ⟨j, v⟩ := head
    obtain ⟨fresh, unique⟩ := List.nodup_cons.mp unique
    cases i with
    | zero =>
      obtain rfl : j = name := by simpa [Ledger.keys] using listed
      have others : Ledger.erase rest j = rest := by
        refine List.filter_eq_self.mpr fun entry member => ?_
        have key : entry.1 ∈ rest.map (·.1) := List.mem_map_of_mem member
        simpa using fun same : entry.1 = j => fresh (same ▸ key)
      simpa [Ledger.erase] using others
    | succ i =>
      have tail : (Ledger.keys rest)[i]? = some name := by simpa [Ledger.keys] using listed
      have other : j ≠ name := fun same => fresh (same ▸ List.mem_of_getElem? tail)
      have later := ih unique tail
      rw [Ledger.erase, List.filter_cons_of_pos (by simpa using other)]
      exact congrArg _ later

/-- A pass over all containers and a pass over all but one that it does not generate: the others get the same
verdicts, diagnostics included, in the same order, and the same modules are handed over. -/
theorem suppressionIsLocal (options : PassOptions) (cs : Containers) (unique : cs.keys.Nodup) (i : Nat)
    (name : String) (listed : cs.keys[i]? = some name)
    (dropped : (Analysis.ofContainers options.warningsAsErrors cs.values).verdicts[i]?.map Verdict.kept =
      some false) :
    let whole := Analysis.ofContainers options.warningsAsErrors cs.values
    let others := Analysis.ofContainers options.warningsAsErrors (cs.erase name).values
    (cs.erase name).keys = cs.keys.eraseIdx i ∧
      others.verdicts = whole.verdicts.eraseIdx i ∧
      keptContainers others.verdicts = keptContainers whole.verdicts ∧
      others.sources options = whole.sources options := by
  intro whole others
  have erased := erasedAt unique listed
  have keys : (cs.erase name).keys = cs.keys.eraseIdx i := by
    rw [erased]
    exact (eraseMapped _ cs i).symm
  have values : (cs.erase name).values = cs.values.eraseIdx i := by
    rw [erased]
    exact (eraseMapped _ cs i).symm
  have verdicts : others.verdicts = whole.verdicts.eraseIdx i := by
    have settled := Verdict.settleWithout options.warningsAsErrors
      (cs.values.map (Verdict.judge options.warningsAsErrors)) [] i dropped
    rw [eraseMapped, ← values] at settled
    exact settled
  have kept : keptContainers others.verdicts = keptContainers whole.verdicts := by
    rw [verdicts]
    exact keptWithout dropped
  refine ⟨keys, verdicts, kept, ?_⟩
  unfold Analysis.sources
  rw [kept]

/-- Three classes of one name. Where warnings count as errors, the last two are dropped for the first. -/
def namesakes : Containers :=
  ["x", "y", "z"].map fun module =>
    let fullName := module ++ ".A"
    (fullName, ⟨fullName, "A", module, ⟨module, "", [], none⟩, ⟨1, 0⟩, ["B"], none, [], [], []⟩)

theorem suppressionIsLocalNamesake :
    let others := Analysis.ofContainers true (namesakes.erase "y.A").values
    others.suppressed = ["z.A"] ∧
      others.verdicts = (Analysis.ofContainers true namesakes.values).verdicts.eraseIdx 1 := by
  refine ⟨by decide +kernel, ?_⟩
  have dropped : (Analysis.ofContainers true namesakes.values).verdicts[1]?.map Verdict.kept = some false := by
    decide +kernel
  exact (suppressionIsLocal { warningsAsErrors := true } namesakes (by decide) 1 "y.A" (by decide) dropped).2.1

end AccessorForge
