import AccessorForge.Hosting.Evaluation
import AccessorForge.Proofs.Ledgers
import AccessorForge.Proofs.Running
/-! The fields of instances that accessors keep their results in: what stands in one, how it is read and when it
is written. -/
namespace AccessorForge.Hosting
open Running Syntax

namespace World

/-- What stands in a field: the instance's own attribute, or the mark that the class defines. -/
def held (w : World) (o : ObjectId) (field : String) : Datum := (w.cell? o field).getD .unresolved

theorem setCellSlot (w : World) (o x : ObjectId) (field name : String) (d : Datum) :
    (w.setCell o field d).slot? x name = w.slot? x name := by
  have same : (w.setCell o field d).classOf x = w.classOf x := by
    unfold classOf setCell
    rw [List.getElem?_modify]
    cases w.objects[x]? with
    | none => rfl
    | some y =>
      by_cases here : o = x
      · simp [here]
      · simp [here]
  unfold slot?
  rw [same]
  rfl

theorem setCellSelf {w : World} {o : ObjectId} (alive : o < w.objects.length) (field : String) (d : Datum) :
    (w.setCell o field d).held o field = d := by
  unfold held cell? setCell
  rw [List.getElem?_modify, List.getElem?_eq_getElem alive]
  simp [Ledger.getPut]

theorem setCellOther (w : World) {o x : ObjectId} {field name : String} (d : Datum) (other : o = x → field ≠ name) :
    (w.setCell o field d).held x name = w.held x name := by
  unfold held cell? setCell
  rw [List.getElem?_modify]
  cases w.objects[x]? with
  | none => rfl
  | some y =>
    by_cases here : o = x
    · have apart : name ≠ field := fun same => other here same.symm
      simp [here, Ledger.getPut, apart]
    · simp [here]

theorem setCellAlive (w : World) (o : ObjectId) (field : String) (d : Datum) :
    (w.setCell o field d).objects.length = w.objects.length := List.length_modify _ _ _

theorem pushAlive {w : World} {x : ObjectId} (alive : x < w.objects.length) (label : String) (c : ClassId) :
    x < (w.push label c).objects.length := by
  have longer : (w.push label c).objects.length = w.objects.length + 1 := List.length_append
  rw [longer]
  exact Nat.lt_succ_of_lt alive

theorem pushedObject {w : World} {x : ObjectId} (alive : x < w.objects.length) (label : String) (c : ClassId) :
    (w.push label c).objects[x]? = w.objects[x]? := List.getElem?_append_left alive

theorem pushSlot {w : World} {x : ObjectId} (alive : x < w.objects.length) (label : String) (c : ClassId)
    (name : String) : (w.push label c).slot? x name = w.slot? x name := by
  unfold slot? classOf
  rw [pushedObject alive]
  rfl

theorem pushHeld {w : World} {x : ObjectId} (alive : x < w.objects.length) (label : String) (c : ClassId)
    (name : String) : (w.push label c).held x name = w.held x name := by
  unfold held cell?
  rw [pushedObject alive]

theorem accessorSlot {w : World} {o : ObjectId} {name : String} {g : Getter} (found : w.accessor? o name = some g) :
    ∃ v, w.slot? o name = some (.accessor v g) := by
  unfold accessor? ClassTable.accessor? at found
  unfold slot?
  split at found
  · rename_i v getter slot
    cases found
    exact ⟨v, slot⟩
  · cases found

end World

theorem sameUnresolved (d : Datum) : Datum.same d .unresolved = d.isUnresolved := by
  unfold Datum.same
  split <;> simp_all [Datum.isUnresolved]

theorem unresolvedIff {d : Datum} : d.isUnresolved = true ↔ d = .unresolved := by
  cases d <;> simp [Datum.isUnresolved]

namespace Reach
variable {r : Reach} {w v : World} {o : ObjectId} {name : String} {d : Datum}

theorem runInsteadFails {α : Type} {getter : Getter} {a : α} : (r.runInstead o getter : Act α).runIn w ≠ (.ok a, v) := by
  intro ok
  obtain ⟨_, _, _, thrown⟩ := bindOk ok
  cases thrown

theorem insteadOk {α : Type} {rest : PUnit → Act α} {a : α}
    (ok : (match w.accessor? o name with
      | some getter => r.runInstead o getter >>= rest
      | _ => rest ⟨⟩).runIn w = (.ok a, v)) : (rest ⟨⟩).runIn w = (.ok a, v) := by
  split at ok
  · obtain ⟨_, _, ran, _⟩ := bindOk ok
    exact (runInsteadFails ran).elim
  · exact ok

theorem readThroughOk (ok : (r.readThrough o name).runIn w = (.ok d, v)) : (r.readOwn o name).runIn w = (.ok d, v) := by
  unfold readThrough at ok
  rw [bindOf (getIn w)] at ok
  have ordinary := insteadOk ok
  dsimp only at ordinary
  split at ordinary
  · exact ordinary
  · rw [catchIn] at ordinary
    cases ran : (r.readOwn o name).runIn w with
    | mk result u =>
      rw [ran] at ordinary
      cases result with
      | ok a => exact ordinary
      | error f =>
        dsimp only at ordinary
        split at ordinary
        · exact (runInsteadFails ordinary).elim
        · cases ordinary

theorem readThroughOf (open' : w.accessor? o "__getattribute__" = none)
    (ok : (r.readOwn o name).runIn w = (.ok d, v)) : (r.readThrough o name).runIn w = (.ok d, v) := by
  unfold readThrough
  rw [bindOf (getIn w), open']
  dsimp only
  split
  · exact ok
  · rw [catchIn, ok]

theorem assignCases (open' : w.accessor? o "__setattr__" = none) :
    (r.assign o name d).runIn w = (.ok (), w.setCell o name d) ∨
      ∃ f, (r.assign o name d).runIn w = (.error f, w) := by
  unfold assign
  rw [bindOf (getIn w), open']
  dsimp only
  simp only [guardIn]
  repeat' split
  all_goals first
    | exact .inr ⟨_, rfl⟩
    | exact .inl rfl

theorem assignGuarded {u : Unit} (guarded : (w.slot? o name).any Slot.isGuarding = true) :
    (r.assign o name d).runIn w ≠ (.ok u, v) := by
  intro ok
  unfold assign at ok
  rw [bindOf (getIn w)] at ok
  have rest := insteadOk ok
  simp only [if_pos guarded] at rest
  cases rest

theorem readOwnHeld (marked : w.slot? o name = some .unresolved) : (r.readOwn o name).runIn w = (.ok (w.held o name), w) := by
  unfold readOwn World.held
  rw [bindOf (getIn w), marked]
  dsimp only
  cases w.cell? o name with
  | none => rfl
  | some d => rfl

end Reach

end AccessorForge.Hosting
