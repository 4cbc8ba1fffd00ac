import AccessorForge.Proofs.Memoization
/-! Where the mark for nothing found comes from. A class body reads the name of the mark for every cache field;
an accessor of that name, written before, stands in the field instead, and the lookup behind it never runs. -/
namespace AccessorForge.Hosting
open Running Syntax

/-! Fields of a mixin. -/

theorem ownSlotPut (slots : Ledger Slot) (name : String) (s : Slot) (other : name ≠ "UNRESOLVED") :
    ownSlot (Ledger.put name s slots) "UNRESOLVED" = ownSlot slots "UNRESOLVED" := by
  unfold ownSlot
  rw [Ledger.get?_put_of_ne slots s other.symm]

theorem markPut {slots : Ledger Slot} (clear : ownSlot slots "UNRESOLVED" = .unresolved) (field : String) :
    ownSlot (Ledger.put field (ownSlot slots "UNRESOLVED") slots) "UNRESOLVED" = .unresolved := by
  by_cases same : field = "UNRESOLVED"
  · subst same
    unfold ownSlot
    rw [Ledger.get?_put_self]
    exact clear
  · rw [ownSlotPut slots field _ same]
    exact clear

theorem markAfter {origin : Origin} {slots : Ledger Slot} (clear : ownSlot slots "UNRESOLVED" = .unresolved) {m : Member}
    (unnamed : privateName origin.ownerName m.property ≠ "UNRESOLVED") :
    ownSlot (m.put origin slots) "UNRESOLVED" = .unresolved := by
  rw [Member.put, ownSlotPut _ _ _ unnamed]
  exact markPut clear _

theorem mixinSlotsKeep {origin : Origin} {members : List Member} {slots made : Ledger Slot} {field : String}
    (ran : mixinSlots origin slots members = some made) (clear : ownSlot slots "UNRESOLVED" = .unresolved)
    (unnamed : ∀ m ∈ members, privateName origin.ownerName m.property ≠ "UNRESOLVED")
    (apart : ∀ m ∈ members, privateName origin.ownerName m.property ≠ field)
    (marked : Ledger.get? slots field = some .unresolved) : Ledger.get? made field = some .unresolved := by
  induction members generalizing slots with
  | nil =>
    cases ran
    exact marked
  | cons m rest ih =>
    refine ih (mixinSlotsNext ran) (markAfter clear (unnamed m List.mem_cons_self))
      (fun p later => unnamed p (List.mem_cons_of_mem _ later)) (fun p later => apart p (List.mem_cons_of_mem _ later)) ?_
    rw [Member.put, Ledger.get?_put_of_ne _ _ (apart m List.mem_cons_self).symm, Ledger.getPut]
    split
    · rw [clear]
    · exact marked

/-- Every field of a mixin whose accessors leave the name of the mark alone holds the mark, unless a property of
the mixin has the field's name. -/
theorem mixinSlotsMark {origin : Origin} {members : List Member} {slots made : Ledger Slot}
    (ran : mixinSlots origin slots members = some made) (clear : ownSlot slots "UNRESOLVED" = .unresolved)
    (unnamed : ∀ m ∈ members, privateName origin.ownerName m.property ≠ "UNRESOLVED")
    {k : Member} (member : k ∈ members)
    (apart : ∀ m ∈ members, privateName origin.ownerName m.property ≠ privateName origin.ownerName k.field) :
    Ledger.get? made (privateName origin.ownerName k.field) = some .unresolved := by
  induction members generalizing slots with
  | nil => cases member
  | cons m rest ih =>
    have later := fun q (later : q ∈ rest) => unnamed q (List.mem_cons_of_mem _ later)
    have elsewhere := fun q (later : q ∈ rest) => apart q (List.mem_cons_of_mem _ later)
    have still := markAfter clear (unnamed m List.mem_cons_self)
    rcases List.mem_cons.mp member with rfl | inside
    · refine mixinSlotsKeep (mixinSlotsNext ran) still later elsewhere ?_
      rw [Member.put, Ledger.get?_put_of_ne _ _ (apart _ List.mem_cons_self).symm, Ledger.get?_put_self, clear]
    · exact ih (mixinSlotsNext ran) still later inside elsewhere

/-! Reads behind a hidden mark. -/

def SameSlots (x : ObjectId) (w v : World) : Prop := x < v.objects.length ∧ ∀ name, v.slot? x name = w.slot? x name

theorem SameSlots.stored {x : ObjectId} {w v : World} (same : SameSlots x w v) (o : ObjectId) (name : String) (d : Datum) :
    SameSlots x w (v.setCell o name d) :=
  ⟨v.setCellAlive o name d ▸ same.1, fun other => (v.setCellSlot o x name other d).trans (same.2 other)⟩

theorem SameSlots.pushed {x : ObjectId} {w v : World} (same : SameSlots x w v) (label : String) (c : ClassId) :
    SameSlots x w (v.push label c) :=
  ⟨World.pushAlive same.1 label c, fun other => (World.pushSlot same.1 label c other).trans (same.2 other)⟩

theorem reachSameSlots (x : ObjectId) (w : World) (n : Nat) : (reach n).Keeping (fun _ _ => True) (SameSlots x w) :=
  reachKeepsStored (fun _ o name d same => same.stored o name d) (fun _ label c same => same.pushed label c) n

theorem hiddenRead {m : Memo} {w v : World} {x : ObjectId} {n : Nat} {d : Datum} {visibility other : String}
    {g : Getter} (alive : x < w.objects.length) (plain : m.type.yields = false ∧ m.type.bindings true = [])
    (visible : Ledger.get? m.origin.scope "UNRESOLVED" = none)
    (found : w.slot? x m.property = some (.accessor visibility m.getter))
    (hidden : w.slot? x m.field = some (.accessor other g))
    (ok : ((reach (n + 3)).read x m.property).runIn w = (.ok d, v)) :
    ∃ e u, ((reach (n + 1)).read x m.field).runIn w = (.ok e, u) ∧
      ((reach (n + 1)).read x m.field).runIn u = (.ok d, v) := by
  have start : SameSlots x w w := ⟨alive, fun _ => rfl⟩
  have own := Reach.readThroughOk (r := reach (n + 2)) ok
  rw [Memo.readOwnRuns found (n + 1), Memo.getterRuns plain visible] at own
  obtain ⟨e, u, first, rest⟩ := bindOk own
  refine ⟨e, u, first, ?_⟩
  have before := ((reachSameSlots x w (n + 1)).read x m.field).ran first start
  split at rest
  · obtain ⟨c, t, looked, rest⟩ := bindOk rest
    obtain ⟨_, _, assigned, _⟩ := bindOk rest
    have now := (Memo.lookupKeeps (reachSameSlots x w (n + 1))).ran looked before
    refine (Reach.assignGuarded ?_ assigned).elim
    rw [now.2, hidden]
    rfl
  · exact rest

/-! An accessor of the mark's name. -/

def hiddenAccessors : List Accessor := [⟨"public", "A", "UNRESOLVED"⟩, ⟨"public", "B", "y"⟩]

/-- A host with a component for each of two accessors, of which the first has the mark's name. -/
def hiddenRun : List Action :=
  [.defineClass "A" [] false, .defineClass "B" [] false, .defineMixin "M" hiddenAccessors,
    .defineClass "H" ["ComponentHost", "M"] false, .create "h" "H", .create "a" "A", .create "b" "B", .add "h" "a",
    .add "h" "b"]

def answersObject (label : String) : Except Fault Answer → Bool
  | .ok (.object l) => l = label
  | _ => false

theorem answersObjectOk {label : String} {e : Except Fault Answer} (answers : answersObject label e = true) :
    e = .ok (.object label) := by
  unfold answersObject at answers
  split at answers
  · rw [of_decide_eq_true answers]
  · cases answers

/-- No name or field of the two accessors is the other's, and the host has a component of the second one's type;
but the first read of the second one answers the component of the first. -/
theorem hiddenMarkMisleads :
    (∀ a ∈ hiddenAccessors, ∀ b ∈ hiddenAccessors, a ≠ b → ∀ name ∈ a.taken, name ∉ b.taken ++ hostAttributes) ∧
    ((World.after {} hiddenRun).step (.find "h" "B")).1 = .ok (.object "b") ∧
    ((World.after {} hiddenRun).step (.read "h" "y")).1 = .ok (.object "a") := by
  have asked : answersObject "b" ((World.after {} hiddenRun).step (.find "h" "B")).1 = true := by decide +kernel
  have read : answersObject "a" ((World.after {} hiddenRun).step (.read "h" "y")).1 = true := by decide +kernel
  exact ⟨by decide +kernel, answersObjectOk asked, answersObjectOk read⟩

end AccessorForge.Hosting
