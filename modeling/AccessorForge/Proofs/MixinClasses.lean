import AccessorForge.Proofs.Collisions
import AccessorForge.Proofs.FileNames
import AccessorForge.Proofs.MixinText
import AccessorForge.Proofs.Namesakes
import AccessorForge.Proofs.Worlds
import Mathlib.Data.List.Nodup
import Mathlib.Data.List.Pairwise
/-! What becomes of a mixin when its text is run. Validation compares the names of the accessors as they are spelled;
the class body has them as they are read, and reads some of them again. Where reading keeps the names apart and none
of them stands in the way of a later accessor, the class has just the accessors that were planned, each with a field of
its own. -/
namespace AccessorForge

/-! Names as they are read. -/

namespace Text.Compose

theorem underscoreApart (c : Char) : composePair '_' c = none := by
  have apart : composeHangul '_'.toNat c.toNat = none := by simp [composeHangul, leadBase, hangulBase]
  rw [composePair, apart]
  dsimp only
  rw [Option.map_eq_none_iff, List.find?_eq_none]
  intro t listed composed
  have first : t.2.1 = '_' := by simp_all
  exact tablesUnmarked.compositions List.mem_cons_self (first ▸ (triplesWithin listed).2)

theorem underscoreFirst (held : List Char) (top : Option Nat) (rest : List Char) :
    ∃ more, composeFrom '_' held top rest = '_' :: more := by
  induction rest generalizing held top with
  | nil => exact ⟨held, rfl⟩
  | cons c rest ih =>
    simp only [composeFrom, underscoreApart, ite_self]
    split
    · exact ⟨_, rfl⟩
    · exact ih _ _

theorem normalUnderscored (rest : List Char) : ∃ more, normalForm ('_' :: rest) = '_' :: more := by
  unfold normalForm
  split
  · exact ⟨rest, rfl⟩
  · have unmarked : combiningClass '_' = 0 := rfl
    have single : decompose '_' = ['_'] := rfl
    rw [List.flatMap_cons, single, List.singleton_append, orderMarks, if_pos unmarked, List.nil_append, compose,
      if_pos unmarked]
    exact underscoreFirst _ _ _

end Text.Compose

/-- The name that a class of some name gives to what is spelled so in its body. -/
def readIn (owner name : String) : String := Hosting.privateName owner (Syntax.Reader.normal name)

theorem underscoredRead (owner : String) {name : String} {rest : List Char} (spelled : name.toList = '_' :: rest) :
    ∃ more, (readIn owner name).toList = '_' :: more := by
  obtain ⟨more, normal⟩ := Text.Compose.normalUnderscored rest
  unfold readIn Hosting.privateName
  dsimp only
  split
  · exact ⟨_, by simp [String.toList_append]; rfl⟩
  · exact ⟨more, by rw [Syntax.Reader.normal, String.toList_ofList, spelled, normal]⟩

theorem Accessor.fieldApart (a : Accessor) : a.cacheField ≠ a.property := by
  have filled (c : Char) : 0 < (Text.Lower.lower [c]).length := by
    rw [Text.Lower.lower, Text.Lower.lowerFrom]
    split
    · simp
    · unfold Text.Lower.lowerChar
      repeat' split
      all_goals simp
  intro same
  have chars := congrArg (fun name => name.toList.length) same
  simp only [cacheField, Naming.cacheField, String.toList_ofList] at chars
  cases spelled : a.property.toList with
  | nil => simp [spelled, Naming.cacheFieldChars] at chars
  | cons c rest =>
    have some := filled c
    simp only [spelled, Naming.cacheFieldChars, List.length_append, List.length_cons] at chars
    omega

/-! Names of kept containers. -/

theorem settleKeeps {Q : Container → Prop} (reported : ∀ c d, Q c → Q (c.report d)) {warningsAsErrors : Bool}
    {claimed : Verdict.Claimed} {vs : List Verdict} (before : ∀ v ∈ vs, v.kept = true → Q v.container) :
    ∀ w ∈ Verdict.settleFrom warningsAsErrors claimed vs, w.kept = true → Q w.container := by
  induction vs generalizing claimed with
  | nil => simp [Verdict.settleFrom]
  | cons v rest ih =>
    rw [Verdict.settleHead]
    intro w member kept
    rcases List.mem_cons.mp member with rfl | later
    · have first := before v List.mem_cons_self
      cases claim : Ledger.get? claimed v.outputName with
      | none =>
        simp only [claim, Verdict.ruled] at kept ⊢
        exact first kept
      | some earlier =>
        simp only [claim, Verdict.ruled] at kept ⊢
        split
        · next stood => exact reported _ _ (first stood)
        · next fell => simp_all
    · exact ih (fun u inside => before u (List.mem_cons_of_mem v inside)) w later kept

theorem judgedApart {warningsAsErrors : Bool} {c : Container} (kept : (Verdict.judge warningsAsErrors c).kept = true) :
    (Verdict.judge warningsAsErrors c).container.planned.Pairwise Accessor.Apart := by
  unfold Verdict.judge at kept ⊢
  dsimp only at kept ⊢
  split at kept
  · cases kept
  · next clear =>
    rw [if_neg clear, precedencePlanned, ← apartUnlessClashing]
    intro clashing
    apply clear
    have found : c.findings ≠ [] := fun none => c.findingsFine.mp none (.inr clashing)
    obtain ⟨d, listed⟩ := List.exists_mem_of_ne_nil _ found
    have reported : d ∈ c.examine.diagnostics := List.mem_append_right _ listed
    unfold Container.hasErrors
    split
    · simp [List.ne_nil_of_mem reported]
    · exact List.any_eq_true.mpr ⟨d, reported, c.findingsAreErrors d listed⟩

theorem keptApart {warningsAsErrors : Bool} {cs : List Container} {c : Container}
    (kept : c ∈ keptContainers (validate warningsAsErrors cs).1) : c.planned.Pairwise Accessor.Apart := by
  obtain ⟨w, standing, rfl⟩ := List.mem_map.mp kept
  obtain ⟨member, kept⟩ := List.mem_filter.mp standing
  refine settleKeeps (Q := fun c => c.planned.Pairwise Accessor.Apart) (fun _ _ apart => apart) ?_ w member kept
  intro v judged kept
  obtain ⟨c, _, rfl⟩ := List.mem_map.mp judged
  exact judgedApart kept

namespace Hosting
open Act Running Syntax Syntax.Reader Syntax.Grammar

/-! The class body. -/

/-- What a later accessor of the body needs: the helper that makes accessors, and the mark for nothing found. -/
def helperNames : List String := ["component_accessor", "UNRESOLVED"]

def Member.names (owner : String) (m : Member) : List String := [privateName owner m.field, privateName owner m.property]

def Member.slots (origin : Origin) (m : Member) : Ledger Slot :=
  [(privateName origin.ownerName m.field, .unresolved),
    (privateName origin.ownerName m.property,
      .accessor m.visibility (.lookup (privateName origin.ownerName m.field) m.fill origin))]

/-- What the body defines altogether. -/
def bodySlots (origin : Origin) (members : List Member) : Ledger Slot := members.flatMap (Member.slots origin)

theorem bodyKeys (origin : Origin) (members : List Member) :
    (bodySlots origin members).keys = members.flatMap (Member.names origin.ownerName) := by
  unfold Ledger.keys bodySlots
  rw [List.map_flatMap]
  rfl

theorem putMember {origin : Origin} {m : Member} {slots : Ledger Slot}
    (mark : ownSlot slots "UNRESOLVED" = .unresolved) (fresh : (slots.keys ++ m.names origin.ownerName).Nodup) :
    m.put origin slots = slots ++ m.slots origin := by
  obtain ⟨-, apart, new⟩ : slots.keys.Nodup ∧ _ ∧ _ := by
    simpa [Member.names, List.nodup_append] using fresh
  have fieldNew : privateName origin.ownerName m.field ∉ slots.keys := fun there => (new _ there).1 rfl
  rw [Member.put, mark, Ledger.putNew fieldNew, Ledger.putNew]
  · simp [Member.slots]
  · rw [← Ledger.putNew fieldNew, Ledger.keysPutEq, mem_appendNew, not_or]
    exact ⟨fun there => (new _ there).2 rfl, fun same => apart same.symm⟩

theorem mixinSlotsMore {origin : Origin} {m : Member} {slots : Ledger Slot}
    (clear : "component_accessor" ∉ slots.keys) (field : privateName origin.ownerName m.field ≠ "component_accessor")
    (rest : List Member) : mixinSlots origin slots (m :: rest) = mixinSlots origin (m.put origin slots) rest := by
  have helped : Ledger.has (Ledger.put (privateName origin.ownerName m.field) (ownSlot slots "UNRESOLVED") slots)
      "component_accessor" = false := by
    rw [Ledger.hasKeys, Ledger.keysPutEq, decide_eq_false_iff_not, mem_appendNew, not_or]
    exact ⟨clear, field.symm⟩
  rw [mixinSlots]
  simp only [helped, Bool.false_eq_true, if_false]
  rfl

/-- While all names are new and the helpers are in place, each member adds its field and its accessor. -/
theorem mixinSlotsAre {origin : Origin} {members : List Member} {slots : Ledger Slot}
    (fresh : (slots.keys ++ members.flatMap (Member.names origin.ownerName)).Nodup)
    (clear : members ≠ [] → ∀ helper ∈ helperNames, helper ∉ slots.keys)
    (fields : ∀ m ∈ members, privateName origin.ownerName m.field ∉ helperNames)
    (open' : ∀ m ∈ members.dropLast, privateName origin.ownerName m.property ∉ helperNames) :
    mixinSlots origin slots members = some (slots ++ bodySlots origin members) := by
  unfold bodySlots
  induction members generalizing slots with
  | nil => simp [mixinSlots]
  | cons m rest ih =>
    have clear := clear (List.cons_ne_nil m rest)
    have field := fields m List.mem_cons_self
    have mark : ownSlot slots "UNRESOLVED" = .unresolved := by
      rw [ownSlot, Ledger.getNoneIff.mpr (clear _ (by simp [helperNames]))]
      rfl
    rw [List.flatMap_cons, ← List.append_assoc] at fresh
    rw [mixinSlotsMore (clear _ (by simp [helperNames])) (fun same => field (by simp [helperNames, same])),
      putMember mark fresh.of_append_left, ih, List.flatMap_cons, List.append_assoc]
    · simpa [Ledger.keys, Member.slots, Member.names] using fresh
    · intro more helper listed
      have before : m ∈ (m :: rest).dropLast := by
        rw [List.dropLast_cons_of_ne_nil more]
        exact List.mem_cons_self
      have property := open' m before
      simp only [Ledger.keys, Member.slots, List.map_append, List.mem_append, List.map_cons, List.map_nil, not_or]
      refine ⟨clear helper listed, fun same => ?_⟩
      rcases List.mem_cons.mp same with rfl | same
      · exact field listed
      · exact property (List.mem_singleton.mp same ▸ listed)
    · exact fun k later => fields k (List.mem_cons_of_mem m later)
    · intro k later
      cases rest with
      | nil => cases later
      | cons n rest => exact open' k (List.mem_cons_of_mem m later)

theorem slotsOfAre {origin : Origin} {members : List Member}
    (fresh : (members.flatMap (Member.names origin.ownerName)).Nodup)
    (fields : ∀ m ∈ members, privateName origin.ownerName m.field ∉ helperNames)
    (open' : ∀ m ∈ members.dropLast, privateName origin.ownerName m.property ∉ helperNames)
    (celled : cellName ∉ members.flatMap (Member.names origin.ownerName)) :
    slotsOf origin members = some (bodySlots origin members) := by
  have made := @mixinSlotsAre origin members [] (by simpa [Ledger.keys] using fresh) (by simp [Ledger.keys]) fields open'
  rw [slotsOf, made, Option.map_some, List.nil_append]
  split
  · rw [← bodyKeys] at celled
    rw [Ledger.erase, List.filter_eq_self.mpr]
    intro e listed
    simpa using fun same => celled (List.mem_map.mpr ⟨e, listed, same⟩)
  · rfl

/-! The class. -/

theorem standardAdded (names : List String) {slots : Ledger Slot} (unique : slots.keys.Nodup) :
    ∃ extra : Ledger Slot, names.foldl (fun m name => if Ledger.has m name then m else Ledger.put name .standard m) slots =
        slots ++ extra ∧ (∀ e ∈ extra, e.2 = .standard) ∧ (slots ++ extra).keys.Nodup := by
  induction names generalizing slots with
  | nil => exact ⟨[], by simp, by simp, by simpa using unique⟩
  | cons name rest ih =>
    rw [List.foldl_cons]
    split
    · exact ih unique
    · next new =>
      rw [Ledger.hasKeys, decide_eq_true_iff] at new
      have longer : (slots ++ [(name, Slot.standard)]).keys.Nodup := by
        rw [← Ledger.putNew new, Ledger.keysPutEq]
        exact appendNewNodup unique name
      obtain ⟨extra, made, standard, unique⟩ := ih longer
      rw [Ledger.putNew new, made, List.append_assoc]
      exact ⟨_, rfl, by simpa using standard, by simpa using unique⟩

theorem standardSlot {slots : Ledger Slot} (unique : slots.keys.Nodup) {name : String} {s : Slot} (proper : s ≠ .standard) :
    Ledger.get? (withStandard true slots) name = some s ↔ (name, s) ∈ slots := by
  obtain ⟨extra, made, standard, unique⟩ := standardAdded (standardNames true) unique
  change withStandard true slots = slots ++ extra at made
  rw [made]
  constructor
  · intro found
    rcases List.mem_append.mp (Ledger.memberOfGet found) with own | added
    · exact own
    · exact absurd (standard _ added) proper
  · exact fun own => Ledger.getOfMember unique (List.mem_append_left _ own)

def shownSlot : String × Slot → Option (String × String)
  | (name, .accessor visibility _) => some (name, visibility)
  | _ => none

theorem listingShown (t : ClassTable) (c : ClassId) : t.accessors c =
    (((t.slotNames c).foldl appendNew []).mergeSort ClassTable.codeOrder).filterMap fun name =>
      (t.slot? c name).bind fun s => shownSlot (name, s) := by
  unfold ClassTable.accessors
  refine List.filterMap_congr fun name _ => ?_
  cases t.slot? c name with
  | none => rfl
  | some s => cases s <;> rfl

theorem shownStandard {extra : Ledger Slot} (standard : ∀ e ∈ extra, e.2 = .standard) : extra.filterMap shownSlot = [] := by
  rw [List.filterMap_eq_nil_iff]
  intro e listed
  unfold shownSlot
  split
  · next told => cases (standard _ listed)
  · rfl

def plainClass (self : ClassId) (name : String) (slots : Ledger Slot) : Class :=
  ⟨name, [self, ClassTable.base], [ClassTable.base], withStandard true slots, false, false⟩

theorem plainOrder (t : ClassTable) (name : String) (slots : Ledger Slot) :
    ClassTable.order (t ++ [plainClass t.length name slots]) t.length = [t.length, ClassTable.base] := by
  rw [ClassTable.order, List.getElem?_concat_length]
  rfl

section
variable {w : World} (rooted : w.Rooted)
include rooted

theorem rootStays (k : Class) :
    (w.classes ++ [k])[ClassTable.base]? = some ⟨"object", [ClassTable.base], [], [], false, false⟩ :=
  (List.getElem?_append_left (List.getElem?_eq_some_iff.mp rooted).1).trans rooted

theorem defineIs (name : String) {slots : Ledger Slot} (allowed : ∀ n ∈ ClassTable.bodyNames, n ∉ slots.keys) :
    w.classes.define name [] slots false =
      some (w.classes ++ [plainClass w.classes.length name slots], w.classes.length) := by
  have above : w.classes.order ClassTable.base = [ClassTable.base] := by
    rw [ClassTable.order, rooted]
    rfl
  have ordered : orderOf w.classes.length [ClassTable.base] [[ClassTable.base]] =
      some [w.classes.length, ClassTable.base] := rfl
  have unnamed : ClassTable.bodyNames.any (Ledger.has slots) = false := by
    rw [List.any_eq_false]
    intro n listed
    simpa [Ledger.hasKeys] using allowed n listed
  unfold ClassTable.define
  simp only [List.isEmpty_nil, if_true, List.map_cons, List.map_nil, above, ordered, Option.bind_eq_bind,
    Option.bind_some, List.tail_cons, List.findSome?_cons, List.findSome?_nil, rootStays rooted, unnamed]
  rfl

variable {name : String} {slots : Ledger Slot}

theorem plainSlot (property : String) :
    ClassTable.slot? (w.classes ++ [plainClass w.classes.length name slots]) w.classes.length property =
      Ledger.get? (withStandard true slots) property := by
  rw [ClassTable.slot?, ClassTable.search, plainOrder]
  simp only [List.findSome?_cons, List.findSome?_nil, List.getElem?_concat_length, rootStays rooted, Option.bind_some,
    plainClass]
  cases Ledger.get? (withStandard true slots) property with
  | none => rfl
  | some s => rfl

theorem plainNames : ClassTable.slotNames (w.classes ++ [plainClass w.classes.length name slots]) w.classes.length =
    (withStandard true slots).keys := by
  rw [ClassTable.slotNames, plainOrder]
  simp [List.flatMap_cons, rootStays rooted, Ledger.keys, plainClass]

theorem plainListing (unique : slots.keys.Nodup) :
    (ClassTable.accessors (w.classes ++ [plainClass w.classes.length name slots]) w.classes.length).Perm
      (slots.filterMap shownSlot) := by
  obtain ⟨extra, made, standard, unique⟩ := standardAdded (standardNames true) unique
  change withStandard true slots = slots ++ extra at made
  have shown : (slots ++ extra).keys.filterMap (fun name =>
      (Ledger.get? (slots ++ extra) name).bind fun s => shownSlot (name, s)) = slots.filterMap shownSlot := by
    rw [Ledger.keys, List.filterMap_map]
    trans (slots ++ extra).filterMap shownSlot
    · refine List.filterMap_congr ?_
      rintro ⟨name, s⟩ listed
      rw [Function.comp_apply, Ledger.getOfMember unique listed]
      rfl
    · rw [List.filterMap_append, shownStandard standard, List.append_nil]
  rw [listingShown, plainNames rooted, made, foldlAppendNewNodup unique, ← shown]
  simp only [plainSlot rooted, made]
  exact (List.mergeSort_perm _ _).filterMap _

end

/-! The text, read and run. -/

theorem mixinReadable {name : String} (stands : Naming.Stands name) {accessors : List Accessor}
    (writable : ∀ a ∈ accessors, a.Writable) (w : World) :
    (requireReadable (mixinText name accessors)).runIn w = (.ok (), w) := by
  have legible := mixinLegible stands writable
  have whole : Text.Surrogate.areBroken (mixinText name accessors) = false := by
    have missing : Text.Surrogate.mark ∉ mixinText name accessors := fun there => legible _ there (by simp)
    simp [Text.Surrogate.areBroken, missing]
  have filled : '\x00' ∉ mixinText name accessors := fun there => legible _ there (by simp)
  unfold requireReadable
  rw [whole, guardIn]
  simp [filled]
  rfl

theorem defineMixinIs {w : World} (rooted : w.Rooted) {name : String} {accessors : List Accessor} {members : List Member}
    {slots : Ledger Slot} (readable : (requireReadable (mixinText name accessors)).runIn w = (.ok (), w))
    (read : readMixin name accessors = some (name, members))
    (made : slotsOf ⟨w.classes.length, name, Ledger.put name w.classes.length w.names⟩ members = some slots)
    (allowed : ∀ n ∈ ClassTable.bodyNames, n ∉ slots.keys) :
    w.step (.defineMixin name accessors) = (.ok .nothing, w.withClass name (plainClass w.classes.length name slots)) := by
  change (Act.defineMixin name accessors).runIn w = _
  unfold Act.defineMixin
  have body : (ofOption (some slots)).runIn w = (.ok slots, w) := rfl
  rw [bindOf readable, read]
  dsimp only
  rw [bindOf (getIn w), made, bindOf body]
  simp only [ne_eq, not_true_eq_false, if_false]
  unfold addClass
  rw [bindOf (getIn w), defineIs rooted name allowed]
  rfl

theorem listingAnswered {w : World} {name : String} {c : ClassId} (named : Ledger.get? w.names name = some c) :
    w.step (.accessors name) = (.ok (.accessorList (w.classes.accessors c)), w) := bindOf (classKnown named)

/-! Members and the accessors that they were read from. -/

section
variable {accessors : List Accessor} {members : List Member} (each : List.Forall₂ Member.ReadFrom accessors members)
include each

theorem memberOf {a : Accessor} (planned : a ∈ accessors) : ∃ m ∈ members, m.ReadFrom a := by
  induction each with
  | nil => cases planned
  | cons first rest ih =>
    rcases List.mem_cons.mp planned with rfl | later
    · exact ⟨_, List.mem_cons_self, first⟩
    · obtain ⟨m, member, read⟩ := ih later
      exact ⟨m, List.mem_cons_of_mem _ member, read⟩

theorem accessorOf {m : Member} (member : m ∈ members) : ∃ a ∈ accessors, m.ReadFrom a := by
  induction each with
  | nil => cases member
  | cons first rest ih =>
    rcases List.mem_cons.mp member with rfl | later
    · exact ⟨_, List.mem_cons_self, first⟩
    · obtain ⟨a, planned, read⟩ := ih later
      exact ⟨a, List.mem_cons_of_mem _ planned, read⟩

end

def readNames (owner : String) (a : Accessor) : List String := [readIn owner a.cacheField, readIn owner a.property]

theorem memReadNames {owner : String} {a : Accessor} {n : String} : n ∈ readNames owner a ↔ ∃ k ∈ a.taken, readIn owner k = n := by
  simp [readNames, Accessor.taken, eq_comm, or_comm]

namespace Member.ReadFrom
variable {a : Accessor} {m : Member} (read : m.ReadFrom a) (owner : String)
include read

theorem fieldIn : privateName owner m.field = readIn owner a.cacheField := by rw [read.field, readIn]

theorem propertyIn : privateName owner m.property = readIn owner a.property := by rw [read.property, readIn]

end Member.ReadFrom

theorem namesRead (owner : String) {accessors : List Accessor} {members : List Member}
    (each : List.Forall₂ Member.ReadFrom accessors members) :
    members.flatMap (Member.names owner) = accessors.flatMap (readNames owner) := by
  induction each with
  | nil => rfl
  | cons first rest ih => simp [ih, Member.names, readNames, first.fieldIn, first.propertyIn]

theorem shownRead (origin : Origin) {accessors : List Accessor} {members : List Member}
    (each : List.Forall₂ Member.ReadFrom accessors members) :
    (bodySlots origin members).filterMap shownSlot =
      accessors.map fun a => (readIn origin.ownerName a.property, a.visibility) := by
  unfold bodySlots
  induction each with
  | nil => rfl
  | cons first rest ih => simp [ih, Member.slots, shownSlot, List.filterMap_cons, first.propertyIn, first.visibility]

/-! Accessors as they were planned. -/

/-- Reading changes no property, takes no two names of the accessors for one, and makes none of them a name that a
class body cannot define; and none but the last accessor has the name of a helper. -/
structure ReadsApart (owner : String) (accessors : List Accessor) : Prop where
  properties : ∀ a ∈ accessors, readIn owner a.property = a.property
  apart : ∀ a ∈ accessors, ∀ b ∈ accessors, ∀ n ∈ a.taken, ∀ k ∈ b.taken, readIn owner n = readIn owner k → n = k
  allowed : ∀ a ∈ accessors, ∀ n ∈ a.taken, readIn owner n ∉ constantName :: ClassTable.bodyNames
  helped : ∀ a ∈ accessors.dropLast, a.property ∉ helperNames

namespace ReadsApart
variable {owner : String} {accessors : List Accessor} (reads : ReadsApart owner accessors)
include reads

theorem sound {a : Accessor} (member : a ∈ accessors) : Sound a := by
  have fixed : privateName owner constantName = constantName := by
    have ends : constantName.endsWith "__" = true := by decide +kernel
    simp [privateName, ends]
  have other {n : String} (taken : n ∈ a.taken) : Reader.normal n ≠ constantName := by
    intro same
    apply reads.allowed a member n taken
    rw [readIn, same, fixed]
    exact List.mem_cons_self
  exact ⟨other (by simp [Accessor.taken]), other (by simp [Accessor.taken])⟩

theorem names (apart : accessors.Pairwise Accessor.Apart) : (accessors.flatMap (readNames owner)).Nodup := by
  rw [List.nodup_flatMap]
  constructor
  · intro a member
    have other : readIn owner a.cacheField ≠ readIn owner a.property := fun same => a.fieldApart
      (reads.apart a member a member _ (by simp [Accessor.taken]) _ (by simp [Accessor.taken]) same)
    simp [readNames, other]
  · refine apart.imp_of_mem fun {a b} mine yours apart name own other => ?_
    obtain ⟨n, taken, rfl⟩ := memReadNames.mp own
    obtain ⟨k, held, same⟩ := memReadNames.mp other
    have spelled := reads.apart b yours a mine k held n taken same
    exact apart n taken (spelled ▸ held)

theorem free {n : String} (fixed : n ∈ constantName :: ClassTable.bodyNames) : n ∉ accessors.flatMap (readNames owner) := by
  intro there
  obtain ⟨a, planned, listed⟩ := List.mem_flatMap.mp there
  obtain ⟨k, taken, rfl⟩ := memReadNames.mp listed
  exact reads.allowed a planned k taken fixed

theorem sameField (apart : accessors.Pairwise Accessor.Apart) {a b : Accessor} (mine : a ∈ accessors) (yours : b ∈ accessors)
    (same : readIn owner a.cacheField = readIn owner b.cacheField) : a = b := by
  by_contra other
  have symmetric : Std.Symm Accessor.Apart := ⟨fun _ _ apart name yours mine => apart name mine yours⟩
  have taken (c : Accessor) : c.cacheField ∈ c.taken := List.mem_cons_of_mem _ List.mem_cons_self
  have spelled := reads.apart a mine b yours _ (taken a) _ (taken b) same
  exact apart.forall mine yours other _ (taken a) (spelled ▸ taken b)

theorem slots {origin : Origin} (own : origin.ownerName = owner) (apart : accessors.Pairwise Accessor.Apart)
    {members : List Member} (each : List.Forall₂ Member.ReadFrom accessors members) :
    slotsOf origin members = some (bodySlots origin members) := by
  subst own
  have distinct := reads.names apart
  rw [← namesRead _ each] at distinct
  have allowed : cellName ∉ members.flatMap (Member.names origin.ownerName) := by
    rw [namesRead _ each]
    exact reads.free (by decide)
  refine slotsOfAre distinct (fun m member => ?_) (fun m member => ?_) allowed
  · obtain ⟨a, _, read⟩ := accessorOf each member
    obtain ⟨rest, spelled⟩ := a.fieldUnderscored
    obtain ⟨more, shown⟩ := underscoredRead origin.ownerName spelled
    have told : ∀ helper ∈ helperNames, helper.toList.head? ≠ some '_' := by decide
    rw [read.fieldIn]
    exact fun listed => told _ listed (by rw [shown]; rfl)
  · have properties : members.map (privateName origin.ownerName ·.property) =
        accessors.map (readIn origin.ownerName ·.property) := by
      clear distinct allowed member reads apart
      induction each with
      | nil => rfl
      | cons first rest ih => simp [ih, first.propertyIn]
    have listed : privateName origin.ownerName m.property ∈ (accessors.map (readIn origin.ownerName ·.property)).dropLast := by
      rw [← properties, ← List.map_dropLast]
      exact List.mem_map.mpr ⟨m, member, rfl⟩
    rw [← List.map_dropLast] at listed
    obtain ⟨a, before, same⟩ := List.mem_map.mp listed
    rw [← same, reads.properties a (List.dropLast_subset _ before)]
    exact reads.helped a before

/-! The slots of the accessors. -/

section
variable {origin : Origin} (own : origin.ownerName = owner) {members : List Member}
  (each : List.Forall₂ Member.ReadFrom accessors members)
include own each

theorem propertySlot {a : Accessor} (planned : a ∈ accessors) : ∃ fill, Fills a.typeName fill ∧
    (a.property, Slot.accessor a.visibility (.lookup (readIn owner a.cacheField) fill origin)) ∈ bodySlots origin members := by
  subst own
  obtain ⟨m, member, read⟩ := memberOf each planned
  refine ⟨m.fill, read.fill, List.mem_flatMap.mpr ⟨m, member, ?_⟩⟩
  simp [Member.slots, read.fieldIn, read.propertyIn, reads.properties a planned, read.visibility]

omit reads in
theorem fieldSlot {a : Accessor} (planned : a ∈ accessors) :
    (readIn owner a.cacheField, Slot.unresolved) ∈ bodySlots origin members := by
  subst own
  obtain ⟨m, member, read⟩ := memberOf each planned
  exact List.mem_flatMap.mpr ⟨m, member, by simp [Member.slots, read.fieldIn]⟩

theorem slotPlanned {property visibility : String} {getter : Getter}
    (listed : (property, Slot.accessor visibility getter) ∈ bodySlots origin members) :
    ∃ a ∈ accessors, property = a.property ∧ ∃ fill, getter = .lookup (readIn owner a.cacheField) fill origin := by
  subst own
  obtain ⟨m, member, here⟩ := List.mem_flatMap.mp listed
  obtain ⟨a, planned, read⟩ := accessorOf each member
  simp only [Member.slots, read.fieldIn, read.propertyIn, reads.properties a planned, List.mem_cons, Prod.mk.injEq,
    reduceCtorEq, and_false, Slot.accessor.injEq, List.not_mem_nil, or_false, false_or] at here
  exact ⟨a, planned, here.1, m.fill, here.2.2⟩

end

end ReadsApart

/-! Planned accessors. -/

theorem partEnds {first : String} {parts : List String} (head : Naming.Stands first)
    (stand : ∀ part ∈ parts, Naming.Stands part) : Naming.Stands (Naming.defaultProperty (dotted first parts)) := by
  have plain {name : String} (stands : Naming.Stands name) : '.' ∉ name.toList := fun there =>
    absurd (Lexer.identifierChars stands.identifier '.' there) (by decide)
  induction parts using List.reverseRecOn with
  | nil =>
    have ends := (Naming.lastSegmentEnds [] (plain head)).2
    rw [Naming.defaultProperty, dotted, List.foldl_nil, ends, String.ofList_toList]
    exact head
  | append_singleton parts part _ =>
    have last := stand part (by simp)
    have ends := (Naming.lastSegmentEnds (dotted first parts).toList (plain last)).1
    have whole : (dotted first (parts ++ [part])).toList = (dotted first parts).toList ++ '.' :: part.toList := by
      simp [dotted, last.normal]
    rw [Naming.defaultProperty, whole, ends, String.ofList_toList]
    exact last

theorem plannedWritable {c : Container} (refers : ∀ a ∈ c.planned, Naming.Refers a.typeName)
    (named : ∀ e ∈ c.overrides.values, Text.Identifier.isIdentifier e.name.toList ∧ e.name ∉ keywords) :
    ∀ a ∈ c.planned, a.Writable := by
  intro a planned
  have type := refers a planned
  rcases List.mem_append.mp planned with auto | custom
  · unfold Container.autoNamed at auto
    split at auto
    · obtain ⟨t, _, rfl⟩ := List.mem_map.mp auto
      obtain ⟨first, parts, head, stand, rfl⟩ := type
      have last := partEnds head stand
      exact ⟨last.identifier, last.free, ⟨first, parts, head, stand, rfl⟩⟩
    · cases auto
  · obtain ⟨e, listed, rfl⟩ := List.mem_map.mp custom
    obtain ⟨identifier, free⟩ := named e.2 (List.mem_map.mpr ⟨e, listed, rfl⟩)
    exact ⟨identifier, free, type⟩

/-- The class body of the accessors planned for a container that is kept makes a class with their slots. -/
theorem mixinMade {w : World} (reached : w.Reachable) {warningsAsErrors : Bool} {cs : List Container} {c : Container}
    (kept : c ∈ keptContainers (validate warningsAsErrors cs).1)
    (named : ∀ e ∈ c.overrides.values, Text.Identifier.isIdentifier e.name.toList ∧ e.name ∉ keywords)
    (refers : ∀ a ∈ c.planned, Naming.Refers a.typeName) {name : String} (stands : Naming.Stands name)
    (other : name ≠ constantName) (reads : ReadsApart name c.planned) :
    ∃ (members : List Member) (origin : Origin),
      origin = ⟨w.classes.length, name, Ledger.put name w.classes.length w.names⟩ ∧
      List.Forall₂ Member.ReadFrom c.planned members ∧ (bodySlots origin members).keys.Nodup ∧
      w.step (.defineMixin name c.planned) =
        (.ok .nothing, w.withClass name (plainClass w.classes.length name (bodySlots origin members))) := by
  have apart := keptApart kept
  have writable := plannedWritable refers named
  obtain ⟨members, read, each⟩ := readMixinText stands other writable fun a => reads.sound
  generalize within : (⟨w.classes.length, name, Ledger.put name w.classes.length w.names⟩ : Origin) = origin
  have owner : origin.ownerName = name := within ▸ rfl
  have keys := bodyKeys origin members
  rw [owner, namesRead name each] at keys
  have allowed : ∀ n ∈ ClassTable.bodyNames, n ∉ (bodySlots origin members).keys := fun n listed there =>
    reads.free (List.mem_cons_of_mem _ listed) (keys ▸ there)
  have made := reads.slots owner apart each
  exact ⟨members, origin, rfl, each, keys ▸ reads.names apart,
    defineMixinIs (reachableRooted reached) (mixinReadable stands writable w) read (within ▸ made) allowed⟩

/-- A property of a class looks up the components of a type and keeps what it finds in a field. -/
def ClassTable.LooksUp (t : ClassTable) (c : ClassId) (property visibility field typeName : String) : Prop :=
  ∃ fill origin, t.slot? c property = some (.accessor visibility (.lookup field fill origin)) ∧ Fills typeName fill

/-- The accessors planned for a container that is kept, written as a class, make a class that lists just them, each
under its property and with its visibility. Each of them keeps what it finds in a field of its own, in which there is
nothing yet. -/
theorem mixinsAsPlanned {w : World} (reached : w.Reachable) {warningsAsErrors : Bool} {cs : List Container} {c : Container}
    (kept : c ∈ keptContainers (validate warningsAsErrors cs).1)
    (named : ∀ e ∈ c.overrides.values, Text.Identifier.isIdentifier e.name.toList ∧ e.name ∉ keywords)
    (refers : ∀ a ∈ c.planned, Naming.Refers a.typeName) {name : String} (stands : Naming.Stands name)
    (other : name ≠ constantName) (reads : ReadsApart name c.planned) :
    ∃ v k, w.step (.defineMixin name c.planned) = (.ok .nothing, v) ∧ Ledger.get? v.names name = some k ∧
      (∃ listed, (v.step (.accessors name)).1 = .ok (.accessorList listed) ∧
        listed.Perm (c.planned.map fun a => (a.property, a.visibility))) ∧
      (c.planned.map (·.property)).Nodup ∧
      ∀ a ∈ c.planned, ∃ field, v.classes.LooksUp k a.property a.visibility field a.typeName ∧
        v.classes.slot? k field = some .unresolved ∧
        ∀ p visibility type, v.classes.LooksUp k p visibility field type → p = a.property := by
  obtain ⟨members, origin, within, each, unique, ran⟩ := mixinMade reached kept named refers stands other reads
  have apart := keptApart kept
  have rooted := reachableRooted reached
  have own : origin.ownerName = name := within ▸ rfl
  have named := Ledger.get?_put_self w.names name w.classes.length
  refine ⟨_, w.classes.length, ran, named, ⟨_, congrArg Prod.fst (listingAnswered named), ?_⟩, ?_, ?_⟩
  · refine (plainListing rooted unique).trans (List.Perm.of_eq ?_)
    rw [shownRead origin each, own]
    exact List.map_congr_left fun a planned => by rw [reads.properties a planned]
  · rw [List.Nodup, List.pairwise_map]
    exact apart.imp fun {a b} distinct same => distinct a.property List.mem_cons_self
      (by rw [same]; exact List.mem_cons_self)
  · intro a planned
    have slot (p : String) : (w.withClass name (plainClass w.classes.length name (bodySlots origin members))).classes.slot?
        w.classes.length p = Ledger.get? (withStandard true (bodySlots origin members)) p := plainSlot rooted p
    obtain ⟨fill, fills, listed⟩ := reads.propertySlot own each planned
    refine ⟨readIn name a.cacheField, ⟨fill, origin, ?_, fills⟩, ?_, ?_⟩
    · rw [slot, standardSlot unique (by simp)]
      exact listed
    · rw [slot, standardSlot unique (by simp)]
      exact ReadsApart.fieldSlot own each planned
    · rintro p visibility type ⟨fill, _, found, _⟩
      rw [slot, standardSlot unique (by simp)] at found
      obtain ⟨b, also, rfl, _, same⟩ := reads.slotPlanned own each found
      rw [reads.sameField apart planned also (Getter.lookup.inj same).1]

/-- Two components, of which one has an accessor named for its type and the other one a name of its own. -/
def plannedText : String :=
  "@require_component(parts.Health)\n@require_component_getters(visibility=\"protected\")\n" ++
    "@require_component_getter(Engine, \"engine\", \"it's\")\nclass Turret: pass\n"

def plannedExample : List Accessor := [⟨"protected", "parts.Health", "Health"⟩, ⟨"it's", "Engine", "engine"⟩]

theorem mixinsAsPlannedTurret : ∃ u c v listed, SourceUnit.read "units" plannedText none = .ok u ∧
    c ∈ keptContainers (validate false (scannedContainers [u])).1 ∧ c.planned = plannedExample ∧
    ({} : World).step (.defineMixin "TurretGetters" c.planned) = (.ok .nothing, v) ∧
    (v.step (.accessors "TurretGetters")).1 = .ok (.accessorList listed) ∧
    listed.Perm [("Health", "protected"), ("engine", "it's")] := by
  have told : (SourceUnit.read "units" plannedText none).toOption.any (fun u =>
      (keptContainers (validate false (scannedContainers [u])).1).any fun c => c.planned = plannedExample &&
        c.overrides.values.all fun e => Text.Identifier.isIdentifier e.name.toList && e.name ∉ keywords) = true := by
    decide +kernel
  simp only [Option.any_eq_true, List.any_eq_true, List.all_eq_true, Bool.and_eq_true, decide_eq_true_eq] at told
  obtain ⟨u, read, c, kept, planned, named⟩ := told
  have stands : ∀ name ∈ ["parts", "Health", "Engine", "TurretGetters"], Naming.Stands name := by
    have each : ∀ name ∈ ["parts", "Health", "Engine", "TurretGetters"],
        Text.Identifier.isIdentifier name.toList ∧ name ∉ keywords ∧ normal name = name := by decide +kernel
    exact fun name listed => ⟨(each name listed).1, (each name listed).2.1, (each name listed).2.2⟩
  have refers : ∀ a ∈ c.planned, Naming.Refers a.typeName := by
    rw [planned]
    simp only [plannedExample, List.forall_mem_cons]
    exact ⟨⟨"parts", ["Health"], stands _ (by simp), fun part listed => stands part (by simp_all), by decide +kernel⟩,
      ⟨"Engine", [], stands _ (by simp), by simp, rfl⟩, List.forall_mem_nil _⟩
  have reads : ReadsApart "TurretGetters" c.planned := by
    rw [planned]
    exact ⟨by decide +kernel, by decide +kernel, by decide +kernel, by decide +kernel⟩
  obtain ⟨v, k, ran, _, ⟨listed, shown, order⟩, _⟩ :=
    mixinsAsPlanned ⟨[], rfl⟩ kept named refers (stands "TurretGetters" (by simp)) (by decide) reads
  exact ⟨u, c, v, listed, okOf read, kept, planned, ran, shown, by simpa [planned, plannedExample] using order⟩

/-- Two overrides, of which the first takes the name of the helper that makes accessors. -/
def shadowingText : String :=
  "@require_component_getter(A, \"component_accessor\")\n@require_component_getter(B, \"y\")\nclass C: pass\n"

/-- A container that is kept, and whose overrides have identifiers as names; but the class of its accessors cannot be
made. -/
theorem shadowedHelperFails : ∃ u c f, SourceUnit.read "m" shadowingText none = .ok u ∧
    c ∈ keptContainers (validate false (scannedContainers [u])).1 ∧
    (∀ e ∈ c.overrides.values, Text.Identifier.isIdentifier e.name.toList ∧ e.name ∉ keywords) ∧
    (({} : World).step (.defineMixin "CGetters" c.planned)).1 = .error f := by
  have told : (SourceUnit.read "m" shadowingText none).toOption.any (fun u =>
      (keptContainers (validate false (scannedContainers [u])).1).any fun c =>
        (c.overrides.values.all fun e => Text.Identifier.isIdentifier e.name.toList && e.name ∉ keywords) &&
        (({} : World).step (.defineMixin "CGetters" c.planned)).1.toOption.isNone) = true := by
    decide +kernel
  simp only [Option.any_eq_true, List.any_eq_true, List.all_eq_true, Bool.and_eq_true, decide_eq_true_eq] at told
  obtain ⟨u, read, c, kept, named, failed⟩ := told
  cases ran : (({} : World).step (.defineMixin "CGetters" c.planned)).1 with
  | ok answer =>
    rw [ran] at failed
    cases failed
  | error f => exact ⟨u, c, f, okOf read, kept, named, ran⟩

end Hosting

end AccessorForge
