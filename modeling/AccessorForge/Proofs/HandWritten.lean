import AccessorForge.Proofs.Footprints
/-! Files that people write. No run removes one, and it is replaced exactly where a module goes: nothing keeps a module
from a file that stands at its place, which may be the source of its own class. -/
namespace AccessorForge
open Job Running
variable {w v : Workspace} {r : Request} {dryRun : Bool} {s : Spot}

/-- A file without the generated marker, and not the one that is logged into. -/
structure Workspace.HandWritten (w : Workspace) (s : Spot) : Prop where
  unlogged : w.logFile ≠ some s
  held : (w.tree.bytes? s).isSome = true
  unmarked : w.tree.begun s = false

theorem placesEnd (sound : w.Sound) (inside : s ∈ r.places w) : "_getters.py".toList <:+ (s.getLastD "").toList := by
  obtain ⟨here, name, rfl⟩ := placesNamed sound inside
  rw [List.getLastD_concat, Naming.outputChars]
  exact List.suffix_append _ _

theorem begunDiffers (unmarked : w.tree.begun s = false) (begun : v.tree.begun s = true) :
    v.tree.bytes? s ≠ w.tree.bytes? s := by
  intro same
  unfold FileTree.begun at unmarked begun
  rw [same, unmarked] at begun
  cases begun

namespace Footprint
variable {ss : List Spot} {ps gone : List Path}

theorem unremoved (footprint : Footprint ss ps gone w v) (own : w.HandWritten s) : s ∉ gone.map Path.parts := by
  intro removed
  obtain ⟨c, taken, rfl⟩ := List.mem_map.mp removed
  obtain ⟨_, _, _, _, begun⟩ := footprint.each c taken
  cases own.unmarked.symm.trans (begun own.unlogged)

theorem replacedIff (footprint : Footprint ss ps gone w v) (own : w.HandWritten s) :
    v.tree.bytes? s = w.tree.bytes? s ↔ s ∉ ps.map w.spot := by
  constructor
  · intro same written
    obtain ⟨p, member, rfl⟩ := List.mem_map.mp written
    exact begunDiffers own.unmarked ((footprint.filled p member).begun (footprint.apart.logFile ▸ own.unlogged)) same
  · intro unwritten
    refine footprint.apart.same s ?_ own.unlogged
    rw [List.mem_append, not_or]
    exact ⟨unwritten, footprint.unremoved own⟩

theorem stillHeld (footprint : Footprint ss ps gone w v) (own : w.HandWritten s) :
    (v.tree.bytes? s).isSome = true := by
  by_cases written : s ∈ ps.map w.spot
  · obtain ⟨p, member, rfl⟩ := List.mem_map.mp written
    exact (footprint.filled p member).stands
  · rw [(footprint.replacedIff own).mpr written]
    exact own.held

end Footprint

/-- A run removes no file without the marker, and it keeps every one that no module goes to; a real run that hands over
all its modules keeps no other. -/
theorem handWrittenElsewhereStay (r : Request) (dryRun : Bool) (w v : Workspace)
    (result : Except Failure (Outcome Generation)) (sound : w.Sound) (ran : (generate r dryRun).runIn w = (result, v)) :
    (∀ s ∈ r.places w, "_getters.py".toList <:+ (s.getLastD "").toList) ∧
    ∀ s, w.HandWritten s → (v.tree.bytes? s).isSome = true ∧ (s ∉ r.places w → v.tree.bytes? s = w.tree.bytes? s) ∧
      ∀ g, result = .ok (.ok g) → (v.tree.bytes? s = w.tree.bytes? s ↔ s ∉ g.output.written.map w.spot) ∧
        (dryRun = false → g.pass.writeErrors = [] → (v.tree.bytes? s = w.tree.bytes? s ↔ s ∉ r.places w)) := by
  refine ⟨fun s => placesEnd sound, fun s own => ?_⟩
  obtain ⟨ps, gone, footprint, told⟩ := generateLeaves sound ran
  have elsewhere (outside : s ∉ r.places w) : v.tree.bytes? s = w.tree.bytes? s :=
    (footprint.replacedIff own).mpr fun written => outside (footprint.within written)
  refine ⟨footprint.stillHeld own, elsewhere, fun g ended => ⟨?_, fun isReal accepted => ⟨?_, elsewhere⟩⟩⟩
  · rw [(told.noted g ended).1]
    exact footprint.replacedIff own
  · intro same inside
    have filled := told.filled g ended isReal accepted s inside
    exact begunDiffers own.unmarked (filled.begun (footprint.apart.logFile ▸ own.unlogged)) same

/-- A class in a file that has the name of its module, and a helper that has the name of some module. -/
def selfNamed : Workspace :=
  let encoded (text : String) : List UInt8 := Text.Utf8.encode text.toList
  { tree := [
      (["a_getters.py"], .file (encoded "@require_component_getters\nclass A: pass\n")),
      (["b_getters.py"], .file (encoded "pass\n")),
      (["c.yml"], .file (encoded "sources: [a_getters.py, b_getters.py]\n"))] }

theorem selfNamedRuns : ∃ g v d u, (generate bySettings false).runIn selfNamed = (.ok (.ok g), v) ∧
    Generation.hasErrors (.ok g) = false ∧ g.output.written.map selfNamed.spot = [["a_getters.py"]] ∧
    v.tree.bytes? ["a_getters.py"] ≠ selfNamed.tree.bytes? ["a_getters.py"] ∧
    (generate bySettings false).runIn v = (.ok (.ok d), u) ∧ u.tree.bytes? ["a_getters.py"] = none := by
  have checked : (generate bySettings false).endsWith selfNamed (fun g v =>
      decide (Generation.hasErrors (.ok g) = false ∧ g.output.written.map selfNamed.spot = [["a_getters.py"]] ∧
        v.tree.bytes? ["a_getters.py"] ≠ selfNamed.tree.bytes? ["a_getters.py"]) &&
      (generate bySettings false).endsWith v fun _ u => decide (u.tree.bytes? ["a_getters.py"] = none)) = true := by
    decide +kernel
  obtain ⟨g, v, ran, told⟩ := endsIf checked
  obtain ⟨before, again⟩ := Bool.and_eq_true_iff.mp told
  obtain ⟨fine, written, replaced⟩ := of_decide_eq_true before
  obtain ⟨d, u, later, gone⟩ := endsIf again
  exact ⟨g, v, d, u, ran, fine, written, replaced, later, of_decide_eq_true gone⟩

theorem handWrittenElsewhereStayHelper : ∃ g v, selfNamed.Sound ∧
    (generate bySettings false).runIn selfNamed = (.ok (.ok g), v) ∧ selfNamed.HandWritten ["b_getters.py"] ∧
    g.output.written.map selfNamed.spot = [["a_getters.py"]] ∧
    v.tree.bytes? ["b_getters.py"] = selfNamed.tree.bytes? ["b_getters.py"] := by
  have sound : selfNamed.Sound := ⟨FileTree.soundIf (by decide +kernel), rfl⟩
  have own : selfNamed.HandWritten ["b_getters.py"] := ⟨by decide +kernel, by decide +kernel, by decide +kernel⟩
  obtain ⟨g, v, _, _, ran, _, written, _⟩ := selfNamedRuns
  have kept := ((handWrittenElsewhereStay bySettings false selfNamed v _ sound ran).2 _ own).2.2 g rfl
  exact ⟨g, v, sound, ran, own, written, kept.1.mpr (by rw [written]; decide)⟩

/-- Its module replaces the file, and the next run takes that for an obsolete one. -/
theorem handWrittenReplaced : ∃ g v d u, selfNamed.HandWritten ["a_getters.py"] ∧
    (generate bySettings false).runIn selfNamed = (.ok (.ok g), v) ∧ Generation.hasErrors (.ok g) = false ∧
    v.tree.bytes? ["a_getters.py"] ≠ selfNamed.tree.bytes? ["a_getters.py"] ∧
    (generate bySettings false).runIn v = (.ok (.ok d), u) ∧ u.tree.bytes? ["a_getters.py"] = none := by
  have own : selfNamed.HandWritten ["a_getters.py"] := ⟨by decide +kernel, by decide +kernel, by decide +kernel⟩
  obtain ⟨g, v, d, u, ran, fine, _, replaced, later, gone⟩ := selfNamedRuns
  exact ⟨g, v, d, u, own, ran, fine, replaced, later, gone⟩

end AccessorForge
