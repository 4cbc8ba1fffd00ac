import AccessorForge.Proofs.Scans
/-! Files that begin with the generated marker, told by their bytes. Whatever a scan or a listing takes for a
generated module begins so, also where only the first line can be read. -/
namespace AccessorForge

namespace Text.Utf8

def IsPlain (c : Char) : Prop := 0 < c.toNat ∧ c.toNat < 0x80

theorem plainOf {c : Char} {n : Nat} (plain : IsPlain c) (same : Char.ofNat n = c) : n = c.toNat := by
  obtain ⟨positive, _⟩ := plain
  by_cases valid : n.isValidChar
  · rw [← same, Surrogate.toNat_ofNat valid]
  · have zero : Char.ofNat n = '\x00' := by
      rw [Char.ofNat, dif_neg valid]
      rfl
    rw [← same, zero] at positive
    exact absurd positive (by decide)

theorem leadBits {a : UInt8} {l : Lead} (lead : lead? a = some l) :
    (l.more = 1 ∧ 2 ≤ l.bits) ∨ (l.more = 2 ∧ 0x80 ≤ l.low ∧ (l.bits = 0 → 0xa0 ≤ l.low)) ∨
      (l.more = 3 ∧ 0x80 ≤ l.low ∧ (l.bits = 0 → 0x90 ≤ l.low)) := by
  unfold lead? at lead
  dsimp only at lead
  split_ifs at lead
  all_goals
    rw [← Option.some.inj lead]
    dsimp only
    omega

theorem decodePlain {position : Nat} {bytes : List UInt8} {c : Char} {cs : List Char} (plain : IsPlain c)
    (chars : (decodeFrom position bytes).chars = c :: cs) :
    ∃ a rest, bytes = a :: rest ∧ a.toNat = c.toNat ∧ (decodeFrom (position + 1) rest).chars = cs := by
  have wide {d : Decoded} {n : Nat} (long : 0x80 ≤ n) (told : (d.cons n).chars = c :: cs) : False := by
    have same := plainOf plain (List.cons.inj told).1
    have short := plain.2
    omega
  cases bytes with
  | nil => cases chars
  | cons a rest =>
    refine ⟨a, rest, rfl, ?_⟩
    unfold decodeFrom at chars
    dsimp only at chars
    split at chars
    · obtain ⟨first, others⟩ := List.cons.inj chars
      exact ⟨plainOf plain first, others⟩
    · split at chars
      · cases chars
      · -- Two, three or four bytes spell a character that one byte would not do for.
        rename_i l lead
        have bits := leadBits lead
        split at chars
        · cases chars
        · split at chars
          · cases chars
          · rename_i b _ within
            simp only [Bool.or_eq_true, decide_eq_true_eq, not_or] at within
            have tail : tailBits b = b.toNat - 0x80 := rfl
            split at chars
            · exact (wide (by omega) chars).elim
            · split at chars
              · cases chars
              · split at chars
                · cases chars
                · split at chars
                  · exact (wide (by omega) chars).elim
                  · split at chars
                    · cases chars
                    · split at chars
                      · cases chars
                      · exact (wide (by omega) chars).elim

theorem decodeBegins {position : Nat} {bytes : List UInt8} {cs : List Char} (plain : ∀ c ∈ cs, IsPlain c)
    (begun : cs <+: (decodeFrom position bytes).chars) : encode cs <+: bytes := by
  induction cs generalizing position bytes with
  | nil => exact List.nil_prefix
  | cons c rest ih =>
    obtain ⟨later, spelled⟩ := begun
    have own := plain c List.mem_cons_self
    obtain ⟨a, others, rfl, byte, chars⟩ := decodePlain own spelled.symm
    have deeper := ih (fun d member => plain d (List.mem_cons_of_mem _ member)) ⟨later, chars.symm⟩
    have first : encodeChar c = [a] := by
      unfold encodeChar
      dsimp only
      rw [if_pos own.2, ← byte]
      simp
    have whole : encode (c :: rest) = encodeChar c ++ encode rest := List.flatMap_cons
    rw [whole, first, List.singleton_append, List.cons_prefix_cons]
    exact ⟨rfl, deeper⟩

theorem decodeShort {position : Nat} {bytes : List UInt8}
    (readable : (decodeFrom position bytes).fault.all (·.reason = .cutOff) = true) :
    bytes.length ≤ 4 * (decodeFrom position bytes).chars.length + 3 := by
  -- A character takes at most four bytes, and what is cut off is at most three bytes more.
  fun_induction decodeFrom position bytes <;> simp_all +zetaDelta [Decoded.cons] <;> omega

/-! The first line. -/

theorem settledBegins {cs line : List Char} (settled : firstLine? cs = some line) : line <+: cs := by
  unfold firstLine? at settled
  dsimp only at settled
  generalize (if cs.getLast? = some '\r' then cs.dropLast else cs) = known at settled
  split at settled
  · cases settled
    exact List.takeWhile_prefix _
  · cases settled

/-- How reading on from some bytes comes to a line. -/
inductive Lined (fuel : Nat) (done : List Char) (pending bytes : List UInt8) (line : List Char) : Prop
  | spent (none : bytes = []) (told : line = done.takeWhile fun c => c ≠ '\n' && c ≠ '\r')
  | more (filled : bytes ≠ []) (d : Decoded) (decoded : d = decodeFrom 0 (pending ++ bytes.take pieceSize))
      (readable : d.fault.all (·.reason = .cutOff) = true)
      (later : firstLine? (done ++ d.chars) = some line ∨
        ∃ left, firstLineFrom fuel (done ++ d.chars) left (bytes.drop pieceSize) = .ok line)

theorem linedStep {fuel : Nat} {done line : List Char} {pending bytes : List UInt8}
    (ok : firstLineFrom (fuel + 1) done pending bytes = .ok line) : Lined fuel done pending bytes line := by
  unfold firstLineFrom at ok
  split at ok
  · rename_i none
    split at ok
    · cases ok
    · cases ok
      exact .spent (List.isEmpty_iff.mp none) rfl
  · rename_i filled
    have filled : bytes ≠ [] := by simpa using filled
    dsimp only at ok
    split at ok
    · cases ok
    · rename_i stopped
      have readable : (decodeFrom 0 (pending ++ bytes.take pieceSize)).fault.all (·.reason = .cutOff) = true := by
        cases fault : (decodeFrom 0 (pending ++ bytes.take pieceSize)).fault with
        | none => rfl
        | some f =>
          by_contra other
          exact stopped f fault (by simp_all [Option.filter])
      split at ok
      · rename_i settled
        cases ok
        exact .more filled _ rfl readable (.inl settled)
      · exact .more filled _ rfl readable (.inr ⟨_, ok⟩)

theorem lineWithin {fuel : Nat} {done line : List Char} {pending bytes : List UInt8}
    (ok : firstLineFrom fuel done pending bytes = .ok line) : ∃ more, line <+: done ++ more := by
  induction fuel generalizing done pending bytes with
  | zero =>
    cases ok
    exact ⟨[], by simp⟩
  | succ fuel ih =>
    cases linedStep ok with
    | spent none told =>
      rw [told]
      exact ⟨[], by simpa using List.takeWhile_prefix _⟩
    | more filled d decoded readable later =>
      rcases later with settled | ⟨left, later⟩
      · exact ⟨d.chars, settledBegins settled⟩
      · obtain ⟨more, begun⟩ := ih later
        rw [List.append_assoc] at begun
        exact ⟨_, begun⟩

/- A line that outgrows the first piece stands in a piece of full size, which spells more characters than the marker
has. -/
theorem firstLineBegins {bytes : List UInt8} {cs line : List Char} (plain : ∀ c ∈ cs, IsPlain c)
    (short : cs.length < 2000) (read : firstLine bytes = .ok line) (begun : cs <+: line) : encode cs <+: bytes := by
  unfold firstLine at read
  cases linedStep read with
  | spent none told =>
    rw [told] at begun
    have empty : cs = [] := List.prefix_nil.mp (begun.trans (List.takeWhile_prefix _))
    simp [empty, encode]
  | more filled d decoded readable later =>
    rw [List.nil_append] at decoded later
    have spelled : cs <+: d.chars := by
      rcases later with settled | ⟨left, later⟩
      · exact begun.trans (settledBegins settled)
      · by_cases whole : bytes.length ≤ pieceSize
        · rw [List.drop_of_length_le whole] at later
          cases linedStep later with
          | spent none told =>
            rw [told] at begun
            exact begun.trans (List.takeWhile_prefix _)
          | more filled e again fine last => exact absurd rfl filled
        · obtain ⟨more, within⟩ := lineWithin later
          have counted := decodeShort (decoded ▸ readable)
          refine List.prefix_of_prefix_length_le (begun.trans within) (List.prefix_append _ _) ?_
          rw [← decoded, List.length_take] at counted
          unfold pieceSize at counted whole
          omega
    rw [decoded] at spelled
    exact (decodeBegins plain spelled).trans (List.take_prefix _ _)

end Text.Utf8

/-! The marker. -/

theorem unifyBegins {xs cs : List Char} (straight : '\n' ∉ xs) (begun : xs <+: Text.LineEnds.unify cs) : xs <+: cs := by
  induction xs generalizing cs with
  | nil => exact List.nil_prefix
  | cons x rest ih =>
    obtain ⟨other, later⟩ := not_or.mp fun either => straight (List.mem_cons.mpr either)
    obtain ⟨more, spelled⟩ := begun
    unfold Text.LineEnds.unify at spelled
    split at spelled
    · cases spelled
    · exact absurd (List.cons.inj spelled).1.symm other
    · rename_i c cs _
      obtain ⟨first, others⟩ := List.cons.inj spelled
      split at first
      · exact absurd first.symm other
      · exact List.cons_prefix_cons.mpr ⟨first, ih later ⟨more, others⟩⟩

/-- Whether the bytes of a file begin with the generated marker. -/
def beginsGenerated (bytes : List UInt8) : Bool := (Text.Utf8.encode generatedMarker.toList).isPrefixOf bytes

theorem markerPlain : ∀ c ∈ generatedMarker.toList, Text.Utf8.IsPlain c := by
  have checked : (generatedMarker.toList.all fun c => decide (0 < c.toNat) && decide (c.toNat < 0x80)) = true := by
    decide +kernel
  intro c member
  simpa [Text.Utf8.IsPlain] using List.all_eq_true.mp checked c member

theorem encodedBegins {text : String} (generated : isGenerated text = true) :
    beginsGenerated (Text.Utf8.encode text.toList) = true := by
  unfold isGenerated at generated
  rw [List.isPrefixOf_iff_prefix] at generated
  obtain ⟨more, spelled⟩ := generated
  unfold beginsGenerated Text.Utf8.encode
  rw [List.isPrefixOf_iff_prefix, ← spelled, List.flatMap_append]
  exact List.prefix_append _ _

theorem textBegins {bytes : List UInt8} {cs : List Char} (decoded : Text.Utf8.decode bytes = .ok cs)
    (generated : isGenerated (String.ofList (Text.LineEnds.unify cs)) = true) : beginsGenerated bytes = true := by
  unfold isGenerated at generated
  rw [String.toList_ofList, List.isPrefixOf_iff_prefix] at generated
  have chars : (Text.Utf8.decodeFrom 0 bytes).chars = cs := by
    unfold Text.Utf8.decode at decoded
    dsimp only at decoded
    split at decoded
    · cases decoded
    · cases decoded
      rfl
  have begun := unifyBegins (by decide) generated
  rw [← chars] at begun
  unfold beginsGenerated
  rw [List.isPrefixOf_iff_prefix]
  exact Text.Utf8.decodeBegins markerPlain begun

theorem lineBegins {bytes : List UInt8} {line : List Char} (read : Text.Utf8.firstLine bytes = .ok line)
    (generated : isGenerated (String.ofList line) = true) : beginsGenerated bytes = true := by
  unfold isGenerated at generated
  rw [String.toList_ofList, List.isPrefixOf_iff_prefix] at generated
  unfold beginsGenerated
  rw [List.isPrefixOf_iff_prefix]
  exact Text.Utf8.firstLineBegins markerPlain (by decide) read generated

/-- Whether a file of this tree begins with the generated marker. -/
def FileTree.begun (t : FileTree) (s : Spot) : Bool := (t.bytes? s).any beginsGenerated

theorem FileTree.begunIf {t : FileTree} {s : Spot} {bytes : List UInt8} (held : t.bytes? s = some bytes)
    (begins : beginsGenerated bytes = true) : t.begun s = true := by
  unfold begun
  rw [held]
  exact begins

namespace Workspace
variable {w : Workspace} {p : Path}

theorem markedBegun (marked : w.marked p = true) : w.tree.begun p.parts = true := by
  unfold Workspace.marked at marked
  obtain ⟨text, read, generated⟩ := (Option.any_eq_true _ _).mp marked
  obtain ⟨bytes, held, decoded⟩ := Option.bind_eq_some_iff.mp read
  obtain ⟨cs, whole, rfl⟩ := Option.map_eq_some_iff.mp decoded
  exact FileTree.begunIf (heldBytes held).2 (textBegins (okOf whole) generated)

theorem headedBegun (headed : w.headed p = true) : w.tree.begun p.parts = true := by
  unfold Workspace.headed at headed
  obtain ⟨line, read, generated⟩ := (Option.any_eq_true _ _).mp headed
  obtain ⟨bytes, held, decoded⟩ := Option.bind_eq_some_iff.mp read
  obtain ⟨cs, whole, rfl⟩ := Option.map_eq_some_iff.mp decoded
  exact FileTree.begunIf (heldBytes held).2 (lineBegins (okOf whole) generated)

end Workspace

end AccessorForge
