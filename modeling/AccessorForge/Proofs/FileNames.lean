import AccessorForge.Naming
import AccessorForge.Path
import AccessorForge.Text.Surrogate
import AccessorForge.Syntax.Cursor
/-! Names without separators. Neither a dot nor a slash comes into a name when it is put into its normal form or into
snake case, and nothing that no file name can have, so that a module named for a word has a single file name. -/
namespace AccessorForge

/-- What stands between the names in a dotted name or in a path, ends a name, or announces half of a pair. -/
def Text.Separates (c : Char) : Prop := c = '.' ∨ c = '/' ∨ c = '\x00' ∨ c = Text.Surrogate.mark

def Text.separators : List Char := ['.', '/', '\x00', Text.Surrogate.mark]

theorem Text.separatesIff (c : Char) : Text.Separates c ↔ c ∈ Text.separators := by
  simp [Text.Separates, Text.separators]

/-- Code points of characters that lie between or above the separators. -/
def Text.Inside (n : Nat) : Prop := 47 < n ∧ (n < 0xD800 ∨ 0xDFFF < n ∧ n < 0x10FFFF)

namespace Text.Compose
variable {mark : Char}

theorem wordsWithin {current cs word : List Char} (member : word ∈ words current cs) {c : Char} (inside : c ∈ word) :
    c ∈ current ∨ c ∈ cs := by
  induction cs generalizing current with
  | nil =>
    rw [words, List.mem_singleton] at member
    rw [member, List.mem_reverse] at inside
    exact .inl inside
  | cons d rest ih =>
    unfold words at member
    split at member
    · rcases List.mem_cons.mp member with same | later
      · rw [same, List.mem_reverse] at inside
        exact .inl inside
      · rcases ih later with none | deeper
        · cases none
        · exact .inr (List.mem_cons_of_mem _ deeper)
    · rcases ih member with known | deeper
      · rcases List.mem_cons.mp known with rfl | old
        · exact .inr List.mem_cons_self
        · exact .inl old
      · exact .inr (List.mem_cons_of_mem _ deeper)

theorem triplesWithin {cs : List Char} {t : Char × Char × Char} (member : t ∈ triples cs) : t.1 ∈ cs ∧ t.2.1 ∈ cs := by
  fun_induction triples cs with
  | case1 c a b rest ih =>
    rcases List.mem_cons.mp member with rfl | later
    · simp
    · simp [ih later]
  | case2 => cases member

/-! The tables. Their lines are spelled out first, so that all their characters are looked at in one go. -/

theorem spelledMore {s : String} {cs : List Char} {ss : List String} {css : List (List Char)} (spelled : s = String.ofList cs)
    (rest : ss = css.map String.ofList) : s :: ss = (cs :: css).map String.ofList := by
  rw [spelled, rest, List.map_cons]

/-- Whether a character has none of the given numbers; they are compared as numbers are when a whole table is checked. -/
def isNoneOf (numbers : List Nat) (c : Char) : Bool := numbers.all fun n => !Nat.beq n c.toNat

theorem joinedPlain {absent : List Char} {ss : List String} {css : List (List Char)} (among : mark ∈ absent)
    (spelled : ss = css.map String.ofList) (plain : css.all (·.all (isNoneOf (absent.map Char.toNat))) = true) :
    mark ∉ (String.join ss).toList := by
  rw [String.toList_join, List.mem_flatMap, spelled]
  rintro ⟨t, member, there⟩
  obtain ⟨cs, listed, rfl⟩ := List.mem_map.mp member
  rw [String.toList_ofList] at there
  have own := List.all_eq_true.mp (List.all_eq_true.mp plain cs listed) mark there
  simpa using List.all_eq_true.mp own mark.toNat (List.mem_map_of_mem among)

/-- What the tables of the normal forms do not hold. -/
structure Unmarked (mark : Char) : Prop where
  decompositions : Separates mark → mark ∉ CompatTable.decompositions.toList
  compositions : mark ∈ '_' :: separators → mark ∉ CompatTable.compositions.toList

set_option maxRecDepth 4000 in
theorem tablesUnmarked : Unmarked mark := by
  constructor
  · intro separates
    unfold CompatTable.decompositions
    apply joinedPlain ((separatesIff mark).mp separates)
    case spelled =>
      repeat apply spelledMore rfl
      exact List.map_nil.symm
    case plain => decide +kernel
  · intro absent
    unfold CompatTable.compositions
    apply joinedPlain absent
    case spelled =>
      repeat apply spelledMore rfl
      exact List.map_nil.symm
    case plain => decide +kernel

/-! Normal forms. -/

theorem ofNatOther {n : Nat} (separates : Separates mark) (inside : Inside n) : mark ≠ Char.ofNat n := by
  intro same
  obtain ⟨above, below⟩ := inside
  have valid : n.isValidChar := by
    unfold Nat.isValidChar
    omega
  have number := congrArg Char.toNat same
  rw [Surrogate.toNat_ofNat valid] at number
  rw [← number] at above below
  rcases separates with rfl | rfl | rfl | rfl
  · exact absurd above (by decide)
  · exact absurd above (by decide)
  · exact absurd above (by decide)
  · exact absurd below (by decide)

theorem hangulPlain {n : Nat} {cs : List Char} (separates : Separates mark) (found : decomposeHangul n = some cs) :
    mark ∉ cs := by
  unfold decomposeHangul at found
  split at found
  · rename_i within
    simp only [Bool.and_eq_true, decide_eq_true_eq] at within
    simp only [hangulBase, syllableCount, leadCount, vowelCount, tailCount] at within
    have lead : mark ≠ Char.ofNat (leadBase + (n - hangulBase) / (vowelCount * tailCount)) := by
      refine ofNatOther separates ⟨?_, .inl ?_⟩ <;> simp only [leadBase, hangulBase, vowelCount, tailCount] <;> omega
    have vowel : mark ≠ Char.ofNat (vowelBase + (n - hangulBase) % (vowelCount * tailCount) / tailCount) := by
      refine ofNatOther separates ⟨?_, .inl ?_⟩ <;> simp only [vowelBase, hangulBase, vowelCount, tailCount] <;> omega
    have tail : mark ≠ Char.ofNat (tailBase + (n - hangulBase) % tailCount) := by
      refine ofNatOther separates ⟨?_, .inl ?_⟩ <;> simp only [tailBase, hangulBase, tailCount] <;> omega
    have same := Option.some.inj found
    rw [← same]
    split
    · simp [lead, vowel]
    · simp [lead, vowel, tail]
  · cases found

theorem decomposePlain {c : Char} (separates : Separates mark) (plain : mark ≠ c) : mark ∉ decompose c := by
  unfold decompose
  split
  · simpa using plain
  · split
    · rename_i cs found
      exact hangulPlain separates found
    · cases found : decompositionPairs.find? (·.1 = c) with
      | none => simpa using plain
      | some pair =>
        intro there
        have member := List.mem_of_find?_eq_some found
        unfold decompositionPairs at member
        obtain ⟨word, known, split⟩ := List.mem_filterMap.mp member
        cases word with
        | nil => cases split
        | cons d rest =>
          cases split
          rcases wordsWithin known (List.mem_cons_of_mem d there) with none | tabled
          · cases none
          · exact tablesUnmarked.decompositions separates tabled

theorem insertMarkWithin {c d : Char} {cs : List Char} (member : d ∈ insertMark c cs) : d = c ∨ d ∈ cs := by
  induction cs with
  | nil => exact .inl (List.mem_singleton.mp member)
  | cons e rest ih =>
    unfold insertMark at member
    split at member
    · exact List.mem_cons.mp member
    · rcases List.mem_cons.mp member with rfl | later
      · exact .inr List.mem_cons_self
      · rcases ih later with same | deeper
        · exact .inl same
        · exact .inr (List.mem_cons_of_mem _ deeper)

theorem orderMarksWithin {d : Char} {marks cs : List Char} (member : d ∈ orderMarks marks cs) :
    d ∈ marks ∨ d ∈ cs := by
  induction cs generalizing marks with
  | nil => exact .inl member
  | cons c rest ih =>
    unfold orderMarks at member
    split at member
    · rcases List.mem_append.mp member with old | new
      · exact .inl old
      · rcases List.mem_cons.mp new with rfl | later
        · exact .inr List.mem_cons_self
        · rcases ih later with none | deeper
          · cases none
          · exact .inr (List.mem_cons_of_mem _ deeper)
    · rcases ih member with marked | deeper
      · rcases insertMarkWithin marked with rfl | old
        · exact .inr List.mem_cons_self
        · exact .inl old
      · exact .inr (List.mem_cons_of_mem _ deeper)

theorem composeHangulPlain {a b : Nat} {c : Char} (separates : Separates mark) (found : composeHangul a b = some c) : mark ≠ c := by
  unfold composeHangul at found
  split at found
  · rename_i within
    simp only [Bool.and_eq_true, decide_eq_true_eq] at within
    simp only [leadBase, leadCount, vowelBase, vowelCount] at within
    rw [← Option.some.inj found]
    refine ofNatOther separates ⟨?_, .inl ?_⟩ <;>
      simp only [hangulBase, leadBase, vowelBase, vowelCount, tailCount] <;> omega
  · split at found
    · rename_i within
      simp only [Bool.and_eq_true, decide_eq_true_eq] at within
      simp only [hangulBase, syllableCount, leadCount, vowelCount, tailCount, tailBase] at within
      rw [← Option.some.inj found]
      refine ofNatOther separates ⟨?_, .inl ?_⟩ <;> simp only [tailBase] <;> omega
    · cases found

theorem composePairPlain {a b c : Char} (separates : Separates mark) (found : composePair a b = some c) : mark ≠ c := by
  unfold composePair at found
  split at found
  · rename_i hangul
    cases found
    exact composeHangulPlain separates hangul
  · obtain ⟨t, known, rfl⟩ := Option.map_eq_some_iff.mp found
    intro same
    have tabled := (triplesWithin (List.mem_of_find?_eq_some known)).1
    rw [← same] at tabled
    exact tablesUnmarked.compositions (List.mem_cons_of_mem _ ((separatesIff mark).mp separates)) tabled

theorem composeFromPlain {starter : Char} {held cs : List Char} {top : Option Nat} (separates : Separates mark)
    (first : mark ≠ starter) (marks : mark ∉ held) (rest : mark ∉ cs) : mark ∉ composeFrom starter held top cs := by
  induction cs generalizing starter held top with
  | nil => simp [composeFrom, first, marks]
  | cons c later ih =>
    obtain ⟨next, deeper⟩ := not_or.mp fun either => rest (List.mem_cons.mpr either)
    have paired {blocked : Prop} [Decidable blocked] {d : Char}
        (composed : (if blocked then none else composePair starter c) = some d) : composePair starter c = some d := by
      split at composed
      · cases composed
      · exact composed
    unfold composeFrom
    dsimp only
    split
    · rename_i d composed
      exact ih (composePairPlain separates (paired composed)) marks deeper
    · split
      · have tail : mark ∉ composeFrom c [] none later := ih next List.not_mem_nil deeper
        simp [first, marks, tail]
      · exact ih first (by simp [marks, next]) deeper

theorem composePlain {cs : List Char} (separates : Separates mark) (plain : mark ∉ cs) : mark ∉ compose cs := by
  induction cs with
  | nil => exact plain
  | cons c rest ih =>
    obtain ⟨next, deeper⟩ := not_or.mp fun either => plain (List.mem_cons.mpr either)
    unfold compose
    split
    · exact composeFromPlain separates next (List.not_mem_nil) deeper
    · simp [next, ih deeper]

theorem normalFormPlain {cs : List Char} (separates : Separates mark) (plain : mark ∉ cs) : mark ∉ normalForm cs := by
  unfold normalForm
  split
  · exact plain
  · refine composePlain separates fun there => ?_
    rcases orderMarksWithin there with none | decomposed
    · cases none
    · obtain ⟨c, member, there⟩ := List.mem_flatMap.mp decomposed
      have other : mark ≠ c := by
        rintro rfl
        exact plain member
      exact decomposePlain separates other there

end Text.Compose

/-! Snake case. -/

namespace Text.Lower

variable {mark : Char}

theorem toLowerPlain {c : Char} (separates : Separates mark) (plain : mark ≠ c) : mark ≠ c.toLower := by
  unfold Char.toLower
  split
  · rename_i upper
    intro same
    have number := congrArg (fun d : Char => d.val.toNat) same
    have least : 65 ≤ c.val.toNat := UInt32.le_iff_toNat_le.mp upper.1
    have most : c.val.toNat ≤ 90 := UInt32.le_iff_toNat_le.mp upper.2
    have shifted : mark.toNat = (c.val + 32).toNat := number
    rw [UInt32.toNat_add] at shifted
    have bound : (32 : UInt32).toNat = 32 := rfl
    have apart : mark.toNat < 65 ∨ 200 < mark.toNat := by
      rcases separates with rfl | rfl | rfl | rfl <;> decide
    omega
  · exact plain

theorem runsInside : ∀ run ∈ LowerTable.runs, (47 : Int) < run.first + run.shift ∧
    (run.last + run.shift < 0xD800 ∨ (0xDFFF : Int) < run.first + run.shift ∧ run.last + run.shift < 0x10FFFF) := by
  decide +kernel

theorem lowerCharPlain {c : Char} (separates : Separates mark) (plain : mark ≠ c) : mark ∉ lowerChar c := by
  unfold lowerChar
  split
  · simpa using toLowerPlain separates plain
  · split
    · rcases separates with rfl | rfl | rfl | rfl <;> decide
    · split
      · rename_i run found
        have covered := List.find?_some found
        simp only [LowerTable.Run.covers, Bool.and_eq_true, decide_eq_true_eq] at covered
        obtain ⟨above, below⟩ := runsInside run (List.mem_of_find?_eq_some found)
        rw [List.mem_singleton]
        refine Compose.ofNatOther separates ⟨by omega, ?_⟩
        rcases below with low | high
        · exact .inl (by omega)
        · exact .inr ⟨by omega, by omega⟩
      · simpa using plain

theorem lowerFromPlain {before cs : List Char} (separates : Separates mark) (plain : mark ∉ cs) :
    mark ∉ lowerFrom before cs := by
  induction cs generalizing before with
  | nil => exact plain
  | cons c rest ih =>
    obtain ⟨next, deeper⟩ := not_or.mp fun either => plain (List.mem_cons.mpr either)
    unfold lowerFrom
    rw [List.mem_append, not_or]
    refine ⟨?_, ih deeper⟩
    split
    · split
      · rcases separates with rfl | rfl | rfl | rfl <;> decide
      · rcases separates with rfl | rfl | rfl | rfl <;> decide
    · exact lowerCharPlain separates next

end Text.Lower

namespace Naming

theorem splitWordsWithin {inTail : Bool} {cs : List Char} {d : Char} (member : d ∈ splitWords inTail cs) :
    d = '_' ∨ d ∈ cs := by
  fun_induction splitWords inTail cs with
  | case1 => cases member
  | case2 => exact .inr member
  | case3 => exact .inr member
  | case4 inTail c u l rest small ih => grind
  | case5 inTail c u l rest small capital ih => grind
  | case6 inTail c u l rest small other ih => grind

theorem splitCaseWithin {cs : List Char} {d : Char} (member : d ∈ splitCase cs) : d = '_' ∨ d ∈ cs := by
  fun_induction splitCase cs with
  | case1 => cases member
  | case2 => exact .inr member
  | case3 a b rest capital ih => grind
  | case4 a b rest other ih => grind

theorem snakePlain {mark : Char} (separates : Text.Separates mark) {cs : List Char} (plain : mark ∉ cs) :
    mark ∉ snakeChars cs := by
  have other : mark ≠ '_' := by
    rcases separates with rfl | rfl | rfl | rfl <;> decide
  refine Text.Lower.lowerFromPlain separates fun there => ?_
  rcases splitCaseWithin there with line | split
  · exact other line
  · rcases splitWordsWithin split with line | known
    · exact other line
    · exact plain known

theorem outputChars (name : String) : (outputName name).toList = snakeChars name.toList ++ "_getters.py".toList := by
  unfold outputName moduleStem
  rw [String.toList_append, String.toList_append, String.toList_ofList, List.append_assoc]
  rfl

end Naming

namespace Path

/-- Whether a name stands for an entry of a directory. -/
def isEntryName (n : String) : Bool := n ≠ "" && n ≠ "." && n ≠ ".." && !n.toList.contains '/'

theorem entryNameParts {n : String} (entry : isEntryName n = true) : n ≠ "" ∧ n ≠ "." ∧ n ≠ ".." ∧ '/' ∉ n.toList := by
  simpa [isEntryName, and_assoc] using entry

theorem segmentsWhole {current cs : List Char} (plain : '/' ∉ cs) :
    segments current cs = [String.ofList (current.reverse ++ cs)] := by
  induction cs generalizing current with
  | nil => simp [segments]
  | cons c rest ih =>
    obtain ⟨next, deeper⟩ := not_or.mp fun either => plain (List.mem_cons.mpr either)
    rw [segments, if_neg (Ne.symm next), ih deeper]
    simp

theorem segmentsCut {current cs : List Char} (plain : '/' ∉ cs) (rest : List Char) :
    segments current (cs ++ '/' :: rest) = String.ofList (current.reverse ++ cs) :: segments [] rest := by
  induction cs generalizing current with
  | nil => simp [segments]
  | cons c more ih =>
    obtain ⟨next, deeper⟩ := not_or.mp fun either => plain (List.mem_cons.mpr either)
    rw [List.cons_append, segments, if_neg (Ne.symm next), ih deeper]
    simp

theorem segmentsJoined {n : String} {names : List String} (plain : ∀ m ∈ n :: names, '/' ∉ m.toList) :
    segments [] ("/".intercalate (n :: names)).toList = n :: names := by
  induction names generalizing n with
  | nil =>
    have own := plain n List.mem_cons_self
    rw [String.toList_intercalate, List.map_singleton, List.intercalate_singleton, segmentsWhole own]
    simp
  | cons m rest ih =>
    have own := plain n List.mem_cons_self
    have later := ih fun k member => plain k (List.mem_cons_of_mem _ member)
    rw [String.toList_intercalate] at later ⊢
    rw [List.map_cons, List.map_cons, List.intercalate_cons_cons, List.append_assoc]
    rw [List.map_cons] at later
    have cut := @segmentsCut [] _ own (List.intercalate "/".toList (m.toList :: rest.map String.toList))
    rw [later] at cut
    simpa using cut

theorem ofEntryName {n : String} (entry : isEntryName n = true) : ofString n = ⟨"", [n]⟩ := by
  obtain ⟨filled, undotted, _, plain⟩ := entryNameParts entry
  unfold ofString keptSegments anchorOf
  have unanchored : n.toList.takeWhile (· = '/') = [] := by
    cases spelled : n.toList with
    | nil => rfl
    | cons c rest =>
      rw [spelled] at plain
      have other : c ≠ '/' := fun same => plain (same ▸ List.mem_cons_self)
      simp [other]
  rw [unanchored, segmentsWhole plain]
  simp [filled, undotted]

theorem ofText {p : Path} (anchored : p.anchor = "/") (entries : ∀ n ∈ p.parts, isEntryName n = true) :
    ofString p.text = p := by
  obtain ⟨anchor, parts⟩ := p
  cases anchored
  cases parts with
  | nil => rfl
  | cons n rest =>
    have plain : ∀ m ∈ n :: rest, '/' ∉ m.toList := fun m member => (entryNameParts (entries m member)).2.2.2
    have filled := (entryNameParts (entries n List.mem_cons_self)).1
    have spelled : (Path.mk "/" (n :: rest)).text.toList = '/' :: ("/".intercalate (n :: rest)).toList := by
      unfold text
      simp
    have anchor : anchorOf (Path.mk "/" (n :: rest)).text.toList = "/" := by
      have own := plain n List.mem_cons_self
      have head : ∃ c more, ("/".intercalate (n :: rest)).toList = c :: more ∧ c ≠ '/' := by
        rw [String.toList_intercalate, List.map_cons]
        cases chars : n.toList with
        | nil => exact absurd (String.toList_eq_nil_iff.mp chars) filled
        | cons c more =>
          have other : c ≠ '/' := fun same => own (by rw [chars, same]; exact List.mem_cons_self)
          cases rest with
          | nil => exact ⟨c, more, by simp, other⟩
          | cons m later =>
            rw [List.map_cons, List.intercalate_cons_cons, List.append_assoc, List.cons_append]
            exact ⟨c, _, rfl, other⟩
      obtain ⟨c, more, begun, other⟩ := head
      rw [spelled, begun]
      simp [anchorOf, other]
    have kept : keptSegments (Path.mk "/" (n :: rest)).text.toList = n :: rest := by
      unfold keptSegments
      rw [spelled, segments, if_pos rfl, segmentsJoined plain]
      rw [List.filter_cons_of_neg (by simp)]
      refine List.filter_eq_self.mpr fun m member => ?_
      obtain ⟨filled, undotted, _, _⟩ := entryNameParts (entries m member)
      simp [filled, undotted]
    unfold ofString
    rw [anchor, kept]

end Path

namespace Naming

theorem outputEntryName {name : String} (plain : '/' ∉ name.toList) : Path.isEntryName (outputName name) = true := by
  have spelled := outputChars name
  have long : 11 ≤ (outputName name).toList.length := by
    rw [spelled, List.length_append]
    exact Nat.le_add_left _ _
  have slashless : '/' ∉ (outputName name).toList := by
    rw [spelled, List.mem_append, not_or]
    exact ⟨snakePlain (.inr (.inl rfl)) plain, by decide⟩
  have other (n : String) (short : n.toList.length < 11) : outputName name ≠ n := by
    intro same
    rw [same] at long
    exact absurd short (Nat.not_lt.mpr long)
  simp [Path.isEntryName, other "" (by decide), other "." (by decide), other ".." (by decide), slashless]

end Naming

end AccessorForge
