import AccessorForge.Forest
import AccessorForge.Settings
import Mathlib.Data.List.Infix
/-! What wildcard patterns match. A match cuts the text into parts, one for each piece of the pattern, and what the
search keeps are the ends that are left by all such cuts of its beginning. The standard patterns select a source file
at any depth unless one of the directories around it is left out. -/
namespace AccessorForge
namespace Wildcard

/-- The text is spelled by the pieces, one after the other. -/
inductive Spells : List Piece → List Char → Prop where
  | done : Spells [] []
  | star {ps : List Piece} {text : List Char} (skipped : List Char) (rest : Spells ps text) :
      Spells (.star :: ps) (skipped ++ text)
  | one {p : Piece} {ps : List Piece} {c : Char} {text : List Char} (admitted : p.admits c = true)
      (rest : Spells ps text) : Spells (p :: ps) (c :: text)

variable {p : Piece} {ps : List Piece} {s text : List Char} {texts : List (List Char)}

theorem spellsNil : Spells [] text ↔ text = [] := by
  constructor
  · rintro ⟨⟩
    rfl
  · rintro rfl
    exact .done

theorem spellsCons : Spells (p :: ps) text ↔ ∃ head rest, text = head ++ rest ∧ Spells [p] head ∧ Spells ps rest := by
  constructor
  · intro spelled
    cases spelled with
    | star skipped rest => exact ⟨skipped, _, rfl, List.append_nil skipped ▸ .star skipped .done, rest⟩
    | @one _ _ c _ admitted rest => exact ⟨[c], _, rfl, .one admitted .done, rest⟩
  · rintro ⟨head, rest, rfl, first, later⟩
    cases first with
    | star skipped none =>
      rw [spellsNil.mp none, List.append_nil]
      exact .star skipped later
    | one admitted none =>
      rw [spellsNil.mp none]
      exact .one admitted later

theorem spellsStar : Spells (.star :: ps) text ↔ ∃ rest, rest <:+ text ∧ Spells ps rest := by
  constructor
  · intro spelled
    cases spelled with
    | star skipped rest => exact ⟨_, List.suffix_append _ _, rest⟩
    | one admitted _ => cases admitted
  · rintro ⟨rest, ⟨skipped, rfl⟩, later⟩
    exact .star skipped later

theorem spellsWord (word : List Char) :
    Spells (word.map .exact ++ ps) text ↔ ∃ rest, text = word ++ rest ∧ Spells ps rest := by
  induction word generalizing text with
  | nil => simp
  | cons c word ih =>
    rw [List.map_cons, List.cons_append]
    constructor
    · intro spelled
      cases spelled with
      | one admitted rest =>
        obtain ⟨more, rfl, later⟩ := ih.mp rest
        exact ⟨more, by rw [of_decide_eq_true admitted, List.cons_append], later⟩
    · rintro ⟨rest, rfl, later⟩
      exact .one (decide_eq_true rfl) (ih.mpr ⟨rest, rfl, later⟩)

/-! The search. -/

theorem suffixesTails (text : List Char) : suffixes text = text.tails := by
  induction text with
  | nil => rfl
  | cons c rest ih => rw [suffixes, ih, List.tails_cons]

/-- Each text is an end of all those before it. -/
def Nested (texts : List (List Char)) : Prop := texts.Pairwise fun longer shorter => shorter <:+ longer

theorem suffixesNested (text : List Char) : Nested (suffixes text) := by
  induction text with
  | nil => exact List.pairwise_singleton _ _
  | cons c rest ih =>
    refine List.pairwise_cons.mpr ⟨fun shorter member => ?_, ih⟩
    rw [suffixesTails, List.mem_tails] at member
    exact member.trans (List.suffix_cons c rest)

/-- What a piece other than a star leaves of a text: the text without its first character. -/
def leave (p : Piece) : List Char → Option (List Char)
  | [] => none
  | c :: rest => if p.admits c then some rest else none

theorem leaveSome {left : List Char} (leaves : leave p text = some left) :
    ∃ c, p.admits c = true ∧ text = c :: left := by
  cases text with
  | nil => cases leaves
  | cons c rest =>
    obtain ⟨admitted, same⟩ := Option.ite_none_right_eq_some.mp leaves
    exact ⟨c, admitted, Option.some.inj same ▸ rfl⟩

theorem advanceOther (other : p ≠ .star) (texts : List (List Char)) : advance p texts = texts.filterMap (leave p) := by
  cases p with
  | star => exact (other rfl).elim
  | _ =>
    refine congrArg (List.filterMap · texts) (funext fun text => ?_)
    cases text <;> rfl

theorem advanceNested (nested : Nested texts) : Nested (advance p texts) := by
  by_cases star : p = .star
  · subst star
    cases texts with
    | nil => exact List.Pairwise.nil
    | cons longest _ => exact suffixesNested longest
  · rw [advanceOther star]
    refine nested.filterMap _ fun longer shorter ends left gone left' gone' => ?_
    obtain ⟨_, _, rfl⟩ := leaveSome gone
    obtain ⟨_, _, rfl⟩ := leaveSome gone'
    rcases List.suffix_cons_iff.mp ends with whole | within
    · exact (List.cons.inj whole).2 ▸ List.suffix_refl _
    · exact (List.suffix_cons _ _).trans within

theorem memAdvance (nested : Nested texts) :
    s ∈ advance p texts ↔ ∃ t ∈ texts, ∃ head, t = head ++ s ∧ Spells [p] head := by
  by_cases star : p = .star
  · subst star
    cases texts with
    | nil => simp [advance]
    | cons longest shorter =>
      rw [advance, suffixesTails, List.mem_tails]
      constructor
      · rintro ⟨head, rfl⟩
        exact ⟨_, List.mem_cons_self, head, rfl, List.append_nil head ▸ .star head .done⟩
      · rintro ⟨t, member, head, rfl, -⟩
        have ends : s <:+ head ++ s := List.suffix_append _ _
        rcases List.mem_cons.mp member with whole | later
        · exact whole ▸ ends
        · exact ends.trans ((List.pairwise_cons.mp nested).1 _ later)
  · rw [advanceOther star, List.mem_filterMap]
    constructor
    · rintro ⟨t, member, gone⟩
      obtain ⟨c, admitted, rfl⟩ := leaveSome gone
      exact ⟨_, member, [c], rfl, .one admitted .done⟩
    · rintro ⟨t, member, head, rfl, spelled⟩
      cases spelled with
      | star => exact (star rfl).elim
      | one admitted none =>
        rw [spellsNil.mp none] at member
        exact ⟨_, member, if_pos admitted⟩

theorem memRemaindersFrom (nested : Nested texts) :
    s ∈ ps.foldl (fun texts p => advance p texts) texts ↔ ∃ t ∈ texts, ∃ head, t = head ++ s ∧ Spells ps head := by
  induction ps generalizing texts with
  | nil => simp [spellsNil]
  | cons p rest ih =>
    rw [List.foldl_cons, ih (advanceNested nested)]
    constructor
    · rintro ⟨_, member, second, rfl, later⟩
      obtain ⟨t, given, first, rfl, spelled⟩ := (memAdvance nested).mp member
      exact ⟨_, given, first ++ second, by rw [List.append_assoc], spellsCons.mpr ⟨first, second, rfl, spelled, later⟩⟩
    · rintro ⟨_, member, _, rfl, spelled⟩
      obtain ⟨first, second, rfl, spelled, later⟩ := spellsCons.mp spelled
      exact ⟨second ++ s, (memAdvance nested).mpr ⟨_, member, first, by rw [List.append_assoc], spelled⟩, second, rfl,
        later⟩

theorem isMatchIff (pattern text : String) : isMatch pattern text = true ↔ Spells (pieces pattern) text.toList := by
  unfold isMatch remainders
  rw [List.contains_iff_mem, memRemaindersFrom (List.pairwise_singleton _ _)]
  simp

/-! Patterns of words and stars. -/

/-- Characters that stand for themselves in a pattern. -/
def Plain (word : List Char) : Prop := ∀ c ∈ word, c ∉ ['*', '?', '[']

instance (word : List Char) : Decidable (Plain word) := List.decidableBAll _ word

theorem piecesWord {word : List Char} (plain : Plain word) (fuel : Nat) (rest : List Char) :
    piecesWithin (word.length + fuel) (word ++ rest) = word.map .exact ++ piecesWithin fuel rest := by
  induction word with
  | nil => simp
  | cons c word ih =>
    have own := plain c List.mem_cons_self
    simp only [List.mem_cons, List.not_mem_nil, or_false, not_or] at own
    have later := ih fun d member => plain d (List.mem_cons_of_mem _ member)
    rw [List.length_cons, Nat.add_right_comm, List.cons_append, List.map_cons, List.cons_append, ← later]
    simp [piecesWithin, own]

theorem piecesStar {rest : List Char} (next : rest.head? ≠ some '*') (fuel : Nat) :
    piecesWithin (fuel + 1) ('*' :: rest) = .star :: piecesWithin fuel rest := by
  rw [piecesWithin]
  cases rest with
  | nil => rfl
  | cons c rest =>
    have other : c ≠ '*' := fun same => next (same ▸ rfl)
    simp [other]

theorem piecesStars {rest : List Char} (next : rest.head? ≠ some '*') (fuel : Nat) :
    piecesWithin (fuel + 1) ('*' :: '*' :: rest) = .star :: piecesWithin fuel rest :=
  @piecesStar rest next fuel ▸ rfl

theorem selectsIff (patterns : List String) (path : String) :
    selects patterns path = true ↔ ∃ pattern ∈ patterns, selects [pattern] path = true := by
  simp [selects]

theorem spellsWithin {word text : List Char} :
    Spells (.star :: (word.map .exact ++ [.star])) text ↔ word <:+: text := by
  rw [spellsStar]
  constructor
  · rintro ⟨rest, ends, spelled⟩
    obtain ⟨more, rfl, -⟩ := (spellsWord word).mp spelled
    exact (List.prefix_append word more).isInfix.trans ends.isInfix
  · rintro ⟨skipped, more, rfl⟩
    refine ⟨word ++ more, ⟨skipped, by rw [List.append_assoc]⟩, (spellsWord word).mpr ⟨more, rfl, ?_⟩⟩
    exact spellsStar.mpr ⟨[], List.nil_suffix, .done⟩

theorem spellsBegun {word text : List Char} : Spells (word.map .exact ++ [.star]) text ↔ word <+: text := by
  rw [spellsWord]
  constructor
  · rintro ⟨more, rfl, -⟩
    exact List.prefix_append word more
  · rintro ⟨more, rfl⟩
    exact ⟨more, rfl, spellsStar.mpr ⟨[], List.nil_suffix, .done⟩⟩

theorem spellsEnded {word text : List Char} : Spells (.star :: word.map .exact) text ↔ word <:+ text := by
  have ended (rest : List Char) : Spells (word.map .exact) rest ↔ rest = word := by
    have spelled := @spellsWord [] rest word
    simpa [spellsNil] using spelled
  rw [spellsStar]
  simp [ended]

/-- A pattern that begins with any directories selects what it matches with them or without them. -/
theorem deepSelected {pattern : String} {rest : List Char} (text : pattern.toList = '*' :: '*' :: '/' :: rest)
    (path : String) : selects [pattern] path = true ↔
      Spells (pieces pattern) path.toList ∨ Spells (pieces (String.ofList rest)) path.toList := by
  have retried : pattern.startsWith "**/" = true := by
    rw [String.startsWith_string_iff, text]
    simp
  unfold selects
  rw [List.any_cons, List.any_nil, Bool.or_false, retried, Bool.true_and, Bool.or_eq_true, isMatchIff, isMatchIff, text]
  rfl

/-- A pattern for what is below directories of some name selects the paths in which the name stands between slashes,
if a slash is put in front. -/
theorem directorySelected {name : String} (plain : Plain name.toList) (path : String) :
    selects ["**/" ++ name ++ "/**"] path = true ↔ ('/' :: name.toList ++ ['/']) <:+: '/' :: path.toList := by
  have text : ("**/" ++ name ++ "/**").toList = '*' :: '*' :: '/' :: ((name.toList ++ ['/']) ++ ['*', '*']) := by simp
  have closed : Plain (name.toList ++ ['/']) :=
    List.forall_mem_append.mpr ⟨plain, List.forall_mem_singleton.mpr (by decide)⟩
  have begun : pieces (String.ofList ((name.toList ++ ['/']) ++ ['*', '*'])) =
      (name.toList ++ ['/']).map .exact ++ [.star] := by
    have left := piecesWord closed 2 ['*', '*']
    rw [pieces, String.toList_ofList]
    simpa [piecesWithin] using left
  have within : pieces ("**/" ++ name ++ "/**") = .star :: (('/' :: name.toList ++ ['/']).map .exact ++ [.star]) := by
    have word : Plain ('/' :: name.toList ++ ['/']) := List.forall_mem_cons.mpr ⟨by decide, closed⟩
    have fuel : ('*' :: '*' :: '/' :: ((name.toList ++ ['/']) ++ ['*', '*'])).length =
        ('/' :: name.toList ++ ['/']).length + 3 + 1 := by simp
    rw [pieces, text, fuel, piecesStars (by simp)]
    exact congrArg _ (piecesWord word 3 ['*', '*'])
  rw [deepSelected text, begun, within, spellsWithin, spellsBegun, List.infix_cons_iff, List.cons_append,
    List.cons_prefix_cons]
  simp [or_comm]

theorem endingSelected {ending : String} (plain : Plain ending.toList) (path : String) :
    selects ["**/*" ++ ending] path = true ↔ ending.toList <:+ path.toList := by
  have text : ("**/*" ++ ending).toList = '*' :: '*' :: '/' :: '*' :: ending.toList := by simp
  have next : ending.toList.head? ≠ some '*' := fun star => plain '*' (List.mem_of_head? star) (by simp)
  have begun : pieces (String.ofList ('*' :: ending.toList)) = .star :: ending.toList.map .exact := by
    have left := piecesWord plain 0 []
    rw [pieces, String.toList_ofList]
    change piecesWithin (ending.toList.length + 1) ('*' :: ending.toList) = _
    rw [piecesStar next]
    simpa [piecesWithin] using left
  have within : pieces ("**/*" ++ ending) = .star :: .exact '/' :: .star :: ending.toList.map .exact := by
    have left := piecesWord plain 1 []
    rw [pieces, text]
    change piecesWithin (ending.toList.length + 3 + 1) ('*' :: '*' :: '/' :: '*' :: ending.toList) = _
    rw [piecesStars (by simp)]
    change .star :: .exact '/' :: piecesWithin (ending.toList.length + 1 + 1) ('*' :: ending.toList) = _
    rw [piecesStar next]
    simpa [piecesWithin] using left
  rw [deepSelected text, begun, within, spellsEnded]
  refine or_iff_right_of_imp fun spelled => ?_
  obtain ⟨rest, ends, spelled⟩ := spellsStar.mp spelled
  obtain ⟨more, same, ended⟩ := (spellsWord ['/']).mp spelled
  exact (spellsEnded.mp ended).trans ((List.suffix_append ['/'] more).trans (same ▸ ends))

/-! Paths as rows of names. -/

def slashed (names : List (List Char)) : List Char := names.flatMap ('/' :: ·)

theorem slashedPath {names : List String} (filled : names ≠ []) :
    '/' :: ("/".intercalate names).toList = slashed (names.map String.toList) := by
  rw [String.toList_intercalate]
  cases names with
  | nil => exact (filled rfl).elim
  | cons n rest =>
    clear filled
    induction rest generalizing n with
    | nil => simp [slashed]
    | cons m rest ih =>
      have later := ih m
      rw [slashed] at later ⊢
      rw [List.map_cons, List.map_cons, List.intercalate_cons_cons, List.flatMap_cons, ← List.map_cons, ← later]
      simp

theorem infixBehind {word head : List Char} (plain : '/' ∉ head) (rest : List Char) :
    '/' :: word <:+: head ++ rest ↔ '/' :: word <:+: rest := by
  induction head with
  | nil => rfl
  | cons c head ih =>
    obtain ⟨other, deeper⟩ := not_or.mp fun either => plain (List.mem_cons.mpr either)
    rw [List.cons_append, List.infix_cons_iff, ih deeper, List.cons_prefix_cons]
    exact or_iff_right fun same => other same.1

theorem sameName {name other rest : List Char} (plain : '/' ∉ name) (plain' : '/' ∉ other) :
    name ++ ['/'] <+: other ++ '/' :: rest ↔ name = other := by
  constructor
  · rintro ⟨more, joined⟩
    have cut {word : List Char} (plain : '/' ∉ word) (after : List Char) :
        (word ++ '/' :: after).takeWhile (· ≠ '/') = word := by
      have other : ∀ c ∈ word, decide (c ≠ '/') = true := fun c member =>
        decide_eq_true fun same => plain (same ▸ member)
      rw [List.takeWhile_append_of_pos other]
      simp
    have both := congrArg (List.takeWhile (· ≠ '/')) joined
    rwa [List.append_assoc, List.singleton_append, cut plain, cut plain'] at both
  · rintro rfl
    exact ⟨rest, by simp⟩

theorem infixSlashed {name : List Char} (plain : '/' ∉ name) {names : List (List Char)}
    (each : ∀ n ∈ names, '/' ∉ n) : ('/' :: name ++ ['/']) <:+: slashed names ↔ name ∈ names.dropLast := by
  induction names with
  | nil => simp [slashed]
  | cons n rest ih =>
    have own := each n List.mem_cons_self
    have later := ih fun m member => each m (List.mem_cons_of_mem _ member)
    have spelled : slashed (n :: rest) = '/' :: (n ++ slashed rest) := rfl
    rw [spelled, List.cons_append, List.infix_cons_iff, infixBehind own, ← List.cons_append, later, List.cons_append,
      List.cons_prefix_cons]
    cases rest with
    | nil =>
      have short : ¬ name ++ ['/'] <+: n ++ slashed [] := fun begins =>
        own (by simpa [slashed] using begins.subset (List.mem_append_right _ (List.mem_singleton_self '/')))
      simp [short]
    | cons m more =>
      have begins : name ++ ['/'] <+: n ++ slashed (m :: more) ↔ name = n := sameName plain own
      simp [begins]

theorem suffixSlashed {ending : List Char} (plain : '/' ∉ ending) (before : List Char) {last : List Char} :
    ending <:+ before ++ '/' :: last ↔ ending <:+ last := by
  constructor
  · intro ends
    rcases List.suffix_or_suffix_of_suffix ends (List.suffix_append before ('/' :: last)) with within | longer
    · rcases List.suffix_cons_iff.mp within with rfl | shorter
      · exact (plain List.mem_cons_self).elim
      · exact shorter
    · exact (plain (longer.subset List.mem_cons_self)).elim
  · exact fun ends => ends.trans ((List.suffix_cons _ _).trans (List.suffix_append _ _))

end Wildcard

/-! The standard patterns. -/

open Wildcard

/-- Directories whose files the standard settings leave out. -/
def hiddenNames : List String := [".git", ".venv", "venv", "__pycache__", "node_modules"]

def sourceEnding : String := ".py"

theorem standardPatterns (root : Path) : ({ root } : Settings).includePatterns = ["**/*" ++ sourceEnding] ∧
    ({ root } : Settings).excludePatterns = hiddenNames.map fun name => "**/" ++ name ++ "/**" := by
  have same : ["**/*.py"] = ["**/*" ++ sourceEnding] ∧
      ["**/.git/**", "**/.venv/**", "**/venv/**", "**/__pycache__/**", "**/node_modules/**"] =
        hiddenNames.map fun name => "**/" ++ name ++ "/**" := by decide +kernel
  exact same

/-- What is selected by the standard settings. -/
def Settings.standardSelects (root : Path) (names : List String) : Bool :=
  let s : Settings := { root }
  (Forest.patterns s.includePatterns s.excludePatterns).selects names

section
variable {names : List String} (filled : names ≠ [])
include filled

theorem sourceSelected : Wildcard.selects ["**/*" ++ sourceEnding] ("/".intercalate names) = true ↔
    isSourceName (names.getLast filled) = true := by
  have slashless : '/' ∉ sourceEnding.toList := by decide +kernel
  have last : slashed (names.map String.toList) =
      slashed (names.dropLast.map String.toList) ++ '/' :: (names.getLast filled).toList := by
    conv_lhs => rw [← List.dropLast_append_getLast filled]
    simp [slashed]
  have behind := @suffixSlashed _ slashless (slashed (names.dropLast.map String.toList)) (names.getLast filled).toList
  have longer : sourceEnding.toList ≠ '/' :: ("/".intercalate names).toList := fun same =>
    slashless (by rw [same]; exact List.mem_cons_self)
  rw [← last, ← slashedPath filled, List.suffix_cons_iff, or_iff_right longer] at behind
  rw [endingSelected (by decide +kernel), behind, isSourceName, List.isSuffixOf_iff_suffix]
  rfl

variable (each : ∀ name ∈ names, '/' ∉ name.toList)
include each

theorem hiddenSelected :
    Wildcard.selects (hiddenNames.map fun name => "**/" ++ name ++ "/**") ("/".intercalate names) = true ↔
      ∃ name ∈ names.dropLast, name ∈ hiddenNames := by
  have chars : ∀ cs ∈ names.map String.toList, '/' ∉ cs := by simpa using each
  have plain : ∀ name ∈ hiddenNames, Plain name.toList ∧ '/' ∉ name.toList := by decide +kernel
  have above (name : String) (listed : name ∈ hiddenNames) :
      Wildcard.selects ["**/" ++ name ++ "/**"] ("/".intercalate names) = true ↔ name ∈ names.dropLast := by
    rw [directorySelected (plain name listed).1, slashedPath filled, infixSlashed (plain name listed).2 chars,
      ← List.map_dropLast]
    simp only [List.mem_map, String.toList_inj, exists_eq_right]
  rw [selectsIff]
  simp only [List.mem_map, exists_exists_and_eq_and]
  constructor
  · rintro ⟨name, listed, selected⟩
    exact ⟨name, (above name listed).mp selected, listed⟩
  · rintro ⟨name, there, listed⟩
    exact ⟨name, listed, (above name listed).mpr there⟩

theorem standardSelectsIff (root : Path) : Settings.standardSelects root names = true ↔
    isSourceName (names.getLast filled) = true ∧ ∀ name ∈ names.dropLast, name ∉ hiddenNames := by
  obtain ⟨includes, excludes⟩ := standardPatterns root
  have patterns : Forest.patterns ({ root } : Settings).includePatterns ({ root } : Settings).excludePatterns =
      ⟨["**/*" ++ sourceEnding], hiddenNames.map fun name => "**/" ++ name ++ "/**"⟩ := by
    rw [includes, excludes]
    rfl
  unfold Settings.standardSelects
  dsimp only
  rw [patterns, Forest.Patterns.selects, Bool.and_eq_true, sourceSelected filled, Bool.not_eq_true',
    ← Bool.not_eq_true, hiddenSelected filled each]
  simp only [not_exists, not_and]

end

/-- A file's path is selected by the standard settings just if it is the name of a source and none of the directories
before it is left out; so directories that are not left out can be put in front of any path. -/
theorem standardSelection (root : Path) {names : List String} (filled : names ≠ [])
    (each : ∀ name ∈ names, '/' ∉ name.toList) :
    (Settings.standardSelects root names = true ↔
      isSourceName (names.getLast filled) = true ∧ ∀ name ∈ names.dropLast, name ∉ hiddenNames) ∧
    ∀ above : List String, (∀ name ∈ above, '/' ∉ name.toList ∧ name ∉ hiddenNames) →
      Settings.standardSelects root (above ++ names) = Settings.standardSelects root names := by
  refine ⟨standardSelectsIff filled each root, fun above free => ?_⟩
  have whole : ∀ name ∈ above ++ names, '/' ∉ name.toList :=
    List.forall_mem_append.mpr ⟨fun name member => (free name member).1, each⟩
  rw [Bool.eq_iff_iff, standardSelectsIff (List.append_ne_nil_of_right_ne_nil above filled) whole root,
    standardSelectsIff filled each root, List.getLast_append_of_ne_nil _ filled, List.dropLast_append_of_ne_nil filled,
    List.forall_mem_append]
  exact and_congr_right fun _ => and_iff_right fun name member => (free name member).2

theorem standardSelectionNested :
    (∀ name ∈ ["tools", "a.venv", "gear.py"], '/' ∉ name.toList) ∧
      Settings.standardSelects ⟨"/", []⟩ ["tools", "a.venv", "gear.py"] = true ∧
      Settings.standardSelects ⟨"/", []⟩ ["venv", "gear.py"] = false := by
  have each : ∀ name ∈ ["tools", "a.venv", "gear.py"], '/' ∉ name.toList := by decide +kernel
  have nested := standardSelection ⟨"/", []⟩ (by decide) each
  have hidden := @standardSelection ⟨"/", []⟩ ["venv", "gear.py"] (by decide) (by decide +kernel)
  refine ⟨each, nested.1.mpr (by decide +kernel), ?_⟩
  rw [← Bool.not_eq_true, hidden.1]
  decide +kernel

end AccessorForge
