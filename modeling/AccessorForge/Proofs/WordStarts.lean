import AccessorForge.Naming
import AccessorForge.Proofs.Lexing
/-! Where underscores come into the name of a module. Two passes over a name put them in. The matches of the first do
not overlap, so that it goes past some places; behind each of its matches stands a small letter, and there the second
pass finds what was left out. Together they decide every place by the characters around it. -/
namespace AccessorForge.Naming
open Syntax

/-- A small letter or a digit. -/
def isSmall (c : Char) : Bool := c.isLower || c.isDigit

/-- A capital starts a word behind a small letter or a digit, and behind all but a line feed if a small letter comes
after it. -/
def startsWord (before c : Char) (next : Option Char) : Bool :=
  c.isUpper && (isSmall before || before ≠ '\n' && next.any Char.isLower)

def startsAt (s : List Char) : Nat → Bool
  | 0 => false
  | i + 1 =>
    match s[i]?, s[i + 1]? with
    | some before, some c => startsWord before c s[i + 2]?
    | _, _ => false

def underscoredAt (s : List Char) (place : Char × Nat) : List Char :=
  if startsAt s place.2 then ['_', place.1] else [place.1]

/-- One underscore in front of each character that starts a word, and no other change. -/
def underscored (s : List Char) : List Char := s.zipIdx.flatMap (underscoredAt s)

def underscoredAfter (before : Char) : List Char → List Char
  | [] => []
  | c :: rest => (if startsWord before c rest.head? then ['_', c] else [c]) ++ underscoredAfter c rest

theorem underscoredFrom (ahead : List Char) (b : Char) (rest : List Char) :
    (rest.zipIdx (ahead.length + 1)).flatMap (underscoredAt (ahead ++ b :: rest)) = underscoredAfter b rest := by
  induction rest generalizing ahead b with
  | nil => rfl
  | cons c rest ih =>
    have next : (ahead ++ b :: c :: rest)[ahead.length + 2]? = rest[0]? := by
      rw [List.getElem?_append_right (by omega), Nat.add_sub_cancel_left]
      rfl
    have here : startsAt (ahead ++ b :: c :: rest) (ahead.length + 1) = startsWord b c rest.head? := by
      simp [startsAt, next, List.head?_eq_getElem?]
    have later := ih (ahead ++ [b]) c
    rw [List.length_append, List.length_singleton, List.append_assoc, List.singleton_append] at later
    rw [List.zipIdx_cons, List.flatMap_cons, later, underscoredAfter, underscoredAt, here]

theorem underscoredCons (c : Char) (rest : List Char) : underscored (c :: rest) = c :: underscoredAfter c rest := by
  have later := underscoredFrom [] c rest
  simp only [List.nil_append, List.length_nil, Nat.zero_add] at later
  rw [underscored, List.zipIdx_cons, List.flatMap_cons, Nat.zero_add, later]
  rfl

/-! The second pass decides each place alone: its matches end with a capital, and none begins with one. -/

theorem upperNotSmall {c : Char} (upper : c.isUpper) : isSmall c = false := by
  have bounds := (Lexer.upperIff c).mp upper
  refine Bool.or_eq_false_iff.mpr ⟨Bool.eq_false_iff.mpr fun lower => ?_, Bool.eq_false_iff.mpr fun digit => ?_⟩
  · have := (Lexer.lowerIff c).mp lower
    omega
  · simp only [Char.isDigit, Bool.and_eq_true, decide_eq_true_eq, ge_iff_le, UInt32.le_iff_toNat_le] at digit
    have : c.toNat ≤ 57 := digit.2
    omega

theorem splitCaseOther {a : Char} (other : isSmall a = false) (rest : List Char) :
    splitCase (a :: rest) = a :: splitCase rest := by
  rw [isSmall] at other
  cases rest with
  | nil => rfl
  | cons b rest => simp [splitCase, other]

theorem splitCaseCons (a b : Char) (rest : List Char) :
    splitCase (a :: b :: rest) = a :: ((if isSmall a && b.isUpper then ['_'] else []) ++ splitCase (b :: rest)) := by
  rw [splitCase, ← isSmall]
  by_cases between : isSmall a && b.isUpper
  · have upper : b.isUpper := (Bool.and_eq_true_iff.mp between).2
    simp [between, splitCaseOther (upperNotSmall upper)]
  · simp [between]

/-! Both passes. -/

theorem splitWordsHead (inTail : Bool) (c : Char) (rest : List Char) : ∃ more, splitWords inTail (c :: rest) = c :: more := by
  match rest with
  | [] => exact ⟨[], rfl⟩
  | [d] => exact ⟨[d], rfl⟩
  | u :: l :: rest =>
    rw [splitWords]
    split_ifs
    · exact ⟨_, rfl⟩
    · exact ⟨_, rfl⟩
    · exact ⟨_, rfl⟩

theorem leftPlace {inTail : Bool} {c u : Char} {rest : List Char}
    (later : splitCase (splitWords inTail (u :: rest)) = underscored (u :: rest))
    (left : startsWord c u rest.head? = (isSmall c && u.isUpper)) :
    splitCase (c :: splitWords inTail (u :: rest)) = underscored (c :: u :: rest) := by
  obtain ⟨more, head⟩ := splitWordsHead inTail u rest
  rw [head, underscoredCons] at later
  rw [head, splitCaseCons, later, underscoredCons, underscoredAfter, left]
  split <;> rfl

/- The induction follows the first pass; whether it is behind a match makes no difference to the outcome. -/
theorem bothPasses (inTail : Bool) (s : List Char) : splitCase (splitWords inTail s) = underscored s := by
  fun_induction splitWords inTail s with
  | case1 => rfl
  | case2 => rfl
  | case3 inTail c d =>
    have alone : startsWord c d none = (isSmall c && d.isUpper) := by simp [startsWord, isSmall, Bool.and_comm]
    rw [splitCaseCons, underscoredCons, underscoredAfter, List.head?_nil, alone]
    split <;> rfl
  | case4 inTail c u l rest passed ih =>
    have small : c.isLower := (Bool.and_eq_true_iff.mp passed).2
    exact leftPlace ih (by simp [startsWord, isSmall, small])
  | case5 inTail c u l rest passed hit ih =>
    simp only [Bool.and_eq_true, decide_eq_true_eq] at hit
    obtain ⟨⟨inline, upper⟩, lower⟩ := hit
    have starts : startsWord c u (some l) = true := by simp [startsWord, inline, upper, lower]
    have noCapital : l.isUpper = false := Bool.eq_false_iff.mpr fun capital => by
      have other := upperNotSmall capital
      simp [isSmall, lower] at other
    have goesOn : startsWord u l rest.head? = false := by simp [startsWord, noCapital]
    have behind : splitCase (l :: splitWords true rest) = l :: underscoredAfter l rest := by
      cases rest with
      | nil => rfl
      | cons r rest =>
        rw [leftPlace ih (by simp [startsWord, isSmall, lower]), underscoredCons]
    rw [splitCaseCons, splitCaseOther (by decide), splitCaseOther (upperNotSmall upper), behind, underscoredCons,
      underscoredAfter, underscoredAfter, List.head?_cons, starts, goesOn]
    simp
  | case6 inTail c u l rest passed miss ih =>
    refine leftPlace ih ?_
    by_cases inline : c = '\n'
    · simp [startsWord, isSmall, inline, Bool.and_comm]
    · have left : u.isUpper = true → l.isLower = false := by simpa [inline] using miss
      by_cases upper : u.isUpper
      · simp [startsWord, isSmall, upper, left upper]
      · simp [startsWord, upper]

/-- The stem of a module is the name in small letters, with one underscore at each start of a word. -/
theorem stemByPlaces (name : String) :
    splitCase (splitWords false name.toList) = underscored name.toList ∧
      moduleStem name = String.ofList (Text.Lower.lower (underscored name.toList)) ++ "_getters" := by
  have both := bothPasses false name.toList
  exact ⟨both, by rw [moduleStem, snakeChars, both]⟩

example : underscored "HTTPServer2Go\nAb".toList = "HTTP_Server2_Go\nAb".toList := by decide

end AccessorForge.Naming
