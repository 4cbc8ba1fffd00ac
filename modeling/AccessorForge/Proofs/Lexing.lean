import AccessorForge.Proofs.Quotation
/-! Text laid out as lines of lexemes is cut into those lexemes. A line is a list of words, marks, literals and blanks in
which no two that would run together stand side by side; what its tokens look like can then be read off the line, and
what the layout adds depends on the widths of the lines alone. -/
namespace AccessorForge.Syntax
open Literal (Spells)
open Text.Identifier (isIdentifier isStart isContinue)

/-- A token without its place. -/
abbrev Look := TokenKind × String

def Token.look (t : Token) : Look := (t.kind, t.text)

namespace Lexer

/-- From wherever it stands, the text has tokens of this look. -/
def Lexes (indents : List (Nat × Nat)) (brackets : List Char) (atLineStart : Bool) (text : List Char)
    (looks : List Look) : Prop :=
  ∀ pos fuel, 2 * text.length + atLineStart.toNat < fuel →
    ∃ ts, run fuel ⟨text, pos, indents, brackets, atLineStart⟩ = some ts ∧ ts.map Token.look = looks

section
variable {indents further : List (Nat × Nat)} {brackets after : List Char} {starts : Bool} {text rest : List Char}
  {looks : List Look}

theorem lexesStep {atStart : Bool} (here : List Look)
    (shorter : 2 * rest.length + starts.toNat < 2 * text.length + atStart.toNat)
    (step : ∀ pos fuel, ∃ ts place, run (fuel + 1) ⟨text, pos, indents, brackets, atStart⟩ =
      (run fuel ⟨rest, place, further, after, starts⟩).map (ts ++ ·) ∧ ts.map Token.look = here)
    (tail : Lexes further after starts rest looks) : Lexes indents brackets atStart text (here ++ looks) := by
  intro pos fuel enough
  obtain _ | fuel := fuel
  · exact absurd enough (Nat.not_lt_zero _)
  · obtain ⟨ts, place, taken, seen⟩ := step pos fuel
    obtain ⟨more, ran, shown⟩ := tail place fuel (by omega)
    exact ⟨ts ++ more, by rw [taken, ran]; rfl, by rw [List.map_append, seen, shown]⟩

theorem lexesToken (here : List Look) (filled : text ≠ []) (shorter : rest.length < text.length)
    (step : ∀ pos, ∃ ts place, tokenStep ⟨text, pos, indents, brackets, false⟩ =
      some (ts, ⟨rest, place, indents, after, starts⟩) ∧ ts.map Token.look = here)
    (tail : Lexes indents after starts rest looks) : Lexes indents brackets false text (here ++ looks) := by
  have less : 2 * rest.length + starts.toNat < 2 * text.length + false.toNat := by
    have := Bool.toNat_le starts
    simp only [Bool.toNat_false]
    omega
  have goesOn : text.isEmpty = false := by simpa using filled
  refine lexesStep here less (fun pos fuel => ?_) tail
  obtain ⟨ts, place, taken, seen⟩ := step pos
  refine ⟨ts, place, ?_, seen⟩
  rw [run, if_neg (by simp), if_neg (by simp [goesOn]), taken]
  rfl

theorem lexesLayout (here : List Look) (shorter : 2 * rest.length + starts.toNat ≤ 2 * text.length)
    (step : ∀ pos, ∃ ts place, lineStep ⟨text, pos, indents, brackets, true⟩ =
      some (ts, ⟨rest, place, further, after, starts⟩) ∧ ts.map Token.look = here)
    (tail : Lexes further after starts rest looks) : Lexes indents brackets true text (here ++ looks) := by
  refine lexesStep here (by simpa using Nat.lt_succ_of_le shorter) (fun pos fuel => ?_) tail
  obtain ⟨ts, place, taken, seen⟩ := step pos
  refine ⟨ts, place, ?_, seen⟩
  rw [run, if_pos rfl, taken]
  rfl

end

/-! Words. -/

theorem wordCharOf {c : Char} (going : isContinue c) : isWordChar c := by
  rw [isContinue] at going
  split at going
  · simp only [Text.Identifier.isLetter, Bool.or_eq_true, decide_eq_true_eq] at going
    simp only [isWordChar, Char.isAlphanum, Bool.or_eq_true, decide_eq_true_eq]
    tauto
  · next high =>
    simp only [isWordChar, Bool.or_eq_true, decide_eq_true_eq]
    exact .inr (Nat.not_lt.mp high)

theorem wordStartOf {c : Char} (start : isStart c) : isWordStart c := by
  rw [isStart] at start
  split at start
  · simp only [Text.Identifier.isLetter, Bool.or_eq_true, decide_eq_true_eq] at start
    simp only [isWordStart, Bool.or_eq_true, decide_eq_true_eq]
    tauto
  · next high =>
    simp only [isWordStart, Bool.or_eq_true, decide_eq_true_eq]
    exact .inr (Nat.not_lt.mp high)

theorem wordCharOfStart {c : Char} (start : isWordStart c) : isWordChar c := by
  simp only [isWordStart, Bool.or_eq_true, decide_eq_true_eq] at start
  simp only [isWordChar, Char.isAlphanum, Bool.or_eq_true, decide_eq_true_eq]
  tauto

theorem identifierChars {w : List Char} (named : isIdentifier w) : ∀ c ∈ w, isWordChar c := by
  cases w with
  | nil => simp
  | cons c more =>
    rw [isIdentifier, Bool.and_eq_true, List.all_eq_true] at named
    exact List.forall_mem_cons.mpr ⟨wordCharOfStart (wordStartOf named.1), fun d within => wordCharOf (named.2 d within)⟩

theorem identifierIsWord {w : List Char} (named : isIdentifier w) : isWordText w := by
  rw [isWordText, Bool.and_eq_true, List.all_eq_true]
  exact ⟨identifierChars named, by simp [named]⟩

theorem wordCharPlain {c : Char} (part : isWordChar c) :
    c ∉ ['\n', '#', '\\', '.', ' ', '\t', '\x0c', '"', '\'', '(', ')', ':', '=', '@', '-', '*', '>', '/', '<'] := by
  intro listed
  have told : ['\n', '#', '\\', '.', ' ', '\t', '\x0c', '"', '\'', '(', ')', ':', '=', '@', '-', '*', '>', '/', '<'].all
      (!isWordChar ·) := by decide
  have other := List.all_eq_true.mp told c listed
  simp [part] at other

theorem listedLetters {letters : List Char} (listed : String.ofList letters ∈ literalPrefixes) :
    ∀ c ∈ letters, c ∈ ['b', 'u', 'r', 'f'] := by
  have told : ∀ s ∈ literalPrefixes, s.toList.all (· ∈ ['b', 'u', 'r', 'f']) := by decide
  simpa only [String.toList_ofList, List.all_eq_true, decide_eq_true_eq] using told _ listed

theorem upperIff (c : Char) : c.isUpper = true ↔ 65 ≤ c.toNat ∧ c.toNat ≤ 90 := decide_eq_true_iff

theorem lowerIff (c : Char) : c.isLower = true ↔ 97 ≤ c.toNat ∧ c.toNat ≤ 122 :=
  Bool.and_eq_true_iff.trans (and_congr decide_eq_true_iff decide_eq_true_iff)

theorem alphaIff (c : Char) : c.isAlpha = true ↔ c.isUpper = true ∨ c.isLower = true := Bool.or_eq_true_iff

theorem wordCharOfLower {c : Char} (letter : c.toLower ∈ ['b', 'u', 'r', 'f']) : isWordChar c := by
  by_cases upper : c.isUpper
  · simp [isWordChar, Char.isAlphanum, (alphaIff c).mpr (.inl upper)]
  · have same : c.toLower = c := dif_neg fun both => upper (decide_eq_true both)
    rw [same] at letter
    exact List.all_eq_true.mp (by decide) c letter

theorem prefixWord (letters : List Char) (isPrefix : literalPrefixes.contains (String.ofList (letters.map Char.toLower))) :
    ∀ c ∈ letters, isWordChar c := fun c within =>
  wordCharOfLower (listedLetters (by simpa using isPrefix) c.toLower (List.mem_map_of_mem within))

/-- What may stand right behind a word: neither a part of it nor the mark of a literal. -/
def Parts (c : Char) : Prop := isWordChar c = false ∧ isQuote c = false

theorem wordCharNoQuote {c : Char} (part : isWordChar c) : isQuote c = false := by
  have plain := wordCharPlain part
  simp only [List.mem_cons, not_or] at plain
  simp only [isQuote, Bool.or_eq_false_iff, decide_eq_false_iff_not]
  tauto

theorem wordNoPrefix {c d : Char} {more rest : List Char} (word : ∀ e ∈ c :: more, isWordChar e) (parts : Parts d) :
    literalPrefix (c :: more ++ d :: rest) = none := by
  have first := wordCharNoQuote (word c List.mem_cons_self)
  match more, word with
  | [], _ =>
    cases rest with
    | nil => simp [literalPrefix, first, parts.2]
    | cons e further =>
      have off : literalPrefixes.contains (String.ofList [c.toLower, d.toLower]) = false := by
        refine Bool.eq_false_iff.mpr fun isPrefix => ?_
        have word := prefixWord [c, d] isPrefix d (List.mem_cons_of_mem _ List.mem_cons_self)
        exact absurd word (by simp [parts.1])
      simp only [List.singleton_append, literalPrefix, first, parts.2, off, Bool.and_false, Bool.false_eq_true, if_false]
  | [e], word =>
    have second := wordCharNoQuote (word e (List.mem_cons_of_mem _ List.mem_cons_self))
    simp [literalPrefix, first, second, parts.2]
  | e :: f :: further, word =>
    have second := wordCharNoQuote (word e (List.mem_cons_of_mem _ List.mem_cons_self))
    have third := wordCharNoQuote (word f (List.mem_cons_of_mem _ (List.mem_cons_of_mem _ List.mem_cons_self)))
    simp [literalPrefix, first, second, third]

section
variable {indents : List (Nat × Nat)} {brackets : List Char} {rest : List Char} {looks : List Look}

theorem plainStep {s : State} {c : Char} (text : s.rest = c :: rest) (plain : c ∉ ['\n', '#', '\\', '.', ' ', '\t', '\x0c']) :
    tokenStep s = match literalPrefix s.rest with
      | some letters => literal s letters
      | none =>
        if isWordStart c then word s
        else if c.isDigit then (number s.rest).map fun cut => s.emit .number cut nofun
        else mark s := by
  simp only [List.mem_cons, List.not_mem_nil, or_false, not_or] at plain
  have noBlank : isBlank c = false := by
    simp only [isBlank, Bool.or_eq_false_iff, decide_eq_false_iff_not]
    tauto
  unfold tokenStep
  split
  case h_1 same => exact absurd (text.symm.trans same) (List.cons_ne_nil _ _)
  case h_6 same =>
    obtain ⟨rfl, -⟩ := List.cons.inj (text.symm.trans same)
    rw [noBlank]
    rfl
  all_goals
    rename_i same
    exact absurd (List.cons.inj (text.symm.trans same)).1 (by tauto)

theorem lexesWord {w : List Char} {d : Char} (named : isIdentifier w) (parts : Parts d)
    (tail : Lexes indents brackets false (d :: rest) looks) :
    Lexes indents brackets false (w ++ d :: rest) ((.name, String.ofList w) :: looks) := by
  have chars := identifierChars named
  cases w with
  | nil => cases named
  | cons c more =>
    have start : isWordStart c := wordStartOf (Bool.and_eq_true_iff.mp named).1
    refine lexesToken [(.name, String.ofList (c :: more))] (by simp)
      (by simp only [List.length_append, List.length_cons]; omega) (fun pos => ?_) tail
    have cutWord : (c :: more ++ d :: rest).takeWhile isWordChar = c :: more := by
      rw [List.takeWhile_append_of_pos chars, List.takeWhile_cons_of_neg (by simp [parts.1]), List.append_nil]
    have left : (c :: more ++ d :: rest).dropWhile isWordChar = d :: rest := by
      rw [List.dropWhile_append_of_pos chars, List.dropWhile_cons_of_neg (by simp [parts.1])]
    have plain : c ∉ ['\n', '#', '\\', '.', ' ', '\t', '\x0c'] := fun listed =>
      wordCharPlain (wordCharOfStart start) (List.mem_append_left _ listed)
    refine ⟨[State.tokenOf ⟨[], pos, [], [], false⟩ .name (c :: more) fun _ => identifierIsWord named],
      pos.advance (c :: more), ?_, ?_⟩
    · rw [plainStep rfl plain]
      simp only [wordNoPrefix chars parts, start, if_true, word, cutWord, left]
      rw [dif_pos (identifierIsWord named)]
      rfl
    · rfl

theorem lexesGap (tail : Lexes indents brackets false rest looks) :
    Lexes indents brackets false (' ' :: rest) looks :=
  lexesToken [] (by simp) (by simp) (fun pos => ⟨[], pos.advance [' '], rfl, rfl⟩) tail

theorem lexesNewline (tail : Lexes indents [] true rest looks) :
    Lexes indents [] false ('\n' :: rest) ((.newline, "") :: looks) :=
  lexesToken [(.newline, "")] (by simp) (by simp) (fun pos => ⟨_, pos.advance ['\n'], rfl, rfl⟩) tail

/-! Literals. -/

theorem lexesQuoted {mark : Char} {body value : List Char} (quote : isQuote mark) (spelled : Spells mark body value)
    (apart : ∀ d ∈ rest.head?, isQuote d = false) (tail : Lexes indents brackets false rest looks) :
    Lexes indents brackets false (mark :: body ++ [mark] ++ rest)
      ((.string, String.ofList (mark :: body ++ [mark])) :: looks) := by
  have notSlash : mark ≠ '\\' := by
    rintro rfl
    exact absurd quote (by decide)
  have cut : literalBody (mark :: (body ++ mark :: rest)) = some (mark :: body ++ [mark], rest) :=
    spelled.cutWhole notSlash fun same => absurd quote (by rw [apart mark same]; decide)
  have letters : literalPrefix (mark :: (body ++ mark :: rest)) = some [] := by
    rcases body with _ | ⟨c, _ | ⟨e, more⟩⟩ <;> simp [literalPrefix, quote]
  have plain : mark ∉ ['\n', '#', '\\', '.', ' ', '\t', '\x0c'] := by
    rcases Literal.quoteCases quote with rfl | rfl <;> decide
  refine lexesToken [(.string, String.ofList (mark :: body ++ [mark]))] (by simp) (by simp; omega)
    (fun pos => ?_) tail
  refine ⟨[State.tokenOf ⟨[], pos, [], [], false⟩ .string (mark :: body ++ [mark]) (by simp)],
    pos.advance (mark :: body ++ [mark]), ?_, ?_⟩
  · simp only [List.append_assoc, List.cons_append, List.nil_append]
    rw [plainStep rfl plain]
    simp only [letters, literal, List.length_nil, List.drop_zero, cut]
    rfl
  · rfl

/-! Marks. -/

/-- With what a longer operator goes on. -/
def followers : List Char := ['=', '*', '>', '/', '<', '.']

theorem listedFollowers {c d : Char} {more : List Char}
    (listed : String.ofList (c :: d :: more) ∈ operators3 ++ operators2) : d ∈ followers := by
  have told : ∀ s ∈ operators3 ++ operators2, s.toList[1]?.all (· ∈ followers) := by decide
  simpa only [String.toList_ofList, List.getElem?_cons_succ, List.getElem?_cons_zero, Option.all_some,
    decide_eq_true_eq] using told _ listed

theorem operatorAlone {c d : Char} (rest : List Char) (single : c ∈ operators1) (plain : d ∉ followers) :
    operator (c :: d :: rest) = some ([c], d :: rest) := by
  have three (e : Char) : String.ofList [c, d, e] ∉ operators3 := fun listed =>
    plain (listedFollowers (List.mem_append_left _ listed))
  have two : String.ofList [c, d] ∉ operators2 := fun listed =>
    plain (listedFollowers (List.mem_append_right _ listed))
  cases rest with
  | nil =>
    simp only [operator, List.contains_eq_mem, two, single, decide_true, decide_false, Bool.false_eq_true, if_false,
      if_true]
  | cons e more =>
    simp only [operator, List.contains_eq_mem, three, two, single, decide_true, decide_false, Bool.false_eq_true,
      if_false, if_true]

/-- The marks that occur between words. -/
def plainMarks : List (List Char) := [['('], [')'], [':'], ['='], ['.'], ['@'], ['-', '>']]

/-- What may stand right behind a mark: nothing that makes it longer or turns a point into a number. -/
def Opens (c : Char) : Prop := c ∉ followers ∧ c.isDigit = false

theorem operatorCut {m : List Char} {d : Char} (listed : m ∈ plainMarks) (opens : Opens d) (rest : List Char) :
    operator (m ++ d :: rest) = some (m, d :: rest) := by
  simp only [plainMarks, List.mem_cons, List.not_mem_nil, or_false] at listed
  obtain rfl | rfl | rfl | rfl | rfl | rfl | rfl := listed
  case inr.inr.inr.inr.inr.inr =>
    have told : ∀ s ∈ operators3, s.toList[0]? ≠ some '-' := by decide
    have three : String.ofList ['-', '>', d] ∉ operators3 := fun listed => told _ listed (by simp)
    have two : String.ofList ['-', '>'] ∈ operators2 := by decide
    simp only [List.cons_append, List.nil_append, operator, List.contains_eq_mem, three, two, decide_true, decide_false,
      Bool.false_eq_true, if_false, if_true]
  all_goals exact operatorAlone rest (by decide) opens.1

theorem markNoPrefix {c : Char} (unquoted : isQuote c = false) (noPart : isWordChar c = false) (rest : List Char) :
    literalPrefix (c :: rest) = none := by
  have off (more : List Char) : literalPrefixes.contains (String.ofList (c.toLower :: more.map Char.toLower)) = false :=
    Bool.eq_false_iff.mpr fun isPrefix =>
      absurd (prefixWord (c :: more) isPrefix c List.mem_cons_self) (by simp [noPart])
  rcases rest with _ | ⟨d, _ | ⟨e, more⟩⟩
  · simp only [literalPrefix, unquoted, Bool.false_eq_true, if_false]
  · have one := off []
    rw [List.map_nil] at one
    simp only [literalPrefix, unquoted, one, Bool.false_eq_true, if_false, ite_self]
  · have one := off []
    have two := off [d]
    rw [List.map_nil] at one
    rw [List.map_singleton] at two
    simp only [literalPrefix, unquoted, one, two, Bool.and_false, Bool.false_eq_true, if_false, ite_self]

theorem markStep {m : List Char} {s : State} {d : Char} (listed : m ∈ plainMarks) (opens : Opens d)
    (text : s.rest = m ++ d :: rest) : tokenStep s = mark s := by
  have plain {c : Char} {more : List Char} (starts : s.rest = c :: more)
      (mark : c ∈ ['(', ')', ':', '=', '@', '-']) : tokenStep s = Lexer.mark s := by
    have told : ∀ c ∈ ['(', ')', ':', '=', '@', '-'], c ∉ ['\n', '#', '\\', '.', ' ', '\t', '\x0c'] ∧
        isQuote c = false ∧ isWordChar c = false ∧ isWordStart c = false ∧ c.isDigit = false := by
      simp only [List.forall_mem_cons, List.not_mem_nil, false_imp_iff, implies_true, and_true]
      decide
    obtain ⟨plain, unquoted, noPart, noStart, noDigit⟩ := told c mark
    rw [plainStep starts plain, starts]
    simp only [markNoPrefix unquoted noPart, noStart, noDigit, Bool.false_eq_true, if_false]
  simp only [plainMarks, List.mem_cons, List.not_mem_nil, or_false] at listed
  obtain rfl | rfl | rfl | rfl | rfl | rfl | rfl := listed
  case inr.inr.inr.inr.inl =>
    unfold tokenStep
    rw [text]
    simp only [List.cons_append, List.nil_append, opens.2, Bool.false_eq_true, if_false]
  all_goals exact plain text (by decide)

theorem lexesMark {m after : List Char} {d : Char} (listed : m ∈ plainMarks) (opens : Opens d)
    (tracked : trackBracket brackets m = some after) (tail : Lexes indents after false (d :: rest) looks) :
    Lexes indents brackets false (m ++ d :: rest) ((.operator, String.ofList m) :: looks) := by
  have filled : 0 < m.length := by
    have told : ∀ m ∈ plainMarks, 0 < m.length := by decide
    exact told m listed
  refine lexesToken [(.operator, String.ofList m)] (by simp) (by simp; omega) (fun pos => ?_) tail
  refine ⟨[State.tokenOf ⟨[], pos, [], [], false⟩ .operator m (by simp)], pos.advance m, ?_, rfl⟩
  rw [markStep listed opens rfl, mark]
  simp only [operatorCut listed opens, Option.bind_eq_bind, Option.bind_some, tracked]
  rfl

end

/-! Lines. -/

/-- A stretch of a line. -/
inductive Lexeme
  | gap
  | word (text : List Char)
  | mark (text : List Char)
  | quoted (mark : Char) (body : List Char)

namespace Lexeme

def chars : Lexeme → List Char
  | gap => [' ']
  | word w => w
  | mark m => m
  | quoted q body => q :: body ++ [q]

def looks : Lexeme → List Look
  | gap => []
  | word w => [(.name, String.ofList w)]
  | mark m => [(.operator, String.ofList m)]
  | quoted q body => [(.string, String.ofList (q :: body ++ [q]))]

def Sound : Lexeme → Prop
  | gap => True
  | word w => isIdentifier w
  | mark m => m ∈ plainMarks
  | quoted q body => isQuote q ∧ ∃ value, Spells q body value

/-- Whether the first ends where the second starts; nothing comes after the last lexeme of a line. -/
def mayMeet : Lexeme → Option Lexeme → Bool
  | gap, _ => true
  | _, none => true
  | _, some gap => true
  | word _, some (mark _) => true
  | mark _, some (word _) => true
  | mark _, some (quoted _ _) => true
  | quoted _ _, some (mark _) => true
  | _, _ => false

def track (brackets : List Char) : Lexeme → Option (List Char)
  | mark m => trackBracket brackets m
  | _ => some brackets

/-- What each lexeme asks of the character behind it. -/
def Before : Lexeme → Char → Prop
  | gap, _ => True
  | word _, c => Parts c
  | mark _, c => Opens c
  | quoted _ _, c => isQuote c = false

end Lexeme

/-- A line whose lexemes stay apart and whose brackets, of which some are open before it, are all closed. -/
def Runs : List Char → List Lexeme → Prop
  | brackets, [] => brackets = []
  | brackets, l :: more => l.Sound ∧ l.mayMeet more.head? ∧ ∃ after, l.track brackets = some after ∧ Runs after more

section
variable {brackets after : List Char} {more : List Lexeme}

theorem runsGap (runs : Runs brackets more) : Runs brackets (.gap :: more) := ⟨trivial, rfl, brackets, rfl, runs⟩

theorem runsWord {w : List Char} (named : isIdentifier w) (meets : (Lexeme.word w).mayMeet more.head?)
    (runs : Runs brackets more) : Runs brackets (.word w :: more) := ⟨named, meets, brackets, rfl, runs⟩

theorem runsMark {m : List Char} (listed : m ∈ plainMarks) (meets : (Lexeme.mark m).mayMeet more.head?)
    (tracked : trackBracket brackets m = some after) (runs : Runs after more) : Runs brackets (.mark m :: more) :=
  ⟨listed, meets, after, tracked, runs⟩

theorem runsQuoted {q : Char} {body value : List Char} (quote : isQuote q) (spelled : Spells q body value)
    (meets : (Lexeme.quoted q body).mayMeet more.head?) (runs : Runs brackets more) :
    Runs brackets (.quoted q body :: more) := ⟨⟨quote, value, spelled⟩, meets, brackets, rfl, runs⟩

end

theorem opensWordStart {c : Char} (start : isWordStart c) : Opens c := by
  refine ⟨fun listed => ?_, Bool.eq_false_iff.mpr fun digit => ?_⟩
  · have told : followers.all (!isWordStart ·) := by decide
    have other := List.all_eq_true.mp told c listed
    simp [start] at other
  · simp only [Char.isDigit, Bool.and_eq_true, decide_eq_true_eq, ge_iff_le, UInt32.le_iff_toNat_le] at digit
    simp only [isWordStart, Bool.or_eq_true, decide_eq_true_eq, alphaIff, upperIff, lowerIff] at start
    change 48 ≤ c.toNat ∧ c.toNat ≤ 57 at digit
    rcases start with (((upper | lower) | rfl) | high)
    · omega
    · omega
    · exact absurd digit (by decide)
    · omega

/-- A line goes on with a character that its first lexeme may stand before. -/
theorem lineHead {l : Lexeme} {brackets : List Char} {line : List Lexeme} (rest : List Char)
    (meets : l.mayMeet line.head?) (runs : Runs brackets line) :
    ∃ d more, line.flatMap Lexeme.chars ++ '\n' :: rest = d :: more ∧ l.Before d := by
  rcases line with _ | ⟨next, line⟩
  · refine ⟨'\n', rest, rfl, ?_⟩
    cases l with
    | gap => trivial
    | word w => exact ⟨rfl, rfl⟩
    | mark m => exact ⟨by decide, rfl⟩
    | quoted q body => exact rfl
  · obtain ⟨sound, -⟩ := runs
    rw [List.head?_cons] at meets
    cases next with
    | gap =>
      refine ⟨' ', _, rfl, ?_⟩
      cases l with
      | gap => trivial
      | word w => exact ⟨rfl, rfl⟩
      | mark m => exact ⟨by decide, rfl⟩
      | quoted q body => exact rfl
    | word w =>
      rcases w with _ | ⟨c, w⟩
      · cases sound
      · have opens := opensWordStart (wordStartOf (Bool.and_eq_true_iff.mp sound).1)
        refine ⟨c, _, rfl, ?_⟩
        cases l with
        | gap => trivial
        | mark m => exact opens
        | word w => cases meets
        | quoted q body => cases meets
    | mark m =>
      have told : ∀ m ∈ plainMarks, m.head?.any (fun c => !isWordChar c && !isQuote c) := by decide
      have head := told m sound
      rcases m with _ | ⟨c, m⟩
      · cases head
      rw [List.head?_cons, Option.any_some, Bool.and_eq_true, Bool.not_eq_true', Bool.not_eq_true'] at head
      obtain ⟨noPart, unquoted⟩ := head
      refine ⟨c, _, rfl, ?_⟩
      cases l with
      | gap => trivial
      | word w => exact ⟨noPart, unquoted⟩
      | mark m => cases meets
      | quoted q body => exact unquoted
    | quoted q body =>
      refine ⟨q, _, rfl, ?_⟩
      cases l with
      | gap => trivial
      | mark m =>
        rcases Literal.quoteCases sound.1 with rfl | rfl
        · exact ⟨by decide, rfl⟩
        · exact ⟨by decide, rfl⟩
      | word w => cases meets
      | quoted q body => cases meets

/- The induction is on the lexemes; the open brackets go from each of them to the next. -/
theorem lexesLine (indents : List (Nat × Nat)) {brackets rest : List Char} {line : List Lexeme} {looks : List Look}
    (runs : Runs brackets line) (tail : Lexes indents [] true rest looks) :
    Lexes indents brackets false (line.flatMap Lexeme.chars ++ '\n' :: rest)
      (line.flatMap Lexeme.looks ++ (.newline, "") :: looks) := by
  induction line generalizing brackets with
  | nil =>
    cases runs
    exact lexesNewline tail
  | cons l line ih =>
    obtain ⟨sound, meets, after, tracked, runs⟩ := runs
    obtain ⟨d, more, text, before⟩ := lineHead rest meets runs
    have tail := ih runs
    rw [text] at tail
    rw [List.flatMap_cons, List.append_assoc, text, List.flatMap_cons, List.append_assoc]
    cases l with
    | gap =>
      cases tracked
      exact lexesGap tail
    | word w =>
      cases tracked
      exact lexesWord sound before tail
    | mark m => exact lexesMark sound before tracked tail
    | quoted q body =>
      cases tracked
      obtain ⟨quote, value, spelled⟩ := sound
      exact lexesQuoted quote spelled (by simpa [Lexeme.Before] using before) tail

/-! The start of a line. -/

section
variable {indents further : List (Nat × Nat)} {rest : List Char} {looks here : List Look}

theorem lexesEmptyLine (tail : Lexes indents [] true rest looks) : Lexes indents [] true ('\n' :: rest) looks :=
  lexesLayout [] (by simp only [List.length_cons, Bool.toNat_true]; omega) (fun pos => ⟨[], (pos.advance []).advance ['\n'], rfl, rfl⟩) tail

theorem measureBlanks (width narrow count : Nat) (rest : List Char) {c : Char} (plain : c ∉ [' ', '\t', '\x0c', '\\']) :
    measure width narrow 0 (List.replicate count ' ' ++ c :: rest) =
      some (List.replicate count ' ', width + count, narrow + count, c :: rest) := by
  simp only [List.mem_cons, List.not_mem_nil, or_false, not_or] at plain
  induction count generalizing width narrow with
  | zero =>
    rw [List.replicate_zero, List.nil_append, measure]
    · simp [plain]
    · rintro d more same
      exact absurd same plain.2.2.2
  | succ count ih =>
    rw [List.replicate_succ, List.cons_append, measure]
    · simp [ih, Nat.add_comm, Nat.add_left_comm]
    · rintro d more same
      exact absurd same (by decide)

/-- How the open levels change at a line of so many blanks. -/
def Settles (indents : List (Nat × Nat)) (count : Nat) (further : List (Nat × Nat)) (here : List Look) : Prop :=
  ∀ pos, ∃ ts, indentation pos count count indents = some (ts, further) ∧ ts.map Token.look = here

theorem lexesLineStart {count : Nat} {c : Char} (plain : c ∉ [' ', '\t', '\x0c', '\\', '\n', '#'])
    (settles : Settles indents count further here) (tail : Lexes further [] false (c :: rest) looks) :
    Lexes indents [] true (List.replicate count ' ' ++ c :: rest) (here ++ looks) := by
  refine lexesLayout here (by simp) (fun pos => ?_) tail
  obtain ⟨ts, settled, seen⟩ := settles (pos.advance (List.replicate count ' '))
  refine ⟨ts, pos.advance (List.replicate count ' '), ?_, seen⟩
  have blanks := measureBlanks 0 0 count rest fun listed => plain (List.mem_append_left ['\n', '#'] listed)
  simp only [List.mem_cons, List.not_mem_nil, or_false, not_or] at plain
  simp only [lineStep, blanks, Option.bind_eq_bind, Option.bind_some, Nat.zero_add]
  split
  · simp_all
  · simp_all
  · simp [State.take, settled]

theorem lexesOut (indents : List (Nat × Nat)) : Lexes indents [] false [] [(.ending, "")] := by
  intro pos fuel enough
  obtain _ | fuel := fuel
  · exact absurd enough (Nat.not_lt_zero _)
  · exact ⟨[layoutToken .ending pos], rfl, rfl⟩

theorem lexesEnd (settles : Settles indents 0 further here) :
    Lexes indents [] true [] (here ++ [(.ending, "")]) := by
  refine lexesLayout here (by simp) (fun pos => ?_) (lexesOut further)
  obtain ⟨ts, settled, seen⟩ := settles (pos.advance [])
  exact ⟨ts, pos.advance [], by simp [lineStep, measure, State.take, settled], seen⟩

end

end Lexer

/-! Whole texts. -/

theorem closedLinesPlain {text : List Char} (noReturn : ∀ c ∈ text, c ≠ '\r') (closed : text.getLast? = some '\n') :
    closedLines text = text := by
  have notPair : List.isSuffixOf ['\r', '\n'] text = false := by
    refine Bool.eq_false_iff.mpr fun suffix => ?_
    rw [List.isSuffixOf_iff_suffix] at suffix
    exact noReturn '\r' (suffix.subset List.mem_cons_self) rfl
  rw [closedLines, Text.LineEnds.unify_of_noReturn noReturn]
  simp [closed, notPair]

theorem moduleLooks {text : List Char} {looks : List Look} (noReturn : ∀ c ∈ text, c ≠ '\r')
    (closed : text.getLast? = some '\n') (lexes : Lexer.Lexes [] [] true text looks) :
    ∃ ts, moduleTokens text = some ts ∧ ts.map Token.look = looks := by
  obtain ⟨ts, ran, seen⟩ := lexes ⟨1, 0⟩ (2 * text.length + 2) (by simp)
  exact ⟨ts, by rw [moduleTokens, closedLinesPlain noReturn closed, tokens, Lexer.start, ran], seen⟩

theorem expressionLooks {text : List Char} {looks : List Look} (noReturn : ∀ c ∈ text, c ≠ '\r')
    (lexes : Lexer.Lexes [] [] true text looks) :
    ∃ ts, expressionTokens text = some ts ∧ ts.map Token.look = looks := by
  obtain ⟨ts, ran, seen⟩ := lexes ⟨1, 0⟩ (2 * text.length + 2) (by simp)
  exact ⟨ts, by rw [expressionTokens, Text.LineEnds.unify_of_noReturn noReturn, tokens, Lexer.start, ran], seen⟩

end AccessorForge.Syntax
