import Mathlib.Tactic.IntervalCases
import AccessorForge.Text.Quoted
import AccessorForge.Syntax.Literal
/-! Quoted texts read back. What stands between the marks spells the text: every character stands for itself or is
given by an escape of its own, and no mark, backslash or line end is left over. The lexer therefore cuts the literal off
where it ends, and its meaning is the text that was quoted. -/
namespace AccessorForge.Syntax.Literal
open Lexer (isQuote Cut followedBy shortBody literalBody)
open Text (Surrogate.Element)
open Text.Quoted (escape escapeElement hexDigits literalChars markFor isPlain quoteChars)
open Text.Printable (isPrintable allPrintable)

/-- The body of a literal in single marks, and the text that it stands for. -/
inductive Spells (mark : Char) : List Char → List Char → Prop
  | ending : Spells mark [] []
  | plain {c : Char} {body value : List Char} (unmarked : c ≠ mark) (unslashed : c ≠ '\\') (inline : c ≠ '\n') :
      Spells mark body value → Spells mark (c :: body) (c :: value)
  | escaped {c : Char} {code meant body value : List Char} (inline : c ≠ '\n')
      (closed : ∀ d ∈ code, d ≠ mark ∧ d ≠ '\\' ∧ d ≠ '\n')
      (means : ∀ rest, escapeAfter c (code ++ rest) = some (meant, rest)) :
      Spells mark body value → Spells mark ('\\' :: c :: code ++ body) (meant ++ value)

section
variable {mark : Char} {body value : List Char}

theorem Spells.append {more further : List Char} (first : Spells mark body value) (second : Spells mark more further) :
    Spells mark (body ++ more) (value ++ further) := by
  induction first with
  | ending => exact second
  | plain unmarked unslashed inline _ ih => exact .plain unmarked unslashed inline ih
  | @escaped c code meant body value inline closed means _ ih =>
    rw [List.append_assoc meant, List.append_assoc]
    exact .escaped inline closed means ih

/-! Where the lexer cuts. -/

theorem shortPast (mark : Char) {c : Char} (rest : List Char) (unmarked : c ≠ mark) (unslashed : c ≠ '\\')
    (inline : c ≠ '\n') : shortBody mark (c :: rest) = (shortBody mark rest).map (Cut.cons c) := by
  rw [shortBody]
  · simp [unmarked, unslashed, inline]
  · rintro d more same
    exact absurd same unslashed

theorem shortOver (mark : Char) {code : List Char} (closed : ∀ d ∈ code, d ≠ mark ∧ d ≠ '\\' ∧ d ≠ '\n')
    (rest : List Char) :
    shortBody mark (code ++ rest) = (shortBody mark rest).map fun cut => (code ++ cut.1, cut.2) := by
  induction code with
  | nil => simp
  | cons d more ih =>
    obtain ⟨unmarked, unslashed, inline⟩ := closed d List.mem_cons_self
    rw [List.cons_append, shortPast mark _ unmarked unslashed inline, ih fun e within =>
      closed e (List.mem_cons_of_mem _ within), Option.map_map]
    rfl

theorem Spells.cut (spelled : Spells mark body value) (notSlash : mark ≠ '\\') (rest : List Char) :
    shortBody mark (body ++ mark :: rest) = some (body ++ [mark], rest) := by
  induction spelled with
  | ending =>
    rw [List.nil_append, shortBody]
    · simp
    · rintro d more same
      exact absurd same notSlash
  | plain unmarked unslashed inline _ ih =>
    rw [List.cons_append, shortPast mark _ unmarked unslashed inline, ih]
    rfl
  | @escaped c code meant body value inline closed means _ ih =>
    have parted : '\\' :: c :: code ++ body ++ mark :: rest = '\\' :: c :: (code ++ (body ++ mark :: rest)) := by simp
    rw [parted, shortBody, shortOver mark closed, ih]
    simp

/-- No body begins with the mark, so two marks side by side are an empty literal. -/
theorem Spells.cutWhole (spelled : Spells mark body value) (notSlash : mark ≠ '\\') {rest : List Char}
    (apart : rest.head? ≠ some mark) :
    literalBody (mark :: body ++ mark :: rest) = some (mark :: body ++ [mark], rest) := by
  have short : followedBy [mark] (shortBody mark (body ++ mark :: rest)) = some (mark :: body ++ [mark], rest) := by
    rw [spelled.cut notSlash rest]
    rfl
  have unlike {c d : Char} {more : List Char} (text : body ++ mark :: rest = c :: d :: more) : ¬(mark = c ∧ c = d) := by
    rintro ⟨rfl, rfl⟩
    cases spelled with
    | ending =>
      rw [List.nil_append, List.cons.injEq] at text
      rw [text.2] at apart
      exact apart rfl
    | plain unmarked _ _ _ => exact unmarked (List.cons.inj text).1
    | escaped _ _ _ _ => exact notSlash (List.cons.inj text).1.symm
  rw [List.cons_append]
  rcases text : body ++ mark :: rest with _ | ⟨c, _ | ⟨d, more⟩⟩
  · exact absurd text (by simp)
  · rw [text] at short
    exact short
  · rw [text] at short
    simpa [literalBody, unlike text] using short

/-! What the literal means. -/

theorem Spells.reads (spelled : Spells mark body value) {fuel : Nat} (enough : body.length ≤ fuel) :
    unescapeWithin fuel body = some value := by
  induction spelled generalizing fuel with
  | ending => cases fuel <;> rfl
  | @plain c body value unmarked unslashed inline _ ih =>
    obtain _ | fuel := fuel
    · exact absurd enough (by simp)
    · rw [unescapeWithin, ih (by simpa using enough)]
      · rfl
      all_goals simp [unslashed]
  | @escaped c code meant body value inline closed means _ ih =>
    obtain _ | fuel := fuel
    · exact absurd enough (by simp)
    · have less : body.length ≤ fuel := by
        simp only [List.cons_append, List.length_cons, List.length_append] at enough
        omega
      rw [List.cons_append, List.cons_append, unescapeWithin, means body]
      exact congrArg (Option.map (meant ++ ·)) (ih less)

theorem Spells.inside (spelled : Spells mark body value) (notSlash : mark ≠ '\\') :
    insideMarks (mark :: body ++ [mark]) = body := by
  have unlike {c d : Char} {more : List Char} (text : body ++ [mark] = c :: d :: more) : mark ≠ c := by
    rintro rfl
    cases spelled with
    | ending => exact absurd text (by simp)
    | plain unmarked _ _ _ => exact unmarked (List.cons.inj text).1
    | escaped _ _ _ _ => exact notSlash (List.cons.inj text).1.symm
  rw [List.cons_append]
  rcases text : body ++ [mark] with _ | ⟨c, _ | ⟨d, more⟩⟩
  · exact absurd text (by simp)
  · cases body with
    | nil => rfl
    | cons e rest => exact absurd text (by simp)
  · have long : body.length = more.length + 1 := by
      have same := congrArg List.length text
      simpa using same
    rw [insideMarks, if_neg (by simp [unlike text]), ← text, ← long, List.take_left']
    rfl

theorem Spells.means (spelled : Spells mark body value) (quote : isQuote mark) :
    readOne (mark :: body ++ [mark]) = some (.text value) := by
  have notSlash : mark ≠ '\\' := by
    rintro rfl
    exact absurd quote (by decide)
  have parts : dissect (mark :: body ++ [mark]) = (⟨false, false, false⟩, body) := by
    rw [dissect, List.cons_append, List.takeWhile_cons_of_neg (by simp [quote]),
      List.dropWhile_cons_of_neg (by simp [quote]), ← List.cons_append, spelled.inside notSlash]
    rfl
  rw [readOne, parts]
  simp [unescape, spelled.reads]

end

/-! Digits of an escape. -/

theorem hexDigitChar {d : Nat} (small : d < 16) : hexDigit d.digitChar = some d := by
  interval_cases d <;> rfl

/-- The number that hexadecimal digits are read as. -/
def worth (digits : List Char) : Option Nat := digits.foldlM (fun n c => (hexDigit c).map (n * 16 + ·)) 0

theorem worthDigits (n : Nat) : worth (Nat.toDigits 16 n) = some n := by
  induction n using Nat.strong_induction_on with
  | _ n ih =>
    rcases Nat.lt_or_ge n 16 with small | large
    · rw [Nat.toDigits_of_lt_base small, worth]
      simp [hexDigitChar small]
    · have ahead := ih (n / 16) (Nat.div_lt_self (by omega) (by omega))
      rw [worth] at ahead
      rw [Nat.toDigits_of_base_le (by omega) large, worth, List.foldlM_append, ahead]
      simp [hexDigitChar (Nat.mod_lt n (by omega : 16 > 0)), Nat.div_add_mod']

theorem worthPadded (k : Nat) (digits : List Char) : worth (List.replicate k '0' ++ digits) = worth digits := by
  induction k with
  | zero => rfl
  | succ k ih =>
    rw [← ih]
    rfl

theorem hexNumberDigits {width n : Nat} (positive : 0 < width) (fits : n < 16 ^ width) (rest : List Char) :
    hexNumber width (hexDigits width n ++ rest) = some (n, rest) := by
  have short := (Nat.length_toDigits_le_iff (by omega : 1 < 16) positive).mpr fits
  have wide : (hexDigits width n).length = width := by
    simp only [hexDigits, List.length_append, List.length_replicate]
    omega
  have value : worth (hexDigits width n) = some n := (worthPadded _ _).trans (worthDigits n)
  rw [worth] at value
  rw [hexNumber, List.take_left' wide, List.drop_left' wide, if_neg (by omega), value]
  rfl

theorem hexDigitsEach {P : Char → Prop} (each : ∀ d < 16, P d.digitChar) (width n : Nat) :
    ∀ c ∈ hexDigits width n, P c := by
  have digits (n : Nat) : ∀ c ∈ Nat.toDigits 16 n, P c := by
    induction n using Nat.strong_induction_on with
    | _ n ih =>
      intro c within
      rcases Nat.lt_or_ge n 16 with small | large
      · rw [Nat.toDigits_of_lt_base small, List.mem_singleton] at within
        exact within ▸ each n small
      · rw [Nat.toDigits_of_base_le (by omega) large, List.mem_append, List.mem_singleton] at within
        rcases within with ahead | rfl
        · exact ih (n / 16) (Nat.div_lt_self (by omega) (by omega)) c ahead
        · exact each (n % 16) (Nat.mod_lt n (by omega))
  intro c within
  rcases List.mem_append.mp within with padding | digit
  · rw [List.eq_of_mem_replicate padding]
    exact each 0 (by decide)
  · exact digits n c digit

/-! What is written spells what was meant. -/

section
variable {mark : Char} (quote : isQuote mark)
include quote

theorem quoteCases : mark = '"' ∨ mark = '\'' := by simpa [isQuote] using quote

theorem closedCode (width n : Nat) : ∀ d ∈ hexDigits width n, d ≠ mark ∧ d ≠ '\\' ∧ d ≠ '\n' := by
  intro d within
  have plain : d ∉ ['"', '\'', '\\', '\n'] := hexDigitsEach (P := (· ∉ ['"', '\'', '\\', '\n'])) (by decide) width n d within
  simp only [List.mem_cons, List.not_mem_nil, or_false, not_or] at plain
  rcases quoteCases quote with rfl | rfl
  · exact ⟨plain.1, plain.2.2⟩
  · exact ⟨plain.2.1, plain.2.2⟩

theorem spellsCode (letter : Char) {width n : Nat} (inline : letter ≠ '\n')
    (kind : ∀ rest, escapeAfter letter rest = escapedCode width rest) (positive : 0 < width) (fits : n < 16 ^ width)
    (valid : n ≤ 0x10FFFF) : Spells mark ('\\' :: letter :: hexDigits width n) (Text.Surrogate.ofCode n) := by
  have means (rest : List Char) :
      escapeAfter letter (hexDigits width n ++ rest) = some (Text.Surrogate.ofCode n, rest) := by
    rw [kind, escapedCode, hexNumberDigits positive fits]
    simp [textOfCode, Nat.not_lt.mpr valid]
  have whole := Spells.escaped inline (closedCode quote width n) means .ending
  rwa [List.append_nil, List.append_nil] at whole

omit quote in
theorem spellsLetter {letter meant : Char} (inline : letter ≠ '\n')
    (means : ∀ rest, escapeAfter letter rest = some ([meant], rest)) : Spells mark ['\\', letter] [meant] :=
  Spells.escaped inline (fun _ within => absurd within List.not_mem_nil) means .ending

omit quote in
theorem ofCodeChar (c : Char) : Text.Surrogate.ofCode c.toNat = [c] := by
  have whole : Text.Surrogate.isSurrogate c.toNat = false := by
    rcases c.valid with low | high
    · simp only [Text.Surrogate.isSurrogate, Bool.and_eq_false_iff, decide_eq_false_iff_not]
      left
      exact Nat.not_le.mpr low
    · simp only [Text.Surrogate.isSurrogate, Bool.and_eq_false_iff, decide_eq_false_iff_not]
      right
      exact Nat.not_le.mpr high.1
  simp [Text.Surrogate.ofCode, whole, Char.ofNat_toNat]

theorem spellsChar (c : Char) : Spells mark (escape mark c) [c] := by
  have valid : c.toNat ≤ 0x10FFFF := by
    rcases c.valid with low | high
    · exact Nat.le_of_lt (Nat.lt_trans low (by decide))
    · exact Nat.le_of_lt_succ high.2
  rw [escape]
  split_ifs with own tab feed back shown byte wide
  · refine spellsLetter ?_ fun rest => ?_
    · rcases quoteCases quote with rfl | rfl <;> rintro rfl <;> exact absurd own (by decide)
    · rcases quoteCases quote with rfl | rfl <;> simp only [Bool.or_eq_true, decide_eq_true_eq] at own <;>
        rcases own with rfl | rfl <;> rfl
  · exact tab ▸ spellsLetter (by decide) fun rest => rfl
  · exact feed ▸ spellsLetter (by decide) fun rest => rfl
  · exact back ▸ spellsLetter (by decide) fun rest => rfl
  · simp only [Bool.or_eq_true, decide_eq_true_eq, not_or] at own
    exact .plain own.1 own.2 feed .ending
  · exact ofCodeChar c ▸ spellsCode quote _ (by decide) (fun rest => rfl) (by decide) byte valid
  · exact ofCodeChar c ▸ spellsCode quote _ (by decide) (fun rest => rfl) (by decide) wide valid
  · exact ofCodeChar c ▸
      spellsCode quote _ (by decide) (fun rest => rfl) (by decide) (Nat.lt_of_le_of_lt valid (by decide)) valid

omit quote in
theorem ofCodeHalf {b : Char} {n : Nat} (half : Text.Surrogate.half? b = some n) :
    Text.Surrogate.ofCode n = [Text.Surrogate.mark, b] ∧ n < 0x10000 := by
  rw [Text.Surrogate.half?, Option.ite_none_right_eq_some, Bool.and_eq_true, decide_eq_true_eq, decide_eq_true_eq] at half
  obtain ⟨⟨low, high⟩, code⟩ := half
  rw [Option.some.injEq] at code
  simp only [Text.Surrogate.privateStart] at low high code
  have surrogate : Text.Surrogate.isSurrogate n := by
    rw [Text.Surrogate.isSurrogate, Bool.and_eq_true, decide_eq_true_eq, decide_eq_true_eq]
    omega
  have same : Text.Surrogate.privateStart + (n - 0xD800) = b.toNat := by
    rw [Text.Surrogate.privateStart]
    omega
  exact ⟨by rw [Text.Surrogate.ofCode, if_pos surrogate, same, Char.ofNat_toNat], by omega⟩

theorem spellsElements (s : List Char) :
    Spells mark ((Text.Surrogate.elements s).flatMap (escapeElement mark)) s := by
  fun_induction Text.Surrogate.elements s with
  | case1 => exact .ending
  | case2 c =>
    rw [List.flatMap_singleton]
    exact spellsChar quote c
  | case3 a b rest n hit ih =>
    rw [List.flatMap_cons]
    split at hit
    · next marked =>
      obtain ⟨pair, small⟩ := ofCodeHalf hit
      have half := spellsCode (n := n) quote 'u' (by decide) (fun rest => rfl) (by decide) small (by omega)
      rw [pair] at half
      exact marked ▸ half.append ih
    · cases hit
  | case4 a b rest miss ih =>
    rw [List.flatMap_cons]
    exact (spellsChar quote a).append ih

end

/-! What is written can be shown, and so it holds no control character. -/

theorem escapeShown {mark : Char} (quote : isQuote mark) (c : Char) : ∀ d ∈ escape mark c, isPrintable d := by
  have digits (width n : Nat) : ∀ d ∈ hexDigits width n, isPrintable d := hexDigitsEach (by decide) width n
  have slash : isPrintable '\\' := by decide
  rw [escape]
  split_ifs with own tab feed back shown byte wide
  · have meant : isPrintable c := by
      rcases quoteCases quote with rfl | rfl <;> simp only [Bool.or_eq_true, decide_eq_true_eq] at own <;>
        rcases own with rfl | rfl <;> decide
    exact List.forall_mem_cons.mpr ⟨slash, List.forall_mem_singleton.mpr meant⟩
  · exact List.all_eq_true.mp (by decide)
  · exact List.all_eq_true.mp (by decide)
  · exact List.all_eq_true.mp (by decide)
  · exact List.forall_mem_singleton.mpr shown
  · exact List.forall_mem_cons.mpr ⟨slash, List.forall_mem_cons.mpr ⟨by decide, digits 2 c.toNat⟩⟩
  · exact List.forall_mem_cons.mpr ⟨slash, List.forall_mem_cons.mpr ⟨by decide, digits 4 c.toNat⟩⟩
  · exact List.forall_mem_cons.mpr ⟨slash, List.forall_mem_cons.mpr ⟨by decide, digits 8 c.toNat⟩⟩

theorem elementShown {mark : Char} (quote : isQuote mark) (e : Text.Surrogate.Element) :
    ∀ d ∈ escapeElement mark e, isPrintable d := by
  cases e with
  | char c => exact escapeShown quote c
  | half n =>
    refine List.forall_mem_cons.mpr ⟨by decide, List.forall_mem_cons.mpr ⟨by decide, ?_⟩⟩
    exact hexDigitsEach (by decide) 4 n

theorem spellsItself {mark : Char} {s : List Char} (plain : ∀ c ∈ s, c ≠ mark ∧ c ≠ '\\' ∧ c ≠ '\n') :
    Spells mark s s := by
  induction s with
  | nil => exact .ending
  | cons c rest ih =>
    obtain ⟨unmarked, unslashed, inline⟩ := plain c List.mem_cons_self
    exact .plain unmarked unslashed inline (ih fun d within => plain d (List.mem_cons_of_mem _ within))

theorem spellsPlain {s : List Char} (plain : isPlain s) : Spells '"' s s := by
  simp only [isPlain, allPrintable, Bool.and_eq_true, Bool.not_eq_true', List.contains_eq_mem, decide_eq_false_iff_not,
    List.all_eq_true] at plain
  obtain ⟨⟨shown, unmarked⟩, unslashed⟩ := plain
  refine spellsItself fun c within => ⟨?_, ?_, ?_⟩
  · rintro rfl
    exact unmarked within
  · rintro rfl
    exact unslashed within
  · rintro rfl
    exact absurd (shown _ within) (by decide)

theorem markForQuote (s : List Char) : isQuote (markFor s) := by
  unfold markFor
  split <;> rfl

theorem quotedSpells (v : List Char) :
    ∃ mark body, isQuote mark ∧ quoteChars v = mark :: body ++ [mark] ∧ Spells mark body v := by
  unfold quoteChars
  split
  · next plain => exact ⟨'"', v, rfl, rfl, spellsPlain plain⟩
  · exact ⟨markFor v, _, markForQuote v, rfl, spellsElements (markForQuote v) v⟩

theorem quotedShown (v : List Char) : ∀ c ∈ quoteChars v, isPrintable c := by
  have shown {mark : Char} (quote : isQuote mark) : isPrintable mark := by
    rcases quoteCases quote with rfl | rfl <;> decide
  have between {mark : Char} {body : List Char} (quote : isQuote mark) (inside : ∀ c ∈ body, isPrintable c) :
      ∀ c ∈ mark :: body ++ [mark], isPrintable c :=
    List.forall_mem_cons.mpr ⟨shown quote, List.forall_mem_append.mpr
      ⟨inside, List.forall_mem_singleton.mpr (shown quote)⟩⟩
  unfold quoteChars
  split
  · next plain =>
    rw [isPlain, Bool.and_eq_true, Bool.and_eq_true, allPrintable, List.all_eq_true] at plain
    exact between rfl plain.1.1
  · refine between (markForQuote v) fun c within => ?_
    obtain ⟨e, -, inside⟩ := List.mem_flatMap.mp within
    exact elementShown (markForQuote v) e c inside

theorem quotedMeaning (v : List Char) : read [quoteChars v] = some (.text v) := by
  obtain ⟨mark, body, quote, parts, spelled⟩ := quotedSpells v
  rw [read, parts, spelled.means quote]

end AccessorForge.Syntax.Literal
