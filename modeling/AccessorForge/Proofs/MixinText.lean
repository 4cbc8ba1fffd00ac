import AccessorForge.Proofs.CacheFields
import AccessorForge.Proofs.Statements
import AccessorForge.Hosting.Mixin
/-! The text of a mixin is read as it was meant. For accessors with identifiers as names and references to types as
types, the text is cut into its lines, the lines are read as one class, and the class has one member for each accessor,
in their order, with the visibility that was asked for whatever characters it holds. -/
namespace AccessorForge
open Syntax Syntax.Reader Syntax.Grammar
open Lexer (Lexeme Runs Lexes Settles)

/-- A name that stands for itself wherever it is read. -/
structure Naming.Stands (name : String) : Prop where
  identifier : Text.Identifier.isIdentifier name.toList
  free : name ∉ keywords
  normal : normal name = name

/-- Names that stand for themselves, divided by points. -/
def Naming.Refers (typeName : String) : Prop :=
  ∃ first parts, Stands first ∧ (∀ part ∈ parts, Stands part) ∧ typeName = dotted first parts

/-- What an accessor needs for its text to be read. -/
structure Accessor.Writable (a : Accessor) : Prop where
  identifier : Text.Identifier.isIdentifier a.property.toList
  free : a.property ∉ keywords
  refers : Naming.Refers a.typeName

namespace Accessor
variable {a : Accessor}

theorem Writable.fieldIdentifier (writable : a.Writable) : Text.Identifier.isIdentifier a.cacheField.toList :=
  Naming.cacheFieldIdentifier writable.identifier

theorem fieldUnderscored (a : Accessor) : ∃ rest, a.cacheField.toList = '_' :: rest := by
  rw [cacheField, Naming.cacheField, String.toList_ofList]
  cases a.property.toList with
  | nil => exact ⟨[], rfl⟩
  | cons c rest => exact ⟨_, rfl⟩

theorem fieldNotWord (a : Accessor) : a.cacheField ∉ "match" :: keywords := by
  have told : ∀ word ∈ "match" :: keywords, word.toList.head? ≠ some '_' := by decide
  intro listed
  obtain ⟨rest, starts⟩ := a.fieldUnderscored
  exact told _ listed (by rw [starts]; rfl)

end Accessor

/-! Lines. -/

def textLine (count : Nat) (line : List Lexeme) : List Char :=
  List.replicate count ' ' ++ (line.flatMap Lexeme.chars ++ ['\n'])

section
variable {further : List (Nat × Nat)} {line : List Lexeme} {rest : List Char} {looks : List Look}

def Shows (line : List Lexeme) : Prop :=
  ∃ c more, line.flatMap Lexeme.chars = c :: more ∧ c ∉ [' ', '\t', '\x0c', '\\', '\n', '#']

theorem wordShows {w : List Char} (named : Text.Identifier.isIdentifier w) (line : List Lexeme) :
    Shows (.word w :: line) := by
  cases w with
  | nil => cases named
  | cons c more =>
    refine ⟨c, more ++ line.flatMap Lexeme.chars, rfl, fun listed => ?_⟩
    have plain := Lexer.wordCharPlain (Lexer.identifierChars named c List.mem_cons_self)
    simp only [List.mem_cons, not_or] at plain listed
    tauto

theorem lexesTextLine (indents : List (Nat × Nat)) (count : Nat) (here : List Look) (runs : Runs [] line) (shows : Shows line)
    (settles : Settles indents count further here) (tail : Lexes further [] true rest looks) :
    Lexes indents [] true (textLine count line ++ rest)
      (here ++ (line.flatMap Lexeme.looks ++ (.newline, "") :: looks)) := by
  obtain ⟨c, more, text, plain⟩ := shows
  have inside := Lexer.lexesLine further runs tail
  rw [text] at inside
  have whole := Lexer.lexesLineStart plain settles inside
  rw [textLine, text]
  simpa using whole

end

/-! Dotted names. -/

/-- The lexemes of a dotted name. -/
def dottedLexemes (first : String) (parts : List String) : List Lexeme :=
  .word first.toList :: parts.flatMap fun part => [.mark ['.'], .word part.toList]

theorem dottedChars (first : String) {parts : List String} (stand : ∀ part ∈ parts, Naming.Stands part) :
    (dotted first parts).toList = (dottedLexemes first parts).flatMap Lexeme.chars := by
  induction parts generalizing first with
  | nil => simp [dotted, dottedLexemes, Lexeme.chars]
  | cons part parts ih =>
    have later := ih (first ++ "." ++ part) fun other within => stand other (List.mem_cons_of_mem _ within)
    simp only [dotted, List.foldl_cons, (stand part List.mem_cons_self).normal] at later ⊢
    rw [later]
    simp [dottedLexemes, Lexeme.chars]

theorem dottedLooks (first : String) (parts : List String) :
    (dottedLexemes first parts).flatMap Lexeme.looks = (.name, first) :: dotLooks parts := by
  induction parts with
  | nil => simp [dottedLexemes, dotLooks, Lexeme.looks]
  | cons part parts ih =>
    simp only [dottedLexemes, dotLooks, List.flatMap_cons] at ih ⊢
    simp_all [Lexeme.looks]

theorem runsDotted {first : String} {parts : List String} {brackets : List Char} {m : List Char} {tail : List Lexeme}
    (head : Naming.Stands first) (stand : ∀ part ∈ parts, Naming.Stands part)
    (runs : Runs brackets (.mark m :: tail)) : Runs brackets (dottedLexemes first parts ++ .mark m :: tail) := by
  induction parts generalizing first with
  | nil => exact Lexer.runsWord head.identifier rfl runs
  | cons part parts ih =>
    have later := ih (stand part List.mem_cons_self) fun other within => stand other (List.mem_cons_of_mem _ within)
    exact Lexer.runsWord head.identifier rfl (Lexer.runsMark (by decide) rfl rfl later)

theorem dottedPlain {first : String} {parts : List String} (head : Naming.Stands first)
    (stand : ∀ part ∈ parts, Naming.Stands part) : ∀ c ∈ (dotted first parts).toList, Lexer.isWordChar c ∨ c = '.' := by
  have named {name : String} (stands : Naming.Stands name) : ∀ c ∈ name.toList, Lexer.isWordChar c ∨ c = '.' :=
    fun c within => .inl (Lexer.identifierChars stands.identifier c within)
  rw [dottedChars first stand, dottedLexemes, List.flatMap_cons]
  refine List.forall_mem_append.mpr ⟨named head, fun c within => ?_⟩
  obtain ⟨l, listed, inside⟩ := List.mem_flatMap.mp within
  obtain ⟨part, member, same⟩ := List.mem_flatMap.mp listed
  simp only [List.mem_cons, List.not_mem_nil, or_false] at same
  rcases same with rfl | rfl
  · exact .inr (List.mem_singleton.mp inside)
  · exact named (stand part member) c inside

theorem annotationSpells {first : String} {parts : List String} (head : Naming.Stands first)
    (stand : ∀ part ∈ parts, Naming.Stands part) :
    Literal.Spells '"' ((dotted first parts).toList ++ " | None".toList) ((dotted first parts).toList ++ " | None".toList) := by
  refine Literal.spellsItself (List.forall_mem_append.mpr ⟨fun c within => ?_, by simp⟩)
  rcases dottedPlain head stand c within with part | rfl
  · have plain := Lexer.wordCharPlain part
    simp only [List.mem_cons, not_or] at plain
    tauto
  · decide

/-! One accessor. -/

section
variable (a : Accessor) (first : String) (parts : List String) (quote : Char) (body : List Char)

def fieldLine : List Lexeme := [.word a.cacheField.toList, .gap, .mark ['='], .gap, .word "UNRESOLVED".toList]

def decorationLine : List Lexeme :=
  [.mark ['@'], .word "component_accessor".toList, .mark ['('], .quoted quote body, .mark [')']]

def signatureLine : List Lexeme :=
  [.word "def".toList, .gap, .word a.property.toList, .mark ['('], .word "self".toList, .mark [')'], .gap,
    .mark ['-', '>'], .gap, .quoted '"' (a.typeName.toList ++ " | None".toList), .mark [':']]

def conditionLine : List Lexeme :=
  [.word "if".toList, .gap, .word "self".toList, .mark ['.'], .word a.cacheField.toList, .gap, .word "is".toList, .gap,
    .word "UNRESOLVED".toList, .mark [':']]

def fillLine : List Lexeme :=
  [.word "self".toList, .mark ['.'], .word a.cacheField.toList, .gap, .mark ['='], .gap, .word "self".toList,
    .mark ['.'], .word "get_component".toList, .mark ['(']] ++ (dottedLexemes first parts ++ [.mark [')']])

def answerLine : List Lexeme :=
  [.word "return".toList, .gap, .word "self".toList, .mark ['.'], .word a.cacheField.toList]

def accessorText : List Char := (a.pieces none).flatMap String.toList

def accessorLooks : List Look :=
  [(.name, a.cacheField), (.operator, "="), (.name, "UNRESOLVED"), lineEnd,
    (.operator, "@"), (.name, "component_accessor"), (.operator, "("), (.string, Text.Quoted.quote a.visibility),
    (.operator, ")"), lineEnd,
    (.name, "def"), (.name, a.property), (.operator, "("), (.name, "self"), (.operator, ")"), (.operator, "->"),
    (.string, "\"" ++ a.typeName ++ " | None\""), (.operator, ":"), lineEnd, (.indent, ""),
    (.name, "if"), (.name, "self"), (.operator, "."), (.name, a.cacheField), (.name, "is"), (.name, "UNRESOLVED"),
    (.operator, ":"), lineEnd, (.indent, ""),
    (.name, "self"), (.operator, "."), (.name, a.cacheField), (.operator, "="), (.name, "self"), (.operator, "."),
    (.name, "get_component"), (.operator, "("), (.name, first)] ++ dotLooks parts ++
  [(.operator, ")"), lineEnd, (.dedent, ""),
    (.name, "return"), (.name, "self"), (.operator, "."), (.name, a.cacheField), lineEnd]

end

theorem accessorLines {a : Accessor} {first : String} {parts : List String} {quote : Char} {body : List Char}
    (stand : ∀ part ∈ parts, Naming.Stands part) (type : a.typeName = dotted first parts)
    (quoted : Text.Quoted.quoteChars a.visibility.toList = quote :: body ++ [quote]) :
    accessorText a = textLine 4 (fieldLine a) ++ '\n' :: (textLine 4 (decorationLine quote body) ++
      (textLine 4 (signatureLine a) ++ (textLine 8 (conditionLine a) ++ (textLine 12 (fillLine a first parts) ++
        textLine 8 (answerLine a))))) := by
  have chars := dottedChars first stand
  rw [← type] at chars
  simp [accessorText, Accessor.pieces, textLine, fieldLine, decorationLine, signatureLine, conditionLine, fillLine,
    answerLine, Lexeme.chars, chars, quoted, Text.Quoted.quote]

section
open Lexer (runsGap runsWord runsMark runsQuoted)
variable {a : Accessor} {first : String} {parts : List String} {quote : Char} {body value : List Char}

theorem runsField (writable : a.Writable) : Runs [] (fieldLine a) :=
  runsWord writable.fieldIdentifier rfl (runsGap (runsMark (by decide) rfl rfl (runsGap (runsWord (by decide) rfl rfl))))

theorem runsDecoration (quotes : Lexer.isQuote quote) (spelled : Literal.Spells quote body value) :
    Runs [] (decorationLine quote body) :=
  runsMark (by decide) rfl rfl (runsWord (by decide) rfl (runsMark (by decide) rfl rfl
    (runsQuoted quotes spelled rfl (runsMark (by decide) rfl rfl rfl))))

theorem runsSignature (writable : a.Writable)
    (annotated : Literal.Spells '"' (a.typeName.toList ++ " | None".toList) value) : Runs [] (signatureLine a) :=
  runsWord (by decide) rfl (runsGap (runsWord writable.identifier rfl (runsMark (by decide) rfl rfl
    (runsWord (by decide) rfl (runsMark (by decide) rfl rfl (runsGap (runsMark (by decide) rfl rfl
    (runsGap (runsQuoted rfl annotated rfl (runsMark (by decide) rfl rfl rfl))))))))))

theorem runsCondition (writable : a.Writable) : Runs [] (conditionLine a) :=
  runsWord (by decide) rfl (runsGap (runsWord (by decide) rfl (runsMark (by decide) rfl rfl
    (runsWord writable.fieldIdentifier rfl (runsGap (runsWord (by decide) rfl (runsGap
    (runsWord (by decide) rfl (runsMark (by decide) rfl rfl rfl)))))))))

theorem runsFill (writable : a.Writable) (head : Naming.Stands first) (stand : ∀ part ∈ parts, Naming.Stands part) :
    Runs [] (fillLine a first parts) :=
  runsWord (by decide) rfl (runsMark (by decide) rfl rfl (runsWord writable.fieldIdentifier rfl (runsGap
    (runsMark (by decide) rfl rfl (runsGap (runsWord (by decide) rfl (runsMark (by decide) rfl rfl
    (runsWord (by decide) rfl (runsMark (by decide) rfl rfl
    (runsDotted head stand (runsMark (by decide) rfl rfl rfl)))))))))))

theorem runsAnswer (writable : a.Writable) : Runs [] (answerLine a) :=
  runsWord (by decide) rfl (runsGap (runsWord (by decide) rfl (runsMark (by decide) rfl rfl
    (runsWord writable.fieldIdentifier rfl rfl))))

/-- Where an accessor starts a new level or comes back to that of the one before, its text has its looks. -/
theorem lexesAccessor (writable : a.Writable) (head : Naming.Stands first) (stand : ∀ part ∈ parts, Naming.Stands part)
    (type : a.typeName = dotted first parts) {indents : List (Nat × Nat)} {here looks : List Look} {rest : List Char}
    (settles : Settles indents 4 [(4, 4)] here) (tail : Lexes [(8, 8), (4, 4)] [] true rest looks) :
    Lexes indents [] true (accessorText a ++ rest) (here ++ (accessorLooks a first parts ++ looks)) := by
  obtain ⟨quote, body, quotes, quoted, spelled⟩ := Literal.quotedSpells a.visibility.toList
  have annotation := annotationSpells head stand
  rw [← type] at annotation
  have answer := lexesTextLine [(12, 12), (8, 8), (4, 4)] 8 [(.dedent, "")] (runsAnswer writable)
    (wordShows (by decide) _) (fun pos => ⟨_, rfl, rfl⟩) tail
  have fill := lexesTextLine [(8, 8), (4, 4)] 12 [(.indent, "")] (runsFill writable head stand)
    (wordShows (by decide) _) (fun pos => ⟨_, rfl, rfl⟩) answer
  have condition := lexesTextLine [(4, 4)] 8 [(.indent, "")] (runsCondition writable) (wordShows (by decide) _)
    (fun pos => ⟨_, rfl, rfl⟩) fill
  have signature := lexesTextLine [(4, 4)] 4 [] (runsSignature writable annotation) (wordShows (by decide) _)
    (fun pos => ⟨_, rfl, rfl⟩) condition
  have decoration := lexesTextLine [(4, 4)] 4 [] (runsDecoration quotes spelled) ⟨'@', _, rfl, by decide⟩
    (fun pos => ⟨_, rfl, rfl⟩) signature
  have whole := lexesTextLine indents 4 here (runsField writable) (wordShows writable.fieldIdentifier _) settles
    (Lexer.lexesEmptyLine decoration)
  have looks : here ++ (accessorLooks a first parts ++ looks) = here ++ ((fieldLine a).flatMap Lexeme.looks ++
      (.newline, "") :: ([] ++ ((decorationLine quote body).flatMap Lexeme.looks ++ (.newline, "") ::
      ([] ++ ((signatureLine a).flatMap Lexeme.looks ++ (.newline, "") :: ([(.indent, "")] ++
      ((conditionLine a).flatMap Lexeme.looks ++ (.newline, "") :: ([(.indent, "")] ++
      ((fillLine a first parts).flatMap Lexeme.looks ++ (.newline, "") :: ([(.dedent, "")] ++
      ((answerLine a).flatMap Lexeme.looks ++ (.newline, "") :: looks))))))))))) := by
    have literal : String.ofList (quote :: (body ++ [quote])) = Text.Quoted.quote a.visibility := by
      rw [Text.Quoted.quote, quoted, List.cons_append]
    have annotated : String.ofList ('"' :: (a.typeName.toList ++ (" | None".toList ++ ['"']))) =
        "\"" ++ a.typeName ++ " | None\"" := String.toList_inj.mp (by simp)
    simp only [accessorLooks, fieldLine, decorationLine, signatureLine, conditionLine, fillLine, answerLine,
      List.flatMap_append, dottedLooks]
    simp only [List.flatMap_cons, List.flatMap_nil, Lexeme.looks, String.ofList_toList, literal, annotated, List.append_assoc,
      List.cons_append, List.nil_append, List.append_nil]
  rw [accessorLines stand type quoted, looks]
  simpa using whole

end

/-! What one accessor is read as. -/

section
variable {limit depth d nesting : Nat} {a : Accessor} {first : String} {parts : List String} {body : Reader (List Stmt)}
  {before after : List Look}

theorem fieldBegins (a : Accessor) : Begins (.name, a.cacheField) :=
  .inr ⟨rfl, fun listed => a.fieldNotWord (List.mem_cons_of_mem _ listed)⟩

theorem nameBegins {name : String} (free : name ∉ keywords) : Begins (.name, name) := .inr ⟨rfl, free⟩

theorem fieldPlain (a : Accessor) : (TokenKind.name, a.cacheField) ∉ openers := by
  have told : ∀ l ∈ openers, l.1 = .name → l.2 ∈ "match" :: keywords := by decide
  exact fun listed => a.fieldNotWord (told _ listed rfl)

theorem fieldFree (a : Accessor) : a.cacheField ∉ keywords := fun listed => a.fieldNotWord (List.mem_cons_of_mem _ listed)

theorem readsField (room : 1 < limit) (a : Accessor) :
    Reads limit ((.name, a.cacheField) :: (.operator, "=") :: (.name, "UNRESOLVED") :: lineEnd :: after)
      (statement (rules (d + 2)) depth body) after
      fun ss => ∃ s, ss = [s] ∧ ∃ t v, s = .assign [t] (some v) ∧ (∃ span, t = .name span (normal a.cacheField)) ∧ True := by
  have some' := Nat.zero_lt_of_lt room
  have constant : "UNRESOLVED" ∉ keywords := by decide
  refine readsLine some' (fieldPlain a) (readsPlain (fieldBegins a) (readsAssignment some'
    (readsDeepStars room (fieldBegins a) (by decide) (readsBare some' (fieldFree a) (by decide))) ?_ (nameBegins constant) ?_))
  · rintro _ ⟨span, rfl⟩
    rfl
  · refine readsDeepStars room (nameBegins constant) (by decide) ?_
    exact readsMono (readsBare some' constant (by decide)) fun _ _ => trivial

theorem readsOwn (room : 1 < limit) (a : Accessor) {s : Look} (close : s ∈ (TokenKind.name, "is") :: closers) :
    Reads limit ((.name, "self") :: (.operator, ".") :: (.name, a.cacheField) :: s :: after) (primary (rules d)) (s :: after)
      fun e => isStarTarget e = true := by
  have own : [a.cacheField].length < limit := room
  refine readsMono (readsDotted own (by decide) (by simpa using fieldFree a) close) fun e named => ?_
  cases e <;> first | rfl | cases named

theorem readsAnswerLine (room : 1 < limit) (a : Accessor) :
    Reads limit ((.name, "return") :: (.name, "self") :: (.operator, ".") :: (.name, a.cacheField) :: lineEnd :: after)
      (statement (rules (d + 2)) depth body) after fun ss => ∃ s, ss = [s] ∧ s = .other := by
  refine readsLine (Nat.zero_lt_of_lt room) (by simp [openers])
    (readsAnswer (P := fun e => isStarTarget e = true) (nameBegins (by decide)) ?_)
  exact readsDeepStars room (nameBegins (by decide)) (by decide) (readsOwn room a (by decide))

/-- A call that looks up the component of a type. -/
def Fills (typeName : String) (fill : Expr) : Prop :=
  ∃ span method self e, fill = .call span (.attribute method (.name self "self") "get_component") [e] [] ∧
    dottedName e = some typeName

theorem readsFillLine (room : 2 < limit) (a : Accessor) (few : parts.length < limit) (head : Naming.Stands first)
    (stand : ∀ part ∈ parts, Naming.Stands part) :
    Reads limit ([(.name, "self"), (.operator, "."), (.name, a.cacheField), (.operator, "="), (.name, "self"),
        (.operator, "."), (.name, "get_component"), (.operator, "("), (.name, first)] ++ (dotLooks parts ++
        (.operator, ")") :: lineEnd :: after))
      (statement (rules (d + 4)) depth body) after
      fun ss => ∃ s, ss = [s] ∧ ∃ t v, s = .assign [t] (some v) ∧ isStarTarget t = true ∧
        Fills (dotted first parts) v := by
  have more := Nat.lt_of_succ_lt room
  have self' : Begins (.name, "self") := nameBegins (by decide)
  have called : Reads limit ((.name, "self") :: (.operator, ".") :: (.name, "get_component") :: (.operator, "(") ::
      (.name, first) :: (dotLooks parts ++ (.operator, ")") :: lineEnd :: after)) (primary (rules (d + 2)))
      (lineEnd :: after) (Fills (dotted first parts)) := by
    obtain ⟨rounds, rfl⟩ : ∃ rounds, limit = rounds + 3 := ⟨limit - 3, by omega⟩
    refine readsBind readsHere fun start _ => readsBind (readsAtomName (by decide)) ?_
    rintro _ ⟨span, rfl⟩
    refine readsBind readsGet fun c same => ?_
    rw [same]
    refine readsTrailer (by decide) fun span => ?_
    have reference : Reads (rounds + 3) ((.name, first) :: (dotLooks parts ++ (.operator, ")") :: lineEnd :: after))
        (rules (d + 1)).expression ((.operator, ")") :: lineEnd :: after)
        fun e => dottedName e = some (dotted first parts) := by
      refine readsDeepExpression more (nameBegins head.free) (by decide) ?_
      exact readsMono (readsDotted few head.free (fun part within => (stand part within).free) (by decide))
        fun e named => by rwa [head.normal] at named
    obtain ⟨m, others, same, unbound⟩ : ∃ m others, dotLooks parts ++ (.operator, ")") :: lineEnd :: after = m :: others ∧
        m ≠ (.operator, ":=") ∧ m ≠ (.operator, "=") := by
      cases parts with
      | nil => exact ⟨_, _, rfl, by decide⟩
      | cons part parts => exact ⟨_, _, rfl, by decide⟩
    rw [same] at reference ⊢
    refine readsCall (nameBegins head.free) (by decide) unbound (readsDeepNamed (nameBegins head.free) unbound.1 reference) ?_
    exact fun span' e fine => ⟨span', _, _, e, rfl, fine⟩
  refine readsLine (Nat.zero_lt_of_lt more) (by simp [openers]) (readsPlain self'
    (readsAssignment (Nat.zero_lt_of_lt more) (readsDeepStars more self' (by decide) (readsOwn more a (by decide)))
      (fun _ fits => fits) self' ?_))
  exact readsDeepStars more self' (by decide) called

/-- The decorator hands on the visibility, whatever it is. -/
def Decorates (visibility : String) (e : Expr) : Prop :=
  ∃ span callee place, e = .call span (.name callee "component_accessor") [.text place visibility] []

theorem readsQuoted (room : 1 < limit) (visibility : String) {s : Look} (close : s ∈ closers) :
    Reads limit ((.string, Text.Quoted.quote visibility) :: s :: after) (primary (rules d)) (s :: after)
      fun e => ∃ span, e = .text span visibility := by
  have meaning : Literal.read [(Text.Quoted.quote visibility).toList] = some (.text visibility.toList) := by
    rw [Text.Quoted.quote, String.toList_ofList, Literal.quotedMeaning]
  have other : ∀ s ∈ closers, s.1 ≠ .string := by decide
  obtain ⟨rounds, rfl⟩ : ∃ rounds, limit = rounds + 2 := ⟨limit - 2, by omega⟩
  refine readsBind readsHere fun start _ => readsBind (readsLiteral room (other s close) meaning) ?_
  rintro _ ⟨span, rfl⟩
  refine readsBind readsGet fun c same => ?_
  rw [same, String.ofList_toList]
  exact readsNoTrailer (List.mem_cons_of_mem _ close) ⟨span, rfl⟩

theorem readsHelper (room : 1 < limit) (visibility : String) {s : Look} (close : s ∈ closers) :
    Reads limit ((.name, "component_accessor") :: (.operator, "(") :: (.string, Text.Quoted.quote visibility) ::
        (.operator, ")") :: s :: after)
      (primary (rules (d + 2))) (s :: after) (Decorates visibility) := by
  have literal : Begins (.string, Text.Quoted.quote visibility) := .inl rfl
  have argument : Reads limit ((.string, Text.Quoted.quote visibility) :: (.operator, ")") :: s :: after)
      (primary (rules d)) ((.operator, ")") :: s :: after) fun e => ∃ span, e = .text span visibility :=
    readsQuoted room visibility (by decide)
  obtain ⟨rounds, rfl⟩ : ∃ rounds, limit = rounds + 2 := ⟨limit - 2, by omega⟩
  refine readsBind readsHere fun start _ => readsBind (readsAtomName (by decide)) ?_
  rintro _ ⟨callee, rfl⟩
  refine readsBind readsGet fun c same => ?_
  rw [same]
  refine readsCall literal close (by decide)
    (readsDeepNamed literal (by decide) (readsDeepExpression room literal (by decide) argument)) ?_
  rintro span _ ⟨place, rfl⟩
  exact ⟨span, callee, place, rfl⟩

theorem readsDecoration (room : 1 < limit) (visibility : String) :
    Reads limit ((.name, "component_accessor") :: (.operator, "(") :: (.string, Text.Quoted.quote visibility) ::
        (.operator, ")") :: lineEnd :: after)
      (rules (d + 4)).namedExpression (lineEnd :: after) (Decorates visibility) := by
  have helper : Begins (.name, "component_accessor") := nameBegins (by decide)
  have close : lineEnd ∈ closers := by decide
  exact readsDeepNamed helper (by decide) (readsDeepExpression room helper close (readsHelper room visibility close))

theorem readsReturned (room : 1 < limit) (head : Naming.Stands first) (stand : ∀ part ∈ parts, Naming.Stands part) :
    Reads limit ((.string, "\"" ++ dotted first parts ++ " | None\"") :: (opening ++ before))
      (rules (d + 1)).expression (opening ++ before) fun _ => True := by
  have literal : Begins (.string, "\"" ++ dotted first parts ++ " | None\"") := .inl rfl
  have text : ("\"" ++ dotted first parts ++ " | None\"").toList =
      '"' :: ((dotted first parts).toList ++ " | None".toList) ++ ['"'] := by simp
  have meaning := (annotationSpells head stand).means rfl
  rw [← text] at meaning
  refine readsDeepExpression room literal (by decide) ?_
  obtain ⟨rounds, rfl⟩ : ∃ rounds, limit = rounds + 2 := ⟨limit - 2, by omega⟩
  refine readsBind readsHere fun start _ => readsBind (readsLiteral room (by decide) meaning) ?_
  rintro _ ⟨span, rfl⟩
  refine readsBind readsGet fun c same => ?_
  rw [same]
  exact readsNoTrailer (by decide) trivial

theorem readsTest (room : 1 < limit) (a : Accessor) :
    Reads limit ((.name, "self") :: (.operator, ".") :: (.name, a.cacheField) :: (.name, "is") ::
        (.name, "UNRESOLVED") :: (opening ++ before))
      (rules (d + 2)).namedExpression (opening ++ before) fun _ => True := by
  have self' : Begins (.name, "self") := nameBegins (by decide)
  have constant : "UNRESOLVED" ∉ keywords := by decide
  refine readsDeepNamed self' (by decide) (readsIdentity (P := fun _ => True) room self' (nameBegins constant) (by decide)
    (readsMono (readsOwn room a (by decide)) fun _ _ => trivial) ?_)
  exact readsMono (readsBare (Nat.zero_lt_of_lt room) constant (by decide)) fun _ _ => trivial

def bodyLooks (a : Accessor) (first : String) (parts : List String) (after : List Look) : List Look :=
  (.name, "if") :: (.name, "self") :: (.operator, ".") :: (.name, a.cacheField) :: (.name, "is") ::
    (.name, "UNRESOLVED") :: (opening ++
    ([(.name, "self"), (.operator, "."), (.name, a.cacheField), (.operator, "="), (.name, "self"), (.operator, "."),
      (.name, "get_component"), (.operator, "("), (.name, first)] ++ (dotLooks parts ++
    (.operator, ")") :: lineEnd :: closing ::
    (.name, "return") :: (.name, "self") :: (.operator, ".") :: (.name, a.cacheField) :: lineEnd :: closing :: after)))

theorem readsGetterBody (room : 2 < limit) (a : Accessor) (few : parts.length < limit) (head : Naming.Stands first)
    (stand : ∀ part ∈ parts, Naming.Stands part) :
    Reads limit (bodyLooks a first parts after) (statements (rules (d + 4)) depth (nesting + 2)) (closing :: after)
      fun inside => ∃ fill, Hosting.fillOf inside = some fill ∧ Fills (dotted first parts) fill := by
  have more := Nat.lt_of_succ_lt room
  obtain ⟨rounds, rfl⟩ : ∃ rounds, limit = rounds + 3 := ⟨limit - 3, by omega⟩
  have filled : Reads (rounds + 3) ([(.name, "self"), (.operator, "."), (.name, a.cacheField), (.operator, "="),
        (.name, "self"), (.operator, "."), (.name, "get_component"), (.operator, "("), (.name, first)] ++ (dotLooks parts ++
        (.operator, ")") :: lineEnd :: closing ::
        (.name, "return") :: (.name, "self") :: (.operator, ".") :: (.name, a.cacheField) :: lineEnd :: closing :: after))
      (statements (rules (d + 4)) depth (nesting + 1))
      (closing :: (.name, "return") :: (.name, "self") :: (.operator, ".") :: (.name, a.cacheField) :: lineEnd ::
        closing :: after)
      fun inside => ∃ t fill, inside = [.assign [t] (some fill)] ∧ Fills (dotted first parts) fill := by
    refine readsMono (readsStatements (readsOnce more
      (readsFurther (by decide) (readsFillLine room a few head stand)) (readsBodyEnd (.inl rfl)))) ?_
    rintro _ ⟨_, rfl, _, rfl, _, rfl, t, fill, rfl, -, fine⟩
    exact ⟨t, fill, rfl, fine⟩
  refine readsMono (readsStatements (T := fun lists => ∃ span e t fill, lists.flatten = [Stmt.block span .conditional
      [.mk .suite [e] [.assign [t] (some fill)]], .other] ∧ Fills (dotted first parts) fill) (readsRepeated
    (readsMore (readsFurther (by decide) (readsIf (Nat.zero_lt_of_lt room) (by decide) (readsTest more a) filled))
      (readsMore (T := fun lists => lists = [[Stmt.other]]) (readsFurther (by decide) (readsAnswerLine more a))
        (readsStop (readsBodyEnd (.inl rfl))) ?_) ?_))) ?_
  · rintro _ _ ⟨_, rfl, rfl⟩ rfl
    rfl
  · rintro _ _ ⟨_, rfl, span, e, _, rfl, t, fill, rfl, fine⟩ rfl
    exact ⟨span, e, t, fill, rfl, fine⟩
  · rintro _ ⟨lists, rfl, span, e, t, fill, same, fine⟩
    exact ⟨fill, by rw [same]; rfl, fine⟩

/-- What a definition is read as that gives out the component of an accessor. -/
def Gets (a : Accessor) (s : Stmt) : Prop :=
  ∃ decorators inside fill, s = .function (normal a.property) decorators inside ∧
    Hosting.visibilityOf decorators = some a.visibility ∧ Hosting.fillOf inside = some fill ∧ Fills a.typeName fill

def definitionLooks (a : Accessor) (first : String) (parts : List String) (after : List Look) : List Look :=
  (.name, "def") :: (.name, a.property) :: (.operator, "(") :: (.name, "self") :: (.operator, ")") ::
    (.operator, "->") :: (.string, "\"" ++ dotted first parts ++ " | None\"") ::
    (opening ++ bodyLooks a first parts after)

theorem readsGetter (room : 2 < limit) (writable : a.Writable) (few : parts.length < limit) (head : Naming.Stands first)
    (stand : ∀ part ∈ parts, Naming.Stands part) (type : a.typeName = dotted first parts) :
    Reads limit ((.operator, "@") :: (.name, "component_accessor") :: (.operator, "(") ::
        (.string, Text.Quoted.quote a.visibility) :: (.operator, ")") :: lineEnd :: definitionLooks a first parts after)
      (statement (rules (d + 4)) depth (statements (rules (d + 4)) depth (nesting + 2))) after
      fun ss => ∃ s, ss = [s] ∧ Gets a s := by
  have more := Nat.lt_of_succ_lt room
  refine readsDecorated more (readsDecoration more a.visibility) fun e decorates => ?_
  refine readsMono (readsFunction (Nat.zero_lt_of_lt room) writable.free (by decide) (readsReturned more head stand)
    (readsGetterBody room a few head stand)) ?_
  rintro _ ⟨inside, rfl, fill, filled, fills⟩
  obtain ⟨span, callee, place, rfl⟩ := decorates
  exact ⟨_, inside, fill, rfl, rfl, filled, type ▸ fills⟩

theorem looksOfAccessor (a : Accessor) (first : String) (parts : List String) (after : List Look)
    (type : a.typeName = dotted first parts) :
    accessorLooks a first parts ++ closing :: after =
      (.name, a.cacheField) :: (.operator, "=") :: (.name, "UNRESOLVED") :: lineEnd :: (.operator, "@") ::
        (.name, "component_accessor") :: (.operator, "(") :: (.string, Text.Quoted.quote a.visibility) ::
        (.operator, ")") :: lineEnd :: definitionLooks a first parts after := by
  simp [accessorLooks, definitionLooks, bodyLooks, type]

/-- The looks of an accessor are those of two statements, of which the second ends where a level is closed. -/
theorem readsAccessor (room : 2 < limit) (writable : a.Writable) (few : parts.length < limit) (head : Naming.Stands first)
    (stand : ∀ part ∈ parts, Naming.Stands part) (type : a.typeName = dotted first parts) {rounds : Nat}
    {P T : List (List Stmt) → Prop}
    (others : Reads limit after (repeatWithin (further (rules (d + 4)) depth
      (statements (rules (d + 4)) depth (nesting + 2))) rounds) before P)
    (whole : ∀ span v s lists, Gets a s → P lists → T ([.assign [.name span (normal a.cacheField)] (some v)] :: [s] :: lists)) :
    Reads limit (accessorLooks a first parts ++ closing :: after)
      (repeatWithin (further (rules (d + 4)) depth (statements (rules (d + 4)) depth (nesting + 2))) (rounds + 2))
      before T := by
  rw [looksOfAccessor a first parts after type]
  refine readsMore (readsFurther (by simp) (readsField (Nat.lt_of_succ_lt room) a))
    (readsMore (T := fun lists => ∃ s rest, lists = [s] :: rest ∧ Gets a s ∧ P rest)
      (readsFurther (by decide) (readsGetter room writable few head stand type)) others ?_) ?_
  · rintro _ lists ⟨s, rfl, gets⟩ fine
    exact ⟨s, lists, rfl, gets, fine⟩
  · rintro _ _ ⟨_, rfl, _, v, rfl, ⟨span, rfl⟩, -⟩ ⟨s, lists, rfl, gets, fine⟩
    exact whole span v s lists gets fine

end

/-! All accessors of a mixin. -/

namespace Hosting

/-- What a member owes to the accessor that it was read from. -/
structure Member.ReadFrom (a : Accessor) (m : Member) : Prop where
  field : m.field = normal a.cacheField
  property : m.property = normal a.property
  visibility : m.visibility = a.visibility
  fill : Fills a.typeName m.fill

theorem dottedSound (s : Scope) {e : Expr} {name : String} (named : dottedName e = some name) :
    e.isSound s = true ∧ e.waits = false := by
  fun_induction dottedName e generalizing name with
  | case1 span id => exact ⟨by rw [Expr.isSound], by rw [Expr.waits]⟩
  | case2 span value attr ih =>
    obtain ⟨inner, named, -⟩ := Option.map_eq_some_iff.mp named
    rw [Expr.isSound, Expr.waits]
    exact ih named
  | case3 => cases named

theorem fillsStand {typeName : String} {fill : Expr} (fills : Fills typeName fill) : fill.mayStand := by
  obtain ⟨span, method, self, e, rfl, named⟩ := fills
  have sound := dottedSound {} named
  have others : areSound {} [e] = true := by
    cases e with
    | starred _ value => cases named
    | _ => simp [areSound, sound.1]
  simp [Expr.mayStand, Expr.isSound, Expr.waits, others, anyWaits, sound.2, areSoundKeywords,
    anyKeywordWaits, areSoundKeywordNames, hasRepeats]

/-- Neither of an accessor's names is the one that nothing may be bound to. -/
def Sound (a : Accessor) : Prop := normal a.cacheField ≠ constantName ∧ normal a.property ≠ constantName

theorem membersAnother {a : Accessor} {span : Span} {v : Expr} {s : Stmt} {rest : List Stmt} {members : List Member}
    (sound : Sound a) (gets : Gets a s) (others : membersOf rest = some members) :
    ∃ m, membersOf (.assign [.name span (normal a.cacheField)] (some v) :: s :: rest) = some (m :: members) ∧ m.ReadFrom a := by
  obtain ⟨decorators, inside, fill, rfl, shown, filled, fills⟩ := gets
  refine ⟨⟨normal a.cacheField, normal a.property, a.visibility, fill⟩, ?_, rfl, rfl, rfl, fills⟩
  simp [membersOf, shown, filled, Member.isSound, sound.1, sound.2, fillsStand fills, others]

end Hosting

def bodyText : List Accessor → List Char
  | [] => []
  | [a] => accessorText a
  | a :: b :: rest => accessorText a ++ '\n' :: bodyText (b :: rest)

theorem bodyTextOf (accessors : List Accessor) :
    (["\n"].intercalate (accessors.map (·.pieces none))).flatMap String.toList = bodyText accessors := by
  induction accessors using bodyText.induct with
  | case1 => rfl
  | case2 a => simp [List.intercalate, bodyText, accessorText]
  | case3 a b rest ih =>
    rw [bodyText, ← ih]
    simp [List.intercalate, accessorText]

theorem accessorLooksLength (a : Accessor) (first : String) (parts : List String) :
    (accessorLooks a first parts).length = 2 * parts.length + 46 := by
  have dots : (dotLooks parts).length = 2 * parts.length := by
    induction parts with
    | nil => rfl
    | cons part parts ih =>
      rw [dotLooks, List.flatMap_cons, List.length_append]
      rw [dotLooks] at ih
      simp [ih]
      omega
  simp [accessorLooks, dots]

/- The induction is that of the text, whose last accessor has no empty line behind it. Each accessor takes two rounds of
the reader, and has more looks than that. -/
theorem readsMembers {accessors : List Accessor} (filled : accessors ≠ [])
    (writable : ∀ a ∈ accessors, a.Writable) (sound : ∀ a ∈ accessors, Hosting.Sound a) :
    ∃ looks, 2 * accessors.length ≤ looks.length ∧
      (∀ indents here, Settles indents 4 [(4, 4)] here →
        Lexes indents [] true (bodyText accessors) (here ++ (looks ++ [closing, (.ending, "")]))) ∧
      ∀ limit rounds d depth nesting after, looks.length < limit → 2 * accessors.length < rounds →
        Reads limit (looks ++ closing :: after)
          (repeatWithin (further (rules (d + 4)) depth (statements (rules (d + 4)) depth (nesting + 2))) rounds)
          (closing :: after) fun lists => ∃ members, Hosting.membersOf lists.flatten = some members ∧
            List.Forall₂ Hosting.Member.ReadFrom accessors members := by
  induction accessors using bodyText.induct with
  | case1 => exact absurd rfl filled
  | case2 a =>
    obtain ⟨first, parts, head, stand, type⟩ := (writable a List.mem_cons_self).refers
    have long := accessorLooksLength a first parts
    refine ⟨accessorLooks a first parts ++ [closing], by simp; omega, fun indents here settles => ?_, ?_⟩
    · have ending : Lexes [(8, 8), (4, 4)] [] true [] ([closing, closing] ++ [(.ending, "")]) :=
        Lexer.lexesEnd fun pos => ⟨_, rfl, rfl⟩
      have whole := lexesAccessor (writable a List.mem_cons_self) head stand type settles ending
      simpa [bodyText] using whole
    · intro limit rounds d depth nesting after room few
      obtain ⟨rounds, rfl⟩ : ∃ k, rounds = k + 3 := ⟨rounds - 3, by simp at few; omega⟩
      rw [List.length_append, List.length_singleton] at room
      rw [List.append_assoc, List.singleton_append]
      refine readsAccessor (by omega) (writable a List.mem_cons_self) (by omega) head stand type
        (readsStop (readsBodyEnd (.inl rfl))) ?_
      rintro span v s _ gets rfl
      obtain ⟨m, read, from'⟩ := Hosting.membersAnother (sound a List.mem_cons_self) gets (rfl : Hosting.membersOf [] = some [])
      exact ⟨[m], read, .cons from' .nil⟩
  | case3 a b rest ih =>
    obtain ⟨looks, enough, lexes, reads⟩ := ih (List.cons_ne_nil _ _)
      (fun other within => writable other (List.mem_cons_of_mem _ within))
      (fun other within => sound other (List.mem_cons_of_mem _ within))
    obtain ⟨first, parts, head, stand, type⟩ := (writable a List.mem_cons_self).refers
    have long := accessorLooksLength a first parts
    refine ⟨accessorLooks a first parts ++ closing :: looks, ?_, fun indents here settles => ?_, ?_⟩
    · simp only [List.length_append, List.length_cons] at enough ⊢
      omega
    · have later := Lexer.lexesEmptyLine (lexes [(8, 8), (4, 4)] [closing] fun pos => ⟨_, rfl, rfl⟩)
      have whole := lexesAccessor (writable a List.mem_cons_self) head stand type settles later
      simpa [bodyText] using whole
    · intro limit rounds d depth nesting after room few
      obtain ⟨rounds, rfl⟩ : ∃ k, rounds = k + 2 := ⟨rounds - 2, by simp at few; omega⟩
      rw [List.length_append, List.length_cons] at room
      rw [List.append_assoc, List.cons_append]
      refine readsAccessor (by omega) (writable a List.mem_cons_self) (by omega) head stand type
        (reads limit rounds d depth nesting after (by omega) (by simp at few ⊢; omega)) ?_
      rintro span v s lists gets ⟨members, read, each⟩
      obtain ⟨m, another, from'⟩ := Hosting.membersAnother (sound a List.mem_cons_self) gets read
      exact ⟨m :: members, another, .cons from' each⟩

/-! The text as a whole. -/

/-- A character that neither ends a line in another way nor keeps the text from being read at all. -/
def Legible (c : Char) : Prop := c ∉ ['\r', '\x00', Text.Surrogate.mark]

theorem shownLegible {c : Char} (shown : Text.Printable.isPrintable c) : Legible c := by
  intro listed
  have told : ['\r', '\x00', Text.Surrogate.mark].all (!Text.Printable.isPrintable ·) := by decide +kernel
  have other := List.all_eq_true.mp told c listed
  simp [shown] at other

theorem identifierLegible {w : List Char} (named : Text.Identifier.isIdentifier w) : ∀ c ∈ w, Legible c := by
  have unnamed : ['\r', '\x00', Text.Surrogate.mark].all (!Text.Identifier.isContinue ·) := by decide +kernel
  have told {c : Char} (part : Text.Identifier.isContinue c) : Legible c := fun listed => by
    have other := List.all_eq_true.mp unnamed c listed
    simp [part] at other
  intro c within
  cases w with
  | nil => cases within
  | cons d rest =>
    rw [Text.Identifier.isIdentifier, Bool.and_eq_true, List.all_eq_true] at named
    rcases List.mem_cons.mp within with rfl | inside
    · exact told (Text.Identifier.startContinues named.1)
    · exact told (named.2 c inside)

theorem dottedLegible {first : String} {parts : List String} (head : Naming.Stands first)
    (stand : ∀ part ∈ parts, Naming.Stands part) : ∀ c ∈ (dotted first parts).toList, Legible c := by
  rw [dottedChars first stand, dottedLexemes, List.flatMap_cons]
  refine List.forall_mem_append.mpr ⟨identifierLegible head.identifier, fun c within => ?_⟩
  obtain ⟨l, listed, inside⟩ := List.mem_flatMap.mp within
  obtain ⟨part, member, same⟩ := List.mem_flatMap.mp listed
  simp only [List.mem_cons, List.not_mem_nil, or_false] at same
  rcases same with rfl | rfl
  · rw [List.mem_singleton.mp inside]
    exact shownLegible (by decide)
  · exact identifierLegible (stand part member).identifier c inside

theorem textLegible (text : String) (shown : text.toList.all fun c => c = '\n' || Text.Printable.isPrintable c) :
    ∀ c ∈ text.toList, Legible c := by
  intro c within
  have fine := List.all_eq_true.mp shown c within
  rw [Bool.or_eq_true, decide_eq_true_eq] at fine
  rcases fine with rfl | fine
  · simp [Legible, Text.Surrogate.mark]
  · exact shownLegible fine

theorem accessorLegible {a : Accessor} (writable : a.Writable) : ∀ c ∈ accessorText a, Legible c := by
  obtain ⟨first, parts, head, stand, type⟩ := writable.refers
  have plain := textLegible
  have field := identifierLegible writable.fieldIdentifier
  have property := identifierLegible writable.identifier
  have reference : ∀ c ∈ a.typeName.toList, Legible c := type ▸ dottedLegible head stand
  have quoted : ∀ c ∈ (Text.Quoted.quote a.visibility).toList, Legible c := by
    rw [Text.Quoted.quote, String.toList_ofList]
    exact fun c within => shownLegible (Literal.quotedShown _ c within)
  have each : ∀ piece ∈ a.pieces none, ∀ c ∈ piece.toList, Legible c := by
    simp only [Accessor.pieces, List.append_nil, List.forall_mem_append, List.forall_mem_cons]
    exact ⟨⟨plain _ (by decide), field, plain _ (by decide), plain _ (by decide), plain _ (by decide), quoted,
      plain _ (by decide), plain _ (by decide), property, plain _ (by decide), reference, plain _ (by decide),
      plain _ (by decide), field, plain _ (by decide), List.forall_mem_nil _⟩,
      plain _ (by decide), field, plain _ (by decide), reference, plain _ (by decide), plain _ (by decide), field,
      plain _ (by decide), List.forall_mem_nil _⟩
  intro c within
  obtain ⟨piece, listed, inside⟩ := List.mem_flatMap.mp within
  exact each piece listed c inside

theorem bodyLegible {accessors : List Accessor} (writable : ∀ a ∈ accessors, a.Writable) :
    ∀ c ∈ bodyText accessors, Legible c := by
  induction accessors using bodyText.induct with
  | case1 => simp [bodyText]
  | case2 a => exact accessorLegible (writable a List.mem_cons_self)
  | case3 a b rest ih =>
    rw [bodyText]
    refine List.forall_mem_append.mpr ⟨accessorLegible (writable a List.mem_cons_self), List.forall_mem_cons.mpr ⟨?_, ?_⟩⟩
    · simp [Legible, Text.Surrogate.mark]
    · exact ih fun other within => writable other (List.mem_cons_of_mem _ within)

theorem mixinParted (name : String) (accessors : List Accessor) :
    Hosting.mixinText name accessors = "class ".toList ++ (name.toList ++ (":\n".toList ++
      if accessors.isEmpty then "    pass\n".toList else bodyText accessors)) := by
  have header (body : List String) : (["class ", name, ":\n"] ++ body).flatMap String.toList =
      "class ".toList ++ (name.toList ++ (":\n".toList ++ body.flatMap String.toList)) := rfl
  rw [Hosting.mixinText, header]
  split
  · rfl
  · rw [bodyTextOf]

theorem mixinLines (name : String) (accessors : List Accessor) :
    Hosting.mixinText name accessors = textLine 0 [.word "class".toList, .gap, .word name.toList, .mark [':']] ++
      if accessors.isEmpty then textLine 4 [.word "pass".toList] else bodyText accessors := by
  have header : textLine 0 [.word "class".toList, .gap, .word name.toList, .mark [':']] =
      "class ".toList ++ (name.toList ++ ":\n".toList) := by simp [textLine, Lexeme.chars]
  have empty : textLine 4 [.word "pass".toList] = "    pass\n".toList := rfl
  rw [mixinParted, header, empty, List.append_assoc, List.append_assoc]

theorem mixinLegible {name : String} (stands : Naming.Stands name) {accessors : List Accessor}
    (writable : ∀ a ∈ accessors, a.Writable) : ∀ c ∈ Hosting.mixinText name accessors, Legible c := by
  rw [mixinParted]
  refine List.forall_mem_append.mpr ⟨textLegible _ (by decide), List.forall_mem_append.mpr
    ⟨identifierLegible stands.identifier, List.forall_mem_append.mpr ⟨textLegible _ (by decide), ?_⟩⟩⟩
  split
  · exact textLegible _ (by decide)
  · exact bodyLegible writable

theorem bodyClosed {accessors : List Accessor} (filled : accessors ≠ []) :
    (bodyText accessors).getLast? = some '\n' := by
  induction accessors using bodyText.induct with
  | case1 => exact absurd rfl filled
  | case2 a =>
    have last : a.pieces none = (a.pieces none).dropLast ++ ["\n"] := rfl
    rw [bodyText, accessorText, last, List.flatMap_append]
    simp
  | case3 a b rest ih =>
    rw [bodyText, List.getLast?_append, List.getLast?_cons, ih (List.cons_ne_nil _ _)]
    rfl

theorem mixinClosed (name : String) (accessors : List Accessor) :
    (Hosting.mixinText name accessors).getLast? = some '\n' := by
  rw [mixinLines, List.getLast?_append]
  split
  · simp [textLine, Lexeme.chars]
  · next filled =>
    rw [bodyClosed (by simpa using filled)]
    rfl

/-- What the body of a mixin has to be read as: one member for each accessor, in their order. -/
def ReadAs (accessors : List Accessor) (inside : List Stmt) : Prop :=
  accessors ≠ [] → ∃ members, Hosting.membersOf inside = some members ∧
    List.Forall₂ Hosting.Member.ReadFrom accessors members

theorem readsMixinBody {accessors : List Accessor} (writable : ∀ a ∈ accessors, a.Writable)
    (sound : ∀ a ∈ accessors, Hosting.Sound a) :
    ∃ looks, Lexes [] [] true (if accessors.isEmpty then textLine 4 [.word "pass".toList] else bodyText accessors)
        ([(.indent, "")] ++ (looks ++ [closing, (.ending, "")])) ∧
      ∀ limit d depth nesting after, looks.length + 2 < limit →
        Reads limit (looks ++ closing :: after) (statements (rules (d + 4)) depth (nesting + 3)) (closing :: after)
          (ReadAs accessors) := by
  have settles : Settles [] 4 [(4, 4)] [(.indent, "")] := fun pos => ⟨_, rfl, rfl⟩
  cases accessors with
  | nil =>
    refine ⟨[(.name, "pass"), lineEnd], ?_, fun limit d depth nesting after room => ?_⟩
    · have ending : Lexes [(4, 4)] [] true [] ([closing] ++ [(.ending, "")]) :=
        Lexer.lexesEnd fun pos => ⟨_, rfl, rfl⟩
      have runs : Runs [] [.word "pass".toList] := Lexer.runsWord (by decide) rfl rfl
      have line := lexesTextLine [] 4 [(.indent, "")] runs
        (wordShows (by decide : Text.Identifier.isIdentifier "pass".toList) []) settles ending
      simpa [Lexeme.looks] using line
    · refine readsMono (readsStatements (readsOnce (by omega) (readsFurther (by decide)
        (readsLine (by omega) (by simp [openers]) readsPass)) (readsBodyEnd (.inl rfl)))) fun _ _ filled => ?_
      exact absurd rfl filled
  | cons a rest =>
    obtain ⟨looks, enough, lexes, reads⟩ := readsMembers (List.cons_ne_nil a rest) writable sound
    refine ⟨looks, lexes [] [(.indent, "")] settles, fun limit d depth nesting after room => ?_⟩
    refine readsMono (readsStatements (readsRepeated (reads limit limit d depth nesting after (by omega) (by omega)))) ?_
    rintro _ ⟨lists, rfl, members⟩ -
    exact members

theorem readModuleRuns {source : List Char} {ts : List Token} {depth : Nat} {m : Module} {c : Cursor}
    (cut : moduleTokens source = some ts) (deep : source.length + 2 = depth)
    (ran : (do
      let body ← statements (rules depth) depth depth
      layout .ending
      return body : Reader Module) (Cursor.start ts) = some (m, c)) : readModule source = some m := by
  subst deep
  rw [readModule, cut]
  exact congrArg (Option.map Prod.fst) ran

theorem readMixinOf {name className : String} {accessors : List Accessor} {start : Pos} {decorators : List Expr}
    {inside : List Stmt}
    (whole : readModule (Hosting.mixinText name accessors) = some [.classDef start className decorators inside]) :
    Hosting.readMixin name accessors = if className = constantName then none
      else if accessors.isEmpty then some (className, []) else (Hosting.membersOf inside).map (className, ·) := by
  unfold Hosting.readMixin
  generalize readModule (Hosting.mixinText name accessors) = read at whole ⊢
  subst whole
  rfl

/-- The text of a mixin is read as a class of its name, with one member for each accessor, in their order. -/
theorem readMixinText {name : String} (stands : Naming.Stands name) (notConstant : name ≠ constantName)
    {accessors : List Accessor} (writable : ∀ a ∈ accessors, a.Writable) (sound : ∀ a ∈ accessors, Hosting.Sound a) :
    ∃ members, Hosting.readMixin name accessors = some (name, members) ∧
      List.Forall₂ Hosting.Member.ReadFrom accessors members := by
  have noReturn : ∀ c ∈ Hosting.mixinText name accessors, c ≠ '\r' := fun c within same =>
    mixinLegible stands writable c within (by simp [same])
  obtain ⟨looks, lexes, reads⟩ := readsMixinBody writable sound
  have runs : Runs [] [.word "class".toList, .gap, .word name.toList, .mark [':']] :=
    Lexer.runsWord (by decide) rfl (Lexer.runsGap (Lexer.runsWord stands.identifier rfl
      (Lexer.runsMark (by decide) rfl rfl rfl)))
  have atTop : Settles [] 0 [] [] := fun pos => ⟨_, rfl, rfl⟩
  have header := lexesTextLine [] 0 [] runs (wordShows (by decide) _) atTop lexes
  rw [← mixinLines] at header
  obtain ⟨ts, cut, seen⟩ := moduleLooks noReturn (mixinClosed name accessors) header
  have shown : ts.map Token.look =
      (.name, "class") :: (.name, name) :: (opening ++ (looks ++ closing :: (.ending, "") :: [])) := by
    rw [seen]
    simp [Lexeme.looks]
  have count := congrArg List.length shown
  simp only [List.length_map, List.length_cons, List.length_append] at count
  obtain ⟨d, deep⟩ : ∃ d, (Hosting.mixinText name accessors).length + 2 = d + 4 := by
    have long : 2 ≤ (Hosting.mixinText name accessors).length := by
      rw [mixinLines]
      simp [textLine, Lexeme.chars]
    exact ⟨_, (Nat.sub_add_cancel (by omega : 4 ≤ (Hosting.mixinText name accessors).length + 2)).symm⟩
  have classRead := readsStatements (readsOnce (by omega) (readsFurther (by simp) (readsClass stands.free
    (reads (ts.length + 1) d (d + 4) d [(.ending, "")] (by omega)))) (readsBodyEnd (.inr rfl)))
  rw [← shown] at classRead
  have moduleRead : Reads (ts.length + 1) (ts.map Token.look) (do
      let body ← statements (rules (d + 4)) (d + 4) (d + 4)
      layout .ending
      return body) []
      fun ss => ∃ start inside, ss = [Stmt.classDef start (normal name) [] inside] ∧ ReadAs accessors inside := by
    refine readsBind classRead ?_
    rintro _ ⟨_, rfl, _, rfl, _, rfl, start, inside, rfl, fine⟩
    exact readsBind (readsLayout .ending "") fun _ _ => readsPure ⟨start, inside, rfl, fine⟩
  obtain ⟨_, c, ran, -, -, start, inside, rfl, fine⟩ := moduleRead (Cursor.start ts) rfl rfl
  have whole := readModuleRuns cut deep ran
  rw [readMixinOf whole, stands.normal, if_neg notConstant]
  cases accessors with
  | nil => exact ⟨[], rfl, .nil⟩
  | cons a rest =>
    obtain ⟨members, read, each⟩ := fine (List.cons_ne_nil a rest)
    exact ⟨members, by simp [read], each⟩

end AccessorForge
