import AccessorForge.Proofs.Parsing
/-! What the grammar of statements makes of lines whose look is known: assignments and answers, conditions, decorated
functions and classes. Each kind of statement is told by its first word; what it then reads is given, so the statements
here nest in any way. -/
namespace AccessorForge.Syntax.Grammar
open Reader
variable {limit : Nat} {l m : Look} {before between after : List Look} {r : Rules} {depth : Nat}
  {body : Reader (List Stmt)} {Q P : Expr → Prop} {S : Stmt → Prop} {B : List Stmt → Prop}

abbrev lineEnd : Look := (.newline, "")

theorem notWord {text : String} (other : l ≠ (.name, text)) : Tells l (isWord text) false := fun t same => by
  rw [tellsWord _ text t same]
  simpa using other

theorem notMark {text : String} (other : l ≠ (.operator, text)) : Tells l (Reader.isMark text) false := fun t same => by
  rw [tellsMark _ text t same]
  simpa using other

theorem notKind {kind : TokenKind} (other : l.1 ≠ kind) : Tells l (isKind kind) false := fun t same => by
  rw [tellsKind _ kind t same]
  simpa using other

theorem thisWord (text : String) : Tells (.name, text) (isWord text) true := fun t same => by
  rw [tellsWord _ text t same]
  simp

theorem thisMark (text : String) : Tells (.operator, text) (Reader.isMark text) true := fun t same => by
  rw [tellsMark _ text t same]
  simp

theorem thisKind (kind : TokenKind) (text : String) : Tells (kind, text) (isKind kind) true := fun t same => by
  rw [tellsKind _ kind t same]
  simp

theorem neither {p q : Token → Bool} (first : Tells l p false) (second : Tells l q false) :
    Tells l (fun t => p t || q t) false := fun t same => by simp [first t same, second t same]

/-! Simple statements. -/

theorem readsAssignment (room : 0 < limit)
    (target : Reads limit before r.starExpressions ((.operator, "=") :: m :: between) Q)
    (fits : ∀ e, Q e → isStarTarget e = true) (begins : Begins m)
    (value : Reads limit (m :: between) r.starExpressions (lineEnd :: after) P) :
    Reads limit before (expressionStatement r) (lineEnd :: after)
      fun st => ∃ t v, st = .assign [t] (some v) ∧ Q t ∧ P v := by
  refine readsBind target fun t fine => readsYes (thisMark "=") (readsBind readsGet fun c same => ?_)
  rw [same]
  obtain ⟨rounds, rfl⟩ := Nat.exists_eq_succ_of_ne_zero room.ne'
  have chain : Reads (rounds + 1) ((.operator, "=") :: m :: between) (assignmentChain r (rounds + 1) t) (lineEnd :: after)
      fun pair => ∃ v, pair = ([t], v) ∧ P v := by
    rw [assignmentChain, fits t fine]
    refine readsBind (readsMark "=") fun _ _ => readsNo (begins.isWordNot (by decide)) (readsBind value fun v good => ?_)
    exact readsNo (notMark (by decide)) (readsPure ⟨v, rfl, good⟩)
  refine readsBind chain ?_
  rintro _ ⟨v, rfl, good⟩
  exact readsPure ⟨t, v, rfl, fine, good⟩

theorem readsAnswer (begins : Begins m) (value : Reads limit (m :: between) r.starExpressions (lineEnd :: after) P) :
    Reads limit ((.name, "return") :: m :: between) (simpleStatement r) (lineEnd :: after) (· = .other) := by
  refine readsLeave (notWord (by decide)) (readsNo (notWord (by decide)) (readsNo (notWord (by decide)) ?_))
  refine readsLeave (neither (notWord (by decide)) (notWord (by decide))) (readsTake (thisWord "return") ?_)
  refine readsBind (Q := fun _ => True) (readsNo (neither (begins.isMarkNot ";") (notKind ?_)) (readsDiscard value))
    fun _ _ => readsPure rfl
  rcases begins with kind | ⟨kind, -⟩ <;> rw [kind] <;> decide

theorem readsPass : Reads limit ((.name, "pass") :: after) (simpleStatement r) after (· = .pass) :=
  readsTake (thisWord "pass") (readsPure rfl)

theorem readsPlain (begins : Begins l) (read : Reads limit (l :: before) (expressionStatement r) after S) :
    Reads limit (l :: before) (simpleStatement r) after S := by
  have no {text : String} (keyword : text ∈ keywords) : Tells l (isWord text) false := begins.isWordNot keyword
  refine readsLeave (no (by decide)) (readsNo (no (by decide)) (readsNo (no (by decide)) ?_))
  refine readsLeave (neither (no (by decide)) (no (by decide))) (readsLeave (no (by decide)) ?_)
  refine readsLeave (no (by decide)) (readsLeave (neither (no (by decide)) (no (by decide))) ?_)
  exact readsLeave (no (by decide)) (readsLeave (no (by decide)) (readsNo (no (by decide)) read))

/-- The words that begin a statement with a body. -/
def openers : List Look :=
  ["if", "class", "def", "async", "with", "for", "try", "while", "match"].map ((TokenKind.name, ·)) ++ [(.operator, "@")]

theorem readsLine (room : 0 < limit) (simple : l ∉ openers)
    (read : Reads limit (l :: before) (simpleStatement r) (lineEnd :: after) S) :
    Reads limit (l :: before) (statement r depth body) after fun ss => ∃ s, ss = [s] ∧ S s := by
  have no (text : String) (listed : (TokenKind.name, text) ∈ openers) : Tells l (isWord text) false :=
    notWord fun same => simple (same ▸ listed)
  have at' : Tells l (Reader.isMark "@") false := notMark fun same => simple (by rw [same]; decide)
  have none : Reads limit (l :: before) (compound? r depth body) (l :: before) (· = none) := by
    refine readsBind readsHere fun start _ => readsNo (no "if" (by decide)) (readsNo (no "class" (by decide)) ?_)
    refine readsNo at' (readsNo (no "def" (by decide)) (readsNo (no "async" (by decide)) ?_))
    refine readsNo (no "with" (by decide)) (readsNo (no "for" (by decide)) (readsNo (no "try" (by decide)) ?_))
    exact readsNo (no "while" (by decide)) (readsNo (no "match" (by decide)) (readsPure rfl))
  refine readsBind none ?_
  rintro _ rfl
  refine readsBind read fun s fine => ?_
  refine readsBind (readsNone room (readsLeave (notMark (by decide)) (readsPure rfl))) ?_
  rintro _ rfl
  exact readsBind (readsLayout .newline "") fun _ _ => readsPure ⟨s, rfl, fine⟩

/-! Statements with a body. -/

abbrev opening : List Look := [(.operator, ":"), lineEnd, (.indent, "")]

abbrev closing : Look := (.dedent, "")

theorem readsSuite (inner : Reads limit before body (closing :: after) B) :
    Reads limit (opening ++ before) (suite r body) after B := by
  refine readsBind (readsMark ":") fun _ _ => readsTake (thisKind .newline "") ?_
  refine readsBind (readsLayout .indent "") fun _ _ => readsBind inner fun ss fine => ?_
  exact readsBind (readsLayout .dedent "") fun _ _ => readsPure fine

theorem readsSome {p : Reader Stmt} (read : Reads limit before p after S) :
    Reads limit before (do return some (← p)) after fun o => ∃ s, o = some s ∧ S s :=
  readsBind read fun s fine => readsPure ⟨s, rfl, fine⟩

theorem readsCompound (read : Reads limit before (compound? r depth body) after fun o => ∃ s, o = some s ∧ S s) :
    Reads limit before (statement r depth body) after fun ss => ∃ s, ss = [s] ∧ S s := by
  refine readsBind read ?_
  rintro _ ⟨s, rfl, fine⟩
  exact readsPure ⟨s, rfl, fine⟩

theorem readsIf (room : 0 < limit) (next : l ≠ (.name, "elif") ∧ l ≠ (.name, "else"))
    (condition : Reads limit before r.namedExpression (opening ++ between) Q)
    (inner : Reads limit between body (closing :: l :: after) B) :
    Reads limit ((.name, "if") :: before) (statement r depth body) (l :: after)
      fun ss => ∃ s, ss = [s] ∧ ∃ span e inside, s = .block span .conditional [.mk .suite [e] inside] ∧ B inside := by
  obtain ⟨rounds, rfl⟩ := Nat.exists_eq_succ_of_ne_zero room.ne'
  have last : Reads (rounds + 1) (l :: after) (elseClause r body) (l :: after) (· = []) :=
    readsLeave (notWord next.2) (readsPure rfl)
  have within : Reads (rounds + 1) ((.name, "if") :: before) (conditionalWithin r body (rounds + 1)) (l :: after)
      fun s => ∃ span e inside, s = .block span .conditional [.mk .suite [e] inside] ∧ B inside := by
    refine readsBind readsHere fun start _ => readsBind readsAdvance fun _ _ => readsBind condition fun e _ => ?_
    refine readsBind (readsSuite inner) fun inside fine => readsNo (notWord next.1) (readsBind last ?_)
    rintro _ rfl
    exact readsBind (readsSpan start) fun span _ => readsPure ⟨span, e, inside, rfl, fine⟩
  refine readsCompound (readsBind readsHere fun start _ => readsYes (thisWord "if") (readsSome ?_))
  refine readsBind readsGet fun c same => ?_
  rw [same]
  exact within

theorem readsFunction {name parameter : String} {decorators : List Expr} (room : 0 < limit)
    (free : name ∉ keywords) (given : parameter ∉ keywords)
    (answer : Reads limit (l :: before) r.expression (opening ++ between) Q)
    (inner : Reads limit between body (closing :: after) B) :
    Reads limit
      ([(.name, "def"), (.name, name), (.operator, "("), (.name, parameter), (.operator, ")"), (.operator, "->")] ++
        l :: before)
      (functionDefinition r body decorators) after
      fun s => ∃ inside, s = .function (normal name) decorators inside ∧ B inside := by
  obtain ⟨rounds, rfl⟩ := Nat.exists_eq_succ_of_ne_zero room.ne'
  have one : Reads (rounds + 1) ((.name, parameter) :: (.operator, ")") :: (.operator, "->") :: l :: before)
      (params r .annotated ")") ((.operator, ")") :: (.operator, "->") :: l :: before) fun _ => True := by
    have item : Reads (rounds + 1) ((.name, parameter) :: (.operator, ")") :: (.operator, "->") :: l :: before)
        (param r .annotated (.positional 0 false false) []) ((.operator, ")") :: (.operator, "->") :: l :: before)
        fun pair => pair.1 = .positional 1 false false := by
      refine readsLeave (notMark (by simp)) (readsLeave (notMark (by simp)) (readsLeave (notMark (by simp)) ?_))
      refine readsBind (readsIdentifier given) fun _ _ => ?_
      have plain : Reads (rounds + 1) ((.operator, ")") :: (.operator, "->") :: l :: before)
          ( paramAnnotation r .annotated) ((.operator, ")") :: (.operator, "->") :: l :: before) fun _ => True :=
        readsLeave (notMark (by decide)) (readsPure trivial)
      have bare : Reads (rounds + 1) ((.operator, ")") :: (.operator, "->") :: l :: before)
          (paramDefault r) ((.operator, ")") :: (.operator, "->") :: l :: before) (· = none) :=
        readsLeave (notMark (by decide)) (readsPure rfl)
      refine readsBind plain fun _ _ => readsBind bare ?_
      rintro _ rfl
      exact readsPure rfl
    refine readsNo (notMark (by simp)) (readsBind readsGet fun c same => ?_)
    rw [same]
    refine readsBind item ?_
    rintro ⟨_, items⟩ rfl
    exact readsLeave (notMark (by decide)) (readsPure trivial)
  refine readsBind (readsWord "def") fun _ _ => readsBind (readsIdentifier free) ?_
  rintro _ rfl
  refine readsBind (readsMark "(") fun _ _ => readsBind one fun _ _ => readsBind (readsMark ")") fun _ _ => ?_
  refine readsTake (thisMark "->") (readsBind (readsDiscard answer) fun _ _ => readsBind (readsSuite inner) ?_)
  exact fun inside fine => readsPure ⟨inside, rfl, fine⟩

theorem readsDecorated (room : 1 < limit) (decoration : Reads limit before r.namedExpression (lineEnd :: (.name, "def") :: between) Q)
    (definition : ∀ e, Q e → Reads limit ((.name, "def") :: between) (functionDefinition r body [e]) after S) :
    Reads limit ((.operator, "@") :: before) (statement r depth body) after fun ss => ∃ s, ss = [s] ∧ S s := by
  have one : Reads limit ((.operator, "@") :: before) (decorator r) ((.name, "def") :: between)
      fun o => ∃ e, o = some e ∧ Q e := by
    refine readsTake (thisMark "@") (readsBind decoration fun e fine => ?_)
    exact readsBind (readsLayout .newline "") fun _ _ => readsPure ⟨e, rfl, fine⟩
  have whole : Reads limit ((.operator, "@") :: before) (decorated r body) after S := by
    refine readsBind (readsOnce room one (readsLeave (notMark (by decide)) (readsPure rfl))) ?_
    rintro _ ⟨e, rfl, fine⟩
    exact readsNo (notWord (by decide)) (readsLeave (notWord (by decide)) (definition e fine))
  refine readsCompound (readsBind readsHere fun start _ => readsNo (notWord (by decide)) (readsNo (notWord (by decide)) ?_))
  exact readsYes (thisMark "@") (readsSome whole)

theorem readsClass {name : String} (free : name ∉ keywords)
    (inner : Reads limit before body (closing :: after) B) :
    Reads limit ((.name, "class") :: (.name, name) :: (opening ++ before)) (statement r depth body) after
      fun ss => ∃ s, ss = [s] ∧ ∃ start inside, s = .classDef start (normal name) [] inside ∧ B inside := by
  refine readsCompound (readsBind readsHere fun _ _ => readsNo (notWord (by decide)) (readsYes (thisWord "class") ?_))
  refine readsSome (readsBind readsHere fun start _ => readsBind (readsWord "class") fun _ _ => ?_)
  refine readsBind (readsIdentifier free) ?_
  rintro _ rfl
  refine readsLeave (notMark (by decide)) (readsBind (readsSuite inner) fun inside fine => ?_)
  exact readsPure ⟨start, inside, rfl, fine⟩

/-! Lists of statements. -/

def further (r : Rules) (depth : Nat) (body : Reader (List Stmt)) : Reader (Option (List Stmt)) := do
  if ← endsStatements then return none else return some (← statement r depth body)

theorem readsFurther {T : List Stmt → Prop} (begins : l.1 ≠ .dedent ∧ l.1 ≠ .ending)
    (read : Reads limit (l :: before) (statement r depth body) after T) :
    Reads limit (l :: before) (further r depth body) after fun o => ∃ ss, o = some ss ∧ T ss :=
  readsNo (neither (notKind begins.1) (notKind begins.2))
    (readsBind read fun ss fine => readsPure ⟨ss, rfl, fine⟩)

theorem readsBodyEnd (ends : l.1 = .dedent ∨ l.1 = .ending) :
    Reads limit (l :: after) (further r depth body) (l :: after) (· = none) := by
  refine readsYes (fun t same => ?_) (readsPure rfl)
  simpa [isKind, ← same, Token.look] using ends

theorem readsStatements {nesting : Nat} {T : List (List Stmt) → Prop}
    (read : Reads limit before (repeated (further r depth (statements r depth nesting))) after T) :
    Reads limit before (statements r depth (nesting + 1)) after fun ss => ∃ lists, ss = lists.flatten ∧ T lists :=
  readsBind read fun lists fine => readsPure ⟨lists, rfl, fine⟩

end AccessorForge.Syntax.Grammar
