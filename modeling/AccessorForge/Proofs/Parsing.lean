import AccessorForge.Proofs.Lexing
import AccessorForge.Syntax.Statement
import AccessorForge.Annotation
/-! What readers make of tokens whose look is known. A reader is described by the looks before and behind it and by the
value that it gives; such descriptions are put together the way the readers are. Names and calls on names are then
read by every level of the grammar, as long as what comes behind them is no operator. -/
namespace AccessorForge.Syntax

def Cursor.looks (c : Cursor) : List Look := c.rest.map Token.look

namespace Reader
variable {α β : Type} {limit : Nat} {l : Look} {before between after : List Look} {Q : α → Prop} {R : β → Prop}

/-- The reader takes tokens from the looks before to the looks behind and gives a value of the kind. -/
def Reads (limit : Nat) (before : List Look) (p : Reader α) (after : List Look) (Q : α → Prop) : Prop :=
  ∀ c : Cursor, c.looks = before → c.limit = limit →
    ∃ a d, p c = some (a, d) ∧ d.looks = after ∧ d.limit = limit ∧ Q a

def Refuses (limit : Nat) (before : List Look) (p : Reader α) : Prop :=
  ∀ c : Cursor, c.looks = before → c.limit = limit → p c = none

theorem readsPure {a : α} (fine : Q a) : Reads limit before (pure a) before Q :=
  fun c seen bound => ⟨a, c, rfl, seen, bound, fine⟩

theorem readsBind {p : Reader α} {f : α → Reader β} (first : Reads limit before p between Q)
    (next : ∀ a, Q a → Reads limit between (f a) after R) : Reads limit before (p >>= f) after R := by
  intro c seen bound
  obtain ⟨a, d, ran, shown, kept, fine⟩ := first c seen bound
  obtain ⟨b, e, finished, last, still, good⟩ := next a fine d shown kept
  exact ⟨b, e, by simp [bind, StateT.bind, ran, finished], last, still, good⟩

theorem readsMono {p : Reader α} {Q' : α → Prop} (reads : Reads limit before p after Q) (wider : ∀ a, Q a → Q' a) :
    Reads limit before p after Q' := by
  intro c seen bound
  obtain ⟨a, d, ran, shown, kept, fine⟩ := reads c seen bound
  exact ⟨a, d, ran, shown, kept, wider a fine⟩

theorem readsDiscard {p : Reader α} (reads : Reads limit before p after Q) :
    Reads limit before (discard p) after fun _ => True := by
  intro c seen bound
  obtain ⟨a, d, ran, shown, kept, -⟩ := reads c seen bound
  exact ⟨(), d, by simp [discard, Functor.discard, Functor.mapConst, StateT.map, ran], shown, kept, trivial⟩

theorem refusesFirst {p : Reader α} {f : α → Reader β} (refuses : Refuses limit before p) :
    Refuses limit before (p >>= f) := by
  intro c seen bound
  simp [bind, StateT.bind, refuses c seen bound]

theorem refusesThen {p : Reader α} {f : α → Reader β} (first : Reads limit before p between Q)
    (next : ∀ a, Q a → Refuses limit between (f a)) : Refuses limit before (p >>= f) := by
  intro c seen bound
  obtain ⟨a, d, ran, shown, kept, fine⟩ := first c seen bound
  simp [bind, StateT.bind, ran, next a fine d shown kept]

/-! Single tokens. -/

def Tells (l : Look) (p : Token → Bool) (b : Bool) : Prop := ∀ t : Token, t.look = l → p t = b

theorem tellsMark (l : Look) (text : String) : Tells l (isMark text) (l = (.operator, text)) := by
  rintro t rfl
  simp [isMark, Token.look]

theorem tellsWord (l : Look) (text : String) : Tells l (isWord text) (l = (.name, text)) := by
  rintro t rfl
  simp [isWord, Token.look]

theorem tellsKind (l : Look) (kind : TokenKind) : Tells l (isKind kind) (l.1 = kind) := by
  rintro t rfl
  rfl

theorem tellsIdentifier (l : Look) : Tells l isIdentifier (l.1 = .name && !keywords.contains l.2) := by
  rintro t rfl
  rfl

section
variable {p : Token → Bool} {b : Bool}

theorem readsSees (tells : Tells l p b) : Reads limit (l :: after) (sees p) (l :: after) (· = b) := by
  rintro ⟨ts, reached, _⟩ seen rfl
  rcases ts with _ | ⟨t, ts⟩
  · cases seen
  · exact ⟨p t, _, rfl, seen, rfl, tells t (List.cons.inj seen).1⟩

theorem readsAdvance : Reads limit (l :: after) advance after fun t => t.look = l := by
  rintro ⟨ts, reached, _⟩ seen rfl
  rcases ts with _ | ⟨t, ts⟩
  · cases seen
  · exact ⟨t, _, rfl, (List.cons.inj seen).2, rfl, (List.cons.inj seen).1⟩

theorem readsHere : Reads limit (l :: after) here (l :: after) fun _ => True := by
  rintro ⟨ts, reached, _⟩ seen rfl
  rcases ts with _ | ⟨t, ts⟩
  · cases seen
  · exact ⟨t.span.start, _, rfl, seen, rfl, trivial⟩

theorem readsSpan (start : Pos) : Reads limit before (spanFrom start) before fun _ => True :=
  fun c seen bound => ⟨⟨start, c.reached⟩, c, rfl, seen, bound, trivial⟩

theorem readsGet : Reads limit before (get : Reader Cursor) before fun c => c.limit = limit :=
  fun c seen bound => ⟨c, c, rfl, seen, bound, bound⟩

theorem readsTaken (tells : Tells l p true) : Reads limit (l :: after) (takeIf p) after (· = true) := by
  refine readsBind (readsSees tells) ?_
  rintro _ rfl
  exact readsBind readsAdvance fun _ _ => readsPure rfl

theorem readsLeft (tells : Tells l p false) : Reads limit (l :: after) (takeIf p) (l :: after) (· = false) := by
  refine readsBind (readsSees tells) ?_
  rintro _ rfl
  exact readsPure rfl

theorem readsNeed (tells : Tells l p true) : Reads limit (l :: after) (need p) after fun t => t.look = l := by
  refine readsBind (readsSees tells) ?_
  rintro _ rfl
  exact readsAdvance

theorem refusesNeed (tells : Tells l p false) : Refuses limit (l :: after) (need p) := by
  refine refusesThen (readsSees tells) ?_
  rintro _ rfl
  intro c _ _
  rfl

end

/-! Decisions on the token ahead. -/

section
variable {p : Token → Bool} {f : Bool → Reader β}

theorem readsYes (tells : Tells l p true) (next : Reads limit (l :: between) (f true) after R) :
    Reads limit (l :: between) (sees p >>= f) after R :=
  readsBind (readsSees tells) fun _ same => same ▸ next

theorem readsNo (tells : Tells l p false) (next : Reads limit (l :: between) (f false) after R) :
    Reads limit (l :: between) (sees p >>= f) after R :=
  readsBind (readsSees tells) fun _ same => same ▸ next

theorem readsTake (tells : Tells l p true) (next : Reads limit between (f true) after R) :
    Reads limit (l :: between) (takeIf p >>= f) after R :=
  readsBind (readsTaken tells) fun _ same => same ▸ next

theorem readsLeave (tells : Tells l p false) (next : Reads limit (l :: between) (f false) after R) :
    Reads limit (l :: between) (takeIf p >>= f) after R :=
  readsBind (readsLeft tells) fun _ same => same ▸ next

end

theorem readsMark (text : String) : Reads limit ((.operator, text) :: after) (mark text) after fun _ => True :=
  readsDiscard (readsNeed fun t same => by rw [tellsMark _ text t same]; simp)

theorem readsWord (text : String) : Reads limit ((.name, text) :: after) (word text) after fun _ => True :=
  readsDiscard (readsNeed fun t same => by rw [tellsWord _ text t same]; simp)

theorem readsLayout (kind : TokenKind) (text : String) :
    Reads limit ((kind, text) :: after) (layout kind) after fun _ => True :=
  readsDiscard (readsNeed fun t same => by rw [tellsKind _ kind t same]; simp)

def normal (name : String) : String := String.ofList (Text.Compose.normalForm name.toList)

theorem readsIdentifier {name : String} (free : name ∉ keywords) :
    Reads limit ((.name, name) :: after) identifier after (· = normal name) := by
  refine readsBind (readsNeed fun t same => by rw [tellsIdentifier _ t same]; simpa using free) fun t same => readsPure ?_
  have text : t.text = name := congrArg Prod.snd same
  rw [normal, text]

theorem refusesIdentifier {kind : TokenKind} {text : String} (other : kind ≠ .name) :
    Refuses limit ((kind, text) :: after) identifier :=
  refusesFirst (refusesNeed fun t same => by rw [tellsIdentifier _ t same]; simp [other])

theorem refusesDiscard {p : Reader α} (refuses : Refuses limit before p) : Refuses limit before (discard p) := by
  intro c seen bound
  simp [discard, Functor.discard, Functor.mapConst, StateT.map, refuses c seen bound]

theorem readsNot {p : Reader α} (refuses : Refuses limit before p) :
    Reads limit before (attempt p) before (· = none) :=
  fun c seen bound => ⟨none, c, by simp [attempt, refuses c seen bound], seen, bound, rfl⟩

/-! Repetition. -/

theorem readsStop {step : Reader (Option α)} {rounds : Nat} (stop : Reads limit after step after (· = none)) :
    Reads limit after (repeatWithin step (rounds + 1)) after (· = []) := by
  refine readsBind stop ?_
  rintro _ rfl
  exact readsPure rfl

theorem readsMore {step : Reader (Option α)} {rounds : Nat} {P T : List α → Prop}
    (more : Reads limit before step between fun o => ∃ a, o = some a ∧ Q a)
    (others : Reads limit between (repeatWithin step rounds) after P) (whole : ∀ a as, Q a → P as → T (a :: as)) :
    Reads limit before (repeatWithin step (rounds + 1)) after T := by
  refine readsBind more ?_
  rintro _ ⟨a, rfl, fine⟩
  exact readsBind others fun as all => readsPure (whole a as fine all)

theorem readsRepeated {step : Reader (Option α)} {P : List α → Prop}
    (within : Reads limit before (repeatWithin step limit) after P) : Reads limit before (repeated step) after P := by
  refine readsBind readsGet fun c same => ?_
  rwa [same]

theorem readsNone {step : Reader (Option α)} (room : 0 < limit) (stop : Reads limit after step after (· = none)) :
    Reads limit after (repeated step) after (· = []) := by
  obtain ⟨rounds, rfl⟩ := Nat.exists_eq_succ_of_ne_zero room.ne'
  exact readsRepeated (readsStop stop)

theorem readsOnce {step : Reader (Option α)} (room : 1 < limit)
    (one : Reads limit before step after fun o => ∃ a, o = some a ∧ Q a)
    (stop : Reads limit after step after (· = none)) :
    Reads limit before (repeated step) after fun as => ∃ a, as = [a] ∧ Q a := by
  obtain ⟨rounds, rfl⟩ : ∃ rounds, limit = rounds + 2 := ⟨limit - 2, by omega⟩
  refine readsRepeated (readsMore one (readsStop stop) ?_)
  rintro a _ fine rfl
  exact ⟨a, rfl, fine⟩

end Reader

/-! Expressions. -/

namespace Grammar
open Reader
variable {limit : Nat} {l s : Look} {before after : List Look} {Q : Expr → Prop} {r : Rules}

theorem readsFinish (start : Pos) {build : Span → Expr} (fine : ∀ span, Q (build span)) :
    Reads limit before (finish start build) before Q :=
  readsBind (readsSpan start) fun span _ => readsPure (fine span)

theorem readsName {name : String} (free : name ∉ keywords) :
    Reads limit ((.name, name) :: after) nameHere after fun e => ∃ span, e = .name span (normal name) := by
  refine readsBind readsHere fun start _ => readsBind (readsIdentifier free) ?_
  rintro _ rfl
  exact readsFinish start fun span => ⟨span, rfl⟩

/-! Operators. An operand passes through all levels when what comes behind it is no operator. -/

/-- What comes behind an expression that is read to its end. -/
def closers : List Look := [(.newline, ""), (.operator, ")"), (.operator, ":"), (.operator, "="), (.ending, "")]

/-- What an operand begins with. -/
def Begins (l : Look) : Prop := l.1 = .string ∨ l.1 = .name ∧ l.2 ∉ keywords

theorem Begins.isMarkNot (begins : Begins l) (text : String) : Tells l (Reader.isMark text) false := by
  intro t same
  rw [tellsMark _ text t same]
  rcases begins with kind | ⟨kind, -⟩ <;>
    · rw [decide_eq_false_iff_not]
      rintro rfl
      cases kind

theorem Begins.isWordNot (begins : Begins l) {text : String} (keyword : text ∈ keywords) :
    Tells l (isWord text) false := by
  intro t same
  rw [tellsWord _ text t same, decide_eq_false_iff_not]
  rintro rfl
  rcases begins with kind | ⟨-, free⟩
  · cases kind
  · exact free keyword

theorem readsNoMark {texts : List String} (quiet : s.1 = .operator → s.2 ∉ texts) :
    Reads limit (s :: after) (anyMark texts) (s :: after) (· = none) := by
  refine readsNo (fun t same => ?_) (readsPure rfl)
  subst same
  simpa [Token.look] using quiet

theorem Begins.noMark (begins : Begins l) (texts : List String) :
    Reads limit (l :: after) (anyMark texts) (l :: after) (· = none) :=
  readsNoMark fun operator => by rcases begins with kind | ⟨kind, -⟩ <;> rw [operator] at kind <;> cases kind

theorem readsNoWord (text : String) (other : s ≠ (.name, text)) :
    Reads limit (s :: after) (wordOperator text) (s :: after) (· = none) :=
  readsLeave (fun t same => by rw [tellsWord _ text t same]; simpa using other) (readsPure rfl)

theorem readsChain (form : List String → Form) {operand : Reader Expr} {operator : Reader (Option String)}
    (room : 0 < limit) (first : Reads limit (l :: before) operand (s :: after) Q)
    (stop : Reads limit (s :: after) operator (s :: after) (· = none)) :
    Reads limit (l :: before) (chain form operand operator) (s :: after) Q := by
  refine readsBind readsHere fun start _ => readsBind first fun e fine => ?_
  refine readsBind (readsNone room (readsBind stop ?_)) ?_
  · rintro _ rfl
    exact readsPure rfl
  · rintro _ rfl
    exact readsPure fine

theorem readsNoComparison (after : List Look) (close : s ∈ closers) :
    Reads limit (s :: after) comparisonOperator (s :: after) (· = none) := by
  have noWord (text : String) (told : ∀ s ∈ closers, s ≠ (.name, text)) : Tells s (isWord text) false := fun t same => by
    rw [tellsWord _ text t same]
    simpa using told s close
  have quiet : ∀ s ∈ closers, s.1 = .operator → s.2 ∉ ["==", "!=", "<", ">", "<=", ">="] := by decide
  refine readsBind (readsNoMark (quiet s close)) ?_
  rintro _ rfl
  refine readsLeave (noWord "in" (by decide)) (readsLeave (noWord "is" (by decide)) ?_)
  exact readsNo (noWord "not" (by decide)) (readsPure rfl)

section
variable (room : 1 < limit) (begins : Begins l)
include room begins

theorem readsOperand (close : s ∈ (TokenKind.name, "is") :: closers)
    (read : Reads limit (l :: before) (primary r) (s :: after) Q) :
    Reads limit (l :: before) (bitwiseOr r) (s :: after) Q := by
  have quiet (texts : List String) (told : ∀ s ∈ (TokenKind.name, "is") :: closers, s.1 = .operator → s.2 ∉ texts) :
      Reads limit (s :: after) (anyMark texts) (s :: after) (· = none) := readsNoMark (told s close)
  have noPower : Tells s (Reader.isMark "**") false := by
    intro t same
    have told : ∀ s ∈ (TokenKind.name, "is") :: closers, s ≠ (.operator, "**") := by decide
    rw [tellsMark _ "**" t same]
    simpa using told s close
  have awaits : Reads limit (l :: before) (awaited r) (s :: after) Q :=
    readsBind readsHere fun start _ => readsLeave (begins.isWordNot (by decide)) read
  have powers : Reads limit (l :: before) (power r) (s :: after) Q :=
    readsBind readsHere fun start _ => readsBind awaits fun e fine => readsLeave noPower (readsPure fine)
  have factors : Reads limit (l :: before) (factor r) (s :: after) Q := by
    refine readsBind readsHere fun start _ => readsBind (begins.noMark _) ?_
    rintro _ rfl
    exact powers
  have terms := readsChain .binary (Nat.zero_lt_of_lt room) factors (quiet ["*", "/", "//", "%", "@"] (by decide))
  have sums := readsChain .binary (Nat.zero_lt_of_lt room) terms (quiet ["+", "-"] (by decide))
  have shifts := readsChain .binary (Nat.zero_lt_of_lt room) sums (quiet ["<<", ">>"] (by decide))
  have ands := readsChain .binary (Nat.zero_lt_of_lt room) shifts (quiet ["&"] (by decide))
  have xors := readsChain .binary (Nat.zero_lt_of_lt room) ands (quiet ["^"] (by decide))
  exact readsChain .binary (Nat.zero_lt_of_lt room) xors (quiet ["|"] (by decide))

theorem readsCondition (close : s ∈ closers) (read : Reads limit (l :: before) (comparison r) (s :: after) Q) :
    Reads limit (l :: before) (expression r) (s :: after) Q := by
  have noWord (text : String) (told : ∀ s ∈ closers, s ≠ (.name, text)) : Tells s (isWord text) false := fun t same => by
    rw [tellsWord _ text t same]
    simpa using told s close
  have inversions : Reads limit (l :: before) (inversion r) (s :: after) Q :=
    readsBind readsHere fun start _ => readsLeave (begins.isWordNot (by decide)) read
  have ands := readsChain (fun _ => .conjunction) (Nat.zero_lt_of_lt room) inversions
    (readsNoWord "and" fun same => absurd close (by rw [same]; decide))
  have ors := readsChain (fun _ => .disjunction) (Nat.zero_lt_of_lt room) ands
    (readsNoWord "or" fun same => absurd close (by rw [same]; decide))
  refine readsNo (begins.isWordNot (by decide)) (readsBind readsHere fun start _ => readsBind ors fun e fine => ?_)
  exact readsLeave (noWord "if" (by decide)) (readsPure fine)

theorem readsExpression (close : s ∈ closers) (read : Reads limit (l :: before) (primary r) (s :: after) Q) :
    Reads limit (l :: before) (expression r) (s :: after) Q :=
  readsCondition room begins close (readsChain .comparison (Nat.zero_lt_of_lt room)
    (readsOperand room begins (List.mem_cons_of_mem _ close) read) (readsNoComparison after close))

theorem readsIdentity {m : Look} {between : List Look} {P : Expr → Prop} (others : Begins m) (close : s ∈ closers)
    (left : Reads limit (l :: before) (primary r) ((.name, "is") :: m :: between) P)
    (right : Reads limit (m :: between) (primary r) (s :: after) P) :
    Reads limit (l :: before) (expression r) (s :: after) fun _ => True := by
  have operator : Reads limit ((.name, "is") :: m :: between) comparisonOperator (m :: between) (· = some "is") := by
    refine readsBind (readsNoMark (by simp)) ?_
    rintro _ rfl
    refine readsLeave (fun t same => by rw [tellsWord _ _ t same]; decide) ?_
    refine readsTake (fun t same => by rw [tellsWord _ _ t same]; decide) ?_
    exact readsLeave (others.isWordNot (by decide)) (readsPure rfl)
  refine readsCondition room begins close (readsBind readsHere fun start _ => ?_)
  refine readsBind (readsOperand room begins List.mem_cons_self left) fun e _ => ?_
  refine readsBind (readsOnce (Q := fun _ => True) room (readsBind operator ?_) (readsBind (readsNoComparison after close) ?_)) ?_
  · rintro _ rfl
    refine readsBind (readsOperand room others (List.mem_cons_of_mem _ close) right) fun e _ => ?_
    exact readsPure ⟨_, rfl, trivial⟩
  · rintro _ rfl
    exact readsPure rfl
  · rintro _ ⟨pair, rfl, -⟩
    exact readsFinish start fun _ => trivial

omit begins in
theorem readsSingle {item : Reader Expr} (close : s ∈ closers) (read : Reads limit (l :: before) item (s :: after) Q) :
    Reads limit (l :: before) (tupleOf item) (s :: after) Q := by
  have noComma : Tells s (Reader.isMark ",") false := fun t same => by
    have told : ∀ s ∈ closers, s ≠ (.operator, ",") := by decide
    rw [tellsMark _ "," t same]
    simpa using told s close
  have none : Refuses limit (s :: after) (do mark ","; item) := refusesFirst (refusesDiscard (refusesNeed noComma))
  have list : Reads limit (l :: before) (commaList item) (s :: after) fun pair => ∃ e, pair = ([e], false) ∧ Q e := by
    refine readsBind read fun e fine => readsBind (readsNone (Nat.zero_lt_of_lt room) (readsBind (readsNot none) ?_)) ?_
    · rintro _ rfl
      exact readsPure rfl
    · rintro _ rfl
      exact readsLeave noComma (readsPure ⟨e, rfl, fine⟩)
  refine readsBind readsHere fun start _ => readsBind list ?_
  rintro _ ⟨e, rfl, fine⟩
  exact readsPure fine

theorem readsAlone (close : s ∈ closers) (read : Reads limit (l :: before) r.expression (s :: after) Q) :
    Reads limit (l :: before) (starExpressions r) (s :: after) Q :=
  readsSingle room close (readsNo (begins.isMarkNot "*") read)

omit room in
theorem readsUnbound {m : Look} (unbound : m ≠ (.operator, ":="))
    (read : Reads limit (l :: m :: before) r.expression (s :: after) Q) :
    Reads limit (l :: m :: before) (namedExpression r) (s :: after) Q := by
  have noBinding : Refuses limit (m :: before) (mark ":=") := refusesDiscard (refusesNeed fun t same => by
    rw [tellsMark _ _ t same]
    simpa using unbound)
  have refuses : Refuses limit (l :: m :: before) (do
      let target ← nameHere
      mark ":="
      return target) := by
    obtain ⟨kind, text⟩ := l
    rcases begins with literal | ⟨name, free⟩
    · cases literal
      exact refusesFirst (refusesThen readsHere fun _ _ => refusesFirst (refusesIdentifier (by decide)))
    · cases name
      exact refusesThen (readsName free) fun _ _ => refusesFirst noBinding
  have none : Reads limit (l :: m :: before) (boundName? r) (l :: m :: before) (· = none) := by
    refine readsBind readsHere fun start _ => readsBind (readsNot refuses) ?_
    rintro _ rfl
    exact readsPure rfl
  refine readsBind none ?_
  rintro _ rfl
  exact read

end

/-! Names with trailers, and literals. -/

/-- A name with its parts after points. -/
def dotted (first : String) (parts : List String) : String := parts.foldl (fun name part => name ++ "." ++ normal part) first

def dotLooks (parts : List String) : List Look := parts.flatMap fun part => [(.operator, "."), (.name, part)]

theorem readsTrailer {name : String} {start : Pos} {e : Expr} {fuel : Nat} (free : name ∉ keywords)
    (next : ∀ span, Reads limit before (trailersWithin r start fuel (.attribute span e (normal name))) after Q) :
    Reads limit ((.operator, ".") :: (.name, name) :: before) (trailersWithin r start (fuel + 1) e) after Q := by
  refine readsTake (fun t same => by rw [tellsMark _ _ t same]; decide) (readsBind (readsIdentifier free) ?_)
  rintro _ rfl
  refine readsBind (readsFinish (Q := fun e' => ∃ span, e' = .attribute span e (normal name)) start fun span => ⟨span, rfl⟩) ?_
  rintro _ ⟨span, rfl⟩
  exact next span

theorem readsNoTrailer {start : Pos} {e : Expr} {fuel : Nat} (close : s ∈ (TokenKind.name, "is") :: closers) (fine : Q e) :
    Reads limit (s :: after) (trailersWithin r start (fuel + 1) e) (s :: after) Q := by
  have told : ∀ s ∈ (TokenKind.name, "is") :: closers,
      s ≠ (.operator, ".") ∧ s ≠ (.operator, "(") ∧ s ≠ (.operator, "[") := by decide
  have tells (text : String) (other : s ≠ (.operator, text)) : Tells s (Reader.isMark text) false := fun t same => by
    rw [tellsMark _ text t same]
    simpa using other
  obtain ⟨noPoint, noCall, noIndex⟩ := told s close
  exact readsLeave (tells "." noPoint) (readsNo (tells "(" noCall) (readsLeave (tells "[" noIndex) (readsPure fine)))

theorem readsDots {start : Pos} {e : Expr} {fuel : Nat} {parts : List String} {first : String} (few : parts.length < fuel)
    (free : ∀ part ∈ parts, part ∉ keywords) (close : s ∈ (TokenKind.name, "is") :: closers)
    (named : AccessorForge.dottedName e = some first) :
    Reads limit (dotLooks parts ++ s :: after) (trailersWithin r start fuel e) (s :: after)
      fun e' => AccessorForge.dottedName e' = some (dotted first parts) := by
  induction parts generalizing fuel e first with
  | nil =>
    obtain ⟨fuel, rfl⟩ := Nat.exists_eq_succ_of_ne_zero (Nat.ne_of_gt few)
    exact readsNoTrailer close named
  | cons part parts ih =>
    obtain ⟨fuel, rfl⟩ := Nat.exists_eq_succ_of_ne_zero (Nat.ne_zero_of_lt few)
    refine readsTrailer (free part List.mem_cons_self) fun span => ?_
    exact ih (by simpa using few) (fun other within => free other (List.mem_cons_of_mem _ within)) (by simp [AccessorForge.dottedName, named])

theorem readsAtomName {name : String} (free : name ∉ keywords) :
    Reads limit ((.name, name) :: after) (atom r) after fun e => ∃ span, e = .name span (normal name) :=
  readsBind readsHere fun _ _ => readsYes (fun t same => by rw [tellsIdentifier _ t same]; simpa using free) (readsName free)

theorem readsDotted {name : String} {parts : List String} (few : parts.length < limit) (free : name ∉ keywords)
    (others : ∀ part ∈ parts, part ∉ keywords) (close : s ∈ (TokenKind.name, "is") :: closers) :
    Reads limit ((.name, name) :: (dotLooks parts ++ s :: after)) (primary r) (s :: after)
      fun e => AccessorForge.dottedName e = some (dotted (normal name) parts) := by
  refine readsBind readsHere fun start _ => readsBind (readsAtomName free) ?_
  rintro _ ⟨span, rfl⟩
  refine readsBind readsGet fun c same => ?_
  rw [same]
  exact readsDots few others close rfl

theorem readsBare {name : String} (room : 0 < limit) (free : name ∉ keywords) (close : s ∈ (TokenKind.name, "is") :: closers) :
    Reads limit ((.name, name) :: s :: after) (primary r) (s :: after) fun e => ∃ span, e = .name span (normal name) := by
  obtain ⟨rounds, rfl⟩ := Nat.exists_eq_succ_of_ne_zero room.ne'
  refine readsBind readsHere fun start _ => readsBind (readsAtomName free) ?_
  rintro _ ⟨span, rfl⟩
  refine readsBind readsGet fun c same => ?_
  rw [same]
  exact readsNoTrailer close ⟨span, rfl⟩

theorem readsLiteral {lexeme : String} {value : List Char} (room : 1 < limit) (other : s.1 ≠ .string)
    (means : Literal.read [lexeme.toList] = some (.text value)) :
    Reads limit ((.string, lexeme) :: s :: after) (atom r) (s :: after) fun e => ∃ span, e = .text span (String.ofList value) := by
  have noString : Tells s (isKind .string) false := fun t same => by
    rw [tellsKind _ _ t same]
    simpa using other
  refine readsBind readsHere fun _ _ => readsNo (fun t same => ?_) (readsYes (fun t same => ?_) ?_)
  · rw [tellsIdentifier _ t same]
    rfl
  · rw [tellsKind _ _ t same]
    rfl
  have lexemes : Reads limit ((.string, lexeme) :: s :: after) (repeated do
      if ← seesKind .string then return some (← advance).text.toList else return none) (s :: after)
      fun as => ∃ a, as = [a] ∧ a = lexeme.toList := by
    refine readsOnce room ?_ (readsNo noString (readsPure rfl))
    refine readsYes (fun t same => by rw [tellsKind _ _ t same]; rfl) (readsBind readsAdvance fun t same => readsPure ?_)
    have text : t.text = lexeme := congrArg Prod.snd same
    exact ⟨_, rfl, congrArg String.toList text⟩
  refine readsBind readsHere fun start _ => readsBind lexemes ?_
  rintro _ ⟨_, rfl, rfl⟩
  rw [means]
  exact readsFinish start fun span => ⟨span, rfl⟩

/-! Calls with one argument. -/

theorem readsArgument {m : Look} (begins : Begins l) (unbound : m ≠ (.operator, ":=") ∧ m ≠ (.operator, "="))
    (read : Reads limit (l :: m :: before) r.namedExpression (s :: after) Q) :
    Reads limit (l :: m :: before) (argument r .plain) (s :: after) fun pair => ∃ e, pair = (.plain, .positional e) ∧ Q e := by
  have noName : Refuses limit (l :: m :: before) (do
      let name ← identifier
      mark "="
      return name) := by
    obtain ⟨kind, text⟩ := l
    rcases begins with literal | ⟨name, free⟩
    · cases literal
      exact refusesFirst (refusesIdentifier (by decide))
    · cases name
      refine refusesThen (readsIdentifier free) fun _ _ => refusesFirst (refusesDiscard (refusesNeed fun t same => ?_))
      rw [tellsMark _ _ t same]
      simpa using unbound.2
  refine readsBind readsHere fun start _ => readsLeave (begins.isMarkNot "**") (readsLeave (begins.isMarkNot "*") ?_)
  refine readsBind (readsNot noName) ?_
  rintro _ rfl
  exact readsBind read fun e fine => readsPure ⟨e, rfl, fine⟩

theorem readsCall {start : Pos} {e : Expr} {fuel : Nat} {m : Look} {P : Expr → Prop} (begins : Begins l)
    (close : s ∈ closers) (unbound : m ≠ (.operator, ":=") ∧ m ≠ (.operator, "="))
    (read : Reads limit (l :: m :: before) r.namedExpression ((.operator, ")") :: s :: after) P)
    (fine : ∀ span argument, P argument → Q (.call span e [argument] [])) :
    Reads limit ((.operator, "(") :: l :: m :: before) (trailersWithin r start (fuel + 2) e) (s :: after) Q := by
  have arguments : Reads limit ((.operator, "(") :: l :: m :: before) (callArguments r) (s :: after)
      fun as => ∃ e, as = [.positional e] ∧ P e := by
    have bracket (text : String) (other : text ≠ ")") : Tells (.operator, ")") (Reader.isMark text) false := fun t same => by
      rw [tellsMark _ _ t same]
      simpa using Ne.symm other
    have word (text : String) : Tells (.operator, ")") (isWord text) false := fun t same => by
      rw [tellsWord _ _ t same]
      simp
    refine readsBind readsHere fun _ _ => readsBind (readsMark "(") fun _ _ => ?_
    refine readsLeave (begins.isMarkNot ")") (readsNo (begins.isMarkNot "*") ?_)
    refine readsBind (readsArgument begins unbound read) ?_
    rintro _ ⟨e, rfl, fine⟩
    refine readsNo (fun t same => by rw [word "for" t same, word "async" t same]; rfl) ?_
    refine readsLeave (bracket "," (by decide)) (readsBind (readsMark ")") fun _ _ => readsPure ⟨e, rfl, fine⟩)
  refine readsLeave (fun t same => by rw [tellsMark _ _ t same]; decide) ?_
  refine readsYes (fun t same => by rw [tellsMark _ _ t same]; decide) (readsBind arguments ?_)
  rintro _ ⟨argument, rfl, good⟩
  refine readsBind (readsFinish (Q := fun e' => ∃ span, e' = .call span e [argument] []) start fun span => ⟨span, rfl⟩) ?_
  rintro _ ⟨span, rfl⟩
  exact readsNoTrailer (List.mem_cons_of_mem _ close) (fine span argument good)

/-! Grammars of a known depth. -/

section
variable {d : Nat} (room : 1 < limit) (begins : Begins l) (close : s ∈ closers)
include room begins close

theorem readsDeepExpression (read : Reads limit (l :: before) (primary (rules d)) (s :: after) Q) :
    Reads limit (l :: before) (rules (d + 1)).expression (s :: after) Q := readsExpression room begins close read

theorem readsDeepStars (read : Reads limit (l :: before) (primary (rules d)) (s :: after) Q) :
    Reads limit (l :: before) (rules (d + 2)).starExpressions (s :: after) Q :=
  readsAlone room begins close (readsDeepExpression room begins close read)

omit room close in
theorem readsDeepNamed {m : Look} (unbound : m ≠ (.operator, ":="))
    (read : Reads limit (l :: m :: before) (rules (d + 1)).expression (s :: after) Q) :
    Reads limit (l :: m :: before) (rules (d + 2)).namedExpression (s :: after) Q :=
  readsUnbound begins unbound read

end

end Grammar
end AccessorForge.Syntax
