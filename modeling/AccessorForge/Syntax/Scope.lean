import AccessorForge.Syntax.Tree
/-! What the grammar leaves open about the names and the flow of an expression in the body of an ordinary
function: names that may not be bound, names bound twice, waiting outside of a coroutine, stars and yields
out of place. -/
namespace AccessorForge.Syntax

/-- The one name that is a constant and no keyword. -/
def constantName : String := "__debug__"

def hasRepeats : List String → Bool
  | [] => false
  | name :: rest => rest.contains name || hasRepeats rest

/-- The part that an expression plays in the one around it. -/
inductive Role
  | operand
  /-- A name that is bound in passing. -/
  | bound
  | body
  /-- What the first clause of a comprehension runs through; it is read outside of the comprehension. -/
  | firstSource
  | source
  | target
  /-- An element or condition of a comprehension. -/
  | inner
  deriving DecidableEq, Repr

def Loop.roles (isFirst : Bool) (l : Loop) : List Role :=
  .target :: (if isFirst then .firstSource else .source) :: List.replicate l.conditions .inner

def loopRoles : Bool → List Loop → List Role
  | _, [] => []
  | isFirst, l :: rest => l.roles isFirst ++ loopRoles false rest

/-- The roles of an expression's parts; parts that are not mentioned are operands. -/
def Form.roles : Form → List Role
  | .binding => [.bound, .operand]
  | .function parameters => List.replicate (parameters.filter (·.hasDefault)).length .operand ++ [.body]
  | .comprehension .mapping loops => .inner :: .inner :: loopRoles true loops
  | .comprehension _ loops => .inner :: loopRoles true loops
  | _ => []

def Form.assigned (form : Form) (parts : List Expr) : List (Role × Expr) :=
  (form.roles ++ List.replicate (parts.length - form.roles.length) Role.operand).zip parts

/-! Waiting. -/

mutual
/-- Whether an expression waits in the function that it stands in. -/
def Expr.waits : Expr → Bool
  | .name _ _ | .text _ _ => false
  | .attribute _ value _ | .starred _ value => value.waits
  | .call _ callee args keywords => callee.waits || anyWaits args || anyKeywordWaits keywords
  | .tuple _ items | .list _ items => anyWaits items
  | .subscript _ value index => value.waits || index.waits
  | .compound _ .awaiting _ => true
  | .compound _ (.comprehension collection loops) parts =>
    collection ≠ .stream && loops.any (·.isAsync) ||
      anyPartWaits (collection ≠ .stream) (Form.comprehension collection loops).roles parts
  | .compound _ form parts => anyPartWaits true form.roles parts

def anyWaits : List Expr → Bool
  | [] => false
  | e :: rest => e.waits || anyWaits rest

/-- The body of a function waits for itself; so do the inner parts of a comprehension that gives its elements
on demand. -/
def anyPartWaits (inner : Bool) : List Role → List Expr → Bool
  | _, [] => false
  | .body :: roles, _ :: rest => anyPartWaits inner roles rest
  | .firstSource :: roles, e :: rest => e.waits || anyPartWaits inner roles rest
  | .operand :: roles, e :: rest | .bound :: roles, e :: rest => e.waits || anyPartWaits inner roles rest
  | _ :: roles, e :: rest => inner && e.waits || anyPartWaits inner roles rest
  | [], e :: rest => e.waits || anyPartWaits inner [] rest

def anyKeywordWaits : List Keyword → Bool
  | [] => false
  | .mk _ value :: rest => value.waits || anyKeywordWaits rest
end

mutual
/-- Whether an expression hands out values in the function that it stands in. -/
def Expr.yields : Expr → Bool
  | .name _ _ | .text _ _ => false
  | .attribute _ value _ | .starred _ value => value.yields
  | .call _ callee args keywords => callee.yields || anyYields args || anyKeywordYields keywords
  | .tuple _ items | .list _ items => anyYields items
  | .subscript _ value index => value.yields || index.yields
  | .compound _ .yielding _ | .compound _ .delegating _ => true
  | .compound _ form parts => anyPartYields form.roles parts

def anyYields : List Expr → Bool
  | [] => false
  | e :: rest => e.yields || anyYields rest

def anyPartYields : List Role → List Expr → Bool
  | _, [] => false
  | .body :: roles, _ :: rest => anyPartYields roles rest
  | _ :: roles, e :: rest => e.yields || anyPartYields roles rest
  | [], e :: rest => e.yields || anyPartYields [] rest

def anyKeywordYields : List Keyword → Bool
  | [] => false
  | .mk _ value :: rest => value.yields || anyKeywordYields rest
end

/-! Names bound in passing. -/

mutual
/-- The names that an expression binds in passing: in the function that it stands in, or only in the very
comprehension that it stands in. -/
def Expr.bindings (through : Bool) : Expr → List String
  | .name _ _ | .text _ _ => []
  | .attribute _ value _ | .starred _ value => value.bindings through
  | .call _ callee args keywords =>
    callee.bindings through ++ bindingsOf through args ++ keywordBindings through keywords
  | .tuple _ items | .list _ items => bindingsOf through items
  | .subscript _ value index => value.bindings through ++ index.bindings through
  | .compound _ form parts => partBindings through form.roles parts

def bindingsOf (through : Bool) : List Expr → List String
  | [] => []
  | e :: rest => e.bindings through ++ bindingsOf through rest

def partBindings (through : Bool) : List Role → List Expr → List String
  | _, [] => []
  | .bound :: roles, .name _ id :: rest => id :: partBindings through roles rest
  | .body :: roles, _ :: rest => partBindings through roles rest
  | .operand :: roles, e :: rest | .firstSource :: roles, e :: rest | .bound :: roles, e :: rest =>
    e.bindings through ++ partBindings through roles rest
  | _ :: roles, e :: rest => (if through then e.bindings through else []) ++ partBindings through roles rest
  | [], e :: rest => e.bindings through ++ partBindings through [] rest

def keywordBindings (through : Bool) : List Keyword → List String
  | [] => []
  | .mk _ value :: rest => value.bindings through ++ keywordBindings through rest
end

/-! Targets of comprehensions. -/

mutual
/-- The names that an expression mentions itself, not in a function or a comprehension within it. All names that
a target mentions count as its own. -/
def Expr.mentions : Expr → List String
  | .name _ id => [id]
  | .text _ _ => []
  | .attribute _ value _ | .starred _ value => value.mentions
  | .call _ callee args keywords => callee.mentions ++ mentionsOf args ++ keywordMentions keywords
  | .tuple _ items | .list _ items => mentionsOf items
  | .subscript _ value index => value.mentions ++ index.mentions
  | .compound _ form parts => partMentions form.roles parts

def mentionsOf : List Expr → List String
  | [] => []
  | e :: rest => e.mentions ++ mentionsOf rest

def partMentions : List Role → List Expr → List String
  | _, [] => []
  | .operand :: roles, e :: rest | .firstSource :: roles, e :: rest | .bound :: roles, e :: rest =>
    e.mentions ++ partMentions roles rest
  | _ :: roles, _ :: rest => partMentions roles rest
  | [], e :: rest => e.mentions ++ partMentions [] rest

def keywordMentions : List Keyword → List String
  | [] => []
  | .mk _ value :: rest => value.mentions ++ keywordMentions rest
end

def Expr.isStarred : Expr → Bool
  | .starred _ _ => true
  | _ => false

mutual
/-- A target binds no constant, and a star stands in it at most once in each row. -/
def isSoundTarget : Expr → Bool
  | .name _ id => id ≠ constantName
  | .attribute _ _ attr => attr ≠ constantName
  | .starred _ _ => false
  | .tuple _ items | .list _ items => (items.filter Expr.isStarred).length ≤ 1 && areSoundTargets items
  | _ => true

def areSoundTargets : List Expr → Bool
  | [] => true
  | .starred _ value :: rest => isSoundTarget value && areSoundTargets rest
  | e :: rest => isSoundTarget e && areSoundTargets rest
end

/-- The targets of a comprehension's clauses, each with the conditions before it. -/
def targetsAfter : List (Role × Expr) → List (Expr × List Expr)
  | parts => parts.zipIdx.filterMap fun ((role, e), i) =>
      if role = .target then
        some (e, (parts.take i).filterMap fun (role, c) => if role = .inner then some c else none)
      else none

/-- How many parts stand in front of the clauses. -/
def Form.elementCount : Form → Nat
  | .comprehension .mapping _ => 2
  | .comprehension _ _ => 1
  | _ => 0

/-- Targets are sound, and no clause binds a name that a condition before it has bound in passing. -/
def areSoundClauses (clauses : List (Role × Expr)) : Bool :=
  (targetsAfter clauses).all fun (target, conditions) =>
    isSoundTarget target && (target.bindings true).isEmpty &&
      !conditions.any fun c => (c.bindings false).any (target.mentions).contains

/-! Everything together. -/

structure Scope where
  /-- The names that each comprehension around it binds, up to the next function. -/
  loops : List (List String) := []
  /-- Inside of what a comprehension runs through. -/
  inSource : Bool := false

def Keyword.isSoundName : Keyword → Bool
  | .mk (some name) _ => name ≠ constantName
  | .mk none _ => true

def areSoundKeywordNames (keywords : List Keyword) : Bool :=
  keywords.all Keyword.isSoundName && !hasRepeats (keywords.filterMap Keyword.name?)

/-- Names are bound neither in what a comprehension runs through nor over the names that it binds. -/
def Scope.admitsBinding (s : Scope) (name : String) : Bool :=
  name ≠ constantName && !s.inSource && !s.loops.any (·.contains name)

def areSoundParameters (parameters : List Parameter) : Bool :=
  let names := parameters.map (·.name)
  !names.contains constantName && !hasRepeats names

/-- What a form asks of its parts and of the place where it stands. -/
def Form.isSound (s : Scope) (form : Form) (parts : List Expr) : Bool :=
  match form, parts with
  | .binding, .name _ id :: _ => s.admitsBinding id
  | .yielding, _ | .delegating, _ => s.loops.isEmpty
  | .function parameters, [body] => areSoundParameters parameters && !body.waits
  | .function parameters, parts => areSoundParameters parameters && !(parts.getLast?.any Expr.waits)
  | .comprehension _ _, parts => areSoundClauses ((form.assigned parts).drop form.elementCount)
  | _, _ => true

def namesBound (parts : List (Role × Expr)) : List String :=
  parts.flatMap fun (role, e) => if role = .target then e.mentions else []

/-- For each part its role, and the names that the comprehension has bound where the part stands. -/
def Form.places (form : Form) (parts : List Expr) : List (Role × List String) :=
  let assigned := form.assigned parts
  assigned.zipIdx.map fun ((role, _), i) =>
    (role, namesBound (if i < form.elementCount then assigned else assigned.take (i + 1)))

def Scope.at (s : Scope) (role : Role) (names : List String) : Scope :=
  match role with
  | .operand | .bound => s
  | .body => { s with loops := [] }
  | .firstSource => { s with inSource := true }
  | .source => ⟨names :: s.loops, true⟩
  | .target | .inner => { s with loops := names :: s.loops }

mutual
def Expr.isSound (s : Scope) : Expr → Bool
  | .name _ _ | .text _ _ => true
  | .attribute _ value _ => value.isSound s
  | .call _ callee args keywords =>
    callee.isSound s && areSound s args && areSoundKeywords s keywords && areSoundKeywordNames keywords
  | .starred _ _ => false
  | .tuple _ items | .list _ items => areSound s items
  | .subscript _ value index => value.isSound s && index.isSound s
  | .compound _ .set parts => areSound s parts
  | .compound _ form parts =>
    form.isSound s parts && areSoundParts s (form.places parts) parts

def areSound (s : Scope) : List Expr → Bool
  | [] => true
  | .starred _ value :: rest => value.isSound s && areSound s rest
  | e :: rest => e.isSound s && areSound s rest

def areSoundParts (s : Scope) : List (Role × List String) → List Expr → Bool
  | _, [] => true
  | [], e :: rest => e.isSound s && areSoundParts s [] rest
  | (role, names) :: places, e :: rest =>
    e.isSound (s.at role names) && areSoundParts s places rest

def areSoundKeywords (s : Scope) : List Keyword → Bool
  | [] => true
  | .mk _ value :: rest => value.isSound s && areSoundKeywords s rest
end

/-- Whether an expression may stand in the body of an ordinary function. -/
def Expr.mayStand (e : Expr) : Bool := e.isSound {} && !e.waits

end AccessorForge.Syntax
