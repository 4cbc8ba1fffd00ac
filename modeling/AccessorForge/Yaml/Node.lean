import AccessorForge.Ledger
import AccessorForge.Yaml.Token
import AccessorForge.Yaml.Tag
/-! The tree of a YAML document: every node has a tag, aliases are replaced by what they name. -/
namespace AccessorForge.Yaml

inductive Node
  | scalar (tag : Tag) (text : String)
  | sequence (tag : Tag) (items : List Node)
  | mapping (tag : Tag) (pairs : List (Node × Node))
  /-- A collection that holds itself, named from inside. -/
  | inside (anchor : String)
  deriving Repr, Inhabited

namespace Node

mutual
/-- Put a node in the place of a name that is used inside its own collection. -/
def tie (anchor : String) (whole : Node) : Node → Node
  | .inside a => if a = anchor then whole else .inside a
  | .sequence tag items => .sequence tag (tieAll anchor whole items)
  | .mapping tag pairs => .mapping tag (tiePairs anchor whole pairs)
  | .scalar tag text => .scalar tag text

def tieAll (anchor : String) (whole : Node) : List Node → List Node
  | [] => []
  | n :: rest => tie anchor whole n :: tieAll anchor whole rest

def tiePairs (anchor : String) (whole : Node) : List (Node × Node) → List (Node × Node)
  | [] => []
  | (k, v) :: rest => (tie anchor whole k, tie anchor whole v) :: tiePairs anchor whole rest
end

mutual
def height : Node → Nat
  | .sequence _ items => heightAll items + 1
  | .mapping _ pairs => heightPairs pairs + 1
  | .scalar _ _ | .inside _ => 1

def heightAll : List Node → Nat
  | [] => 0
  | n :: rest => max n.height (heightAll rest)

def heightPairs : List (Node × Node) → Nat
  | [] => 0
  | (k, v) :: rest => max (max k.height v.height) (heightPairs rest)
end

def emptied : Node → Node
  | .sequence tag _ => .sequence tag []
  | .mapping tag _ => .mapping tag []
  | n => n

/-- A collection that holds itself is unrolled once; deeper down it is empty. -/
def closed (anchor : String) (n : Node) : Node := tie anchor (tie anchor n.emptied n) n

end Node

/-! Reading a tree along the tokens. -/

structure Composition where
  tokens : List Token
  fault : Option Fault
  handles : List (String × String) := []
  anchors : Ledger Node := []
  deriving Repr

abbrev Composer := StateT Composition (Except Fault)

namespace Composer

def refuse {α : Type} : Composer α := throw .malformed

/-- The next token; where there is none, the fault that ended the tokens comes to light. -/
def peek : Composer Token := do
  let c ← get
  match c.tokens with
  | t :: _ => return t
  | [] => throw (c.fault.getD .malformed)

def drop : Composer Unit := modify fun c => { c with tokens := c.tokens.tail }

def takeIf (t : Token) : Composer Bool := do
  if (← peek) = t then
    drop
    return true
  else return false

def expect (t : Token) : Composer Unit := do
  if !(← takeIf t) then refuse

def seesAny (ts : List Token) : Composer Bool := return ts.contains (← peek)

def empty : Node := .scalar .null ""

def defaultHandles : List (String × String) := [("!", "!"), ("!!", "tag:yaml.org,2002:")]

def fullTag (handle : Option String) (suffix : String) : Composer String := do
  match handle with
  | none => return suffix
  | some h =>
    match (← get).handles.lookup h with
    | some start => return start ++ suffix
    | none => refuse

def anchor? : Composer (Option String) := do
  match ← peek with
  | .anchor name =>
    drop
    return some name
  | _ => return none

def tag? : Composer (Option String) := do
  match ← peek with
  | .tag handle suffix =>
    drop
    return some (← fullTag handle suffix)
  | _ => return none

/-- An anchor and a tag in either order. A lone exclamation mark is a tag that leaves the choice open. -/
def properties : Composer (Option String × Option String) := do
  match ← anchor? with
  | some name => return (some name, ← tag?)
  | none =>
    let tag ← tag?
    if tag.isSome then return (← anchor?, tag) else return (none, none)

def isOpen (tag : Option String) : Bool := tag.isNone || tag = some "!"

def collectionTag (standard : Tag) (tag : Option String) : Tag :=
  if isOpen tag then standard else Tag.ofUri (tag.getD "")

/-- Only a plain text, or one with an open tag, is read for what it looks like. -/
def scalarTag (tag : Option String) (plain : Bool) (text : String) : Tag :=
  if (plain && tag.isNone) || tag = some "!" then Tag.ofPlain text
  else match tag with
  | none => .text
  | some t => Tag.ofUri t

def register (anchor : Option String) (n : Node) : Composer Unit :=
  match anchor with
  | some a => modify fun c => { c with anchors := Ledger.put a n c.anchors }
  | none => pure ()

/-- A collection, whose anchor counts from its beginning on. -/
def collection (anchor : Option String) (read : Composer Node) : Composer Node := do
  match anchor with
  | none => read
  | some a =>
    register anchor (.inside a)
    let n := (← read).closed a
    modify fun c => { c with anchors := c.anchors.map fun (name, other) => (name, Node.tie a n other) }
    register anchor n
    return n

mutual
/-- A node; `block` allows blocks, `indentless` a block sequence that is not indented. -/
def node : Nat → Bool → Bool → Composer Node
  | 0, _, _ => refuse
  | fuel + 1, block, indentless => do
    if let .alias name ← peek then
      drop
      match Ledger.get? (← get).anchors name with
      | some n => return n
      | none => refuse
    let (anchor, tag) ← properties
    if let some a := anchor then
      if Ledger.has (← get).anchors a then refuse
    let sequence := Node.sequence (collectionTag .sequence tag)
    let mapping := Node.mapping (collectionTag .mapping tag)
    match ← peek with
    | .entry =>
      if indentless then collection anchor do return sequence (← looseItems fuel)
      else if anchor.isSome || tag.isSome then emptyScalar anchor tag
      else refuse
    | .scalar text plain =>
      drop
      let n := Node.scalar (scalarTag tag plain text) text
      register anchor n
      return n
    | .flowSequence =>
      drop
      collection anchor do return sequence (← flowItems fuel true)
    | .flowMapping =>
      drop
      collection anchor do return mapping (← flowPairs fuel true)
    | .blockSequence =>
      if block then
        drop
        collection anchor do return sequence (← blockItems fuel)
      else if anchor.isSome || tag.isSome then emptyScalar anchor tag
      else refuse
    | .blockMapping =>
      if block then
        drop
        collection anchor do return mapping (← blockPairs fuel)
      else if anchor.isSome || tag.isSome then emptyScalar anchor tag
      else refuse
    | _ => if anchor.isSome || tag.isSome then emptyScalar anchor tag else refuse

/-- A node that has properties and no content. -/
def emptyScalar (anchor tag : Option String) : Composer Node := do
  let n := Node.scalar (if isOpen tag then .null else Tag.ofUri (tag.getD "")) ""
  register anchor n
  return n

/-- A node, or nothing if one of the given tokens comes instead. -/
def nodeUnless : Nat → List Token → Bool → Bool → Composer Node
  | 0, _, _, _ => refuse
  | fuel + 1, ends, block, indentless => do
    if ← seesAny ends then return empty else node fuel block indentless

def blockItems : Nat → Composer (List Node)
  | 0 => refuse
  | fuel + 1 => do
    if ← takeIf .entry then
      let n ← nodeUnless fuel [.entry, .blockEnd] true false
      return n :: (← blockItems fuel)
    else
      expect .blockEnd
      return []

def looseItems : Nat → Composer (List Node)
  | 0 => refuse
  | fuel + 1 => do
    if ← takeIf .entry then
      let n ← nodeUnless fuel [.entry, .key, .value, .blockEnd] true false
      return n :: (← looseItems fuel)
    else return []

def blockPairs : Nat → Composer (List (Node × Node))
  | 0 => refuse
  | fuel + 1 => do
    if ← takeIf .key then
      let ends := [Token.key, .value, .blockEnd]
      let k ← nodeUnless fuel ends true true
      let v ← if ← takeIf .value then nodeUnless fuel ends true true else pure empty
      return (k, v) :: (← blockPairs fuel)
    else
      expect .blockEnd
      return []

def flowItems : Nat → Bool → Composer (List Node)
  | 0, _ => refuse
  | fuel + 1, first => do
    if ← takeIf .flowSequenceEnd then return []
    if !first then expect .comma
    if ← takeIf .key then
      let k ← nodeUnless fuel [.value, .comma, .flowSequenceEnd] false false
      let v ← if ← takeIf .value then nodeUnless fuel [.comma, .flowSequenceEnd] false false else pure empty
      return .mapping .mapping [(k, v)] :: (← flowItems fuel false)
    else if ← takeIf .flowSequenceEnd then return []
    else
      let n ← node fuel false false
      return n :: (← flowItems fuel false)

def flowPairs : Nat → Bool → Composer (List (Node × Node))
  | 0, _ => refuse
  | fuel + 1, first => do
    if ← takeIf .flowMappingEnd then return []
    if !first then expect .comma
    if ← takeIf .key then
      let k ← nodeUnless fuel [.value, .comma, .flowMappingEnd] false false
      let v ← if ← takeIf .value then nodeUnless fuel [.comma, .flowMappingEnd] false false else pure empty
      return (k, v) :: (← flowPairs fuel false)
    else if ← takeIf .flowMappingEnd then return []
    else
      let k ← node fuel false false
      return (k, empty) :: (← flowPairs fuel false)
end

/-- The handles that directives declare, until a document starts. -/
def directives : Nat → Bool → List (String × String) → Composer (List (String × String))
  | 0, _, _ => refuse
  | fuel + 1, versioned, handles => do
    match ← peek with
    | .directive d =>
      drop
      match d with
      | .version major =>
        if versioned || major ≠ 1 then refuse
        directives fuel true handles
      | .tagHandle handle uri =>
        if (handles.lookup handle).isSome then refuse
        directives fuel versioned ((handle, uri) :: handles)
      | .other => directives fuel versioned handles
    | _ => return handles

def skipDocumentEnds : Nat → Composer Unit
  | 0 => pure ()
  | fuel + 1 => do if ← takeIf .documentEnd then skipDocumentEnds fuel

def isDirective : Token → Bool
  | .directive _ => true
  | _ => false

/-- The one document of a stream, or none if the stream holds nothing. -/
def document (fuel : Nat) : Composer (Option Node) := do
  let first ← peek
  if first = .ending then return none
  let n ←
    if isDirective first || first = .documentStart then do
      let declared ← directives fuel false []
      modify fun c => { c with handles := declared ++ defaultHandles }
      expect .documentStart
      let next ← peek
      if isDirective next || [Token.documentStart, .documentEnd, .ending].contains next then pure empty
      else node fuel true false
    else do
      modify fun c => { c with handles := defaultHandles }
      node fuel true false
  skipDocumentEnds fuel
  expect .ending
  return some n

end Composer

def Node.ofTokens? (s : TokenStream) : Except Fault (Option Node) :=
  let start : Composition := { tokens := s.tokens, fault := s.fault }
  ((Composer.document (3 * s.tokens.length + 8)).run start).map (·.1)

end AccessorForge.Yaml
