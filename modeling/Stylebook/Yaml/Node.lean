import Stylebook.Yaml.Lexer
import Stylebook.Yaml.Tag

/-!
The nodes of a document, read from its tokens. An alias stands for the whole node that its anchor
names; inside that node it stands for one of the same kind with nothing in it.
-/

namespace Stylebook.Yaml

open Text (Position)

inductive Node where
  | scalar (tag : Tag) (text : String) (position : Position)
  | sequence (tag : Tag) (items : List Node) (position : Position)
  | mapping (tag : Tag) (pairs : List (Node × Node)) (position : Position)
  deriving Repr

namespace Node

def empty (p : Position) : Node := .scalar .null "" p

def position : Node → Position
  | .scalar _ _ p | .sequence _ _ p | .mapping _ _ p => p

def tag : Node → Tag
  | .scalar t _ _ | .sequence t _ _ | .mapping t _ _ => t

def shape : Node → Shape
  | .scalar .. => .scalar
  | .sequence .. => .sequence
  | .mapping .. => .mapping

end Node

/-- The tokens left, what went wrong after the last of them, the nodes with anchors, and the handles
of tags. -/
structure Reading where
  tokens : List Token
  fault : ReadError
  anchors : List (String × Node)
  handles : List (String × String)

abbrev Read := StateT Reading (Except ReadError)

namespace Read

def failAt {α : Type} (problem : Problem) (p : Position) : Read α := throw (.located problem p)

def peek : Read Token := do
  let r ← get
  match r.tokens with
  | [] => throw r.fault
  | t :: _ => return t

def take : Read Token := do
  let t ← peek
  modify fun r => { r with tokens := r.tokens.tail }
  return t

/-- Takes the next token if it is of the given kind. -/
def takeIf (kind : Token.Kind) : Read (Option Token) := do
  let t ← peek
  if t.kind == kind then return some (← take)
  return none

def setAnchor (name : Option String) (node : Node) : Read Unit :=
  match name with
  | none => return
  | some a => modify fun r => { r with anchors := Pairs.set a node r.anchors }

/-- What stands before a node: an anchor and a tag in either order, with their positions. -/
structure Properties where
  anchor : Option String
  tag : Option (Option String × String × Position)
  position : Option Position

def anchor? : Read (Option (String × Position)) := do
  let t ← peek
  match t.kind with
  | .anchor name =>
    discard take
    return some (name, t.position)
  | _ => return none

def tag? : Read (Option (Option String × String × Position)) := do
  let t ← peek
  match t.kind with
  | .tag handle rest =>
    discard take
    return some (handle, rest, t.position)
  | _ => return none

def properties : Read Properties := do
  let before ← anchor?
  let tag ← tag?
  let after ← if before.isNone && tag.isSome then anchor? else pure none
  let anchor := before.or after
  let position := (before.map (·.2)).or ((tag.map (·.2.2)))
  return ⟨anchor.map (·.1), tag, position⟩

/-- The full text of a tag, its handle replaced. -/
def tagText (start : Position) : Option (Option String × String × Position) → Read (Option String)
  | none => return none
  | some (none, rest, _) => return some rest
  | some (some handle, rest, _) => do
    match Pairs.get? handle (← get).handles with
    | none => failAt (.undefinedHandle handle) start
    | some uri => return some (uri ++ rest)

/-- The tag of a scalar. One without a tag is read for its text only if it is plain, one with the
tag `!` always. -/
def scalarTag (tag : Option String) (text : String) (plain : Bool) : Tag :=
  match tag with
  | none => if plain then .resolve text else .text
  | some t => if t == "!" then .resolve text else .ofUri t

/-- The tag of a collection. -/
def collectionTag (tag : Option String) (usual : Tag) : Tag :=
  match tag with
  | none => usual
  | some t => if t == "!" then usual else .ofUri t

/-- The position right after a mark. -/
def afterMark (t : Token) : Position := ⟨t.position.line, t.position.column + 1⟩

/-- The node for an alias. -/
def aliased (name : String) (p : Position) : Read Node := do
  match Pairs.get? name (← get).anchors with
  | none => failAt (.undefinedAlias name) p
  | some node => return node

/-- The comma between two items in brackets. -/
def flowComma (closer : Token.Kind) : Read Unit := do
  let t ← take
  if t.kind != .flowEntry then failAt (.expectedNext closer t.kind) t.position

mutual

/-- Reads a node. `block` says whether it may be a block, `unindented` whether it may be a sequence
that is not indented further than the mapping around it. -/
def node (block unindented : Bool) : Nat → Read Node
  | 0 => do throw (← get).fault
  | fuel + 1 => do
    let first ← peek
    if let .aliasOf name := first.kind then
      discard take
      return ← aliased name first.position
    let props ← properties
    let start := props.position.getD first.position
    let tag ← tagText ((props.tag.map (·.2.2)).getD start) props.tag
    let t ← peek
    if let some a := props.anchor then
      if (Pairs.get? a (← get).anchors).isSome then failAt .secondAnchor start
    let build (read : Read Node) : Read Node := do
      let n ← read
      setAnchor props.anchor n
      return n
    let collect {α : Type} (make : List α → Node) (read : Read (List α)) : Read Node := do
      setAnchor props.anchor (make [])
      build (make <$> read)
    let sequence := collect fun items => .sequence (collectionTag tag .sequence) items start
    let mapping := collect fun pairs => .mapping (collectionTag tag .mapping) pairs start
    match t.kind, block, unindented with
    | .blockEntry, _, true => sequence (unindentedItems fuel)
    | .scalar text plain, _, _ =>
      discard take
      build (return .scalar (scalarTag tag text plain) text start)
    | .flowSequenceStart, _, _ =>
      discard take
      sequence (flowItems true fuel)
    | .flowMappingStart, _, _ =>
      discard take
      mapping (flowPairs true fuel)
    | .blockSequenceStart, true, _ =>
      discard take
      sequence (blockItems fuel)
    | .blockMappingStart, true, _ =>
      discard take
      mapping (blockPairs fuel)
    | found, _, _ =>
      if props.anchor.isNone && tag.isNone then
        failAt (.expectedToken "the node content" found) t.position
      else build (return .scalar (scalarTag tag "" true) "" start)

/-- A node, or an empty one before one of the given tokens. -/
def nodeUnless (enders : List Token.Kind) (empty : Position) (block unindented : Bool) :
    Nat → Read Node
  | 0 => do throw (← get).fault
  | fuel + 1 => do
    if enders.contains (← peek).kind then return .empty empty
    node block unindented fuel

def blockItems : Nat → Read (List Node)
  | 0 => do throw (← get).fault
  | fuel + 1 => do
    match ← takeIf .blockEntry with
    | some t =>
      let item ← nodeUnless [.blockEntry, .blockEnd] (afterMark t) true false fuel
      return item :: (← blockItems fuel)
    | none =>
      let t ← take
      if t.kind != .blockEnd then failAt (.expectedToken "<block end>" t.kind) t.position
      return []

def unindentedItems : Nat → Read (List Node)
  | 0 => do throw (← get).fault
  | fuel + 1 => do
    match ← takeIf .blockEntry with
    | some t =>
      let item ← nodeUnless [.blockEntry, .key, .value, .blockEnd] (afterMark t) true false fuel
      return item :: (← unindentedItems fuel)
    | none => return []

def blockPairs : Nat → Read (List (Node × Node))
  | 0 => do throw (← get).fault
  | fuel + 1 => do
    let enders := [.key, .value, .blockEnd]
    let t ← peek
    match t.kind with
    | .key =>
      discard take
      let key ← nodeUnless enders (afterMark t) true true fuel
      let value ← blockValue fuel
      return (key, value) :: (← blockPairs fuel)
    | .blockEnd =>
      discard take
      return []
    | found => failAt (.expectedToken "<block end>" found) t.position

/-- The value of a pair in a block, empty if no colon is there. -/
def blockValue : Nat → Read Node
  | 0 => do throw (← get).fault
  | fuel + 1 => do
    match ← takeIf .value with
    | some t => nodeUnless [.key, .value, .blockEnd] (afterMark t) true true fuel
    | none => return .empty (← peek).position

/-- The value of a pair in brackets that `closer` closes. -/
def flowValue (closer : Token.Kind) : Nat → Read Node
  | 0 => do throw (← get).fault
  | fuel + 1 => do
    match ← takeIf .value with
    | some t => nodeUnless [.flowEntry, closer] (afterMark t) false false fuel
    | none => return .empty (← peek).position

/-- A pair in brackets from its key on, after the mark `t` of a key. -/
def flowPair (closer : Token.Kind) (t : Token) : Nat → Read (Node × Node)
  | 0 => do throw (← get).fault
  | fuel + 1 => do
    let key ← nodeUnless [.value, .flowEntry, closer] (afterMark t) false false fuel
    return (key, ← flowValue closer fuel)

def flowItems (first : Bool) : Nat → Read (List Node)
  | 0 => do throw (← get).fault
  | fuel + 1 => do
    if (← takeIf .flowSequenceEnd).isSome then return []
    if !first then flowComma .flowSequenceEnd
    let t ← peek
    match t.kind with
    | .flowSequenceEnd =>
      discard take
      return []
    | .key =>
      discard take
      let pair ← flowPair .flowSequenceEnd t fuel
      return .mapping .mapping [pair] t.position :: (← flowItems false fuel)
    | _ =>
      let item ← node false false fuel
      return item :: (← flowItems false fuel)

def flowPairs (first : Bool) : Nat → Read (List (Node × Node))
  | 0 => do throw (← get).fault
  | fuel + 1 => do
    if (← takeIf .flowMappingEnd).isSome then return []
    if !first then flowComma .flowMappingEnd
    let t ← peek
    match t.kind with
    | .flowMappingEnd =>
      discard take
      return []
    | .key =>
      discard take
      let pair ← flowPair .flowMappingEnd t fuel
      return pair :: (← flowPairs false fuel)
    | _ =>
      let key ← node false false fuel
      return (key, .empty (← peek).position) :: (← flowPairs false fuel)

end

/-- Skips the ends of documents. -/
def skipDocumentEnds : Nat → Read Unit
  | 0 => return
  | fuel + 1 => do
    if (← takeIf .documentEnd).isSome then skipDocumentEnds fuel

/-- The handles that need no directive. -/
def usualHandles : List (String × String) := [("!", "!"), ("!!", Tag.core)]

/-- The directives before a document: the version at most once, each handle at most once. -/
def directives (versioned : Bool) (handles : List (String × String)) :
    Nat → Read (List (String × String))
  | 0 => return handles
  | fuel + 1 => do
    let t ← peek
    match t.kind with
    | .directive d =>
      discard take
      match d with
      | .version major _ =>
        if versioned then failAt .secondVersion t.position
        if major != 1 then failAt .foreignVersion t.position
        directives true handles fuel
      | .handle name uri =>
        if (Pairs.get? name handles).isSome then failAt (.secondHandle name) t.position
        directives versioned (Pairs.set name uri handles) fuel
      | .reserved _ => directives versioned handles fuel
    | _ => return handles

/-- The directives and the opening line of a document; its position, none at the end of the stream. -/
def documentStart (fuel : Nat) : Read (Option Position) := do
  skipDocumentEnds fuel
  let t ← peek
  if t.kind == .streamEnd then return none
  let handles ← directives false [] fuel
  let opening ← take
  if opening.kind != .documentStart then
    failAt (.expectedToken "'<document start>'" opening.kind) opening.position
  modify fun r => { r with handles := Pairs.setAll usualHandles handles }
  return some t.position

def opensDocument : Token.Kind → Bool
  | .directive _ | .documentStart | .streamEnd => true
  | _ => false

def endsDocument : Token.Kind → Bool
  | .documentEnd => true
  | k => opensDocument k

/-- The one document of a stream, none if the stream is empty. The opening line of the first
document may be absent. -/
def document (fuel : Nat) : Read (Option Node) := do
  let first ← peek
  let root ←
    if !opensDocument first.kind then some <$> node true false fuel
    else do
      match ← documentStart fuel with
      | none => pure none
      | some _ => do
        let t ← peek
        if endsDocument t.kind then pure (some (.empty t.position))
        else some <$> node true false fuel
  if root.isSome then
    discard (takeIf .documentEnd)
    if let some p ← documentStart fuel then failAt .secondDocument p
  return root

end Read

/-- The node that a tape holds. -/
def Tape.node? (t : Tape) : Except ReadError (Option Node) :=
  let r : Reading := ⟨t.tokens, t.fault.getD (.located .endInQuotes ⟨1, 1⟩), [], Read.usualHandles⟩
  ((Read.document (4 * t.tokens.length + 8)).run r).map Prod.fst

end Stylebook.Yaml
