import Stylebook.Value.Equal
import Stylebook.Yaml.Node
import Stylebook.Yaml.Scalar

/-!
YAML text read as a value. A name that comes twice in a mapping keeps its first place and takes its
last value, and a mapping merged in with `<<` comes before what stands beside it. Of several faults
in the nodes of a document the one in the outermost collection counts, and there the first one.
-/

namespace Stylebook.Yaml

open Text (Position)

/-- A fault in a node or below it; `depth` counts the collections around it from that node on. -/
structure Flaw where
  depth : Nat
  error : ReadError
  deriving DecidableEq, Repr

abbrev Attempt := Except Flaw

namespace Attempt

variable {α β : Type}

def failAt (depth : Nat) (p : Problem) (n : Node) : Attempt α :=
  .error ⟨depth, .located p n.position⟩

/-- Both results, or the shallower of two flaws. -/
def both : Attempt α → Attempt β → Attempt (α × β)
  | .ok a, .ok b => .ok (a, b)
  | .error e, .ok _ => .error e
  | .ok _, .error f => .error f
  | .error e, .error f => .error (if f.depth < e.depth then f else e)

def all : List (Attempt α) → Attempt (List α)
  | [] => .ok []
  | a :: rest => (both a (all rest)).map fun p => p.1 :: p.2

/-- What was wrong in an item is one deeper in the collection. -/
def inside (a : Attempt α) : Attempt α := a.mapError fun f => { f with depth := f.depth + 1 }

end Attempt

abbrev Entry := Attempt (Key × Value)

/-- A node as far as it is built: its value, the pair that it is in an ordered mapping, its entries if
it is a mapping, and what it adds to a mapping that it is merged into. -/
structure Draft where
  value : Attempt Value
  pair : Attempt Value
  entries : Attempt (List Entry)
  merged : Attempt (List Entry)

/-- Writes an entry; names that are equal as values are one. -/
def setEntry (fields : Fields) (e : Key × Value) : Fields :=
  match fields with
  | [] => [e]
  | f :: rest => if f.1.same e.1 then (f.1, e.2) :: rest else f :: setEntry rest e

mutual

/-- The text of a node that is to be a scalar. A mapping may hold it under the key `=`. -/
def Node.scalarText (n : Node) : Attempt String :=
  match n with
  | .scalar _ text _ => .ok text
  | .sequence _ _ _ => .failAt 0 (.wrongShape .scalar .sequence) n
  | .mapping _ pairs p => defaultText p pairs

def defaultText (p : Position) : List (Node × Node) → Attempt String
  | [] => .error ⟨0, .located (.wrongShape .scalar .mapping) p⟩
  | (k, v) :: rest => if k.tag == .default then v.scalarText else defaultText p rest

end

/-- The bytes that a text in base 64 stands for, `p` being the position of its node. -/
def binaryBytes (p : Position) (text : String) : Attempt (List UInt8) :=
  let s := text.toList
  match s.dropWhile (·.toNat < 128) with
  | [] => (Text.decodeBase64 s).mapError fun d => ⟨0, .located (.badBase64 d) p⟩
  | c :: rest =>
    let more := (rest.takeWhile (128 ≤ ·.toNat)).length
    .error ⟨0, .located (.notAscii c (s.length - rest.length - 1) (more + 1)) p⟩

/-- The set of the names of an object's fields. -/
def namesOf (v : Value) : Value := .set (v.fieldsOf.map (·.1))

/-- The value of a node by its tag; `contents` is the one it has as a collection of its shape, and
`pairs` the one it has as a list of pairs. A set is written as a mapping, of which the names count. -/
def taggedValue (n : Node) (contents pairs : Attempt Value) : Attempt Value :=
  let read {α : Type} (f : α → Value) (r : String → Except ScalarProblem α) : Attempt Value := do
    ((r (← n.scalarText)).map f).mapError fun p => ⟨0, .scalar p⟩
  match n.tag with
  | .null => n.scalarText.map fun _ => .null
  | .bool => read .bool readBool
  | .int => read .int readInt
  | .float => read (fun x => .number (.float x)) readFloat
  | .timestamp => read .moment readMoment
  | .text => n.scalarText.map .text
  | .binary => n.scalarText >>= fun s => (binaryBytes n.position s).map .bytes
  | .sequence =>
    if n.shape = .sequence then contents else .failAt 1 (.wrongShape .sequence n.shape) n
  | .pairs | .orderedMap =>
    if n.shape = .sequence then pairs else .failAt 1 (.notSequence n.shape) n
  | .mapping => if n.shape = .mapping then contents else .failAt 1 (.wrongShape .mapping n.shape) n
  | .set =>
    if n.shape = .mapping then contents.map namesOf else .failAt 1 (.wrongShape .mapping n.shape) n
  | .merge | .default | .other _ => .failAt 0 (.unknownTag n.tag.uri) n

def mappingValue (entries : Attempt (List Entry)) : Attempt Value := do
  let fields ← Attempt.all (← entries)
  return .object (fields.foldl setEntry [])

/-- The name that a key stands for; `=` is a text here, and bytes name what their text names. A collection
names nothing, whatever is wrong in it. -/
def keyOf (key : Node) (draft : Draft) : Attempt Key :=
  if key.tag == .default then key.scalarText.map .text
  else if key.tag.isCollection then .failAt 0 .unhashableKey key
  else do
    let v ← draft.value
    if let .bytes l := v then return .text (Text.spelled l)
    match v.toKey? with
    | some k => return k
    | none => .failAt 0 .unhashableKey key

/-- The entries of a mapping: those merged in, then its own. -/
def joinEntries (own merged : List (List Entry)) : List Entry := merged.flatten ++ own.flatten

/-- A pair of a mapping as far as it is built: its own entry and the entries it merges in, and its
two values. -/
structure PairDraft where
  entries : Attempt (List Entry × List Entry)
  values : Attempt (Value × Value)

mutual

def Node.draft (n : Node) : Draft :=
  match n with
  | .scalar _ _ _ =>
    ⟨taggedValue n (.ok .null) (.ok .null), .failAt 0 (.notPair .scalar) n,
      .failAt 0 (.itemNotMergeable .scalar) n, .failAt 0 (.notMergeable .scalar) n⟩
  | .sequence _ items _ =>
    let drafts := itemDrafts items
    let list (part : Draft → Attempt Value) : Attempt Value :=
      (Attempt.all (drafts.map fun d => (part d).inside)).map Value.list
    ⟨taggedValue n (list Draft.value) (list Draft.pair), .failAt 0 (.notPair .sequence) n,
      .failAt 0 (.itemNotMergeable .sequence) n,
      (drafts.mapM Draft.entries).map fun es => es.reverse.flatten⟩
  | .mapping _ pairs _ =>
    let drafts := pairDrafts pairs
    let joined := (drafts.mapM PairDraft.entries).map fun es =>
      joinEntries (es.map (·.1)) (es.map (·.2))
    let pair := match drafts with
      | [d] => d.values.map fun (k, v) => .list [k, v]
      | ds => .failAt 0 (.notOnePair ds.length) n
    ⟨taggedValue n (mappingValue joined).inside (.ok .null), pair, joined, joined⟩

def itemDrafts : List Node → List Draft
  | [] => []
  | n :: rest => n.draft :: itemDrafts rest

def pairDrafts : List (Node × Node) → List PairDraft
  | [] => []
  | (k, v) :: rest =>
    let key := k.draft
    let value := v.draft
    ⟨if k.tag == .merge then value.merged.map ([], ·)
      else .ok ([(keyOf k key).both value.value], []), key.value.both value.value⟩ ::
      pairDrafts rest

end

/-- May this character stand in a text? -/
def isAdmitted (c : Char) : Bool :=
  let n := c.toNat
  n == 0x09 || n == 0x0a || n == 0x0d || (0x20 ≤ n && n ≤ 0x7e) || n == 0x85 ||
    (0xa0 ≤ n && n ≤ 0xd7ff) || (0xe000 ≤ n && n ≤ 0xfffd) || 0x10000 ≤ n

/-- The first character that may not stand in a text. -/
def unprintable? (s : List Char) : Option ReadError :=
  match s.dropWhile isAdmitted with
  | [] => none
  | c :: rest => some (.unprintable c (s.length - rest.length - 1))

/-- The value of a text, null if it holds no document. -/
def parse (text : String) : Except ReadError Value := do
  let s := text.toList
  if let some e := unprintable? s then throw e
  match ← (Tape.ofText s).node? with
  | none => return .null
  | some n => n.draft.value.mapError (·.error)

end Stylebook.Yaml
