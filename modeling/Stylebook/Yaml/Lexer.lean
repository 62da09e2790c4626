import Stylebook.Yaml.BlockText
import Stylebook.Yaml.Plain
import Stylebook.Yaml.Quoted

/-!
The tokens of a text. That something is the key of a mapping shows only at the colon after it, so
the places where a key may start are remembered, and at the colon the opener of a mapping and the
mark of a key are put in front of what was read since. A token is settled once no key can start at
it or before it; only settled tokens count when the text turns out to be faulty.
-/

namespace Stylebook.Yaml

open Text (Position)

/-- The longest text of a key that no `?` marks. -/
def maxKeyLength : Nat := 1024

/-- A place where a key may start: the number of its first token, and whether only a key can stand
there. -/
structure KeyStart where
  token : Nat
  required : Bool
  index : Nat
  position : Position
  deriving DecidableEq, Repr

/-- `flow` counts the open brackets less the closed ones, and `indent` is the column of the block
that is open, 0 if there is none; `outer` holds the columns of the blocks around it. `keys` has at
most one start for each count of brackets. -/
structure Lexer where
  cursor : Cursor
  tokens : Array Token
  flow : Int
  indent : Nat
  outer : List Nat
  keyAllowed : Bool
  keys : List (Int × KeyStart)

abbrev Lex := StateT Lexer (Except ReadError)

namespace Lexer

def start (text : List Char) : Lexer := ⟨.start text, #[], 0, 0, [], true, []⟩

/-- How many tokens are settled. -/
def settled (l : Lexer) : Nat := l.keys.foldl (fun n k => min n k.2.token) l.tokens.size

end Lexer

namespace Lex

def scan {α : Type} (s : Scan α) : Lex α := do
  let l ← get
  let (a, cursor) ← (s.run l.cursor : Except ReadError (α × Cursor))
  set { l with cursor }
  return a

def position : Lex Position := return (← get).cursor.position

def peekAt (n : Nat) : Lex Char := return (← get).cursor.peekAt n

def fail {α : Type} (p : Problem) : Lex α := do throw (.located p (← position))

def inFlow : Lex Bool := return (← get).flow != 0

def push (kind : Token.Kind) (p : Position) : Lex Unit :=
  modify fun l => { l with tokens := l.tokens.push ⟨kind, p⟩ }

def setKeyAllowed (b : Bool) : Lex Unit := modify fun l => { l with keyAllowed := b }

/-- Closes the blocks that are indented further than `column`. -/
def unwind (column : Nat) : Lex Unit := do
  let l ← get
  if l.flow == 0 then
    let inner := (l.indent :: l.outer).takeWhile (column < ·)
    let left := (l.indent :: l.outer).drop inner.length
    let closers := inner.map fun _ => (⟨.blockEnd, l.cursor.position⟩ : Token)
    set { l with
      tokens := l.tokens ++ closers, indent := left.headD 0, outer := left.tail }

/-- Opens a block at `column` if it is indented further than the one that is open. -/
def indentTo (column : Nat) : Lex Bool := do
  let l ← get
  if l.indent < column then
    set { l with indent := column, outer := l.indent :: l.outer }
    return true
  return false

/-- Forgets the key start at the present count of brackets. -/
def dropKey : Lex Unit := do
  let l ← get
  match l.keys.find? (·.1 == l.flow) with
  | none => return
  | some k =>
    if k.2.required then fail .colonMissing
    set { l with keys := l.keys.filter (·.1 != l.flow) }

/-- Remembers that a key may start here. -/
def saveKey : Lex Unit := do
  let l ← get
  if l.keyAllowed then
    let p := l.cursor.position
    let required := l.flow == 0 && l.indent == p.column
    dropKey
    modify fun l =>
      { l with keys := (l.flow, ⟨l.tokens.size, required, l.cursor.index, p⟩) :: l.keys }

/-- Forgets the key starts on earlier lines and those too far back. -/
def dropStaleKeys : Lex Unit := do
  let l ← get
  let stale (k : Int × KeyStart) :=
    k.2.position.line != l.cursor.position.line || maxKeyLength < l.cursor.index - k.2.index
  if l.keys.any fun k => stale k && k.2.required then fail .colonMissing
  set { l with keys := l.keys.filter (!stale ·) }

/-- Skips blanks, comments and line ends. A key may start on a new line outside of brackets. -/
def skipToToken : Nat → Lex Unit
  | 0 => return
  | fuel + 1 => do
    scan Scan.skipBlanks
    scan Scan.skipComment
    if isBreak (← peekAt 0) then
      discard (scan Scan.lineBreak)
      if !(← inFlow) then setKeyAllowed true
      skipToToken fuel

/-- A token of `width` characters. -/
def mark (kind : Token.Kind) (width : Nat) : Lex Unit := do
  let p ← position
  scan (Scan.skip width)
  push kind p

def streamEnd : Lex Unit := do
  unwind 0
  dropKey
  modify fun l => { l with keyAllowed := false, keys := [] }
  push .streamEnd (← position)

/-- What stands between documents closes every block. -/
def leaveBlocks : Lex Unit := do
  unwind 0
  dropKey
  setKeyAllowed false

def directive : Lex Unit := do
  leaveBlocks
  let p ← position
  push (.directive (← scan Scan.directive)) p

def separator (kind : Token.Kind) : Lex Unit := do
  leaveBlocks
  mark kind 3

def flowStart (kind : Token.Kind) : Lex Unit := do
  saveKey
  modify fun l => { l with flow := l.flow + 1, keyAllowed := true }
  mark kind 1

def flowEnd (kind : Token.Kind) : Lex Unit := do
  dropKey
  modify fun l => { l with flow := l.flow - 1, keyAllowed := false }
  mark kind 1

def flowEntry : Lex Unit := do
  setKeyAllowed true
  dropKey
  mark .flowEntry 1

/-- Outside of brackets, opens a block at the cursor unless one is open there; `problem` if no key
may start here. -/
def openBlock (opener : Token.Kind) (problem : Problem) : Lex Unit := do
  if !(← inFlow) then
    if !(← get).keyAllowed then fail problem
    let p ← position
    if (← indentTo p.column) then push opener p

def blockEntry : Lex Unit := do
  openBlock .blockSequenceStart .entryNotAllowed
  setKeyAllowed true
  dropKey
  mark .blockEntry 1

def explicitKey : Lex Unit := do
  openBlock .blockMappingStart .keyNotAllowed
  setKeyAllowed (!(← inFlow))
  dropKey
  mark .key 1

/-- A colon. After a key it settles that what came before was one. -/
def colon : Lex Unit := do
  let l ← get
  match l.keys.find? (·.1 == l.flow) with
  | some k =>
    let opened ← if l.flow == 0 then indentTo k.2.position.column else pure false
    modify fun l =>
      let tokens := l.tokens.insertIdxIfInBounds k.2.token ⟨.key, k.2.position⟩
      { l with
        keys := l.keys.filter (·.1 != l.flow)
        keyAllowed := false
        tokens := if opened then tokens.insertIdxIfInBounds k.2.token ⟨.blockMappingStart, k.2.position⟩
          else tokens }
  | none =>
    openBlock .blockMappingStart .valueNotAllowed
    setKeyAllowed (!(← inFlow))
    dropKey
  mark .value 1

/-- A token at which a key may start. -/
def keyed (s : Scan Token.Kind) : Lex Unit := do
  saveKey
  setKeyAllowed false
  let p ← position
  push (← scan s) p

def blockScalar : Lex Unit := do
  setKeyAllowed true
  dropKey
  let p ← position
  push (.scalar (← scan (Scan.blockText (← get).indent)) false) p

def plainScalar : Lex Unit := do
  saveKey
  let l ← get
  let (text, broke) ← scan (Scan.plainText (l.flow != 0) l.indent)
  setKeyAllowed broke
  push (.scalar text true) l.cursor.position

/-- Can a plain scalar start with `c`, with `next` after it? -/
def startsPlain (flow : Bool) (c next : Char) : Bool :=
  !(isGap c || "-?:,[]\x7b\x7d#&*!|>'\"%@`".toList.contains c) ||
    (!isGap next && (c == '-' || (!flow && (c == '?' || c == ':'))))

/-- Reads the token at the cursor; says whether it ended the text. -/
def token : Lex Bool := do
  let cursor := (← get).cursor
  let flow ← inFlow
  let c := cursor.peekAt 0
  let next := cursor.peekAt 1
  let marks := flow || isGap next
  if c == '\x00' then
    streamEnd
    return true
  if c == '%' && cursor.position.column == 1 then directive
  else if c == '-' && cursor.position.column == 1 && cursor.atSeparator then separator .documentStart
  else if c == '.' && cursor.position.column == 1 && cursor.atSeparator then separator .documentEnd
  else if c == '[' then flowStart .flowSequenceStart
  else if c == '\x7b' then flowStart .flowMappingStart
  else if c == ']' then flowEnd .flowSequenceEnd
  else if c == '\x7d' then flowEnd .flowMappingEnd
  else if c == ',' then flowEntry
  else if c == '-' && isGap next then blockEntry
  else if c == '?' && marks then explicitKey
  else if c == ':' && marks then colon
  else if c == '*' then keyed (Token.Kind.aliasOf <$> Scan.anchorName)
  else if c == '&' then keyed (Token.Kind.anchor <$> Scan.anchorName)
  else if c == '!' then keyed Scan.tag
  else if (c == '|' || c == '>') && !flow then blockScalar
  else if c == '\'' || c == '"' then keyed ((Token.Kind.scalar · false) <$> Scan.quotedText)
  else if startsPlain flow c next then plainScalar
  else fail (.noToken c)
  return false

/-- Moves on to the next token and reads it. -/
def step : Lex Bool := do
  skipToToken (← get).cursor.fuel
  dropStaleKeys
  unwind (← position).column
  let done ← token
  if !done then dropStaleKeys
  return done

end Lex

/-- The settled tokens of a text, the last of which is the end of the stream unless a fault came
first. -/
structure Tape where
  tokens : List Token
  fault : Option ReadError
  deriving DecidableEq, Repr

def Lexer.run : Nat → Lexer → Tape
  | 0, l => ⟨l.tokens.toList, none⟩
  | fuel + 1, l =>
    match Lex.step.run l with
    | .error e => ⟨l.tokens.toList.take l.settled, some e⟩
    | .ok (true, l) => ⟨l.tokens.toList, none⟩
    | .ok (false, l) => l.run fuel

/-- Reads a text from its start, after a byte order mark if it has one. -/
def Tape.ofText (text : List Char) : Tape :=
  let l := Lexer.start text
  let l := if text.head? == some (Char.ofNat 0xfeff) then { l with cursor := l.cursor.next } else l
  l.run (text.length + 1)

end Stylebook.Yaml
