import Stylebook.Yaml.Problem

/-!
A place in a YAML text, and the steps of a reader that moves on from it. The end of the text shows
as the character of code 0, which no text contains.
-/

namespace Stylebook.Yaml

open Text (Position)

def isBreak (c : Char) : Bool :=
  c == '\n' || c == '\r' || c == '\x85' || c == '\u2028' || c == '\u2029'

/-- A line end, or the end of the text. -/
def endsLine (c : Char) : Bool := c == '\x00' || isBreak c

def endsWord (c : Char) : Bool := c == ' ' || endsLine c

/-- What may follow a mark such as `-`: a blank, a tab, or the end of the line. -/
def isGap (c : Char) : Bool := c == '\t' || endsWord c

/-- The place of the first character of `rest`; `index` characters came before it. -/
structure Cursor where
  rest : List Char
  index : Nat
  position : Position
  deriving DecidableEq, Repr

namespace Cursor

def start (text : List Char) : Cursor := ⟨text, 0, ⟨1, 1⟩⟩

/-- The character `n` places further on. -/
def peekAt (c : Cursor) (n : Nat) : Char := c.rest.getD n '\x00'

/-- The position after `a`. A carriage return does not end the line if a line feed follows it, and
a byte order mark takes no column. -/
def positionAfter (p : Position) (a : Char) (rest : List Char) : Position :=
  if isBreak a && !(a == '\r' && rest.head? == some '\n') then ⟨p.line + 1, 1⟩
  else if a == Char.ofNat 0xfeff then p
  else ⟨p.line, p.column + 1⟩

def next (c : Cursor) : Cursor :=
  match c.rest with
  | [] => c
  | a :: rest => ⟨rest, c.index + 1, positionAfter c.position a rest⟩

def skip (c : Cursor) : Nat → Cursor
  | 0 => c
  | n + 1 => c.next.skip n

/-- Does a line that separates documents start here? -/
def atSeparator (c : Cursor) : Bool :=
  (c.rest.take 3 == ['-', '-', '-'] || c.rest.take 3 == ['.', '.', '.']) && isGap (c.peekAt 3)

/-- How many steps any reading from here can take. -/
def fuel (c : Cursor) : Nat := c.rest.length + 1

end Cursor

/-- A reading that moves the cursor on, or fails. -/
abbrev Scan := StateT Cursor (Except ReadError)

namespace Scan

def peekAt (n : Nat) : Scan Char := return (← get).peekAt n

def peek : Scan Char := peekAt 0

def skip (n : Nat) : Scan Unit := modify (·.skip n)

def position : Scan Position := return (← get).position

def column : Scan Nat := return (← get).position.column

def failAt {α : Type} (p : Problem) (pos : Position) : Scan α := throw (.located p pos)

/-- Fails with a problem that shows at the cursor. -/
def fail {α : Type} (p : Problem) : Scan α := do failAt p (← position)

/-- The characters of class `p` from the cursor on. -/
def takeWhile (p : Char → Bool) : Scan (List Char) := do
  let run := (← get).rest.takeWhile p
  skip run.length
  return run

def skipBlanks : Scan Unit := discard (takeWhile (· == ' '))

def skipComment : Scan Unit := do
  if (← peek) == '#' then discard (takeWhile (!endsLine ·))

/-- The line end at the cursor, if there is one: each of them counts as a line feed, but for the
line and paragraph separators, which stand for themselves. -/
def lineBreak : Scan (List Char) := do
  let c ← peek
  if !isBreak c then return []
  skip (if c == '\r' && (← peekAt 1) == '\n' then 2 else 1)
  return [if c == '\u2028' || c == '\u2029' then c else '\n']

def atSeparator : Scan Bool := return (← get).atSeparator

/-- How the line ends between two words fold: a lone line feed becomes a blank, and the first of
several falls away. -/
def fold (first breaks : List Char) : List Char :=
  (if first != ['\n'] then first else if breaks.isEmpty then [' '] else []) ++ breaks

end Scan

end Stylebook.Yaml
