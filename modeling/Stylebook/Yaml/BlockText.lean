import Stylebook.Yaml.Property

/-!
Scalars that hold the indented lines below a mark: after `|` lines stay as they are, after `>` they
fold. The mark may be followed by the indentation and by what to do with the last line ends.
-/

namespace Stylebook.Yaml.Scan

open Text (isDigitAscii isTabOrSpace)

/-- What becomes of the line ends after the last line. -/
inductive Chomping where
  | strip
  | clip
  | keep
  deriving DecidableEq, Repr

def chomping? : Scan (Option Chomping) := do
  match ← peek with
  | '+' => skip 1; return some .keep
  | '-' => skip 1; return some .strip
  | _ => return none

/-- A digit from 1 to 9. -/
def indentation? : Scan (Option Nat) := do
  let c ← peek
  if !isDigitAscii c then return none
  if c == '0' then fail .zeroIndent
  skip 1
  return some (c.toNat - '0'.toNat)

/-- The two indicators, in either order. -/
def blockIndicators : Scan (Chomping × Option Nat) := do
  let before ← chomping?
  let indent ← indentation?
  let after ← if before.isNone && indent.isSome then chomping? else pure none
  require endsWord "chomping or indentation indicators"
  return ((before.or after).getD .clip, indent)

/-- Skips blanks up to a column. -/
def skipTo (column : Nat) : Scan Unit := do
  let c ← get
  skip ((c.rest.take (column - c.position.column)).takeWhile (· == ' ')).length

/-- The empty lines at the cursor, in a block indented to `indent`. -/
def blockBreaks (indent : Nat) : Nat → Scan (List Char)
  | 0 => return []
  | fuel + 1 => do
    skipTo indent
    if !isBreak (← peek) then return []
    let b ← lineBreak
    return b ++ (← blockBreaks indent fuel)

/-- The empty lines at the front of a block, and the column of the furthest blank among them or
before its first line. -/
def leadingBreaks (deepest : Nat) : Nat → Scan (List Char × Nat)
  | 0 => return ([], deepest)
  | fuel + 1 => do
    skipBlanks
    let deepest := max deepest (← column)
    if !isBreak (← peek) then return ([], deepest)
    let b ← lineBreak
    let (more, deepest) ← leadingBreaks deepest fuel
    return (b ++ more, deepest)

/-- The lines of a block with `before` in front of them; then its last line end, and the empty lines
after it. -/
def blockLines (folded : Bool) (indent : Nat) (before last : List Char) :
    Nat → Scan (List Char × List Char × List Char)
  | 0 => return ([], last, before)
  | fuel + 1 => do
    if (← column) != indent || (← peek) == '\x00' then return ([], last, before)
    let level := !isTabOrSpace (← peek)
    let line ← takeWhile (!endsLine ·)
    let ending ← lineBreak
    let breaks ← blockBreaks indent (← get).fuel
    let c ← peek
    if (← column) != indent || c == '\x00' then return (before ++ line, ending, breaks)
    let join :=
      if folded && ending == ['\n'] && level && !isTabOrSpace c then
        if breaks.isEmpty then [' '] else []
      else ending
    let (more, last, after) ← blockLines folded indent (join ++ breaks) ending fuel
    return (before ++ line ++ more, last, after)

/-- A block scalar under a block indented to column `indent`, its mark included. -/
def blockText (indent : Nat) : Scan String := do
  let folded := (← peek) == '>'
  skip 1
  let (chomping, given) ← blockIndicators
  lineRest
  let least := max indent 1 + 1
  let fuel := (← get).fuel
  let (breaks, column) ← match given with
    | none => do
      let (breaks, deepest) ← leadingBreaks 1 fuel
      pure (breaks, max least deepest)
    | some n => do
      let column := least + n - 1
      pure (← blockBreaks column fuel, column)
  let (text, last, after) ← blockLines folded column breaks [] fuel
  return String.ofList (text ++ match chomping with
    | .strip => []
    | .clip => last
    | .keep => last ++ after)

end Stylebook.Yaml.Scan
