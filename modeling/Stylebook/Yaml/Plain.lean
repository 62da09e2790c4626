import Stylebook.Yaml.Cursor

/-!
Scalars without quotes. They end before `: `, before ` #`, and before a line that is not indented
enough; inside brackets also before the marks of a collection.
-/

namespace Stylebook.Yaml.Scan

def isFlowMark (c : Char) : Bool :=
  c == ',' || c == '[' || c == ']' || c == '\x7b' || c == '\x7d'

/-- Does a plain scalar end before `c`, with `next` after it? -/
def endsPlain (flow : Bool) (c next : Char) : Bool :=
  isGap c || (c == ':' && (isGap next || (flow && isFlowMark next))) ||
    (flow && (isFlowMark c || c == '?'))

/-- The front of a text up to the end of a plain word. -/
def plainWord (flow : Bool) : List Char → List Char
  | [] => []
  | c :: rest =>
    if endsPlain flow c (rest.headD '\x00') then [] else c :: plainWord flow rest

/-- The line ends after the first one, none if a separator of documents follows. -/
def plainBreaks : Nat → Scan (Option (List Char))
  | 0 => return some []
  | fuel + 1 => do
    skipBlanks
    if !isBreak (← peek) then return some []
    let b ← lineBreak
    if (← atSeparator) then return none
    return (← plainBreaks fuel).map (b ++ ·)

/-- What stands between two words, folded, and whether a line ended there. -/
def plainSpaces : Scan (List Char × Bool) := do
  let blanks ← takeWhile (· == ' ')
  if !isBreak (← peek) then return (blanks, false)
  let first ← lineBreak
  if (← atSeparator) then return ([], true)
  let fuel := (← get).fuel
  match ← plainBreaks fuel with
  | none => return ([], true)
  | some breaks => return (fold first breaks, true)

/-- The words of a plain scalar with `spaces` before them, and whether a line ended after the last. -/
def plainWords (flow : Bool) (indent : Nat) (broke : Bool) (spaces : List Char) :
    Nat → Scan (List Char × Bool)
  | 0 => return ([], broke)
  | fuel + 1 => do
    let rest := (← get).rest
    let word := if rest.head? == some '#' then [] else plainWord flow rest
    if word.isEmpty then return ([], broke)
    skip word.length
    let (after, broke) ← plainSpaces
    if after.isEmpty || (← peek) == '#' || (!flow && (← column) ≤ indent) then
      return (spaces ++ word, broke)
    let (more, broke) ← plainWords flow indent broke after fuel
    return (spaces ++ word ++ more, broke)

/-- A plain scalar in a block indented to column `indent`, and whether it ended a line. -/
def plainText (flow : Bool) (indent : Nat) : Scan (String × Bool) := do
  let (cs, broke) ← plainWords flow indent false [] (← get).fuel
  return (String.ofList cs, broke)

end Stylebook.Yaml.Scan
