import Stylebook.Yaml.Property

/-!
Scalars in quotes. Between single quotes only a doubled quote is special; between double quotes a
backslash starts an escape. Line ends fold in both.
-/

namespace Stylebook.Yaml.Scan

open Text (isTabOrSpace)

/-- The escapes of one character. -/
def escapes : List (Char × Char) :=
  [('0', '\x00'), ('a', '\x07'), ('b', '\x08'), ('t', '\t'), ('\t', '\t'), ('n', '\n'), ('v', '\x0b'),
    ('f', '\x0c'), ('r', '\r'), ('e', '\x1b'), (' ', ' '), ('"', '"'), ('\\', '\\'), ('/', '/'),
    ('N', '\x85'), ('_', '\u00a0'), ('L', '\u2028'), ('P', '\u2029')]

/-- The number of hexadecimal digits after the letter of a numeric escape. -/
def escapeWidth? : Char → Option Nat
  | 'x' => some 2
  | 'u' => some 4
  | 'U' => some 8
  | _ => none

def numericEscape (width : Nat) : Scan (List Char) := do
  skip 1
  let code ← hexCode width ("escape sequence of " ++ toString width ++ " hexadecimal numbers")
  if 0x110000 ≤ code then throw (.scalar (.notCharacter code))
  if 0xd800 ≤ code && code < 0xe000 then return [Char.ofNat 0xfffd]
  return [Char.ofNat code]

/-- The empty lines inside a quoted scalar, from the start of a line on. -/
def quotedBreaks : Nat → Scan (List Char)
  | 0 => return []
  | fuel + 1 => do
    if (← atSeparator) then fail .separatorInQuotes
    discard (takeWhile isTabOrSpace)
    if !isBreak (← peek) then return []
    let b ← lineBreak
    return b ++ (← quotedBreaks fuel)

/-- What the escape after a backslash stands for. -/
def escape : Scan (List Char) := do
  let c ← peek
  match escapes.find? (·.1 == c), escapeWidth? c with
  | some e, _ =>
    skip 1
    return [e.2]
  | none, some width => numericEscape width
  | none, none =>
    if !isBreak c then fail (.unknownEscape c)
    discard lineBreak
    quotedBreaks (← get).fuel

/-- A part of a quoted scalar without blanks. -/
def quotedWord (double : Bool) : Nat → Scan (List Char)
  | 0 => return []
  | fuel + 1 => do
    let run ← takeWhile fun c => !(c == '\'' || c == '"' || c == '\\' || isGap c)
    let c ← peek
    let next ← peekAt 1
    if !double && c == '\'' && next == '\'' then
      skip 2
      return run ++ '\'' :: (← quotedWord double fuel)
    if (double && c == '\'') || (!double && (c == '"' || c == '\\')) then
      skip 1
      return run ++ c :: (← quotedWord double fuel)
    if double && c == '\\' then
      skip 1
      let e ← escape
      return run ++ e ++ (← quotedWord double fuel)
    return run

/-- The blanks between two words of a quoted scalar, or the line ends as they fold. -/
def quotedSpaces : Scan (List Char) := do
  let blanks ← takeWhile isTabOrSpace
  let c ← peek
  if c == '\x00' then fail .endInQuotes
  if !isBreak c then return blanks
  let first ← lineBreak
  return fold first (← quotedBreaks (← get).fuel)

def quotedRest (double : Bool) : Nat → Scan (List Char)
  | 0 => return []
  | fuel + 1 => do
    let word ← quotedWord double (← get).fuel
    if (← peek) == (if double then '"' else '\'') then return word
    let spaces ← quotedSpaces
    return word ++ spaces ++ (← quotedRest double fuel)

/-- A quoted scalar, both of its quotes included. -/
def quotedText : Scan String := do
  let double := (← peek) == '"'
  skip 1
  let cs ← quotedRest double (← get).fuel
  skip 1
  return String.ofList cs

end Stylebook.Yaml.Scan
