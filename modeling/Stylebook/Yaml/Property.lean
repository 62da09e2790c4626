import Stylebook.Json.Reader
import Stylebook.Yaml.Cursor

/-!
Anchors, aliases, tags and directives.
-/

namespace Stylebook.Yaml.Scan

open Text (isLetterAscii isDigitAscii Position)
open Json (hexValue? hexNumber?)

def isNameChar (c : Char) : Bool := isLetterAscii c || isDigitAscii c || c == '-' || c == '_'

def isUriChar (c : Char) : Bool :=
  isLetterAscii c || isDigitAscii c || "-;/?:@&=+$,_.!~*'()[]%".toList.contains c

/-- Fails unless the next character is in the class `p`. -/
def require (p : Char → Bool) (what : String) : Scan Unit := do
  let c ← peek
  if !p c then fail (.expected what c)

/-- `n` hexadecimal digits; the cursor stays where it is if one of them is missing. -/
def hexCode (n : Nat) (what : String) : Scan Nat := do
  let ds := (List.range n).map (← get).peekAt
  match ds.find? fun c => (hexValue? c).isNone with
  | some c => fail (.expected what c)
  | none =>
    skip n
    return (hexNumber? ds).getD 0

/-- A name of one or more characters. -/
def name : Scan String := do
  let run ← takeWhile isNameChar
  if run.isEmpty then
    fail (.expected "alphabetic or numeric character" (← peek))
  return String.ofList run

/-- The name after `&` or `*`. -/
def anchorName : Scan String := do
  skip 1
  let n ← name
  require (fun c => isGap c || "?:,]\x7d%@`".toList.contains c) "alphabetic or numeric character"
  return n

/-- The bytes of a run of escapes such as `%C3%A9`. -/
def uriBytes : Nat → Scan (List UInt8)
  | 0 => return []
  | fuel + 1 => do
    if (← peek) != '%' then return []
    skip 1
    let b ← hexCode 2 "URI escape sequence of 2 hexadecimal numbers"
    return UInt8.ofNat b :: (← uriBytes fuel)

def uriEscapes : Scan (List Char) := do
  let start ← position
  match Text.decodeUtf8 (← uriBytes (← get).fuel) with
  | .ok s => return s.toList
  | .error e => failAt (.badBytes e) start

def uriParts : Nat → Scan (List Char)
  | 0 => return []
  | fuel + 1 => do
    let run ← takeWhile fun c => isUriChar c && c != '%'
    if (← peek) == '%' then
      let escaped ← uriEscapes
      return run ++ escaped ++ (← uriParts fuel)
    return run

def uri : Scan String := do
  let start := (← get).index
  let cs ← uriParts (← get).fuel
  if (← get).index == start then fail (.expected "URI" (← peek))
  return String.ofList cs

/-- A tag handle: `!`, or a name between two of them. -/
def handle : Scan String := do
  require (· == '!') "'!'"
  if (← peekAt 1) == ' ' then
    skip 1
    return "!"
  let run := ((← get).rest.drop 1).takeWhile isNameChar
  let c ← peekAt (run.length + 1)
  if c != '!' then
    skip (run.length + 1)
    fail (.expected "'!'" c)
  skip (run.length + 2)
  return String.ofList ('!' :: run ++ ['!'])

/-- A tag: verbatim between `<` and `>`, a lone `!`, or a handle with what follows it. -/
def tag : Scan Token.Kind := do
  let c ← peekAt 1
  let kind ←
    if c == '<' then do
      skip 2
      let u ← uri
      require (· == '>') "'>'"
      skip 1
      pure (Token.Kind.tag none u)
    else if isGap c then do
      skip 1
      pure (Token.Kind.tag none "!")
    else do
      let word := ((← get).rest.drop 1).takeWhile (!endsWord ·)
      let h ← if word.contains '!' then handle else do skip 1; pure "!"
      pure (Token.Kind.tag (some h) (← uri))
  require endsWord "' '"
  return kind

def versionNumber : Scan Nat := do
  require isDigitAscii "a digit"
  return digitsValue (← takeWhile isDigitAscii)

def versionDirective : Scan Directive := do
  skipBlanks
  let major ← versionNumber
  require (· == '.') "a digit or '.'"
  skip 1
  let minor ← versionNumber
  require endsWord "a digit or ' '"
  return .version major minor

def handleDirective : Scan Directive := do
  skipBlanks
  let h ← handle
  require (· == ' ') "' '"
  skipBlanks
  let u ← uri
  require endsWord "' '"
  return .handle h u

/-- The rest of a line that may hold nothing but a comment. -/
def lineRest : Scan Unit := do
  skipBlanks
  skipComment
  require endsLine "a comment or a line break"
  discard lineBreak

def directive : Scan Directive := do
  skip 1
  let n ← name
  require endsWord "alphabetic or numeric character"
  let d ←
    if n == "YAML" then versionDirective
    else if n == "TAG" then handleDirective
    else do
      discard (takeWhile (!endsLine ·))
      pure (.reserved n)
  lineRest
  return d

end Stylebook.Yaml.Scan
