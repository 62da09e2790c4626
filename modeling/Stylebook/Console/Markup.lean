import Stylebook.Console.Picture
import Stylebook.Text.Blank
import Stylebook.Text.Pattern

/-!
Lines for a console in its markup language: tags in brackets set a style and do not show, a
backslash before a bracket makes it a plain one, and a short name between colons stands for a
picture. Main function: `Console.shown?`, the text that a console without styles shows.
-/

namespace Stylebook.Console

open Text (isLowerAscii pieces)

/-- A piece of marked text: plain text, or what a tag holds between its brackets. -/
inductive Piece where
  | plain (s : List Char)
  | tag (body : List Char)
  deriving DecidableEq, Repr

def startsTag (c : Char) : Bool := isLowerAscii c || c == '#' || c == '/' || c == '@'

/-- The tag at the front of a text, and what follows it. -/
def takeTag? : List Char → Option (List Char × List Char)
  | '[' :: c :: rest =>
    let body := rest.takeWhile fun d => d != '[' && d != ']'
    match rest.drop body.length with
    | ']' :: after => if startsTag c then some (c :: body, after) else none
    | _ => none
  | _ => none

/-- The tags of a text with the backslashes before them, and the plain text before each of these. -/
def cutTags : Nat → List Char → List (List Char × Nat × List Char) × List Char
  | 0, s => ([], s)
  | fuel + 1, s =>
    let before := s.takeWhile fun c => c != '\\' && c != '['
    let rest := s.drop before.length
    let slashes := rest.takeWhile (· == '\\')
    match takeTag? (rest.drop slashes.length), rest.drop slashes.length with
    | some (body, after), _ =>
      let (tags, tail) := cutTags fuel after
      ((before, slashes.length, body) :: tags, tail)
    | none, [] => ([], s)
    | none, c :: after =>
      let skipped := before ++ slashes ++ [c]
      match cutTags fuel after with
      | ((plain, n, body) :: tags, tail) => ((skipped ++ plain, n, body) :: tags, tail)
      | ([], tail) => ([], skipped ++ tail)

def bracketed (body : List Char) : List Char := '[' :: body ++ [']']

/-- Two backslashes before a tag stand for one; one that is left over makes the tag plain text. -/
def tagPieces (plain : List Char) (slashes : Nat) (body : List Char) : List Piece :=
  [.plain plain, .plain (List.replicate (slashes / 2) '\\'),
    if slashes % 2 = 1 then .plain (bracketed body) else .tag body]

/-- Marked text that shows as the given one, whatever that holds. -/
def literal (text : String) : String :=
  let s := text.toList
  let (tags, tail) := cutTags (s.length + 1) s
  let marked := (tags.flatMap fun t =>
    t.1 ++ List.replicate (2 * t.2.1 + 1) '\\' ++ bracketed t.2.2) ++ tail
  let slashes := (marked.reverse.takeWhile (· == '\\')).length
  .ofList (if slashes == 1 then marked ++ ['\\'] else marked)

/-- The name of a picture and the mark for its variant, which may stand after a hyphen. -/
def variantOf (name : List Char) : List Char × List Char :=
  let ending (e : String) := ('-' :: e.toList).isSuffixOf name
  let cut (e : String) := name.take (name.length - e.length - 1)
  if ending "emoji" then (cut "emoji", ['\ufe0f'])
  else if ending "text" then (cut "text", ['\ufe0e'])
  else (name, [])

/-- A text with pictures in place of their names between colons. -/
def withPictures : Nat → List Char → List Char
  | 0, s => s
  | fuel + 1, s =>
    match s with
    | [] => []
    | ':' :: rest =>
      let content := rest.takeWhile fun c => c != ':' && !Text.isBlank c
      match rest.drop content.length with
      | ':' :: after =>
        let (name, variant) := variantOf content
        (match picture? name with
          | some p => p ++ variant
          | none => ':' :: content ++ [':']) ++ withPictures fuel after
      | _ => ':' :: withPictures fuel rest
    | c :: rest => c :: withPictures fuel rest

/-- A backslash before a bracket that opens no tag does not show. -/
def dropSlashes : List Char → List Char
  | '\\' :: '[' :: rest => '[' :: dropSlashes rest
  | c :: rest => c :: dropSlashes rest
  | [] => []

def plainShown (s : List Char) : List Char := withPictures (s.length + 1) (dropSlashes s)

/-- The name of the style in a tag as it is compared: what stands before an equals sign, without blanks
around it and in lower case. -/
def styleName (s : List Char) : String := Text.lower (.ofList (Text.trimmed (s.takeWhile (· != '='))))

/-- What shows of some pieces, none if a tag closes what is not open. `opened` holds the styles that
are, the latest first. -/
def piecesShown? (opened : List String) : List Piece → Option (List Char)
  | [] => some []
  | .plain s :: rest => (piecesShown? opened rest).map (plainShown s ++ ·)
  | .tag ('/' :: body) :: rest =>
    let name := styleName body
    if name.isEmpty then
      if opened.isEmpty then none else piecesShown? opened.tail rest
    else if opened.contains name then piecesShown? (opened.erase name) rest
    else none
  | .tag body :: rest => piecesShown? (styleName body :: opened) rest

/-- Characters that move the cursor or ring a bell instead of being shown. -/
def isControl (c : Char) : Bool := [7, 8, 11, 12, 13].contains c.toNat

/-- The blanks up to the next multiple of eight columns, at least one. -/
def tabStop (column : Nat) : Nat := 8 - column % 8

/-- A text with blanks in place of its tabs. -/
def withoutTabs (column : Nat) : List Char → List Char
  | [] => []
  | '\t' :: rest =>
    List.replicate (tabStop column) ' ' ++ withoutTabs (column + tabStop column) rest
  | '\n' :: rest => '\n' :: withoutTabs 0 rest
  | c :: rest => c :: withoutTabs (column + 1) rest

/-- What a console shows of marked text, none if a tag closes what is not open. -/
def shown? (marked : String) : Option String :=
  let s := marked.toList
  let (tags, tail) := cutTags (s.length + 1) s
  let visible :=
    if s.contains '[' then
      piecesShown? [] ((tags.flatMap fun t => tagPieces t.1 t.2.1 t.2.2) ++ [.plain tail])
    else some (withPictures (s.length + 1) s)
  visible.map fun t => .ofList (withoutTabs 0 (t.filter (!isControl ·)))

end Stylebook.Console
