import Stylebook.Number.Limit
import Stylebook.Number.Reading
import Stylebook.Text.Position
import Stylebook.Value.Basic

/-!
JSON text read as a value. Besides the standard it admits `NaN`, `Infinity` and `-Infinity`. A
name that comes twice in an object keeps its first place and takes its last value. A fault says
what was expected and how many characters were left where it shows.
-/

namespace Stylebook.Json

open Text

inductive Problem where
  | expectedValue
  | expectedName
  | expectedColon
  | expectedComma
  | unexpectedRest
  | unterminated
  | controlCharacter
  | unknownEscape
  | badUnitEscape
  | byteOrderMark
  | tooManyDigits (count : Nat)
  deriving DecidableEq, Repr

namespace Problem

def message : Problem → String
  | expectedValue => "Expecting value"
  | expectedName => "Expecting property name enclosed in double quotes"
  | expectedColon => "Expecting ':' delimiter"
  | expectedComma => "Expecting ',' delimiter"
  | unexpectedRest => "Extra data"
  | unterminated => "Unterminated string starting at"
  | controlCharacter => "Invalid control character at"
  | unknownEscape => "Invalid \\escape"
  | badUnitEscape => "Invalid \\uXXXX escape"
  | byteOrderMark => "Unexpected UTF-8 BOM (decode using utf-8-sig)"
  | tooManyDigits n => tooManyDigitsMessage (some n)

end Problem

structure Fault where
  problem : Problem
  left : Nat
  deriving DecidableEq, Repr

def fail {α : Type} (p : Problem) (rest : List Char) : Except Fault α := .error ⟨p, rest.length⟩

def isSpace (c : Char) : Bool := c == ' ' || c == '\t' || c == '\n' || c == '\r'

def skipSpace (s : List Char) : List Char := s.dropWhile isSpace

def hexValue? (c : Char) : Option Nat :=
  if isDigitAscii c then some (c.toNat - '0'.toNat)
  else if 'a' ≤ c && c ≤ 'f' then some (c.toNat - 'a'.toNat + 10)
  else if 'A' ≤ c && c ≤ 'F' then some (c.toNat - 'A'.toNat + 10)
  else none

/-- The number that hexadecimal digits write. -/
def hexNumber? (ds : List Char) : Option Nat :=
  ds.foldl (fun n c => n.bind fun n => (hexValue? c).map (16 * n + ·)) (some 0)

/-- A UTF-16 unit of four hexadecimal digits; a text cannot end right after it. -/
def readUnit? (s : List Char) : Option (Nat × List Char) :=
  if s.length ≤ 4 then none else (hexNumber? (s.take 4)).map (·, s.drop 4)

def simpleEscape? : Char → Option Char
  | '"' => some '"'
  | '\\' => some '\\'
  | '/' => some '/'
  | 'b' => some '\x08'
  | 'f' => some '\x0c'
  | 'n' => some '\n'
  | 'r' => some '\r'
  | 't' => some '\t'
  | _ => none

/-- The character of a unit, joined with the low unit after it if the two make a pair. -/
def readCharacter (unit : Nat) (s : List Char) : Char × List Char :=
  let low := match s with
    | '\\' :: 'u' :: rest => if 0xd800 ≤ unit && unit < 0xdc00 then readUnit? rest else none
    | _ => none
  match low with
  | some (l, rest) =>
    if 0xdc00 ≤ l && l < 0xe000 then
      (Char.ofNat (0x10000 + (unit - 0xd800) * 0x400 + (l - 0xdc00)), rest)
    else (Char.ofNat 0xfffd, s)
  | none => (if 0xd800 ≤ unit && unit < 0xe000 then Char.ofNat 0xfffd else Char.ofNat unit, s)

/-- The characters of a text up to its closing quote; `start` is what follows the opening one, and
`done` holds what was read, backwards. -/
def readTextFrom (start : List Char) : Nat → List Char → List Char → Except Fault (String × List Char)
  | 0, _, _ => .error ⟨.unterminated, start.length + 1⟩
  | _ + 1, _, [] => .error ⟨.unterminated, start.length + 1⟩
  | _ + 1, done, '"' :: rest => .ok (String.ofList done.reverse, rest)
  | fuel + 1, done, '\\' :: 'u' :: rest =>
    match readUnit? rest with
    | none => fail .badUnitEscape ('u' :: rest)
    | some (unit, rest) =>
      let (c, rest) := readCharacter unit rest
      readTextFrom start fuel (c :: done) rest
  | _ + 1, _, ['\\'] => .error ⟨.unterminated, start.length + 1⟩
  | fuel + 1, done, '\\' :: c :: rest =>
    match simpleEscape? c with
    | none => fail .unknownEscape ('\\' :: c :: rest)
    | some d => readTextFrom start fuel (d :: done) rest
  | fuel + 1, done, c :: rest =>
    if c.toNat < 0x20 then fail .controlCharacter (c :: rest)
    else readTextFrom start fuel (c :: done) rest

def readText (s : List Char) : Except Fault (String × List Char) := readTextFrom s (s.length + 1) [] s

/-- The integer part of a number: a lone zero, or digits that do not start with one. -/
def readWhole? : List Char → Option (List Char × List Char)
  | '0' :: rest => some (['0'], rest)
  | c :: rest =>
    if isDigitAscii c then some (c :: rest.takeWhile isDigitAscii, rest.dropWhile isDigitAscii)
    else none
  | [] => none

def readFraction? : List Char → Option (List Char × List Char)
  | '.' :: rest =>
    let ds := rest.takeWhile isDigitAscii
    if ds.isEmpty then none else some (ds, rest.dropWhile isDigitAscii)
  | _ => none

def readPower? : List Char → Option (Int × List Char)
  | c :: rest =>
    if c == 'e' || c == 'E' then
      let (negative, ds) := takeSign rest
      let digits := ds.takeWhile isDigitAscii
      if digits.isEmpty then none
      else
        let n : Int := digitsValue digits
        some (if negative then -n else n, ds.dropWhile isDigitAscii)
    else none
  | [] => none

/-- A number: an integer unless it has a fraction or an exponent. -/
def readNumber (s : List Char) : Except Fault (Number × List Char) :=
  let (negative, unsigned) := match s with
    | '-' :: rest => (true, rest)
    | rest => (false, rest)
  match readWhole? unsigned with
  | none => fail .expectedValue s
  | some (whole, rest) =>
    let fraction := readFraction? rest
    let afterFraction := (fraction.map Prod.snd).getD rest
    let power := readPower? afterFraction
    let afterPower := (power.map Prod.snd).getD afterFraction
    if fraction.isNone && power.isNone then
      if maxDigits < whole.length then fail (.tooManyDigits whole.length) s
      else
        let n : Int := digitsValue whole
        .ok (.int (if negative then -n else n), afterPower)
    else
      let ds := (fraction.map Prod.fst).getD []
      .ok (.float (.ofDecimal negative (digitsValue (whole ++ ds))
        ((power.map Prod.fst).getD 0 - ds.length)), afterPower)

/-- The words that stand for values. -/
def constants : List (List Char × Value) :=
  [("null".toList, .null), ("true".toList, .bool true), ("false".toList, .bool false),
    ("NaN".toList, .number (.float .nan)), ("Infinity".toList, .number (.float (.infinite false))),
    ("-Infinity".toList, .number (.float (.infinite true)))]

def readConstant? (s : List Char) : Option (Value × List Char) :=
  (constants.find? fun e => e.1.isPrefixOf s).map fun e => (e.2, s.drop e.1.length)

mutual

def readValue : Nat → List Char → Except Fault (Value × List Char)
  | 0, s => fail .expectedValue s
  | _ + 1, [] => fail .expectedValue []
  | _ + 1, '"' :: rest => do
    let (t, rest) ← readText rest
    return (.text t, rest)
  | fuel + 1, '[' :: rest =>
    match skipSpace rest with
    | ']' :: rest => .ok (.list [], rest)
    | rest => do
      let (items, rest) ← readItems fuel rest
      return (.list items, rest)
  | fuel + 1, '\x7b' :: rest =>
    match skipSpace rest with
    | '\x7d' :: rest => .ok (.object [], rest)
    | rest => do
      let (fields, rest) ← readFields fuel [] rest
      return (.object fields, rest)
  | _ + 1, s =>
    match readConstant? s with
    | some found => .ok found
    | none => do
      let (n, rest) ← readNumber s
      return (.number n, rest)

def readItems : Nat → List Char → Except Fault (List Value × List Char)
  | 0, s => fail .expectedValue s
  | fuel + 1, s => do
    let (v, rest) ← readValue fuel s
    match skipSpace rest with
    | ']' :: rest => return ([v], rest)
    | ',' :: rest =>
      let (items, rest) ← readItems fuel (skipSpace rest)
      return (v :: items, rest)
    | rest => fail .expectedComma rest

def readFields : Nat → Fields → List Char → Except Fault (Fields × List Char)
  | 0, _, s => fail .expectedName s
  | fuel + 1, done, '"' :: s => do
    let (name, rest) ← readText s
    match skipSpace rest with
    | ':' :: rest =>
      let (v, rest) ← readValue fuel (skipSpace rest)
      let done := done.set name v
      match skipSpace rest with
      | '\x7d' :: rest => return (done, rest)
      | ',' :: rest => readFields fuel done (skipSpace rest)
      | rest => fail .expectedComma rest
    | rest => fail .expectedColon rest
  | _ + 1, _, s => fail .expectedName s

end

/-- A fault with the position where it shows. -/
structure ReadError where
  problem : Problem
  position : Position
  deriving DecidableEq, Repr

/-- Steps for a text of this length: a bracket takes two, one for it and one for its first item. -/
def stepsFor (length : Nat) : Nat := 2 * length + 2

def parseChars (s : List Char) : Except Fault Value := do
  if s.head? == some (Char.ofNat 0xfeff) then fail .byteOrderMark s
  let (v, rest) ← readValue (stepsFor s.length) (skipSpace s)
  match skipSpace rest with
  | [] => return v
  | rest => fail .unexpectedRest rest

def parse (text : String) : Except ReadError Value :=
  let s := text.toList
  (parseChars s).mapError fun f => ⟨f.problem, positionAt s (s.length - f.left)⟩

end Stylebook.Json
