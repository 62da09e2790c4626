import Stylebook.Text.Quoted

/-!
Text from bytes in UTF-8, with the bytes at fault where there is none, and the joining of the three
kinds of line end into one.
-/

namespace Stylebook.Text

inductive Utf8Defect where
  | start
  | continuation
  | truncated
  deriving DecidableEq, Repr

namespace Utf8Defect

def message : Utf8Defect → String
  | start => "invalid start byte"
  | continuation => "invalid continuation byte"
  | truncated => "unexpected end of data"

end Utf8Defect

/-- The `length` bytes from `position` on, the first of which is `byte`, are no character. -/
structure Utf8Error where
  defect : Utf8Defect
  byte : UInt8
  position : Nat
  length : Nat
  deriving DecidableEq, Repr

def Utf8Error.message (e : Utf8Error) : String :=
  "'utf-8' codec can't decode " ++
    (if e.length == 1 then
      "byte 0x" ++ String.ofList (hexDigits 2 e.byte.toNat) ++ " in position " ++ toString e.position
    else "bytes in position " ++ toString e.position ++ "-" ++
      toString (e.position + e.length - 1)) ++ ": " ++ e.defect.message

/-- The ranges of the bytes after a first byte. The narrower ones leave out characters that have a
shorter form, surrogates, and what is above the last character. -/
def tailRanges? (b : Nat) : Option (List (Nat × Nat)) :=
  let any := (0x80, 0xbf)
  if b < 0x80 then some []
  else if b < 0xc2 then none
  else if b < 0xe0 then some [any]
  else if b == 0xe0 then some [(0xa0, 0xbf), any]
  else if b == 0xed then some [(0x80, 0x9f), any]
  else if b < 0xf0 then some [any, any]
  else if b == 0xf0 then some [(0x90, 0xbf), any, any]
  else if b < 0xf4 then some [any, any, any]
  else if b == 0xf4 then some [(0x80, 0x8f), any, any]
  else none

/-- The number whose digits in base 64 follow `high`, one for each range; or the defect and the
number of bytes it spans, the first byte of the character included. -/
def readTail (high : Nat) : List (Nat × Nat) → Nat → List UInt8 → Except (Utf8Defect × Nat) Nat
  | [], _, _ => .ok high
  | _ :: _, seen, [] => .error (.truncated, seen)
  | r :: ranges, seen, b :: rest =>
    if r.1 ≤ b.toNat && b.toNat ≤ r.2 then readTail (high * 64 + b.toNat % 64) ranges (seen + 1) rest
    else .error (.continuation, seen)

/-- What a first byte with `n` bytes after it adds to the character. -/
def leadBits (n b : Nat) : Nat :=
  match n with
  | 0 => b
  | 1 => b % 32
  | 2 => b % 16
  | _ => b % 8

def decodeFrom (position : Nat) (skipped : Nat) : List UInt8 → Except Utf8Error (List Char)
  | [] => .ok []
  | b :: rest =>
    match skipped with
    | n + 1 => decodeFrom position n rest
    | 0 =>
      match tailRanges? b.toNat with
      | none => .error ⟨.start, b, position, 1⟩
      | some ranges =>
        match readTail (leadBits ranges.length b.toNat) ranges 1 rest with
        | .error (d, n) => .error ⟨d, b, position, n⟩
        | .ok code =>
          (decodeFrom (position + ranges.length + 1) ranges.length rest).map (Char.ofNat code :: ·)

def decodeUtf8 (bytes : List UInt8) : Except Utf8Error String :=
  (decodeFrom 0 0 bytes).map String.ofList

/-- Every line end as a line feed: a carriage return counts as one, together with the line feed
after it. -/
def joinLineEnds : List Char → List Char
  | '\r' :: '\n' :: rest => '\n' :: joinLineEnds rest
  | '\r' :: rest => '\n' :: joinLineEnds rest
  | c :: rest => c :: joinLineEnds rest
  | [] => []

end Stylebook.Text
