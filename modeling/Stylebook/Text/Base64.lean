import Stylebook.Text.Utf8

/-!
Bytes from text in base 64, where a group of four characters holds three bytes, six bits each.
Characters outside the alphabet count for nothing, and padding ends the text where it fills a group.
-/

namespace Stylebook.Text

inductive Base64Defect where
  /-- The last of so many characters has nothing to stand with. -/
  | loose (count : Nat)
  | padding
  deriving DecidableEq, Repr

def Base64Defect.message : Base64Defect → String
  | loose n =>
    "Invalid base64-encoded string: number of data characters (" ++ toString n ++
      ") cannot be 1 more than a multiple of 4"
  | padding => "Incorrect padding"

def base64Alphabet : List Char :=
  "ABCDEFGHIJKLMNOPQRSTUVWXYZabcdefghijklmnopqrstuvwxyz0123456789+/".toList

/-- The bytes of a group of two to four digits: what is left of the last digit is dropped. -/
def groupBytes : List Nat → List UInt8
  | [a, b] => [UInt8.ofNat (4 * a + b / 16)]
  | [a, b, c] => groupBytes [a, b] ++ [UInt8.ofNat (b % 16 * 16 + c / 4)]
  | [a, b, c, d] => groupBytes [a, b, c] ++ [UInt8.ofNat (c % 4 * 64 + d)]
  | _ => []

/-- Reads on after `full` whole groups, with the digits of the group under way and the number of
padding marks right after them. -/
def base64From (full : Nat) (group : List Nat) (marks : Nat) :
    List Char → Except Base64Defect (List UInt8)
  | [] =>
    match group with
    | [] => .ok []
    | [_] => .error (.loose (4 * full + 1))
    | _ => .error .padding
  | c :: rest =>
    if c == '=' then
      if group.length < 2 then base64From full group marks rest
      else if 4 ≤ group.length + marks + 1 then .ok (groupBytes group)
      else base64From full group (marks + 1) rest
    else match base64Alphabet.idxOf? c with
      | none => base64From full group marks rest
      | some d =>
        if group.length == 3 then
          (base64From (full + 1) [] 0 rest).map (groupBytes (group ++ [d]) ++ ·)
        else base64From full (group ++ [d]) 0 rest

def decodeBase64 (s : List Char) : Except Base64Defect (List UInt8) := base64From 0 [] 0 s

/-- The text that bytes spell in UTF-8; if they spell none, each byte is a character. -/
def spelled (bytes : List UInt8) : String :=
  match decodeUtf8 bytes with
  | .ok s => s
  | .error _ => String.ofList (bytes.map fun b => Char.ofNat b.toNat)

end Stylebook.Text
