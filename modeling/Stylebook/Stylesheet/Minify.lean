import Stylebook.Text.Blank

/-!
Shortening a stylesheet: comments go, runs of blanks become one space, no space stays beside a
mark, and no semicolon stays before a closing brace.
-/

namespace Stylebook.Minify

open Text

/-- What follows the end of the comment that is under way. -/
def afterComment? : List Char → Option (List Char)
  | [] => none
  | '*' :: '/' :: rest => some rest
  | _ :: rest => afterComment? rest

theorem length_afterComment? {s r : List Char} (h : afterComment? s = some r) :
    r.length < s.length := by
  induction s using afterComment?.induct with
  | case1 => simp [afterComment?] at h
  | case2 rest =>
    rw [afterComment?, Option.some.injEq] at h
    subst h
    simp only [List.length_cons]
    omega
  | case3 c rest hne ih =>
    rw [afterComment?] at h
    · have := ih h
      simp only [List.length_cons]
      omega
    · exact hne

/-- The text without its comments; a comment with no end stays. -/
def dropComments : List Char → List Char
  | [] => []
  | '/' :: '*' :: rest =>
    match _h : afterComment? rest with
    | some after => dropComments after
    | none => '/' :: '*' :: rest
  | c :: rest => c :: dropComments rest
termination_by s => s.length
decreasing_by
  · have := length_afterComment? _h
    simp only [List.length_cons]
    omega
  · simp

/-- Every run of blanks as one space; `after` says whether a blank came last. -/
def squeeze (after : Bool) : List Char → List Char
  | [] => []
  | c :: rest =>
    if isBlank c then (if after then squeeze true rest else ' ' :: squeeze true rest)
    else c :: squeeze false rest

/-- The marks that need no space beside them. -/
def isMark (c : Char) : Bool := c == '\x7b' || c == '\x7d' || c == ':' || c == ';' || c == ','

/-- Drops each space that has a mark before or after it; `before` says whether a mark came last. -/
def tighten (before : Bool) : List Char → List Char
  | [] => []
  | c :: rest =>
    if c == ' ' && (before || (rest.head?.map isMark).getD false) then tighten false rest
    else c :: tighten (isMark c) rest

def dropFinalSemicolons : List Char → List Char
  | [] => []
  | c :: rest =>
    if c == ';' && rest.head? == some '\x7d' then dropFinalSemicolons rest
    else c :: dropFinalSemicolons rest

/-- All steps on a text given as characters. -/
def shorten (s : List Char) : List Char :=
  trimmed (dropFinalSemicolons (tighten false (squeeze false (dropComments s))))

end Stylebook.Minify

namespace Stylebook

def minify (css : String) : String := String.ofList (Minify.shorten css.toList)

end Stylebook
