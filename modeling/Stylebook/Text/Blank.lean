/-!
Blank characters, trimming and words. Main statement: no word has a blank in it.
-/

namespace Stylebook.Text

/-- Tabs, line ends, the four information separators, and the space separators of every script. -/
def isBlank (c : Char) : Bool :=
  let n := c.toNat
  (0x09 ≤ n && n ≤ 0x0d) || (0x1c ≤ n && n ≤ 0x20) || n == 0x85 || n == 0xa0 || n == 0x1680 ||
    (0x2000 ≤ n && n ≤ 0x200a) || n == 0x2028 || n == 0x2029 || n == 0x202f || n == 0x205f ||
    n == 0x3000

/-- The blanks that may stand inside a line. -/
def isTabOrSpace (c : Char) : Bool := c == ' ' || c == '\t'

variable {p : Char → Bool} {s : List Char}

def dropTail (p : Char → Bool) (s : List Char) : List Char := (s.reverse.dropWhile p).reverse

/-- `s` without the characters of class `p` at its ends. -/
def trimBy (p : Char → Bool) (s : List Char) : List Char := dropTail p (s.dropWhile p)

def trimmed (s : List Char) : List Char := trimBy isBlank s

def trim (s : String) : String := String.ofList (trimmed s.toList)

/-- The maximal runs of characters that are not blank, `run` being the one under way. -/
def wordsFrom (run : List Char) : List Char → List (List Char)
  | [] => if run.isEmpty then [] else [run]
  | c :: cs =>
    if isBlank c then (if run.isEmpty then wordsFrom [] cs else run :: wordsFrom [] cs)
    else wordsFrom (run ++ [c]) cs

def words (s : String) : List String := (wordsFrom [] s.toList).map String.ofList

/-- Is there anything but blanks in the text? -/
def isBlankText (s : String) : Bool := s.toList.all isBlank

theorem dropWhile_head (h : ∀ c ∈ s.head?, p c = false) : s.dropWhile p = s := by
  cases s with
  | nil => rfl
  | cons c cs => simp [h c rfl]

theorem head?_dropWhile_false : ∀ c ∈ (s.dropWhile p).head?, p c = false := by
  induction s with
  | nil => simp
  | cons c cs ih =>
    by_cases h : p c
    · simpa [List.dropWhile_cons, h] using ih
    · simp [h]

/-- Blanks around a text that has none at its ends itself are trimmed. -/
theorem trimmed_append {before after : List Char} (hb : ∀ c ∈ before, isBlank c = true)
    (ha : ∀ c ∈ after, isBlank c = true) (hhead : ∀ c ∈ s.head?, isBlank c = false)
    (hlast : ∀ c ∈ s.getLast?, isBlank c = false) : trimmed (before ++ s ++ after) = s := by
  have hfront : (before ++ s ++ after).dropWhile isBlank = (s ++ after).dropWhile isBlank := by
    rw [List.append_assoc, List.dropWhile_append_of_pos hb]
  rw [trimmed, trimBy, hfront]
  cases s with
  | nil =>
    rw [List.nil_append, ← List.append_nil after, List.dropWhile_append_of_pos ha]
    rfl
  | cons c s =>
    rw [dropWhile_head (by simpa using hhead), dropTail, List.reverse_append,
      List.dropWhile_append_of_pos (by simpa using ha),
      dropWhile_head (by rwa [List.head?_reverse]), List.reverse_reverse]

theorem wordsFrom_nonblank {run : List Char} (h : ∀ c ∈ run, isBlank c = false) :
    ∀ w ∈ wordsFrom run s, ∀ c ∈ w, isBlank c = false := by
  induction s generalizing run with
  | nil =>
    intro w hw
    rw [wordsFrom] at hw
    split at hw
    · simp at hw
    · obtain rfl := List.mem_singleton.1 hw
      exact h
  | cons c cs ih =>
    intro w hw
    rw [wordsFrom] at hw
    split at hw
    · split at hw
      · exact ih (by simp) w hw
      · rcases List.mem_cons.1 hw with rfl | hw
        · exact h
        · exact ih (by simp) w hw
    · rename_i hc
      refine ih ?_ w hw
      intro d hd
      rcases List.mem_append.1 hd with hd | hd
      · exact h d hd
      · obtain rfl := List.mem_singleton.1 hd
        simpa using hc

end Stylebook.Text
