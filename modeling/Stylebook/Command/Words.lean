import Stylebook.Pairs
import Stylebook.Text.Cut

/-!
The words of a command line, sorted into options and operands. A long option may hold its value
after `=`, and a short one right after its letter; otherwise the next word is the value. After `--`
every word is an operand.
-/

namespace Stylebook.Command

open Text (cutFirst)

structure OptionSpec where
  name : String
  letter : Option Char
  valued : Bool

/-- Options that were given, with the last value of each; flags have an empty one. -/
structure Words where
  options : List (String × String)
  operands : List String
  deriving DecidableEq, Repr

namespace Words

def none : Words := ⟨[], []⟩

def flag (w : Words) (name : String) : Bool := (Pairs.get? name w.options).isSome

def value? (w : Words) (name : String) : Option String := Pairs.get? name w.options

def setOption (w : Words) (name value : String) : Words :=
  { w with options := Pairs.set name value w.options }

/-- Reads letters after a hyphen. Also gives the name of an option that still needs its value. -/
def readLetters (specs : List OptionSpec) (w : Words) : List Char → Option (Words × Option String)
  | [] => some (w, .none)
  | c :: rest => do
    let spec ← specs.find? fun s => s.letter == some c
    if !spec.valued then readLetters specs (w.setOption spec.name "") rest
    else if rest.isEmpty then some (w, some spec.name)
    else some (w.setOption spec.name (String.ofList rest), .none)

/-- Reads what follows two hyphens. -/
def readLong (specs : List OptionSpec) (w : Words) (s : List Char) : Option (Words × Option String) := do
  let (name, value) := cutFirst '=' s
  let spec ← specs.find? fun o => o.name == String.ofList name
  match spec.valued, value with
  | false, .none => some (w.setOption spec.name "", .none)
  | false, some _ => .none
  | true, .none => some (w, some spec.name)
  | true, some v => some (w.setOption spec.name (String.ofList v), .none)

/-- Reads one word: an option, or an operand. -/
def readWord (specs : List OptionSpec) (w : Words) (word : String) : Option (Words × Option String) :=
  match word.toList with
  | '-' :: '-' :: name => readLong specs w name
  | '-' :: c :: letters => readLetters specs w (c :: letters)
  | _ => some ({ w with operands := w.operands ++ [word] }, .none)

/-- Sorts words, `awaited` being the option that takes the next one as its value; none if an option
is unknown, lacks its value, or has one that it does not take. -/
def read (specs : List OptionSpec) (w : Words) (awaited : Option String) :
    List String → Option Words
  | [] => if awaited.isSome then .none else some w
  | word :: rest =>
    match awaited with
    | some name => read specs (w.setOption name word) .none rest
    | .none =>
      if word == "--" then some { w with operands := w.operands ++ rest }
      else do
        let (w, awaited) ← readWord specs w word
        read specs w awaited rest

end Words

end Stylebook.Command
