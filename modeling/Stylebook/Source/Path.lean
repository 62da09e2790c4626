import Stylebook.Text.Cut

/-!
Paths of files. Empty steps and steps to the same directory drop out when a path is read; steps up
stay, for what they lead to depends on the directories that are there.
-/

namespace Stylebook

open Text (pieces joinWith)

/-- `root` holds the slashes at the front, one or two of them in an absolute path. -/
structure Path where
  root : String
  steps : List String
  deriving DecidableEq, Repr

namespace Path

/-- Two slashes at the front stand for themselves, any other number for one. -/
def rootOf (s : List Char) : String :=
  match (s.takeWhile (· == '/')).length with
  | 0 => ""
  | 2 => "//"
  | _ => "/"

def ofText (s : String) : Path where
  root := rootOf s.toList
  steps := ((pieces '/' s.toList).map String.ofList).filter fun step => step != "" && step != "."

def text (p : Path) : String :=
  if p.root.isEmpty && p.steps.isEmpty then "." else p.root ++ joinWith "/" p.steps

/-- The path of a file in the directory at `p`. -/
def child (p : Path) (name : String) : Path := { p with steps := p.steps ++ [name] }

/-- Does the last step end in `.json`, with something before it? -/
def isJson (p : Path) : Bool :=
  match p.steps.getLast? with
  | none => false
  | some name => ".json".toList.isSuffixOf name.toList && name != ".json"

end Path

/-- The place that an error is about: a file, a line in it with a column, and a component. -/
structure Origin where
  file : Path
  line : Option Int
  column : Option Int
  component : Option String
  deriving DecidableEq, Repr

namespace Origin

/-- The place on one line. A column shows only after a line. -/
def shown (c : Origin) : String :=
  c.file.text ++
    (match c.line, c.column with
      | none, _ => ""
      | some l, none => ":" ++ toString l
      | some l, some k => ":" ++ toString l ++ ":" ++ toString k) ++
    match c.component with
    | none => ""
    | some name => if name.isEmpty then "" else " in component " ++ name

/-- A message with its place on the line before it. -/
def head (c : Origin) (message : String) : String := c.shown ++ "\n" ++ message

end Origin

end Stylebook
