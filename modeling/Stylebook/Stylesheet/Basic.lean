import Stylebook.Text.Cut

/-!
Stylesheets as data, and their text. A block is a rule, or a rule under a media query; a sheet has
a title, blocks that declare custom properties, and rules for each component.
-/

namespace Stylebook

open Text

structure Declaration where
  property : String
  value : String
  deriving DecidableEq, Repr

/-- Declarations under one or more selectors. -/
structure Rule where
  selectors : List String
  declarations : List Declaration
  deriving DecidableEq, Repr

inductive Block where
  | rule (r : Rule)
  | media (query : String) (r : Rule)
  deriving DecidableEq, Repr

/-- `root` and `dark` are none when the sheet leaves them out. -/
structure Sheet where
  title : String
  root : Option Block
  dark : Option (List Block)
  components : List (String × List Rule)
  deriving DecidableEq, Repr

def Declaration.text (d : Declaration) : String := d.property ++ ": " ++ d.value ++ ";"

namespace Rule

def selector (r : Rule) : String := joinWith ",\n" r.selectors

/-- The lines of a rule, each after `pad`. -/
def lines (pad : String) (r : Rule) : List String :=
  (pad ++ r.selector ++ " \x7b") :: (r.declarations.map fun d => pad ++ "  " ++ d.text) ++
    [pad ++ "\x7d"]

def text (r : Rule) : String := joinWith "\n" (r.lines "")

end Rule

namespace Block

def lines : Block → List String
  | rule r => r.lines ""
  | media query r => ("@media " ++ query ++ " \x7b") :: r.lines "  " ++ ["\x7d"]

def text (b : Block) : String := joinWith "\n" b.lines

end Block

/-- Texts with an empty line between them. -/
def paragraphs (l : List String) : String := joinWith "\n\n" l

def comment (s : String) : String := "/* " ++ s ++ " */"

namespace Sheet

/-- The parts of a sheet, each with an empty line after it. -/
def parts (s : Sheet) : List String :=
  [comment s.title, ""] ++
    (s.root.toList.flatMap fun b => [b.text, ""]) ++
    (s.dark.toList.flatMap fun bs => [paragraphs (bs.map Block.text), ""]) ++
    s.components.flatMap fun c =>
      [comment ("Component: " ++ c.1), paragraphs (c.2.map Rule.text), ""]

def text (s : Sheet) : String := joinWith "\n" s.parts

/-- The blocks of a sheet in order. -/
def blocks (s : Sheet) : List Block :=
  s.root.toList ++ s.dark.getD [] ++ s.components.flatMap fun c => c.2.map .rule

end Sheet

end Stylebook
