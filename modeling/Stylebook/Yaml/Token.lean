import Stylebook.Text.Position

/-!
The tokens of a YAML text: marks, properties of nodes, scalars, and the openers and closers of
blocks, which stand for changes of indentation.
-/

namespace Stylebook.Yaml

open Text (Position)

inductive Directive where
  | version (major minor : Nat)
  | handle (name uri : String)
  | reserved (name : String)
  deriving DecidableEq, Repr

inductive Token.Kind where
  | streamEnd
  | directive (d : Directive)
  | documentStart
  | documentEnd
  | blockSequenceStart
  | blockMappingStart
  | blockEnd
  | flowSequenceStart
  | flowMappingStart
  | flowSequenceEnd
  | flowMappingEnd
  | key
  | value
  | blockEntry
  | flowEntry
  | aliasOf (name : String)
  | anchor (name : String)
  | tag (handle : Option String) (rest : String)
  | scalar (text : String) (plain : Bool)
  deriving DecidableEq, Repr

structure Token where
  kind : Token.Kind
  position : Position
  deriving DecidableEq, Repr

namespace Token.Kind

/-- A kind's name in messages. -/
def label : Token.Kind → String
  | streamEnd => "<stream end>"
  | directive _ => "<directive>"
  | documentStart => "<document start>"
  | documentEnd => "<document end>"
  | blockSequenceStart => "<block sequence start>"
  | blockMappingStart => "<block mapping start>"
  | blockEnd => "<block end>"
  | flowSequenceStart => "["
  | flowMappingStart => "\x7b"
  | flowSequenceEnd => "]"
  | flowMappingEnd => "\x7d"
  | key => "?"
  | value => ":"
  | blockEntry => "-"
  | flowEntry => ","
  | aliasOf _ => "<alias>"
  | anchor _ => "<anchor>"
  | tag _ _ => "<tag>"
  | scalar _ _ => "<scalar>"

end Token.Kind

end Stylebook.Yaml
