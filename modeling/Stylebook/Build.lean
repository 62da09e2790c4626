import Stylebook.Check.Schema
import Stylebook.Manifest.Basic
import Stylebook.Stylesheet.Compile

/-!
Building a system: the check of its description, its stylesheet and its manifest. A strict build
of a system with a bad verdict holds the stylesheet back.
-/

namespace Stylebook

structure Build where
  success : Bool
  css : String
  manifest : Manifest
  errors : List String
  warnings : List String

structure BuildOptions where
  short : Bool
  cssPrefix : Option String
  strict : Option Bool

namespace DesignSystem

/-- The system with the prefix that is asked for; an empty one counts as none. -/
def withPrefix? (s : DesignSystem) (p : Option String) : DesignSystem :=
  match p with
  | some p => if p.isEmpty then s else s.withPrefix p
  | none => s

/-- The build of a system. There is none if an issue, the stylesheet or the manifest cannot be written; a
strict build of a system with a bad verdict writes no stylesheet. -/
def build (s : DesignSystem) (o : BuildOptions) : Except Unfit Build := do
  let strict := o.strict.getD s.settings.strict
  let verdict ← s.checked (some strict)
  let errors := verdict.errors.map Issue.line
  let warnings := verdict.warnings.map Issue.line
  let target := s.withPrefix? o.cssPrefix
  if strict && !verdict.valid then return ⟨false, "", ← target.manifest, errors, warnings⟩
  else return ⟨errors.isEmpty, ← target.stylesheet o.short, ← target.manifest, errors, warnings⟩

end DesignSystem

end Stylebook
