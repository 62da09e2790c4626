import Stylebook.Check.Reference
import Stylebook.DesignSystem
import Stylebook.Text.Pattern
import Stylebook.Unfit

/-!
The consistency of a design system: names, domains, and references between its parts.
-/

namespace Stylebook

open Text

/-- A small letter or digit, then such characters, dots and hyphens. -/
def isTokenName (s : String) : Bool :=
  let first c := isLowerAscii c || isDigitAscii c
  isNamed first (fun c => first c || c == '.' || c == '-') s.toList

/-- A small letter, then letters and digits. -/
def isPropertyName (s : String) : Bool :=
  isNamed isLowerAscii (fun c => isLetterAscii c || isDigitAscii c) s.toList

/-- A small letter or digit, then such characters and hyphens. -/
def isEnumValue (s : String) : Bool :=
  let first c := isLowerAscii c || isDigitAscii c
  isNamed first (fun c => first c || c == '-') s.toList

/-- Is there nothing but blanks in a literal? -/
def Literal.isBlank : Literal → Bool
  | text s => isBlankText s
  | number _ => false

def tokenIssues (category name : String) (value : Literal) : List Issue :=
  let path := "tokens." ++ category ++ "." ++ name
  (if isTokenName name then [] else [⟨.warning, .invalidTokenName,
    "Token name " ++ quoteName name ++ " in category " ++ quoteName category ++
      " should be kebab-case", path, none⟩]) ++
  (if value.isBlank then [⟨.error, .emptyTokenValue,
    "Token " ++ quoteName (category ++ "." ++ name) ++ " has empty value", path, none⟩] else [])

def Tokens.issues (tokens : Tokens) : List Issue :=
  tokens.all.flatMap fun t => tokenIssues t.1 t.2.1 t.2.2

namespace Property

variable (name path : String)

def nameIssues : List Issue :=
  if isPropertyName name then [] else [⟨.warning, .invalidPropertyName,
    "Property name " ++ quoteName name ++ " should be camelCase", path, none⟩]

def enumIssues (values : List String) : List Issue :=
  (if values.isEmpty then [⟨.error, .emptyEnum,
    "Enum property " ++ quoteName name ++ " has no values", path, none⟩] else []) ++
  (values.filter fun v => !isEnumValue v).map fun v => ⟨.warning, .invalidEnumValue,
    "Enum value " ++ quoteName v ++ " should be lowercase and kebab-case", path ++ ".values", none⟩

def rangeIssues (lo hi : Option Number) : List Issue :=
  match lo, hi with
  | some l, some h =>
    if h.lt l then [⟨.error, .invalidRange,
      "Min (" ++ l.text ++ ") cannot be greater than max (" ++ h.text ++ ")", path, none⟩]
    else []
  | _, _ => []

def domainIssues : Domain → List Issue
  | .enum vs _ => enumIssues name path vs
  | .number _ lo hi => rangeIssues path lo hi
  | _ => []

def defaultIssues (d : Domain) : List Issue :=
  if d.admitsDefault then [] else [⟨.error, .invalidDefault,
    "Default value " ++ quoteName ((d.default?.map Value.plain).getD "null") ++
      " is outside the domain of " ++ d.kind ++ " property " ++ quoteName name,
    path ++ ".default", none⟩]

/-- Are the bounds and the default short enough to be written, where an issue names them? -/
def isReportable (d : Domain) : Bool :=
  let short (n : Option Number) : Bool := (n.map Number.isWritable).getD true
  match d with
  | .number default lo hi =>
    ((rangeIssues "" lo hi).isEmpty || (short lo && short hi)) && (d.admitsDefault || short default)
  | _ => true

/-- The issues of one declaration. -/
def issues (p : Property) : List Issue :=
  nameIssues name path ++ domainIssues name path p.domain ++ defaultIssues name path p.domain

end Property

namespace Component

/-- The issues of a component that is listed under `key`. -/
def issues (key : String) (c : Component) : List Issue :=
  let path := "components." ++ key
  (if c.name = key then [] else [⟨.warning, .nameMismatch,
    "Component key " ++ quoteName key ++ " does not match schema name " ++ quoteName c.name, path,
    none⟩]) ++
  (c.properties.entries.flatMap fun e => e.2.issues e.1 (path ++ ".properties." ++ e.1)) ++
  c.referenceIssues path

end Component

namespace DesignSystem

def issues (s : DesignSystem) : List Issue :=
  s.tokens.issues ++ s.components.entries.flatMap fun e => e.2.issues e.1

/-- Can all issues of a system be written? -/
def isReportable (s : DesignSystem) : Bool :=
  s.components.values.all fun c => c.properties.values.all fun p => Property.isReportable p.domain

/-- The verdict on a system, strict if its settings say so and nothing else is asked for. -/
def check (s : DesignSystem) (strict : Option Bool) : Verdict :=
  .ofIssues s.issues (strict.getD s.settings.strict)

/-- The verdict on a system, if its issues can be written. -/
def checked (s : DesignSystem) (strict : Option Bool) : Except Unfit Verdict :=
  Unfit.guard (Unfit.unlessShort s.isReportable) (s.check strict)

end DesignSystem

end Stylebook
