import Stylebook.Stylesheet.Basic
import Stylebook.Stylesheet.Minify
import Stylebook.DesignSystem
import Stylebook.Text.Lower
import Stylebook.Unfit

/-!
The stylesheet of a design system. A component has one rule for its base styles, one for each flat
mapping and one for each conditional entry, as far as they hold styles: the numbers of values of
its properties are added, never multiplied.
-/

namespace Stylebook

open Text

/-- A hyphen before each capital that follows a small letter or a digit; then all in lower case. -/
def hyphenate : List Char → List Char
  | c :: d :: rest =>
    if (isLowerAscii c || isDigitAscii c) && isUpperAscii d then c :: '-' :: hyphenate (d :: rest)
    else c :: hyphenate (d :: rest)
  | cs => cs

/-- A name in camel case as words with hyphens between them. -/
def kebab (s : String) : String := lower (String.ofList (hyphenate s.toList))

namespace Tokens

variable (tokens : Tokens)

/-- One custom property for each token. -/
def declarations (pre : String) : List Declaration :=
  tokens.all.map fun t => ⟨variableName pre t.1 t.2.1, t.2.2.shown⟩

def rootRule (pre : String) : Rule := ⟨[":root"], tokens.declarations pre⟩

/-- The block of custom properties as text, if the values of the tokens can be written. -/
def rootBlock (pre : String) : Except Unfit String :=
  Unfit.guard (Unfit.unlessShort tokens.areWritable) (tokens.rootRule pre).text

end Tokens

namespace DarkMode

def query : String := "(prefers-color-scheme: dark)"

/-- Does the reader's preference bring dark values into force? -/
def followsDevice : DarkMode → Bool
  | auto | media => true
  | _ => false

/-- The selectors that bring dark values into force by hand. -/
def toggles : DarkMode → List String
  | auto => [":root.dark", ".dark", "[data-theme=\"dark\"]"]
  | darkClass => [":root.dark", ".dark"]
  | data => ["[data-theme=\"dark\"]"]
  | _ => []

/-- The blocks that override tokens in the dark. -/
def blocks (mode : DarkMode) (dark : Tokens) (pre : String) : List Block :=
  (if mode.followsDevice then [.media query (dark.rootRule pre)] else []) ++
  (if mode.toggles.isEmpty then [] else [.rule ⟨mode.toggles, dark.declarations pre⟩])

end DarkMode

/-- The property values that a rule's selector asks for. -/
abbrev Context := Dict String

/-- Does a branch name a property of the context or one of its values? -/
def Context.selects (context : Context) (branch : String) : Bool :=
  Dict.contains context branch || (Dict.values context).contains branch

/-- The branch for a context: the first that the context selects, or else the first of all. -/
def branchFor? (context : Context) (branches : Dict Literal) : Option Literal :=
  ((branches.entries.find? fun b => context.selects b.1).orElse fun _ =>
    branches.entries.head?).map Prod.snd

/-- The literal that a style value comes to in a context, none if it has no branches. -/
def StyleValue.literal? (context : Context) : StyleValue → Option Literal
  | literal l => some l
  | branches d => branchFor? context d

/-- Are the styles short enough to be written? -/
def StyleMap.areWritable (context : Context) (styles : StyleMap) : Bool :=
  (Dict.values styles).all fun v => ((v.literal? context).map Literal.isWritable).getD true

namespace Tokens

variable (tokens : Tokens) (pre : String) (context : Context)

def resolveStyle (v : StyleValue) : String :=
  ((v.literal? context).map fun l => tokens.resolve pre l.plain).getD ""

def styleDeclarations (styles : StyleMap) : List Declaration :=
  styles.entries.map fun e => ⟨kebab e.1, tokens.resolveStyle pre context e.2⟩

/-- The rule for some styles; no styles, no rule. -/
def rule? (selector : String) (styles : StyleMap) : Option Rule :=
  if styles.isEmpty then none
  else some ⟨[selector], tokens.styleDeclarations pre context styles⟩

end Tokens

/-- The part of a selector that asks for a property value. -/
def attributeSelector (property value : String) : String :=
  "[data-" ++ kebab property ++ "=\"" ++ value ++ "\"]"

def attributeSelectors (pairs : List (String × String)) : String :=
  String.join (pairs.map fun e => attributeSelector e.1 e.2)

namespace Component

variable (c : Component) (tokens : Tokens) (pre : String)

def baseClass : String := pre ++ "-" ++ lower c.name

def baseRule? : Option Rule :=
  c.baseStyles.bind (tokens.rule? pre ∅ ("." ++ c.baseClass pre))

/-- The class with the selectors of a mapping key. -/
def mappingClass (key : String) : String :=
  c.baseClass pre ++ attributeSelectors (mappingPairs key)

/-- The property values that a mapping key and further conditions ask for. -/
def conditionalContext (key : String) (entry : ConditionalStyles) : Context :=
  (Dict.ofList (mappingPairs key)).update (entry.condition.mapValues Scalar.plain)

def conditionalRule? (key : String) (entry : ConditionalStyles) : Option Rule :=
  let condition := entry.condition.mapValues Scalar.plain
  if condition.isEmpty then none
  else
    tokens.rule? pre (conditionalContext key entry)
      ("." ++ c.mappingClass pre key ++ attributeSelectors condition.entries) entry.styles

def mappingRules (key : String) : Mapping → List Rule
  | .flat styles =>
    (tokens.rule? pre (Dict.ofList (mappingPairs key)) ("." ++ c.mappingClass pre key) styles).toList
  | .conditional entries => entries.filterMap (c.conditionalRule? tokens pre key)

/-- The rules of a component, base styles first. -/
def rules : List Rule :=
  (c.baseRule? tokens pre).toList ++
    c.mappings.entries.flatMap fun m => c.mappingRules tokens pre m.1 m.2

/-- The classes that the rules are about: that of the base styles if they have a rule, and one for
each mapping. -/
def classes : List String :=
  (if (c.baseRule? tokens pre).isSome then [c.baseClass pre] else []) ++
    c.mappings.entries.map fun m => c.mappingClass pre m.1

/-- Are the styles of a mapping, and the conditions on them, short enough to be written? -/
def mappingWritable (key : String) : Mapping → Bool
  | .flat styles => styles.areWritable (Dict.ofList (mappingPairs key))
  | .conditional entries => entries.all fun e =>
      e.condition.isEmpty ||
        (e.condition.values.all Scalar.isWritable && e.styles.areWritable (conditionalContext key e))

def stylesWritable : Bool :=
  ((c.baseStyles.map fun s => s.areWritable ∅).getD true) &&
    c.mappings.entries.all fun m => mappingWritable m.1 m.2

end Component

/-- The stylesheet of one component: its text, the classes that it is about, and the texts of its rules. -/
structure CompiledStyles where
  css : String
  classes : List String
  rules : List String
  deriving DecidableEq, Repr

def Component.compile (c : Component) (s : DesignSystem) : CompiledStyles :=
  let rules := (c.rules s.tokens s.pre).map Rule.text
  ⟨paragraphs rules, c.classes s.tokens s.pre, rules⟩

/-- The stylesheet of a component, if its styles can be written. -/
def Component.compiled (c : Component) (s : DesignSystem) : Except Unfit CompiledStyles :=
  Unfit.guard (Unfit.unlessShort c.stylesWritable) (c.compile s)

namespace DesignSystem

variable (s : DesignSystem)

/-- The dark tokens of a sheet, if the system has such tokens and wants them. -/
def darkTokens? : Option Tokens :=
  s.darkTokens.filter fun dark => !dark.isEmpty && s.settings.darkMode != .off

def darkBlocks? : Option (List Block) :=
  s.darkTokens?.map fun dark => s.settings.darkMode.blocks dark s.pre

def sheet : Sheet where
  title := "Intent Design System: " ++ s.name ++ " v" ++ s.shownVersion
  root := if s.settings.cssVariables then some (.rule (s.tokens.rootRule s.pre)) else none
  dark := if s.settings.cssVariables then s.darkBlocks? else none
  components := s.components.entries.map fun e => (e.1, e.2.rules s.tokens s.pre)

/-- Is all that the stylesheet holds short enough to be written? -/
def sheetWritable : Bool :=
  (!s.settings.cssVariables ||
      (s.tokens.areWritable && (s.darkTokens?.map Tokens.areWritable).getD true)) &&
    s.components.values.all Component.stylesWritable

/-- The text of the stylesheet, shortened if asked for. -/
def css (short : Bool) : String := if short then minify s.sheet.text else s.sheet.text

/-- The stylesheet, if all that it holds can be written. -/
def stylesheet (short : Bool) : Except Unfit String :=
  Unfit.guard (Unfit.unlessShort s.sheetWritable) (s.css short)

theorem stylesheet_eq_ok_iff (short : Bool) (css : String) :
    s.stylesheet short = .ok css ↔ s.sheetWritable = true ∧ s.css short = css :=
  Unfit.guard_unlessShort_eq_ok_iff

end DesignSystem

end Stylebook
