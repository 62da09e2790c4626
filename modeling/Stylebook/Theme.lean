import Stylebook.DesignSystem
import Stylebook.Value.Merge

/-!
Themes: named bundles of tokens, dark tokens and changes to components, which may inherit from
others. Flattening a theme lays it over its ancestors.
-/

namespace Stylebook

/-- The parents of a theme, written as one name or as a list. -/
inductive Parents where
  | one (name : String)
  | many (names : List String)
  deriving DecidableEq, Repr

structure ThemeSettings where
  cssPrefix : Option String
  darkMode : Option DarkMode
  deriving DecidableEq, Repr

structure Theme where
  name : String
  version : Option String
  inherits : Option Parents
  tokens : Tokens
  darkTokens : Option Tokens
  components : Option (Dict (Dict Value))
  settings : Option ThemeSettings

def Parents.names : Parents → List String
  | one name => [name]
  | many names => names

/-- An object with texts for names, as fields. -/
def Dict.toFields {α : Type} (f : α → Value) (d : Dict α) : Fields :=
  d.entries.map fun e => (.text e.1, f e.2)

namespace Theme

def parents (t : Theme) : List String := (t.inherits.map Parents.names).getD []

/-- The changes to components, as fields of one object. -/
def overrides (t : Theme) : Fields :=
  ((t.components.map (Dict.toFields (.ofDict id))).getD [])

/-- The prefix that a theme sets; an empty one counts as none. -/
def pre? (t : Theme) : Option String :=
  (t.settings.bind ThemeSettings.cssPrefix).filter fun p => !p.isEmpty

def parentsValue : Parents → Value
  | .one name => .text name
  | .many names => .texts names

def settingsValue (s : ThemeSettings) : Value :=
  .record [
    ("css_prefix", .ofOption .text s.cssPrefix),
    ("dark_mode", .ofOption DarkMode.toValue s.darkMode)]

def toValue (t : Theme) : Value :=
  .record [
    ("name", .text t.name),
    ("version", .ofOption .text t.version),
    ("extends", .ofOption parentsValue t.inherits),
    ("tokens", t.tokens.toValue),
    ("dark_tokens", .ofOption Tokens.toValue t.darkTokens),
    ("components", .ofOption (.ofDict (.ofDict id)) t.components),
    ("settings", .ofOption settingsValue t.settings)]

open Decoded Decoding

def readParents (v : Value) : Decoded Parents :=
  match text v, list text v with
  | ok s, _ => ok (.one s)
  | _, ok l => ok (.many l)
  | s, l => bad ((s.named "str").details ++ (l.named "list[str]").details)

def readSettings (fs : Fields) : Decoded ThemeSettings :=
  .mk <$> optional fs ["cssPrefix", "css_prefix"] none (nullable text)
    <*> optional fs ["darkMode", "dark_mode"] none (nullable DarkMode.decode)

def decode : Value → Decoded Theme :=
  record fun fs =>
    .mk <$> required fs ["name"] text
      <*> optional fs ["version"] none (nullable text)
      <*> optional fs ["extends"] none (nullable readParents)
      <*> optional fs ["tokens"] ∅ Tokens.decode
      <*> optional fs ["darkTokens", "dark_tokens"] none (nullable Tokens.decode)
      <*> optional fs ["components"] none (nullable (dict (dict ok)))
      <*> optional fs ["settings"] none (nullable (record readSettings))

/-- A theme of the given name with the given fields. -/
def create (name : Value) (fields : Fields) : Decoded Theme :=
  decode (.object (Fields.set fields "name" name))

end Theme

/-- What a theme brings, its ancestors included. -/
structure Layer where
  tokens : Tokens
  darkTokens : Tokens
  overrides : Fields
  pre : String

structure FlatTheme where
  name : String
  layer : Layer

namespace Layer

def empty : Layer := ⟨∅, ∅, [], defaultPrefix⟩

/-- Lays one layer over another. -/
def merge (base top : Layer) : Layer where
  tokens := base.tokens.merge top.tokens
  darkTokens := base.darkTokens.merge top.darkTokens
  overrides := deepMerge base.overrides top.overrides
  pre := top.pre

/-- Lays a theme's own parts over what it inherits. -/
def withTheme (base : Layer) (t : Theme) : Layer where
  tokens := base.tokens.merge t.tokens
  darkTokens := base.darkTokens.merge (t.darkTokens.getD ∅)
  overrides := deepMerge base.overrides t.overrides
  pre := t.pre?.getD base.pre

end Layer

namespace FlatTheme

def toValue (t : FlatTheme) : Value :=
  .record [
    ("name", .text t.name),
    ("tokens", t.layer.tokens.toValue),
    ("dark_tokens", t.layer.darkTokens.toValue),
    ("component_overrides", .object t.layer.overrides),
    ("css_prefix", .text t.layer.pre)]

open Decoded Decoding

def decode : Value → Decoded FlatTheme :=
  record fun fs =>
    (fun name tokens dark overrides pre =>
        ⟨name, ⟨tokens, dark, Dict.toFields (.ofDict id) overrides, pre⟩⟩)
      <$> required fs ["name"] text
      <*> optional fs ["tokens"] ∅ Tokens.decodeExact
      <*> optional fs ["dark_tokens"] ∅ Tokens.decodeExact
      <*> optional fs ["component_overrides"] ∅ (dict (dict ok))
      <*> optional fs ["css_prefix"] defaultPrefix text

end FlatTheme

end Stylebook
