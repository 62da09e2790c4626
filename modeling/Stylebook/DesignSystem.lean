import Stylebook.Component
import Stylebook.Token

/-!
Design systems: tokens, components and settings under one name.
-/

namespace Stylebook

/-- How dark values come into force: not at all, by the preference of the reader's device, by a
class, by a data attribute, or by all of these. -/
inductive DarkMode where
  | off
  | auto
  | media
  | darkClass
  | data
  deriving DecidableEq, Repr

namespace DarkMode

def ofName? (s : String) : Option DarkMode :=
  if s = "auto" then some auto
  else if s = "media" then some media
  else if s = "class" then some darkClass
  else if s = "data" then some data
  else none

def toValue : DarkMode → Value
  | off => .bool false
  | auto => .text "auto"
  | media => .text "media"
  | darkClass => .text "class"
  | data => .text "data"

open Decoded in
def decode (v : Value) : Decoded DarkMode :=
  let none := Decoding.noneFits
    [("literal['auto','media','class','data']", .notLiteral), ("literal[False]", .notLiteral)]
  match v with
  | .text s => match ofName? s with
    | some m => ok m
    | .none => none
  | .bool b => if b then none else ok off
  | .number n => if n.isZero then ok off else none
  | _ => none

end DarkMode

structure Settings where
  cssPrefix : String
  cssVariables : Bool
  strict : Bool
  darkMode : DarkMode
  deriving DecidableEq, Repr

structure DesignSystem where
  name : String
  version : Option String
  tokens : Tokens
  darkTokens : Option Tokens
  components : Dict Component
  settings : Settings

/-- The version of a system that names none. -/
def defaultVersion : String := "0.1.0"

namespace Settings

def default : Settings := ⟨defaultPrefix, true, false, .auto⟩

def toValue (s : Settings) : Value :=
  .record [
    ("css_prefix", .text s.cssPrefix),
    ("generate_css_variables", .bool s.cssVariables),
    ("strict_mode", .bool s.strict),
    ("dark_mode", s.darkMode.toValue)]

open Decoded Decoding

def decode : Value → Decoded Settings :=
  record fun fs =>
    .mk <$> optional fs ["cssPrefix", "css_prefix"] defaultPrefix text
      <*> optional fs ["generateCSSVariables", "generate_css_variables"] true bool
      <*> optional fs ["strictMode", "strict_mode"] false bool
      <*> optional fs ["darkMode", "dark_mode"] .auto DarkMode.decode

end Settings

namespace DesignSystem

/-- The prefix of all names in the stylesheet; an empty setting counts as none. -/
def pre (s : DesignSystem) : String :=
  if s.settings.cssPrefix.isEmpty then defaultPrefix else s.settings.cssPrefix

/-- The same system with another prefix. -/
def withPrefix (s : DesignSystem) (p : String) : DesignSystem :=
  { s with settings := { s.settings with cssPrefix := p } }

def shownVersion (s : DesignSystem) : String :=
  match s.version with
  | some v => if v.isEmpty then defaultVersion else v
  | none => defaultVersion

def token? (s : DesignSystem) (category name : String) : Option Literal :=
  (s.tokens.get? category).bind fun c => c.get? name

def toValue (s : DesignSystem) : Value :=
  .record [
    ("name", .text s.name),
    ("version", .ofOption .text s.version),
    ("tokens", s.tokens.toValue),
    ("dark_tokens", .ofOption Tokens.toValue s.darkTokens),
    ("components", .ofDict Component.toValue s.components),
    ("settings", s.settings.toValue)]

open Decoded Decoding

/-- A component without a name takes the one it is listed under. -/
def nameComponents : Value → Value
  | .object fs => .object <| fs.map fun e =>
      (e.1, match e.2 with
        | .object c => .object (if Fields.has c "name" then c else Fields.set c "name" e.1.toValue)
        | v => v)
  | v => v

/-- A version may be written as a number. -/
def readVersion : Value → Decoded (Option String)
  | .number n => if n.isWritable then ok (some n.text) else fault .unwritable
  | v => nullable text v

def decode : Value → Decoded DesignSystem :=
  record fun fs =>
    .mk <$> required fs ["name"] text
      <*> optional fs ["version"] none readVersion
      <*> optional fs ["tokens"] ∅ Tokens.decode
      <*> optional fs ["darkTokens", "dark_tokens"] none (nullable Tokens.decode)
      <*> optional fs ["components"] ∅ (fun v => dict Component.decode (nameComponents v))
      <*> optional fs ["settings"] .default Settings.decode

end DesignSystem

end Stylebook
