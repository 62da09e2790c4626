import Stylebook.Decoding.Detail
import Stylebook.Json.Reader
import Stylebook.Source.FileTree
import Stylebook.Yaml.Reader

/-!
Reading data from files: JSON if the name of the file ends in `.json`, YAML otherwise.
-/

namespace Stylebook

/-- Why a file that is read for a system, for usages or for themes does not hold them. -/
inductive SourceError where
  | missing
  | noConfig
  | empty
  | json (p : Json.Problem) (position : Text.Position)
  | yaml (p : Yaml.Problem) (position : Text.Position)
  | unprintable (c : Char) (index : Nat)
  | notMapping
  | badSystem (details : List Detail)
  | refusedSystem (why : Refusal)
  | notUsages
  | badUsage (details : List Detail)
  | notThemes
  | badTheme (details : List Detail)
  deriving DecidableEq, Repr

/-- The names under which a directory holds the description of a system, the usual one first. -/
def configName : String := "intent.config.yaml"

def configNames : List String := [configName, "intent.config.yml", "intent.config.json"]

namespace SourceError

/-- The words for an error up to its details. -/
def words (file : String) : SourceError → String
  | missing => "File not found: " ++ file
  | noConfig => "No " ++ configName ++ " found in " ++ file
  | empty => "Empty file: " ++ file
  | json p _ => "Invalid JSON: " ++ p.message
  | yaml p _ => "Invalid YAML: " ++ p.message
  | unprintable c i => "Invalid YAML in " ++ file ++ ": " ++ Yaml.unprintableMessage c i
  | notMapping => "Expected a mapping at the top level of " ++ file
  | badSystem _ => "Invalid design system in " ++ file ++ ": "
  | refusedSystem why => "Invalid design system in " ++ file ++ ": " ++ why.message
  | notUsages => "Expected a list of usages in " ++ file
  | badUsage _ => "Invalid usage record in " ++ file ++ ": "
  | notThemes => "Expected a list of themes in " ++ file
  | badTheme _ => "Invalid theme in " ++ file ++ ": "

def details : SourceError → List Detail
  | badSystem ds | badUsage ds | badTheme ds => ds
  | _ => []

/-- The message of an error about `file`, with its place in front if that is known. -/
def message (file : Path) (e : SourceError) : String :=
  let place (p : Text.Position) : Origin := ⟨file, some p.line, some p.column, none⟩
  match e with
  | json _ p | yaml _ p => (place p).head (e.words file.text)
  | _ => e.words file.text

end SourceError

/-- Why nothing could be read from the file at a path. Besides what is wrong with the description
in it, the file may be a directory, its bytes may be no text, and a number in it may be out of
bounds. -/
inductive LoadError where
  | source (file : Path) (e : SourceError)
  | directory (file : Path)
  | bytes (e : Text.Utf8Error)
  | number (e : Yaml.ScalarProblem)
  deriving DecidableEq, Repr

namespace Source

def fail {α : Type} (file : Path) (e : SourceError) : Except LoadError α := .error (.source file e)

def readJson (file : Path) (text : String) : Except LoadError Value :=
  match Json.parse text with
  | .ok v => .ok v
  | .error ⟨.tooManyDigits n, _⟩ => .error (.number (.tooManyDigits n))
  | .error ⟨p, position⟩ => fail file (.json p position)

def readYaml (file : Path) (text : String) : Except LoadError Value :=
  match Yaml.parse text with
  | .ok v => .ok v
  | .error (.located p position) => fail file (.yaml p position)
  | .error (.scalar p) => .error (.number p)
  | .error (.unprintable c i) => fail file (.unprintable c i)

/-- The data in a file, which may not be null. -/
def data (files : Lookup) (file : Path) : Except LoadError Value :=
  match files file with
  | none => fail file .missing
  | some .directory => .error (.directory file)
  | some (.file bytes) => do
    let text ← (Text.decodeUtf8 bytes).mapError .bytes
    let text := String.ofList (Text.joinLineEnds text.toList)
    let v ← if file.isJson then readJson file text else readYaml file text
    if v.isNull then fail file .empty else return v

end Source

end Stylebook
