import Stylebook.Check.Constraint
import Stylebook.DesignSystem

/-!
Plugins: bundles of components, tokens and callbacks. A callback is a function from what it is
given to a reply: what it logged, which issues it added, and its result or its failure. What it is given
holds the issues that were added before.
-/

namespace Stylebook

/-- Tokens as a plugin declares them; a category may be declared with nothing. -/
abbrev PluginTokens := Dict (Option (Dict Value))

/-- What a callback can see. -/
structure PluginContext where
  system : Option DesignSystem
  tokens : Dict (Dict Value)
  components : Dict Component
  options : Fields
  issues : List Issue

/-- The token of a name, null if there is none. -/
def PluginContext.token (ctx : PluginContext) (category name : String) : Value :=
  ((ctx.tokens.get? category).bind fun c => c.get? name).getD .null

/-- What went wrong in a callback. -/
structure Failure where
  kind : String
  text : String
  deriving DecidableEq, Repr

structure Reply (α : Type) where
  notes : List Value
  issues : List Issue
  result : Except Failure α

/-- What a validator may give back: nothing, one issue, or several. -/
inductive Report where
  | nothing
  | issue (i : Issue)
  | list (l : List Issue)

def Report.issues : Report → List Issue
  | nothing => []
  | issue i => [i]
  | list l => l

abbrev Setup := PluginContext → Reply Unit
abbrev Hook := Value → PluginContext → Reply Value
abbrev Validator := Usage → PluginContext → Reply Report
abbrev Generator := Component → PluginContext → Reply Value

structure Plugin where
  name : String
  version : String
  description : Option String
  components : Dict Component
  tokens : PluginTokens
  darkTokens : PluginTokens
  options : Fields
  hooks : Dict Hook
  setup : Option Setup
  teardown : Option Setup

/-- Points at which a plugin may take part. -/
inductive HookPoint where
  | tokens
  | component
  | beforeValidate
  | afterValidate
  | beforeGenerate
  | generateComponent
  | afterGenerate
  deriving DecidableEq, Repr

namespace HookPoint

def name : HookPoint → String
  | tokens => "tokens"
  | component => "component"
  | beforeValidate => "before_validate"
  | afterValidate => "after_validate"
  | beforeGenerate => "before_generate"
  | generateComponent => "generate_component"
  | afterGenerate => "after_generate"

def all : List HookPoint :=
  [tokens, component, beforeValidate, afterValidate, beforeGenerate, generateComponent,
    afterGenerate]

def ofName? (s : String) : Option HookPoint := all.find? fun h => h.name == s

/-- The message about a name that no point bears. -/
def unknownMessage (s : String) : String := Text.quoted s ++ " is not a valid PluginHook"

end HookPoint

inductive PluginError where
  | missingFields (names : List String)
  | unexpectedField (name : String)
  | noName
  | noVersion
  | badVersion (version : String)
  | alreadyRegistered (name : String)
  | notRegistered (name : String)
  | failed (why : Failure)
  deriving DecidableEq, Repr

namespace PluginError

/-- Names in quotes, the last one after `and`. -/
def nameList (names : List String) : String :=
  match names.map Text.quoted with
  | [a, b] => a ++ " and " ++ b
  | l => Text.joinWith ", " l

def message : PluginError → String
  | missingFields names => "Invalid plugin definition: IntentPlugin.__init__() missing " ++
      toString names.length ++ " required positional argument" ++
      (if names.length = 1 then "" else "s") ++ ": " ++ nameList names
  | unexpectedField name =>
    "Invalid plugin definition: IntentPlugin.__init__() got an unexpected keyword argument " ++
      Text.quoted name
  | noName => "Plugin must have a name"
  | noVersion => "Plugin must have a version"
  | badVersion v => "Invalid version format: " ++ v ++ ". Expected semver (e.g., 1.0.0)"
  | alreadyRegistered name => "Plugin " ++ quoteName name ++ " is already registered"
  | notRegistered name => "Plugin " ++ quoteName name ++ " is not registered"
  | failed why => why.text

end PluginError

namespace Plugin

def fieldNames : List String :=
  ["name", "version", "description", "components", "tokens", "dark_tokens", "default_options",
    "hooks", "setup", "teardown"]

/-- A definition names no field that is unknown, and both the name and the version. -/
def checkFieldNames (given : List String) : Except PluginError Unit :=
  match given.find? fun n => !fieldNames.contains n with
  | some n => .error (.unexpectedField n)
  | none =>
    match ["name", "version"].filter fun n => !given.contains n with
    | [] => .ok ()
    | missing => .error (.missingFields missing)

/-- A plugin has a name, and a version of three numbers. -/
def check (p : Plugin) : Except PluginError Plugin :=
  if p.name.isEmpty then .error .noName
  else if p.version.isEmpty then .error .noVersion
  else if Text.isVersion p.version then .ok p
  else .error (.badVersion p.version)

/-- A plugin that brings tokens and components and nothing else. -/
def preset (name : String) (tokens darkTokens : PluginTokens) (components : Dict Component)
    (description : Option String) : Plugin where
  name := "preset-" ++ name
  version := "1.0.0"
  description := some ((description.filter fun d => !d.isEmpty).getD ("Preset: " ++ name))
  components := components
  tokens := tokens
  darkTokens := darkTokens
  options := []
  hooks := ∅
  setup := none
  teardown := none

end Plugin

end Stylebook
