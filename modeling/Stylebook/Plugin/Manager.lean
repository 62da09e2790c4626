import Stylebook.Plugin

/-!
The manager of plugins. It holds the registered plugins in order, and the components and tokens
that the enabled ones contribute, later ones over earlier ones. Operations give the state after
them also when they fail.
-/

namespace Stylebook

structure Registration where
  plugin : Plugin
  options : Fields
  enabled : Bool

structure Manager where
  plugins : Dict Registration
  components : Dict Component
  tokens : Dict (Dict Value)
  validators : Dict Validator
  generators : Dict Generator

/-- What an operation leaves behind. -/
structure Outcome where
  manager : Manager
  notes : List Value
  result : Except PluginError Unit

namespace Manager

def empty : Manager := ⟨∅, ∅, ∅, ∅, ∅⟩

variable (m : Manager)

def enabledRegistrations (plugins : Dict Registration) : List Registration :=
  plugins.values.filter Registration.enabled

/-- The components of all plugins of a list, later ones over earlier ones. -/
def componentsOf (l : List Plugin) : Dict Component :=
  l.foldl (fun d p => d.update p.components) ∅

/-- Adds what a plugin declares in one category. -/
def addCategory (d : Dict (Dict Value)) (e : String × Option (Dict Value)) : Dict (Dict Value) :=
  d.insert e.1 (((d.get? e.1).getD ∅).update (e.2.getD ∅))

/-- The tokens of all plugins of a list, later ones over earlier ones. -/
def tokensOf (l : List Plugin) : Dict (Dict Value) :=
  l.foldl (fun d p => p.tokens.entries.foldl addCategory d) ∅

/-- The manager with other plugins, and with what the enabled ones of them contribute. -/
def withPlugins (plugins : Dict Registration) : Manager :=
  let enabled := (enabledRegistrations plugins).map Registration.plugin
  { m with plugins := plugins, components := componentsOf enabled, tokens := tokensOf enabled }

def context (options : Fields) (system : Option DesignSystem) : PluginContext :=
  ⟨system, m.tokens, m.components, options, []⟩

/-- The outcome of a callback that leaves the manager alone. -/
def afterSetup (setup : Option Setup) (options : Fields) : List Value × Except PluginError Unit :=
  match setup with
  | none => ([], .ok ())
  | some f =>
    let r := f (m.context options none)
    (r.notes, r.result.mapError .failed)

/-- Adds a plugin, then runs its setup. The plugin stays if its setup fails. -/
def register (p : Plugin) (options : Fields) : Outcome :=
  if m.plugins.contains p.name then ⟨m, [], .error (.alreadyRegistered p.name)⟩
  else
    let merged := Pairs.setAll p.options options
    let m := m.withPlugins (m.plugins.insert p.name ⟨p, merged, true⟩)
    let (notes, result) := m.afterSetup p.setup merged
    ⟨m, notes, result⟩

/-- Runs a plugin's teardown, then removes the plugin. It stays if its teardown fails. -/
def unregister (name : String) : Outcome :=
  match m.plugins.get? name with
  | none => ⟨m, [], .error (.notRegistered name)⟩
  | some r =>
    let (notes, result) := m.afterSetup r.plugin.teardown r.options
    match result with
    | .error e => ⟨m, notes, .error e⟩
    | .ok () => ⟨m.withPlugins (m.plugins.erase name), notes, .ok ()⟩

/-- Enables or disables a plugin; a name that is not registered is passed over. -/
def setEnabled (name : String) (enabled : Bool) : Manager :=
  match m.plugins.get? name with
  | none => m
  | some r => m.withPlugins (m.plugins.insert name { r with enabled := enabled })

def has (name : String) : Bool := m.plugins.contains name

def get? (name : String) : Option Plugin := (m.plugins.get? name).map Registration.plugin

/-- The enabled plugins in the order of registration. -/
def all : List Plugin := (enabledRegistrations m.plugins).map Registration.plugin

/-- Passes data through the hooks of a name, one after the other; null leaves it as it is. -/
def runHooks (hook : String) (system : Option DesignSystem) :
    Value → List Registration → Except Failure Value
  | data, [] => .ok data
  | data, r :: rest =>
    match r.plugin.hooks.get? hook with
    | none => runHooks hook system data rest
    | some f =>
      match (f data (m.context r.options system)).result with
      | .error e => .error e
      | .ok v => runHooks hook system (if v.isNull then data else v) rest

/-- Passes data through every enabled plugin's hook. -/
def executeHook (hook : String) (data : Value) (system : Option DesignSystem) : Except Failure Value :=
  m.runHooks hook system data (enabledRegistrations m.plugins)

def registerValidator (name : String) (f : Validator) : Manager :=
  { m with validators := m.validators.insert name f }

def unregisterValidator (name : String) : Manager :=
  { m with validators := m.validators.erase name }

def registerGenerator (name : String) (f : Generator) : Manager :=
  { m with generators := m.generators.insert name f }

def unregisterGenerator (name : String) : Manager :=
  { m with generators := m.generators.erase name }

/-- What a validator reports: what it gives back, or one issue that tells of its failure. -/
def reported (name : String) (u : Usage) (r : Reply Report) : List Issue :=
  match r.result with
  | .ok report => report.issues
  | .error e => [⟨.error, .validatorError,
      "Validator " ++ quoteName name ++ " failed: " ++ e.text, u.component, none⟩]

/-- The issues of a pass so far: those that validators reported, and those that they added by the way. -/
structure Findings where
  reported : List Issue
  added : List Issue

/-- Runs a validator on a usage, in sight of what was added before. -/
def Findings.run (ctx : PluginContext) (u : Usage) (f : Findings) (v : String × Validator) : Findings :=
  let r := v.2 u { ctx with issues := f.added }
  ⟨f.reported ++ Manager.reported v.1 u r, f.added ++ r.issues⟩

/-- Runs every validator on every usage: what they report comes first, in order, then what they
added by the way. -/
def executeValidators (usages : List Usage) (system : Option DesignSystem) : List Issue :=
  let ctx := m.context [] system
  let found := usages.foldl (fun f u => m.validators.entries.foldl (Findings.run ctx u) f) ⟨[], []⟩
  found.reported ++ found.added

/-- Runs a generator; without one of the name there is no result. -/
def executeGenerator (name : String) (c : Component) (system : Option DesignSystem) :
    Except Failure (Option Value) :=
  match m.generators.get? name with
  | none => .ok none
  | some f => (f c (m.context [] system)).result.map some

def clear : Manager := empty

end Manager

end Stylebook
