import Stylebook.DesignSystem

/-!
Defining components and systems from plain data, or step by step.
-/

namespace Stylebook

/-- Why a component or a system could not be defined. -/
inductive DefinitionError where
  | refused (why : Refusal)
  | badComponent (name : String) (details : List Detail)
  | unnamedSystem
  | badSystem (name : String) (details : List Detail)
  | badOverride (name : String) (details : List Detail)
  /-- The name that an error would show is too long to be written. -/
  | unwritable
  deriving DecidableEq, Repr

namespace DefinitionError

/-- The text of an error up to its details. -/
def message : DefinitionError → String
  | refused why => why.message
  | badComponent name _ => "Invalid component \"" ++ name ++ "\": "
  | unnamedSystem => "Design system must have a name"
  | badSystem name _ => "Invalid design system \"" ++ name ++ "\": "
  | badOverride name _ => "Invalid theme override for \"" ++ name ++ "\": "
  | unwritable => tooManyDigitsMessage none

def details : DefinitionError → List Detail
  | badComponent _ ds | badSystem _ ds | badOverride _ ds => ds
  | _ => []

/-- An error that shows a name as it was given. -/
def showing (name : Value) (e : String → DefinitionError) : DefinitionError :=
  if name.isWritable then e name.shown else .unwritable

end DefinitionError

/-- What was read, with the error that its details make. -/
def Decoded.orElse {α : Type} (r : Decoded α) (e : List Detail → DefinitionError) :
    Except DefinitionError α :=
  match r with
  | ok a => .ok a
  | bad ds => .error (e ds)
  | Decoded.refused why => .error (.refused why)

namespace Component

/-- A component from the fields of its description, as they are. -/
def ofFields (fields : Fields) : Except DefinitionError Component :=
  (decode (.object fields)).orElse fun details =>
    .showing (Fields.getD fields "name") fun name => .badComponent name details

/-- The fields of a description to which nothing was added. -/
def blank : Fields := [(.text "constraints", .list []), (.text "mappings", .object [])]

/-- A component from the fields that describe it, written over a blank description. -/
def define (fields : Fields) : Except DefinitionError Component :=
  ofFields (Pairs.setAll blank fields)

/-- One step of a description. All but `constrain` replace what an earlier step has set. -/
inductive Step where
  | name (v : Value)
  | description (v : Value)
  | properties (fields : Fields)
  | constrain (rules : List Value)
  | map (fields : Fields)
  | base (styles : Fields)

def items : Value → List Value
  | .list l => l
  | _ => []

def Step.apply (fields : Fields) : Step → Fields
  | name v => Fields.set fields "name" v
  | description v => Fields.set fields "description" v
  | properties ps => Fields.set fields "properties" (.object ps)
  | constrain rules =>
    Fields.set fields "constraints" (.list (items (Fields.getD fields "constraints") ++ rules))
  | map ms => Fields.set fields "mappings" (.object ms)
  | base styles => Fields.set fields "base_styles" (.object styles)

/-- A component from the steps of its description. -/
def ofSteps (steps : List Step) : Except DefinitionError Component :=
  ofFields (steps.foldl Step.apply blank)

end Component

namespace DesignSystem

/-- A system from the fields that describe it. -/
def define (fields : Fields) : Except DefinitionError DesignSystem :=
  let name := Fields.getD fields "name"
  if name.isNothing then .error .unnamedSystem
  else (decode (.object fields)).orElse fun details =>
    .showing name fun shown => .badSystem shown details

/-- How a component is given to a step: ready, as plain data, or step by step. -/
inductive ComponentSource where
  | ready (c : Component)
  | plain (fields : Fields)
  | steps (l : List Component.Step)

def ComponentSource.component (key : Value) : ComponentSource → Except DefinitionError Component
  | ready c => .ok c
  | plain fields => Component.define fields
  | steps l => Component.ofSteps (.name key :: l)

/-- One step of a description. Components are added; all else replaces what was set before. -/
inductive Step where
  | name (v : Value)
  | version (v : Value)
  | tokens (fields : Fields)
  | darkTokens (fields : Fields)
  | component (key : Key) (source : ComponentSource)
  | settings (v : Value)

def blank : Fields :=
  [(.text "name", .text ""), (.text "tokens", .object []), (.text "components", .object [])]

def Step.apply (fields : Fields) : Step → Except DefinitionError Fields
  | name v => .ok (Fields.set fields "name" v)
  | version v => .ok (Fields.set fields "version" v)
  | tokens ts => .ok (Fields.set fields "tokens" (.object ts))
  | darkTokens ts => .ok (Fields.set fields "dark_tokens" (.object ts))
  | settings v => .ok (Fields.set fields "settings" v)
  | component key source => (source.component key.toValue).map fun c =>
      Fields.set fields "components"
        (.object (Pairs.set key c.toValue (Fields.getD fields "components").fieldsOf))

/-- A system from the steps of its description. Without a name there is none; the details of a bad
description are left as they are. -/
def ofSteps (steps : List Step) : Except DefinitionError (Decoded DesignSystem) :=
  (steps.foldlM Step.apply blank).bind fun fields =>
    if (Fields.getD fields "name").isNothing then .error .unnamedSystem
    else .ok (decode (.object fields))

end DesignSystem

end Stylebook
