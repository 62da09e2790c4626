import Stylebook.Definition
import Stylebook.Theme.Resolve

/-!
Laying a flat theme over a design system. Tokens are merged, changes to components are merged into
the component's own description and read again, and the theme's prefix takes the place of the
system's.
-/

namespace Stylebook

/-- Why a change could not be laid over a component. -/
inductive OverrideError where
  /-- A part that has to be an object is something else. -/
  | notFields
  /-- The styles of a mapping are not an object. -/
  | notStyles
  | bad (e : DefinitionError)
  deriving DecidableEq, Repr

namespace Override

/-- Base styles may go by either of their names; the later field counts. -/
def rename (override : Fields) : Fields :=
  override.foldl
    (fun done e => Pairs.set (if e.1 = .text "baseStyles" then .text "base_styles" else e.1) e.2 done) []

/-- The fields to merge under a name: none if nothing is given there. -/
def fields? (override : Fields) (name : String) : Except OverrideError (Option Fields) :=
  let v := Fields.getD override name
  if v.isNothing then .ok none
  else match v with
    | .object fs => .ok (some fs)
    | _ => .error .notFields

/-- Merges into the field `name` of a description. -/
def mergeField (data : Fields) (name : String) : Option Fields → Fields
  | none => data
  | some fs => Fields.set data name (.object (deepMerge (Fields.getD data name).fieldsOf fs))

/-- The styles of a flat mapping laid over those of another. -/
def flatStyles (existing : StyleMap) (replacement : Fields) : Except OverrideError Value :=
  match (Fields.get? replacement "styles").getD (.object []) with
  | .object styles =>
    .ok (.record [("kind", .text "flat"),
      ("styles", .object (Pairs.setAll (Value.fieldsOf (StyleMap.toValue existing)) styles))])
  | _ => .error .notStyles

/-- What comes in the place of a mapping. Flat styles are laid over flat styles; anything else
replaces what was there. -/
def mappingValue (existing : Option Mapping) (raw : Value) : Except OverrideError Value :=
  match existing, Mapping.normalize raw with
  | some (.flat styles), .object fs =>
    match Fields.get? fs "kind" with
    | some (.text "flat") => flatStyles styles fs
    | _ => .ok (.object fs)
  | _, v => .ok v

def mergeMappings (c : Component) (data : Fields) : Fields → Except OverrideError Fields
  | [] => .ok data
  | (key, raw) :: rest =>
    let existing := match key with
      | .text k => c.mappings.get? k
      | _ => none
    (mappingValue existing raw).bind fun v =>
      let mappings := Pairs.set key v (Fields.getD data "mappings").fieldsOf
      mergeMappings c (Fields.set data "mappings" (.object mappings)) rest

/-- The description of a component with an override merged into it. -/
def mergeInto (c : Component) (override : Fields) : Except OverrideError Fields := do
  let o := rename override
  let data := c.toValue.fieldsOf
  let data := match Fields.get? o "description" with
    | some v => Fields.set data "description" v
    | none => data
  let data := mergeField data "base_styles" (← fields? o "base_styles")
  let data := mergeField data "properties" (← fields? o "properties")
  mergeMappings c data ((← fields? o "mappings").getD [])

end Override

namespace Component

/-- The component with a change laid over it; its rules stay. -/
def withOverride (c : Component) (override : Fields) : Except OverrideError Component :=
  (Override.mergeInto c override).bind fun data =>
    ((decode (.object data)).orElse (.badOverride c.name)).mapError .bad

end Component

namespace DesignSystem

/-- Lays each change over the component of its name; changes to other names are passed over. -/
def overrideComponents (components : Dict Component) :
    Fields → Except OverrideError (Dict Component)
  | [] => .ok components
  | (.text name, v) :: rest =>
    match components.get? name with
    | none => overrideComponents components rest
    | some c => (c.withOverride v.fieldsOf).bind fun c =>
        overrideComponents (components.insert name c) rest
  | _ :: rest => overrideComponents components rest

/-- No tokens at all are the same as none given. -/
def someTokens (t : Tokens) : Option Tokens := if t.isEmpty then none else some t

def withTheme (s : DesignSystem) (t : FlatTheme) : Except OverrideError DesignSystem :=
  (overrideComponents s.components t.layer.overrides).map fun components =>
    { s with
      tokens := s.tokens.merge t.layer.tokens
      darkTokens := someTokens ((s.darkTokens.getD ∅).merge t.layer.darkTokens)
      components := components
      settings := { s.settings with cssPrefix := t.layer.pre } }

end DesignSystem

end Stylebook
