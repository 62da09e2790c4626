import Stylebook.Manifest.Basic

/-!
The manifest as rules for an assistant, in Markdown: an overview of the system, or one component in
detail.
-/

namespace Stylebook

open Text

def fence : List String → List String :=
  fun l => l.flatMap fun e => ["```tsx", e, "```"]

namespace ManifestProperty

def promptLines (p : ManifestProperty) : List String :=
  let required := if p.required then " (required)" else ""
  let default := match p.default with
    | some v => " [default: " ++ v.plain ++ "]"
    | none => ""
  let values := match p.values with
    | some (v :: vs) => " = " ++ joinWith " | " (v :: vs)
    | _ => ""
  ("- **" ++ p.name ++ "**" ++ required ++ default ++ values) ::
    match p.description with
    | some d => if d.isEmpty then [] else ["  - " ++ d]
    | none => []

end ManifestProperty

def ManifestComponent.promptLines (c : ManifestComponent) : List String :=
  ["## Component: " ++ c.name, "", c.description, "", "### Properties", ""] ++
    c.properties.flatMap ManifestProperty.promptLines ++ [""] ++
    (if c.constraints.isEmpty then []
      else ["### Constraints", ""] ++ c.constraints.map (fun l => "- " ++ l) ++ [""]) ++
    ["### Examples", "", "**Valid:**"] ++ fence c.examples.valid ++ [""] ++
    (if c.examples.invalid.isEmpty then []
      else ["**Invalid:**"] ++ fence c.examples.invalid ++ [""])

namespace Manifest

def overviewLines (m : Manifest) : List String :=
  ["## Available Components", ""] ++
    m.components.map (fun c => "- **" ++ c.name ++ "**: " ++ c.description) ++
    ["", "## Design Tokens", ""] ++
    m.tokens.entries.flatMap fun c =>
      if c.2.isEmpty then []
      else ["### " ++ c.1] ++ c.2.keys.map (fun n => "- " ++ n) ++ [""]

def promptOpening : List String := [
  "# Intent Framework Rules",
  "",
  "You are coding with Intent, a schema-first styling system.",
  "",
  "## Critical Constraints",
  "",
  "1. **NEVER use arbitrary values** (e.g., `pt-[7px]`). Use only schema tokens.",
  "2. **NEVER use Tailwind utility classes directly**. Use Intent components: `<Stack>`, `<Button>`, `<Surface>`",
  "3. **Check valid prop combinations** in the schema before using",
  "4. **Prefer semantic props** over visual descriptions: `importance=\"primary\"` not `color=\"blue\"`",
  ""]

def promptClosing : List String := [
  "## When Generating UI",
  "",
  "1. Import components from 'intent-react'",
  "2. Check the schema for valid enum values",
  "3. If design calls for custom styling, ask to add token to schema first",
  "4. Run `intent validate` before finishing",
  ""]

/-- The rules for one component if one is asked for, and for the whole system otherwise. A
component that is not there has no rules of its own. -/
def prompt (m : Manifest) (component : Option String) : String :=
  let body := match component with
    | some name => ((m.component? name).map ManifestComponent.promptLines).getD []
    | none => m.overviewLines
  joinWith "\n" (promptOpening ++ body ++ promptClosing)

/-- Have the rules a text? Those for one component name the defaults of its properties. -/
def hasPrompt (m : Manifest) (component : Option String) : Bool :=
  match component.bind m.component? with
  | some c => c.properties.all fun p => (p.default.map Value.isWritable).getD true
  | none => true

end Manifest

end Stylebook
