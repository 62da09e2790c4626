import Stylebook.Component

/-!
What well-known components, properties and values mean, in words.
-/

namespace Stylebook.Glossary

/-- What components of well-known names are. -/
def componentDescriptions : List (String × String) :=
  [
    ("Button", "An interactive element that triggers an action when clicked or pressed."),
    ("Stack",
      "A layout component that distributes children along a vertical or horizontal axis with consistent spacing."),
    ("Surface", "A container that provides visual elevation and background treatment."),
    ("Text", "A typography component for displaying text with consistent styling."),
    ("Input", "A form control for accepting user text input."),
    ("Card", "A container for grouping related content and actions."),
    ("Dialog", "A modal window that interrupts the user flow to display important content."),
    ("Avatar",
      "A visual representation of a user or entity, typically as an image or initials."),
    ("Badge", "A small label for displaying status, count, or category."),
    ("Divider", "A visual separator between content sections."),
    ("Icon", "A symbolic visual element representing an action, object, or concept."),
    ("List", "A vertical grouping of related items."),
    ("Grid", "A two-dimensional layout system for arranging content in rows and columns.")]

/-- What properties of well-known components are for. -/
def propertyDescriptions : List (String × List (String × String)) :=
  [
    ("Button", [
      ("importance", "Visual prominence level indicating the action significance"),
      ("size", "Physical dimensions of the button"),
      ("state", "Interactive state affecting appearance and behavior")]),
    ("Stack", [
      ("direction", "Axis along which children are arranged"),
      ("gap", "Space between child elements"),
      ("align", "Cross-axis alignment of children"),
      ("justify", "Main-axis distribution of children")]),
    ("Surface", [
      ("elevation", "Visual depth indicating hierarchy level"),
      ("padding", "Internal spacing from content to edges"),
      ("background", "Background color treatment")]),
    ("Text", [
      ("size", "Typography scale level"),
      ("weight", "Font thickness"),
      ("color", "Text color variant"),
      ("align", "Horizontal text alignment")])]

/-- What values of such properties mean. -/
def valueDescriptions : List (String × List (String × List (String × String))) :=
  [
    ("Button", [
      ("importance", [
        ("primary", "The main call-to-action, highest prominence"),
        ("secondary", "Alternative action, medium prominence"),
        ("ghost", "Low emphasis, blends with background"),
        ("danger", "Destructive action requiring caution")]),
      ("size", [
        ("sm", "Compact size for dense UIs"),
        ("md", "Standard size for most use cases"),
        ("lg", "Large size for emphasis or touch targets")])]),
    ("Stack", [
      ("direction", [
        ("row", "Horizontal layout, left to right"),
        ("column", "Vertical layout, top to bottom")]),
      ("gap", [
        ("tight", "Minimal spacing, 4px"),
        ("normal", "Standard spacing, 8px"),
        ("relaxed", "Comfortable spacing, 16px"),
        ("loose", "Generous spacing, 32px")]),
      ("align", [
        ("start", "Align to start of cross axis"),
        ("center", "Center along cross axis"),
        ("end", "Align to end of cross axis"),
        ("stretch", "Fill available cross-axis space")])])]

def property? (component property : String) : Option String :=
  (Pairs.get? component propertyDescriptions).bind (Pairs.get? property)

def values? (component property : String) : Option (List (String × String)) :=
  (Pairs.get? component valueDescriptions).bind (Pairs.get? property)

end Stylebook.Glossary

namespace Stylebook

/-- The first of two texts that is there and not empty. -/
def firstText (a b : Option String) : Option String := (a.filter fun s => !s.isEmpty).orElse fun _ => b

/-- A component in words: its own description, or the known one of its name. -/
def Component.summary (c : Component) (name : String) : String :=
  (firstText c.description (Pairs.get? name Glossary.componentDescriptions)).getD
    (name ++ " component")

end Stylebook
