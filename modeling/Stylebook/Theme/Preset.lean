import Stylebook.Theme.Resolve

/-!
The theme that is there from the start.
-/

namespace Stylebook

/-- Tokens whose values are texts, by category. -/
def textTokens (l : List (String × List (String × String))) : Tokens :=
  Dict.ofList (l.map fun c => (c.1, Dict.ofList (c.2.map fun t => (t.1, .text t.2))))

namespace Theme

def presetTokens : List (String × List (String × String)) :=
  [
    ("color", [
      ("brand-primary", "#3B82F6"), ("brand-secondary", "#64748B"), ("brand-accent", "#8B5CF6"),
      ("neutral-0", "#FFFFFF"), ("neutral-50", "#F8FAFC"), ("neutral-100", "#F1F5F9"),
      ("neutral-200", "#E2E8F0"), ("neutral-300", "#CBD5E1"), ("neutral-400", "#94A3B8"),
      ("neutral-500", "#64748B"), ("neutral-600", "#475569"), ("neutral-700", "#334155"),
      ("neutral-800", "#1E293B"), ("neutral-900", "#0F172A"), ("neutral-950", "#020617"),
      ("success-500", "#22C55E"), ("warning-500", "#F59E0B"), ("error-500", "#EF4444"),
      ("info-500", "#3B82F6")]),
    ("space", [
      ("0", "0px"), ("px", "1px"), ("0.5", "0.125rem"), ("1", "0.25rem"), ("2", "0.5rem"),
      ("3", "0.75rem"), ("4", "1rem"), ("5", "1.25rem"), ("6", "1.5rem"), ("8", "2rem"),
      ("10", "2.5rem"), ("12", "3rem"), ("16", "4rem"), ("20", "5rem"), ("24", "6rem")]),
    ("elevation", [
      ("none", "0 0 #0000"), ("sm", "0 1px 2px 0 rgb(0 0 0 / 0.05)"),
      ("DEFAULT", "0 1px 3px 0 rgb(0 0 0 / 0.1), 0 1px 2px -1px rgb(0 0 0 / 0.1)"),
      ("md", "0 4px 6px -1px rgb(0 0 0 / 0.1), 0 2px 4px -2px rgb(0 0 0 / 0.1)"),
      ("lg", "0 10px 15px -3px rgb(0 0 0 / 0.1), 0 4px 6px -4px rgb(0 0 0 / 0.1)"),
      ("xl", "0 20px 25px -5px rgb(0 0 0 / 0.1), 0 8px 10px -6px rgb(0 0 0 / 0.1)")]),
    ("radius", [
      ("none", "0px"), ("sm", "0.125rem"), ("DEFAULT", "0.25rem"), ("md", "0.375rem"),
      ("lg", "0.5rem"), ("xl", "0.75rem"), ("full", "9999px")]),
    ("typography", [
      ("font-sans", "ui-sans-serif, system-ui, sans-serif"),
      ("font-mono", "ui-monospace, monospace"), ("text-xs", "0.75rem"), ("text-sm", "0.875rem"),
      ("text-base", "1rem"), ("text-lg", "1.125rem"), ("text-xl", "1.25rem"),
      ("text-2xl", "1.5rem"), ("text-3xl", "1.875rem")])]

def presetDarkTokens : List (String × List (String × String)) :=
  [
    ("color", [
      ("brand-primary", "#60A5FA"), ("neutral-0", "#0F172A"), ("neutral-50", "#1E293B"),
      ("neutral-100", "#334155"), ("neutral-200", "#475569"), ("neutral-800", "#F1F5F9"),
      ("neutral-900", "#F8FAFC"), ("neutral-950", "#FFFFFF")])]

def preset : Theme where
  name := "intent-default"
  version := none
  inherits := none
  tokens := textTokens presetTokens
  darkTokens := some (textTokens presetDarkTokens)
  components := none
  settings := some ⟨some defaultPrefix, none⟩

def preset? (name : String) : Option Theme := if name = preset.name then some preset else none

end Theme

/-- The registry that a session starts with. -/
def Registry.default : Registry := Registry.register ∅ Theme.preset

end Stylebook
