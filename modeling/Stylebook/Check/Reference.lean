import Stylebook.Check.Constraint

/-!
Names of properties in rules and mappings that no property of the component bears.
-/

namespace Stylebook

namespace Component

variable (c : Component) (path : String)

def unknownIssue (code : IssueCode) (wording property path : String) : Issue :=
  ⟨.error, code, wording ++ " unknown property " ++ quoteName property, path, none⟩

/-- An issue for each name that is not declared. -/
def unknownIssues (code : IssueCode) (wording path : String) (names : List String) : List Issue :=
  (names.filter fun p => !c.properties.contains p).map fun p => unknownIssue code wording p path

def constraintReferences (rule : Constraint) (path : String) : List Issue :=
  c.unknownIssues .unknownConstraintProperty "Constraint references" path rule.trigger.keys ++
    c.unknownIssues .unknownForbiddenProperty "Constraint forbids" path
      (rule.consequence.bans.map Ban.property) ++
    c.unknownIssues .unknownRequiredProperty "Constraint requires" path
      rule.consequence.demanded.keys

end Component

/-- The properties that a mapping names: those of its key, then those of its conditions. -/
def mappingReferences (key : String) (m : Mapping) : List String :=
  let named := (mappingPairs key).map Prod.fst
  match m with
  | .flat _ => named
  | .conditional entries => named ++ entries.flatMap fun e => e.condition.keys

namespace Component

variable (c : Component) (path : String)

def mappingIssues (key : String) (m : Mapping) (path : String) : List Issue :=
  c.unknownIssues .unknownMappingProperty "Mapping references" path (mappingReferences key m).eraseDups

/-- The dangling references of a component, rules first; paths lead to the rule or the mapping. -/
def referenceIssues : List Issue :=
  (c.constraints.zipIdx.flatMap fun r =>
    c.constraintReferences r.1 (path ++ ".constraints." ++ toString r.2)) ++
  c.mappings.entries.flatMap fun e => c.mappingIssues e.1 e.2 (path ++ ".mappings." ++ e.1)

end Component

end Stylebook
