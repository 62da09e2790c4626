import Stylebook.Component
import Stylebook.Constraint.Evaluation
import Stylebook.Constraint.Wording
import Stylebook.Issue

/-!
Violations of rules by the values that a usage gives.
-/

namespace Stylebook

open Text

/-- The message of a rule, or another if it has none of its own. -/
def Constraint.messageOr (c : Constraint) (other : String) : String :=
  match c.message with
  | some m => if m.isEmpty then other else m
  | none => other

def quoteName (s : String) : String := "\"" ++ s ++ "\""

namespace Constraint

variable (c : Constraint) (props : Props) (path : String)

/-- The issue that a ban of a fired rule leads to, if the usage has what is banned. -/
def banIssue? (b : Ban) : Option Issue :=
  let condition := triggerText c.trigger
  match props.get? b.property, b.value with
  | none, _ => none
  | some _, none => some {
      severity := .error
      code := .forbiddenProp
      message := c.messageOr
        ("Property " ++ quoteName b.property ++ " is not allowed when " ++ condition)
      path := path
      suggestion := some ("Remove " ++ quoteName b.property ++ " or change " ++ condition) }
  | some (.literal v), some banned =>
    if v.plain = banned then some {
      severity := .error
      code := .forbiddenProp
      message := c.messageOr
        ("Property " ++ quoteName b.property ++ " cannot be " ++ quoteName banned ++ " when " ++
          condition)
      path := path
      suggestion := some ("Change " ++ quoteName b.property ++ " or change " ++ condition) }
    else none
  | some _, some _ => none

/-- The value proposed for a property that a rule demands. -/
def hint (property : String) (allowed : List String) : String :=
  let proposed := (c.suggest.bind fun d => d.get? property).getD ""
  if proposed.isEmpty then allowed.headD "" else proposed

/-- The issue that a demand of a fired rule leads to, if the usage does not meet it. -/
def demandIssue? (property : String) (allowed : List String) : Option Issue :=
  let condition := triggerText c.trigger
  let hint := c.hint property allowed
  let wrong (shown : String) : Issue := {
    severity := .error
    code := .invalidValue
    message := c.messageOr
      ("Property " ++ quoteName property ++ " must be one of [" ++ joinWith ", " allowed ++
        "] when " ++ condition ++ ", got " ++ quoteName shown)
    path := path
    suggestion := some ("Change to " ++ property ++ "=" ++ quoteName hint) }
  match props.get? property with
  | none => some {
      severity := .error
      code := .missingRequired
      message := c.messageOr
        ("Property " ++ quoteName property ++ " is required when " ++ condition)
      path := path
      suggestion := some ("Add " ++ property ++ "=" ++ quoteName hint) }
  | some (.dynamic _) => none
  | some (.literal v) => if allowed.contains v.plain then none else some (wrong v.plain)
  | some (.nested _) => some (wrong "\x7b...\x7d")

/-- The violations of a rule that has fired. -/
def firedIssues : List Issue :=
  c.consequence.bans.filterMap (c.banIssue? props path) ++
    c.consequence.demanded.entries.filterMap fun e =>
      c.demandIssue? props path e.1 (e.2.map Scalar.plain)

def issues : List Issue := if c.fires props then c.firedIssues props path else []

end Constraint

/-- The violations of all rules, rule by rule. -/
def constraintIssues (rules : List Constraint) (props : Props) (path : String) : List Issue :=
  rules.flatMap fun c => c.issues props path

def Component.constraintIssues (c : Component) (u : Usage) : List Issue :=
  Stylebook.constraintIssues c.constraints u.props u.path

end Stylebook
