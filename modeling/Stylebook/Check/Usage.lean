import Stylebook.Check.Constraint
import Stylebook.Number.Reading
import Stylebook.DesignSystem

/-!
The values that usages give to the properties of components. A known value has to lie in its
property's domain; of a value computed at run time nothing is asked.
-/

namespace Stylebook

open Text

/-- Names that belong to the surrounding framework. -/
def isPassthrough (prop : String) : Bool :=
  ["children", "key", "ref"].contains prop || "on".toList.isPrefixOf prop.toList ||
    "data-".toList.isPrefixOf prop.toList

/-- The number that a text writes; blank text and NaN write none. -/
def numberOfText? (s : String) : Option Binary64 :=
  match readNumeral? s with
  | some .nan => none
  | r => r

/-- The number that a value stands for, if it stands for one. -/
def asNumber : Value → Except Unfit (Option Binary64)
  | .number (.int i) => match Binary64.ofInt? i with
    | some x => .ok (some x)
    | none => .error (.tooLarge i)
  | .number (.float x) => .ok (some x)
  | .text s => .ok (numberOfText? s)
  | _ => .ok none

namespace Domain

variable (name path : String)

def mismatch (kind got : String) : Issue :=
  ⟨.error, .typeMismatch, "Property " ++ quoteName name ++ " must be a " ++ kind ++ ", got " ++ got,
    path, none⟩

def enumIssues (values : List String) (v : Value) : Except Unfit (List Issue) :=
  let options := joinWith ", " values
  if !v.isWritable then .error .tooLong
  else if values.contains v.plain then .ok []
  else .ok [⟨.error, .invalidEnumValue,
    "Invalid value " ++ quoteName v.plain ++ " for property " ++ quoteName name ++
      ". Valid values: " ++ options, path, some ("Use one of: " ++ options)⟩]

def booleanIssues (v : Value) : List Issue :=
  match v with
  | .bool _ => []
  | v => [mismatch name path "boolean" v.kindName]

def rangeIssue (relation : String) (bound : Number) (x : Binary64) : Except Unfit Issue :=
  if !bound.isWritable then .error .tooLong
  else .ok ⟨.error, .outOfRange, "Property " ++ quoteName name ++ " must be " ++ relation ++ " " ++
    bound.text ++ ", got " ++ (Number.float x).plainText, path, none⟩

def rangeIssues (lo hi : Option Number) (x : Binary64) : Except Unfit (List Issue) := do
  let below ← (lo.filter fun l => (Number.float x).lt l).mapM fun l => rangeIssue name path ">=" l x
  let above ← (hi.filter fun h => h.lt (.float x)).mapM fun h => rangeIssue name path "<=" h x
  return below.toList ++ above.toList

def numberIssues (lo hi : Option Number) (v : Value) : Except Unfit (List Issue) := do
  match ← asNumber v with
  | some x => rangeIssues name path lo hi x
  | none => return [mismatch name path "number" v.kindName]

/-- The issues of a known value. -/
def literalIssues (d : Domain) (v : Value) : Except Unfit (List Issue) :=
  match d with
  | .enum values _ => enumIssues name path values v
  | .boolean _ => .ok (booleanIssues name path v)
  | .number _ lo hi => numberIssues name path lo hi v
  | .string _ => .ok []

/-- The issues of any value. -/
def valueIssues (d : Domain) : PropValue → Except Unfit (List Issue)
  | .dynamic _ => .ok [⟨.info, .dynamicValue,
      "Property " ++ quoteName name ++ " has dynamic value that cannot be statically validated",
      path, none⟩]
  | .literal v => d.literalIssues name path v
  | .nested _ => match d with
    | .string _ => .ok []
    | _ => .ok [mismatch name path d.kind "object"]

/-- What to write for a property that is missing. -/
def proposal : Domain → String
  | .enum values default => match default with
    | some d => d
    | none => values.headD "..."
  | .boolean default => (Value.bool (default.getD true)).plain
  | .number (some d) _ _ => d.plainText
  | _ => "..."

/-- Is what to write short enough to be written? -/
def isProposable : Domain → Bool
  | .number (some d) _ _ => d.isWritable
  | _ => true

end Domain

/-- Can the values that a rule bans or demands be compared with those of a usage? -/
def Constraint.isSettled (c : Constraint) (props : Props) : Bool :=
  let short (property : String) : Bool := match props.get? property with
    | some (.literal v) => v.isWritable
    | _ => true
  (c.consequence.bans.all fun b => b.value.isNone || short b.property) &&
    c.consequence.demanded.keys.all short

namespace Component

variable (c : Component) (u : Usage)

/-- The properties that the usage has to give and does not. -/
def missing : List (String × Property) :=
  c.properties.entries.filter fun e => e.2.required && !u.props.contains e.1

def missingIssues : List Issue :=
  (c.missing u).map fun e =>
    ⟨.error, .missingRequiredProp, "Required property " ++ quoteName e.1 ++ " is missing", u.path,
      some ("Add " ++ e.1 ++ "=" ++ quoteName e.2.domain.proposal)⟩

def isKnownProp (prop : String) : Bool := isPassthrough prop || c.properties.contains prop

def unknownPropIssues : List Issue :=
  (u.props.keys.filter fun p => !c.isKnownProp p).map fun p =>
    ⟨.error, .unknownProperty,
      "Unknown property " ++ quoteName p ++ " on component " ++ quoteName c.name, u.path,
      some ("Valid properties: " ++ joinWith ", " c.properties.keys)⟩

/-- The issues of one value of a usage; a property that is not declared has no domain to miss. -/
def propIssues (name : String) (v : PropValue) : Except Unfit (List Issue) :=
  match c.properties.get? name with
  | some p => p.domain.valueIssues name (u.propPath name) v
  | none => .ok []

def valueIssues : List (String × PropValue) → Except Unfit (List Issue)
  | [] => .ok []
  | (name, v) :: rest => do
    let first ← c.propIssues u name v
    let others ← valueIssues rest
    return first ++ others

/-- What keeps a rule from being looked at: whether it fires cannot be told, or it fires and cannot
be put into words. -/
def ruleUnfit? (rule : Constraint) : Option Unfit :=
  if !isDecided u.props rule.trigger.entries then some .tooLong
  else if !rule.fires u.props then none
  else rule.fault?.or (Unfit.unlessShort (rule.isSettled u.props))

/-- The issues of the rules, if nothing keeps one from being looked at. Their place is written first,
whether there are any or not. -/
def ruleIssues : Except Unfit (List Issue) :=
  Unfit.guard ((Unfit.unlessShort u.isPlaced).or (c.constraints.findSome? (ruleUnfit? u)))
    (c.constraintIssues u)

/-- All issues of a usage: what is missing, what is unknown, values, and rules, in this order. -/
def usageIssues : Except Unfit (List Issue) := do
  if !u.isPlaced || (c.missing u).any fun e => !e.2.domain.isProposable then throw .tooLong
  let values ← c.valueIssues u u.props.entries
  return c.missingIssues u ++ c.unknownPropIssues u ++ values ++ (← c.ruleIssues u)

def checkUsage (strict : Bool) : Except Unfit Verdict :=
  (c.usageIssues u).map fun issues => .ofIssues issues strict

end Component

/-- A usage of unknown place is taken to stand somewhere in the file of its batch. -/
def Usage.locatedIn (u : Usage) (file : String) : Usage :=
  match u.location with
  | some _ => u
  | none => { u with location := some ⟨file, 0, 0⟩ }

namespace DesignSystem

variable (s : DesignSystem)

def batchUsageIssues (file : String) (u : Usage) : Except Unfit (List Issue) :=
  match s.components.get? u.component with
  | none => .ok [⟨.error, .unknownComponent, "Unknown component " ++ quoteName u.component, file, none⟩]
  | some c => c.usageIssues (u.locatedIn file)

def batchIssues : List (String × Usage) → Except Unfit (List Issue)
  | [] => .ok []
  | (file, u) :: rest => do
    let first ← s.batchUsageIssues file u
    let others ← batchIssues rest
    return first ++ others

/-- The verdict on all usages of all batches. -/
def checkUsages (batches : List Batch) (strict : Option Bool) : Except Unfit Verdict :=
  let all := batches.flatMap fun b => b.usages.map fun u => (b.file, u)
  (s.batchIssues all).map fun issues => .ofIssues issues (strict.getD s.settings.strict)

end DesignSystem

end Stylebook
