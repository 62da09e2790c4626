import Stylebook.Combination

/-!
Example usages as markup: admissible combinations, and usages that break a rule.
-/

namespace Stylebook

open Text

/-- Attributes as pairs of a name and a value. -/
abbrev Attributes := List (String × String)

def attributesText (attributes : Attributes) : String :=
  joinWith " " (attributes.map fun e => e.1 ++ "=\"" ++ e.2 ++ "\"")

/-- An element with attributes and content. -/
def markup (name : String) (attributes : Attributes) (content : String) : String :=
  let attrs := attributesText attributes
  (if attrs.isEmpty then "<" ++ name ++ ">" else "<" ++ name ++ " " ++ attrs ++ ">") ++
    content ++ "</" ++ name ++ ">"

/-- An example with the reason why it is wrong. -/
def rebuke (example_ reason : String) : String := example_ ++ "  <!-- Error: " ++ reason ++ " -->"

structure Examples where
  valid : List String
  invalid : List String
  deriving DecidableEq, Repr

namespace Component

variable (c : Component)

/-- Does each value lie in its enumeration? -/
def hasEnumValues (attributes : Attributes) : Bool :=
  attributes.all fun e => match (c.property? e.1).bind Property.values? with
    | some vs => vs.contains e.2
    | none => true

/-- The first combination in a large size, if there is such a size. -/
def largeVariant? (found : List Combination) : Option Attributes :=
  (found.head?.map (Pairs.set "size" "lg")).filter fun x =>
    c.properties.contains "size" && c.hasEnumValues x

/-- Combinations with what they are shown with, and the large variant of the first if it violates no
rule. -/
def shownAttributes (found : List Combination) : List (Attributes × String) :=
  (found.map fun x => (x, "Content")) ++
    ((c.largeVariant? found).filter c.accepts).toList.map fun x => (x, "Larger variant")

/-- What is shown as valid: the first three combinations, and the large variant of the first. -/
def validAttributes : Except Unfit (List (Attributes × String)) := do
  let found ← c.enumerate (some 3)
  Unfit.guard ((c.largeVariant? found).bind c.combinationUnfit?) (c.shownAttributes found)

end Component

namespace Condition

/-- The first scalar that a condition lists, if it lists any. -/
def listed? : Condition → Option Scalar
  | equals s => some s
  | oneOf l => l.head?
  | compares _ _ => none

/-- A value for which a condition holds, if the condition lists one. -/
def sample? (c : Condition) : Option String := c.listed?.map Scalar.plain

/-- Are the values listed for conditions short enough to be written? Those after a condition that
lists none are not looked at. -/
def areListed : List Condition → Bool
  | [] => true
  | c :: rest => match c.listed? with
    | none => true
    | some s => s.isWritable && areListed rest

end Condition

/-- Values for which a trigger fires, if each condition lists one. -/
def sampleAttributes? (trigger : Dict Condition) : Option Attributes :=
  trigger.entries.mapM fun e => e.2.sample?.map fun v => (e.1, v)

namespace Component

variable (c : Component)

/-- The banned value to show: the one that the ban names, or else the first of the enumeration. -/
def bannedValue? (b : Ban) : Option String :=
  b.value.orElse fun _ => ((c.property? b.property).bind Property.values?).bind List.head?

/-- A usage that breaks a rule, if the rule is one that forbids and a value can be shown. -/
def violation? (rule : Constraint) : Option Attributes := do
  let ban ← rule.consequence.bans.head?
  let attributes ← sampleAttributes? rule.trigger
  let value ← c.bannedValue? ban
  return Pairs.set ban.property value attributes

/-- The rules that examples are shown for, if they are rules that forbid. -/
def exampleRules : List Constraint := c.constraints.take 2

def invalidExamples (name : String) : List String :=
  c.exampleRules.filterMap fun rule => (c.violation? rule).map fun attributes =>
    rebuke (markup name attributes "Invalid") (rule.messageOr "Constraint violation")

/-- Are the values that the examples of broken rules show short enough to be written? -/
def violationsWritable : Bool :=
  c.exampleRules.all fun rule =>
    rule.consequence.bans.isEmpty || Condition.areListed rule.trigger.values

/-- The example of a usage by utility classes, which is never right. -/
def utilityExample (name : String) : String :=
  rebuke (markup name [("className", "flex items-center")] "Bad")
    "Use Intent props, not Tailwind utilities"

/-- The examples of a component, if the rules can be looked at for each combination on the way to the
valid ones and the values of the others can be written. -/
def examples (name : String) : Except Unfit Examples := do
  let valid ← c.validAttributes
  Unfit.guard (Unfit.unlessShort c.violationsWritable) {
    valid := valid.map fun x => markup name x.1 x.2
    invalid := c.invalidExamples name ++ [utilityExample name] }

end Component

end Stylebook
