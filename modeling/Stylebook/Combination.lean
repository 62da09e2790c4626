import Stylebook.Check.Usage

/-!
Combinations: one value for every enumeration of a component. The search yields the admissible ones
in the order of declaration, and a limit cuts the list short. It fails at a combination for which the
rules cannot be looked at.
-/

namespace Stylebook

abbrev Combination := List (String × String)

/-- All ways to choose one value for each name, the last name varying fastest. -/
def assignments : List (String × List String) → List Combination
  | [] => [[]]
  | (name, values) :: rest => values.flatMap fun v => (assignments rest).map fun c => (name, v) :: c

/-- Runs `f` on the items until `limit` results are found; `f` is told how many are still wanted. -/
def takeEach {α β : Type} (f : Option Nat → α → List β) : Option Nat → List α → List β
  | _, [] => []
  | limit, a :: rest =>
    let found := f limit a
    let wanted := limit.map fun n => n - found.length
    if wanted = some 0 then found else found ++ takeEach f wanted rest

/-- The accepted ways to complete `chosen`, no more of them than wanted. -/
def search (accepts : Combination → Bool) :
    List (String × List String) → Option Nat → Combination → List Combination
  | [], _, chosen => if accepts chosen then [chosen] else []
  | (name, values) :: rest, limit, chosen =>
    takeEach (fun wanted v => search accepts rest wanted (chosen ++ [(name, v)])) limit values

/-- The values of a combination as a usage would give them. -/
def Combination.props (c : Combination) : Props :=
  Dict.ofList (c.map fun e => (e.1, .literal (.text e.2)))

/-- The usage that a combination stands for. -/
def Combination.usage (component : String) (c : Combination) : Usage := ⟨component, c.props, none⟩

namespace Component

variable (c : Component)

/-- Does a combination violate no rule? -/
def accepts (combination : Combination) : Bool :=
  (Stylebook.constraintIssues c.constraints combination.props c.name).isEmpty

/-- What keeps the rules from being looked at for a combination. -/
def combinationUnfit? (combination : Combination) : Option Unfit :=
  c.constraints.findSome? (ruleUnfit? (combination.usage c.name))

/-- The combinations that a search stops at: admissible ones, and those that it cannot pass. -/
def stopsAt (combination : Combination) : Bool :=
  (c.combinationUnfit? combination).isSome || c.accepts combination

/-- The admissible combinations, as many of them as wanted, if the rules can be looked at for every
combination on the way. -/
def enumerate (limit : Option Nat) : Except Unfit (List Combination) :=
  let found := if limit = some 0 then [] else search c.stopsAt c.enums.entries limit []
  match found.findSome? c.combinationUnfit? with
  | some e => .error e
  | none => .ok found

end Component

/-- A limit that is negative or beyond all sizes. -/
structure BadLimit where
  limit : Int
  deriving DecidableEq, Repr

namespace BadLimit

/-- Sizes other than -1 that fit into a machine word are told apart from all other bad limits. -/
def subject (b : BadLimit) : String :=
  if fitsWord b.limit && b.limit != -1 then "Indices for" else "Stop argument for"

def message (b : BadLimit) : String :=
  b.subject ++ " islice() must be None or an integer: 0 <= x <= sys.maxsize."

end BadLimit

/-- Why there is no list of combinations. -/
inductive EnumerationError where
  | badLimit (b : BadLimit)
  | unfit (e : Unfit)
  deriving DecidableEq, Repr

namespace Component

variable (c : Component)

def enumerateWithin (limit : Option Int) : Except EnumerationError (List Combination) :=
  match limit with
  | none => (c.enumerate none).mapError .unfit
  | some n =>
    if 0 ≤ n && n < wordBound then (c.enumerate (some n.toNat)).mapError .unfit
    else .error (.badLimit ⟨n⟩)

end Component

/-- How many of the wanted values a combination has. -/
def Combination.score (wanted : Dict String) (c : Combination) : Nat :=
  (wanted.entries.filter fun e => Pairs.get? e.1 c == some e.2).length

/-- The first `count` items; a negative count leaves that many off the end. -/
def firstItems {α : Type} (count : Int) (l : List α) : List α :=
  if 0 ≤ count then l.take count.toNat else l.take (l.length - count.natAbs)

/-- Combinations by falling score, equal ones in the order in which they came. -/
def rankCombinations (wanted : Dict String) (l : List Combination) : List (Nat × Combination) :=
  (l.map fun x => (x.score wanted, x)).mergeSort fun a b => b.1 ≤ a.1

/-- The admissible combinations that share the most values with `props`, which have to be written as
texts first. -/
def Component.suggestions (c : Component) (props : Dict Value) (count : Int) :
    Except Unfit (List Combination) :=
  if !props.values.all Value.isWritable then .error .tooLong
  else (c.enumerate none).map fun l =>
    (firstItems count (rankCombinations (props.mapValues Value.plain) l)).map Prod.snd

end Stylebook
