import Stylebook.Theme

/-!
Flattening a theme by a walk through its ancestors, parents in the order of declaration. A theme
that was flattened before is not walked again, a theme that is met on the way to itself is a
circle, and a name that is not registered is missing. Every step down leaves one registered name
fewer off the way, so the walk ends.
-/

namespace Stylebook

/-- Themes by name, in the order of registration. -/
abbrev Registry := Dict Theme

inductive ThemeError where
  | notFound (name : String)
  | circular (chain : List String)
  | noNames
  deriving DecidableEq, Repr

def ThemeError.message : ThemeError → String
  | notFound name => "Theme \"" ++ name ++ "\" not found"
  | circular chain => "Circular theme dependency detected: " ++ Text.joinWith " -> " chain
  | noNames => "At least one theme name is required"

namespace Registry

def register (r : Registry) (t : Theme) : Registry := Dict.insert r t.name t

/-- The registered names that are not on the way. -/
def offWay (r : Registry) (way : List String) : List String := r.keys.filter fun k => !way.contains k

theorem offWay_lt {r : Registry} {way : List String} {name : String} (hr : name ∈ r.keys)
    (hw : name ∉ way) : (r.offWay (way ++ [name])).length < (r.offWay way).length := by
  have hsub : r.offWay (way ++ [name]) = (r.offWay way).filter fun k => k ≠ name := by
    rw [offWay, offWay, List.filter_filter]
    congr 1
    funext k
    by_cases h : k = name <;> simp [h]
  rw [hsub, List.length_filter_lt_length_iff_exists]
  exact ⟨name, by simp [offWay, hr, hw], by simp⟩

theorem mem_keys_of_get? {r : Registry} {name : String} {t : Theme} (h : r.get? name = some t) :
    name ∈ r.keys := Dict.mem_keys_of_get? h

/-- Themes that were flattened before. -/
abbrev Memo := List (String × Layer)

mutual

/-- Flattens `name`, to which the names on the way have led. -/
def walk (r : Registry) (way : List String) (memo : Memo) (name : String) :
    Except ThemeError (Layer × Memo) :=
  match Pairs.get? name memo with
  | some layer => .ok (layer, memo)
  | none =>
    if _hw : name ∈ way then .error (.circular (way ++ [name]))
    else
      match _ht : r.get? name with
      | none => .error (.notFound name)
      | some t =>
        match walkAll r (way ++ [name]) memo .empty t.parents with
        | .error e => .error e
        | .ok (base, memo) =>
          let layer := base.withTheme t
          .ok (layer, Pairs.set name layer memo)
termination_by ((r.offWay way).length, 0)
decreasing_by exact Prod.Lex.left _ _ (offWay_lt (mem_keys_of_get? _ht) _hw)

/-- Flattens all names and lays them over `base` one after the other. -/
def walkAll (r : Registry) (way : List String) (memo : Memo) (base : Layer) :
    List String → Except ThemeError (Layer × Memo)
  | [] => .ok (base, memo)
  | name :: rest =>
    match walk r way memo name with
    | .error e => .error e
    | .ok (layer, memo) => walkAll r way memo (base.merge layer) rest
termination_by names => ((r.offWay way).length, names.length + 1)
decreasing_by
  · exact Prod.Lex.right _ (by omega)
  · exact Prod.Lex.right _ (by simp)

end

/-- A registered theme with all of its ancestors flattened into it. -/
def resolve (r : Registry) (name : String) : Except ThemeError FlatTheme :=
  (r.walk [] [] name).map fun x => ⟨name, x.1⟩

/-- Flattens each theme by itself and lays the results over one another. -/
def composeOver (r : Registry) (base : Layer) : List String → Except ThemeError Layer
  | [] => .ok base
  | name :: rest =>
    match r.resolve name with
    | .error e => .error e
    | .ok t => r.composeOver (base.merge t.layer) rest

/-- Several themes as one, the later ones on top. -/
def compose (r : Registry) (names : List String) : Except ThemeError FlatTheme :=
  if names.isEmpty then .error .noNames
  else (r.composeOver .empty names).map fun layer => ⟨Text.joinWith "+" names, layer⟩

/-- A theme that inherits from `base` alone; it is not registered. -/
def extend (r : Registry) (base : String) (name : Value) (fields : Fields) :
    Except ThemeError (Decoded Theme) :=
  if r.contains base then
    let name := if name.isNothing then .text (base ++ "-extended") else name
    .ok (Theme.create name (Fields.set fields "extends" (.text base)))
  else .error (.notFound base)

end Registry

end Stylebook
