import Stylebook.Proofs.Theme.Locality

/-!
Composing themes is inheriting from all of them: a new theme that has the names for its parents and
brings nothing of its own is flattened to what they are composed to.
-/

namespace Stylebook

/-- A theme with parents and nothing else. -/
def Theme.heir (name : String) (parents : List String) : Theme :=
  ⟨name, none, some (.many parents), ∅, none, none, none⟩

theorem Layer.withTheme_heir (l : Layer) (name : String) (parents : List String) :
    l.withTheme (.heir name parents) = l := by
  have ho : deepMerge l.overrides (Theme.heir name parents).overrides = l.overrides := by
    rw [Theme.overrides]
    exact deepMerge_nil l.overrides
  rw [withTheme, ho]
  rfl

/-- How the outcome of a flattening that starts from one of the names looks from `t`, which inherits
from them: an error shows the longer chain, and if `t` is a name itself it is a circle and not missing. -/
inductive SeenFrom (t : String) (names : List String) :
    Except ThemeError Layer → Except ThemeError Layer → Prop
  | made (l : Layer) : SeenFrom t names (.ok l) (.ok l)
  | missing (m : String) : SeenFrom t names (.error (.notFound m)) (.error (.notFound m))
  | circle (chain : List String) :
      SeenFrom t names (.error (.circular chain)) (.error (.circular (t :: chain)))
  | itself (h : t ∈ names) : SeenFrom t names (.error (.notFound t)) (.error (.circular [t, t]))

theorem SeenFrom.layAll {t : String} {names some : List String} {f g : String → Except ThemeError Layer}
    {base : Layer} (h : ∀ p ∈ some, SeenFrom t names (f p) (g p)) :
    SeenFrom t names (layAll f base some) (layAll g base some) := by
  induction some generalizing base with
  | nil => exact .made base
  | cons p rest ih =>
    rw [List.forall_mem_cons] at h
    have hp := h.1
    rw [Stylebook.layAll, Stylebook.layAll]
    generalize f p = a, g p = b at hp
    cases hp with
    | made l => exact ih h.2
    | missing m => exact .missing m
    | circle chain => exact .circle chain
    | itself ht => exact .itself ht

namespace Registry

variable {r : Registry} {names : List String} {n t : String}

theorem composeOver_eq (r : Registry) (base : Layer) (names : List String) :
    r.composeOver base names = layAll (r.descend []) base names := by
  induction names generalizing base with
  | nil => rfl
  | cons n rest ih =>
    rw [composeOver, layAll, resolve_eq_descend]
    cases r.descend [] n with
    | error e => rfl
    | ok l => exact ih (base.merge l)

theorem compose_eq (hne : names ≠ []) :
    r.compose names = (layAll (r.descend []) .empty names).map fun l => ⟨Text.joinWith "+" names, l⟩ := by
  have he : names.isEmpty = false := by simpa using hne
  rw [compose, he, composeOver_eq]
  rfl

theorem resolve_heir (ht : r.get? t = some (.heir t names)) :
    r.resolve t = (layAll (r.descend [t]) .empty names).map fun l => ⟨t, l⟩ := by
  rw [resolve_eq_descend, descend_parents List.not_mem_nil ht, List.nil_append]
  change ((layAll (r.descend [t]) .empty names).map _).map _ = _
  cases layAll (r.descend [t]) .empty names with
  | error e => rfl
  | ok l => simp only [Except.map, Layer.withTheme_heir]

theorem error_of_descend {e : ThemeError} (h : r.descend [] n = .error e) :
    (∃ m, e = .notFound m) ∨ ∃ chain, e = .circular chain := by
  have hr : r.resolve n = .error e := by rw [resolve_eq_descend, h]; rfl
  cases fault_of_resolve hr with
  | @missing m _ _ => exact .inl ⟨m, rfl⟩
  | circle _ _ => exact .inr ⟨_, rfl⟩

/-- Below any other name the new theme is never met, and what is met is as it was. -/
theorem seenFrom_descend (hr : r.get? t = none) (hm : ∀ m, ¬ r.Inherits m t) (hn : n ∈ names) :
    SeenFrom t names (r.descend [] n) ((r.register (.heir t names)).descend [t] n) := by
  have hget (m : String) : (r.register (.heir t names)).get? m =
      if t = m then some (.heir t names) else r.get? m := Dict.get?_insert
  by_cases hnt : n = t
  · subst hnt
    rw [descend_missing List.not_mem_nil hr, descend_onWay List.mem_cons_self]
    exact .itself hn
  · have hreach : ¬ r.Reaches n t := by
      intro h
      rcases Relation.ReflTransGen.cases_tail h with h | ⟨m, -, h⟩
      · exact hnt h.symm
      · exact hm m h
    have hsame : ∀ m, r.Reaches n m → r.get? m = (r.register (.heir t names)).get? m := by
      intro m h
      have htm : t ≠ m := fun he => hreach (he ▸ h)
      rw [hget, if_neg htm]
    have hfront : ∀ w ∈ [t], ¬ r.Reaches n w := fun w hw => List.mem_singleton.mp hw ▸ hreach
    have hway : r.descend ([t] ++ []) n = (r.descend [] n).mapError (.after [t]) := descend_append hfront
    rw [List.append_nil] at hway
    rw [← descend_congr hsame, hway]
    cases hd : r.descend [] n with
    | ok l => exact .made l
    | error e =>
      obtain ⟨m, rfl⟩ | ⟨chain, rfl⟩ := error_of_descend hd
      · exact .missing m
      · exact .circle chain

/-- Themes can be composed exactly if a new theme that inherits from them can be flattened, and then both
are the same: tokens, dark tokens, changes to components and prefix, in the same order. If they cannot, the
same theme is missing, or the new theme stands before the same chain; only if it is among the names itself
it is missing for the composition and a circle for the inheritance. -/
theorem compose_eq_heir (hne : names ≠ []) (hr : r.get? t = none) (hm : ∀ m, ¬ r.Inherits m t) :
    ((∃ a, r.compose names = .ok a) ↔ ∃ b, (r.register (.heir t names)).resolve t = .ok b) ∧
    (∀ a b, r.compose names = .ok a → (r.register (.heir t names)).resolve t = .ok b → a.layer = b.layer) ∧
    ∀ d e, r.compose names = .error d → (r.register (.heir t names)).resolve t = .error e →
      (∃ m, d = .notFound m ∧ e = .notFound m) ∨
      (∃ chain, d = .circular chain ∧ e = .circular (t :: chain)) ∨
      t ∈ names ∧ d = .notFound t ∧ e = .circular [t, t] := by
  have ht : (r.register (.heir t names)).get? t = some (.heir t names) := Pairs.get?_set_self
  have hseen : SeenFrom t names (layAll (r.descend []) .empty names)
      (layAll ((r.register (.heir t names)).descend [t]) .empty names) :=
    .layAll fun p hp => seenFrom_descend hr hm hp
  rw [compose_eq hne, resolve_heir ht]
  generalize layAll (r.descend []) .empty names = x,
    layAll ((r.register (.heir t names)).descend [t]) .empty names = y at hseen
  cases hseen with
  | made l => simp [Except.map]
  | missing m => simp [Except.map]
  | circle chain => simp [Except.map]
  | itself h => simp [Except.map, h]

theorem compose_eq_heir_housePaper :
    let names := ["airy", "navy", "airy"]
    names ≠ [] ∧ housePaper.get? "mix" = none ∧ (∀ m, ¬ housePaper.Inherits m "mix") ∧
      ∃ a b, housePaper.compose names = .ok a ∧
        (housePaper.register (.heir "mix" names)).resolve "mix" = .ok b ∧ a.layer = b.layer ∧
        b.layer.tokens.at? "ink" "text" = some (.text "black") := by
  intro names
  have hm : ∀ m, ¬ housePaper.Inherits m "mix" := by
    rintro m ⟨t, ht, hp⟩
    have hnone : ∀ e ∈ housePaper.entries, "mix" ∉ e.2.parents := by decide
    exact hnone (m, t) (Dict.get?_eq_some_iff.mp ht) hp
  have hheir := compose_eq_heir (show names ≠ [] by decide) (show housePaper.get? "mix" = none from rfl) hm
  obtain ⟨b, hw⟩ :
      ∃ b, (housePaper.register (.heir "mix" names)).resolveWithin 6 "mix" = some (.ok b) := ⟨_, rfl⟩
  have hb : (housePaper.register (.heir "mix" names)).resolve "mix" = .ok b :=
    resolve_of_resolveWithin (by decide) hw
  obtain ⟨a, ha⟩ := hheir.1.mpr ⟨b, hb⟩
  refine ⟨by decide, rfl, hm, a, b, ha, hb, hheir.2.1 a b ha hb, ?_⟩
  cases hw
  rfl

/-- A new theme among its own parents: the composition does not know it, and the inheritance goes in a
circle. -/
theorem compose_itself :
    (∅ : Registry).get? "draft" = none ∧ (∀ m, ¬ Inherits ∅ m "draft") ∧
      compose ∅ ["draft"] = .error (.notFound "draft") ∧
      (register ∅ (.heir "draft" ["draft"])).resolve "draft" = .error (.circular ["draft", "draft"]) := by
  have hm : ∀ m, ¬ Inherits ∅ m "draft" := by
    rintro m ⟨t, ht, -⟩
    cases ht
  have hw : resolveWithin ∅ 1 "draft" = some (.error (.notFound "draft")) := rfl
  have hresolve : resolve ∅ "draft" = .error (.notFound "draft") := resolve_of_resolveWithin (by decide) hw
  have hcompose : compose ∅ ["draft"] = .error (.notFound "draft") := by
    rw [compose, composeOver, hresolve]
    rfl
  have hw' : (register ∅ (.heir "draft" ["draft"])).resolveWithin 2 "draft" =
      some (.error (.circular ["draft", "draft"])) := rfl
  exact ⟨rfl, hm, hcompose, resolve_of_resolveWithin (by decide) hw'⟩

end Registry

end Stylebook
