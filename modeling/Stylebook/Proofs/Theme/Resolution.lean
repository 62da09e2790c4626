import Stylebook.Proofs.Theme.Depth

/-!
Which themes can be flattened: those that are grounded. For any other theme the error tells what is
wrong, a missing ancestor or a circle that starts from the theme.
-/

namespace Stylebook.Registry

variable {r : Registry} {n : String}

theorem resolve_eq_ok_iff {flat : FlatTheme} : r.resolve n = .ok flat ↔
    flat.name = n ∧ ∃ memo, r.walk [] [] n = .ok (flat.layer, memo) := by
  obtain ⟨name, layer⟩ := flat
  rw [resolve]
  cases r.walk [] [] n with
  | error e => simp [Except.map]
  | ok x =>
    obtain ⟨l, memo⟩ := x
    simp [Except.map, eq_comm]

theorem resolve_eq_error_iff {e : ThemeError} :
    r.resolve n = .error e ↔ r.walk [] [] n = .error e := by
  rw [resolve]
  cases r.walk [] [] n <;> simp [Except.map]

/-- A flat theme has what holds of a layer as soon as it holds of the layers of the parents. -/
theorem Flattening.of_resolve {P : String → Layer → Prop} (hP : r.Flattening P) {t : FlatTheme}
    (h : r.resolve n = .ok t) : P n t.layer := by
  obtain ⟨-, memo, hw⟩ := resolve_eq_ok_iff.mp h
  obtain ⟨hm, -, hn⟩ := (walk_remembers hP).1 [] [] n t.layer memo hw (.nil _)
  exact hm.sound n t.layer hn

theorem grounded_of_resolve {t : FlatTheme} (h : r.resolve n = .ok t) : r.Grounded n := by
  have hP : r.Flattening fun m _ => r.Grounded m :=
    fun _ _ _ ht hls => .of_forall₂ ht hls fun _ _ h => h
  exact hP.of_resolve h

theorem fault_of_resolve {e : ThemeError} (h : r.resolve n = .error e) : r.Fault [] n e :=
  walk_fault.1 [] [] n e (resolve_eq_error_iff.mp h) .nil (.singleton n)

/-- A theme that cannot be flattened has an ancestor that is missing or inherits from itself. -/
theorem Fault.not_registered {e : ThemeError} (h : r.Fault [] n e)
    (hc : ∀ m, r.Reaches n m → r.contains m = true) : ∃ m, r.Reaches n m ∧ r.OnCircle m := by
  cases h with
  | missing hr hm =>
    have hm' := hc _ hr
    rw [Dict.contains, hm] at hm'
    cases hm'
  | @circle before last h hw =>
    have hn : (before ++ [last]).head? = some n := by
      obtain ⟨rest, hrest⟩ := hw
      rw [← hrest]
      rfl
    exact ⟨last, h.reaches hn, h.onCircle⟩

theorem resolve_of_registered (hc : ∀ m, r.Reaches n m → r.contains m = true)
    (ho : ∀ m, r.Reaches n m → ¬ r.OnCircle m) : ∃ t, r.resolve n = .ok t := by
  cases h : r.resolve n with
  | ok t => exact ⟨t, rfl⟩
  | error e =>
    obtain ⟨m, hm, hcircle⟩ := (fault_of_resolve h).not_registered hc
    exact absurd hcircle (ho m hm)

theorem resolve_of_grounded (h : r.Grounded n) : ∃ t, r.resolve n = .ok t :=
  resolve_of_registered (fun _ hm => (h.reaches hm).contains)
    fun _ hm => (h.reaches hm).not_onCircle

theorem grounded_iff : r.Grounded n ↔
    (∀ m, r.Reaches n m → r.contains m = true) ∧ ∀ m, r.Reaches n m → ¬ r.OnCircle m := by
  constructor
  · intro h
    exact ⟨fun m hm => (h.reaches hm).contains, fun m hm => (h.reaches hm).not_onCircle⟩
  · intro ⟨hc, ho⟩
    obtain ⟨t, ht⟩ := resolve_of_registered hc ho
    exact grounded_of_resolve ht

theorem resolve_isOk_iff : (∃ t, r.resolve n = .ok t) ↔ r.Grounded n :=
  ⟨fun ⟨_, h⟩ => grounded_of_resolve h, resolve_of_grounded⟩

/-- Flattening ends within one level more than there are themes. It succeeds exactly if every theme
on the way up is registered and none is its own ancestor; otherwise the error names an ancestor that
is not registered, or shows a way from `n` that comes back to one of its names. -/
theorem resolve_ends_and_decides (r : Registry) (n : String) :
    (∀ levels, r.size < levels → r.resolveWithin levels n = some (r.resolve n)) ∧
    ((∃ t, r.resolve n = .ok t) ↔
      (∀ m, r.Reaches n m → r.contains m = true) ∧ ∀ m, r.Reaches n m → ¬ r.OnCircle m) ∧
    ∀ e, r.resolve n = .error e →
      (∃ m, e = .notFound m ∧ r.Reaches n m ∧ r.contains m = false) ∨
      ∃ before last, e = .circular (before ++ [last]) ∧ (before ++ [last]).head? = some n ∧
        r.Circles before last := by
  refine ⟨fun levels h => resolveWithin_eq h n, resolve_isOk_iff.trans grounded_iff, ?_⟩
  intro e h
  cases fault_of_resolve h with
  | @missing m hr hm => exact .inl ⟨m, rfl, hr, by rw [Dict.contains, hm]; rfl⟩
  | @circle before last hc hw =>
    obtain ⟨rest, hrest⟩ := hw
    exact .inr ⟨before, last, rfl, by rw [← hrest]; rfl, hc⟩

end Stylebook.Registry
