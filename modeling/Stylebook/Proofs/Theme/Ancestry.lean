import Mathlib.Data.List.Chain
import Mathlib.Logic.Relation
import Stylebook.Theme.Resolve

/-!
The graph of inheritance. A theme is grounded if it and all of its ancestors are registered and none
of them inherits from itself; a circle is a chain of parents that comes back to one of its names.
-/

namespace Stylebook.Registry

open Relation

variable {r : Registry}

/-- `b` is a declared parent of the theme that is registered as `a`. -/
def Inherits (r : Registry) (a b : String) : Prop := ∃ t, r.get? a = some t ∧ b ∈ t.parents

/-- `b` is `a` or one of its ancestors. -/
abbrev Reaches (r : Registry) : String → String → Prop := ReflTransGen r.Inherits

/-- `a` is an ancestor of itself. -/
def OnCircle (r : Registry) (a : String) : Prop := TransGen r.Inherits a a

/-- Built up from parents that are grounded already, so no descent from it is endless. -/
inductive Grounded (r : Registry) : String → Prop
  | intro {n : String} {t : Theme} (ht : r.get? n = some t) (hp : ∀ p ∈ t.parents, Grounded r p) :
      Grounded r n

theorem Inherits.of_get? {a b : String} {t : Theme} (h : r.Inherits a b) (ht : r.get? a = some t) :
    b ∈ t.parents := by
  obtain ⟨s, hs, hb⟩ := h
  rw [ht] at hs
  cases hs
  exact hb

theorem Grounded.contains {n : String} (h : r.Grounded n) : Dict.contains r n = true := by
  cases h with
  | intro ht _ => simp [Dict.contains, ht]

theorem Grounded.inherits {a b : String} (h : r.Grounded a) (hab : r.Inherits a b) :
    r.Grounded b := by
  cases h with
  | intro ht hp => exact hp b (hab.of_get? ht)

theorem Grounded.reaches {a b : String} (h : r.Grounded a) (hab : r.Reaches a b) :
    r.Grounded b := by
  induction hab with
  | refl => exact h
  | tail _ hbc ih => exact ih.inherits hbc

theorem Grounded.not_onCircle {n : String} (h : r.Grounded n) : ¬ r.OnCircle n := by
  induction h with
  | @intro n t ht hp ih =>
    intro hc
    obtain ⟨p, hnp, hpn⟩ := TransGen.head'_iff.mp hc
    exact ih p (hnp.of_get? ht) (TransGen.tail' hpn hnp)

/-- `before` followed by `last` is a chain of parents that passes no name twice until it comes back
to one of them. -/
structure Circles (r : Registry) (before : List String) (last : String) : Prop where
  chain : (before ++ [last]).IsChain r.Inherits
  distinct : before.Nodup
  again : before.count last = 1

theorem transGen_of_isChain {before : List String} {last a : String}
    (h : (before ++ [last]).IsChain r.Inherits) (ha : a ∈ before) :
    TransGen r.Inherits a last := by
  have ht : (before ++ [last]).IsChain (TransGen r.Inherits) := h.imp fun _ _ => TransGen.single
  have hp := List.isChain_iff_pairwise.mp ht
  exact (List.pairwise_append.mp hp).2.2 a ha last (List.mem_singleton_self last)

theorem Circles.onCircle {before : List String} {last : String} (h : r.Circles before last) :
    r.OnCircle last :=
  transGen_of_isChain h.chain (List.count_pos_iff.mp (by rw [h.again]; exact Nat.one_pos))

theorem Circles.reaches {before : List String} {last n : String} (h : r.Circles before last)
    (hn : (before ++ [last]).head? = some n) : r.Reaches n last := by
  cases before with
  | nil => cases h.again
  | cons a before =>
    simp only [List.cons_append, List.head?_cons, Option.some.injEq] at hn
    subst hn
    exact (transGen_of_isChain h.chain List.mem_cons_self).to_reflTransGen

end Stylebook.Registry
