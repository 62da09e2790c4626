import Stylebook.Proofs.Dict.Erasure
import Stylebook.Proofs.Theme.Descent
import Stylebook.Proofs.Theme.Precedence

/-!
What flattening depends on. Only the themes that are reached from a name are looked at, so whatever is
done to the others leaves its flattening as it was, be it a theme or an error.
-/

namespace Stylebook

open Relation

namespace Dict

variable {α : Type} {d e : Dict α} {k : String}

theorem get?_of_perm (h : d.entries.Perm e.entries) : d.get? k = e.get? k := by
  refine Option.ext fun v => ?_
  rw [get?_eq_some_iff, get?_eq_some_iff, h.mem_iff]

end Dict

namespace Registry

variable {r r' : Registry} {kept : String → Prop} {way : List String} {m n : String}

theorem descend_congr (h : ∀ m, r.Reaches n m → r.get? m = r'.get? m) :
    r.descend way n = r'.descend way n := by
  induction way, n using descend.induct r with
  | case1 way n hw => rw [descend_onWay hw, descend_onWay hw]
  | case2 way n hw ht =>
    have ht' : r'.get? n = none := (h n .refl).symm.trans ht
    rw [descend_missing hw ht, descend_missing hw ht']
  | case3 way n hw t ht ih =>
    have ht' : r'.get? n = some t := (h n .refl).symm.trans ht
    have hp : ∀ p ∈ t.parents, r.descend (way ++ [n]) p = r'.descend (way ++ [n]) p := by
      intro p hp
      exact ih p fun m hm => h m (hm.head (inherits_of_get? ht hp))
    rw [descend_parents hw ht, descend_parents hw ht', layAll_congr hp]

/-- A change that leaves alone what is registered under the names to be kept. -/
inductive Edit (kept : String → Prop) : Registry → Registry → Prop
  /-- The theme is new or takes the place of one. -/
  | register {r : Registry} {t : Theme} (h : ¬ kept t.name) : Edit kept r (r.register t)
  | unregister {r : Registry} {m : String} (h : ¬ kept m) : Edit kept r (Dict.erase r m)
  | clear {r : Registry} (h : ∀ m, kept m → r.get? m = none) : Edit kept r ∅
  | reorder {r r' : Registry} (h : r.entries.Perm r'.entries) : Edit kept r r'

theorem Edit.get?_eq (h : Edit kept r r') (hm : kept m) : r'.get? m = r.get? m := by
  cases h with
  | @register t ht =>
    have hne : t.name ≠ m := fun he => ht (he ▸ hm)
    rw [Registry.register, Dict.get?_insert, if_neg hne]
  | @unregister j hj =>
    have hne : m ≠ j := fun he => hj (he ▸ hm)
    exact Dict.get?_erase_of_ne hne
  | clear hc => exact (hc m hm).symm
  | reorder hp => exact (Dict.get?_of_perm hp).symm

theorem get?_eq_of_edits (h : ReflTransGen (Edit kept) r r') (hm : kept m) : r'.get? m = r.get? m := by
  induction h with
  | refl => rfl
  | tail _ he ih => exact (he.get?_eq hm).trans ih

/-- The way up is the same in both registries as far as it goes in the first. -/
theorem reaches_congr (h : ∀ m, r.Reaches n m → r.get? m = r'.get? m) : r'.Reaches n m ↔ r.Reaches n m := by
  constructor
  · intro hm
    induction hm with
    | refl => exact .refl
    | tail _ hi ih =>
      obtain ⟨t, ht, hp⟩ := hi
      exact ih.tail ⟨t, (h _ ih).trans ht, hp⟩
  · intro hm
    induction hm with
    | refl => exact .refl
    | tail hb hi ih =>
      obtain ⟨t, ht, hp⟩ := hi
      exact ih.tail ⟨t, (h _ hb).symm.trans ht, hp⟩

theorem resolve_congr (h : ∀ m, r.Reaches n m → r.get? m = r'.get? m) : r.resolve n = r'.resolve n := by
  rw [resolve_eq_descend, resolve_eq_descend, descend_congr h]

/-- Two registries that have the same themes under the names which are reached from `n` in the first of
them flatten `n` alike, with the same theme or the same error. So no run of changes to other names makes
a difference to it, nor to what is reached. -/
theorem resolve_local (r : Registry) (n : String) :
    (∀ r' : Registry, (∀ m, r.Reaches n m → r.get? m = r'.get? m) → r.resolve n = r'.resolve n) ∧
    ∀ r' : Registry, ReflTransGen (Edit (r.Reaches n)) r r' →
      (∀ m, r'.Reaches n m ↔ r.Reaches n m) ∧ r.resolve n = r'.resolve n := by
  refine ⟨fun r' h => resolve_congr h, fun r' h => ?_⟩
  have hsame : ∀ m, r.Reaches n m → r.get? m = r'.get? m := fun m hm => (get?_eq_of_edits h hm).symm
  exact ⟨fun m => reaches_congr hsame, resolve_congr hsame⟩

theorem reaches_navy (h : housePaper.Reaches "navy" m) : m = "navy" ∨ m = "house" := by
  induction h with
  | refl => exact .inl rfl
  | tail _ hi ih =>
    rcases ih with rfl | rfl
    · have hp := hi.of_get? (t := (housePaper.get? "navy").get rfl) rfl
      exact .inr (List.mem_singleton.mp hp)
    · have hp := hi.of_get? (t := (housePaper.get? "house").get rfl) rfl
      exact absurd hp List.not_mem_nil

/-- In one registry the page, which takes after the navy style, has been replaced by one that takes after
itself, and the airy style is gone; in the other there is nothing but the two styles that are reached. -/
theorem resolve_local_housePaper :
    let page : Theme := ⟨"page", none, some (.one "page"), ∅, none, none, none⟩
    let edited : Registry := Dict.erase (housePaper.register page) "airy"
    let styles : Registry := Dict.ofList (housePaper.entries.take 2).reverse
    (∃ flat, housePaper.resolve "navy" = .ok flat) ∧
      ReflTransGen (Edit (housePaper.Reaches "navy")) housePaper edited ∧
      housePaper.resolve "navy" = edited.resolve "navy" ∧
      edited.resolve "page" = .error (.circular ["page", "page"]) ∧
      (∀ m, housePaper.Reaches "navy" m → housePaper.get? m = styles.get? m) ∧
      housePaper.resolve "navy" = styles.resolve "navy" := by
  intro page edited styles
  have hpage : ¬ housePaper.Reaches "navy" "page" := fun h => absurd (reaches_navy h) (by decide)
  have hairy : ¬ housePaper.Reaches "navy" "airy" := fun h => absurd (reaches_navy h) (by decide)
  have hedits : ReflTransGen (Edit (housePaper.Reaches "navy")) housePaper edited :=
    .tail (.single (.register hpage)) (.unregister hairy)
  have hsame : ∀ m, housePaper.Reaches "navy" m → housePaper.get? m = styles.get? m := by
    intro m hm
    rcases reaches_navy hm with rfl | rfl <;> rfl
  have hlocal := resolve_local housePaper "navy"
  obtain ⟨flat, hw⟩ : ∃ flat, housePaper.resolveWithin 5 "navy" = some (.ok flat) := ⟨_, rfl⟩
  have hnavy : housePaper.resolve "navy" = .ok flat := resolve_of_resolveWithin (by decide) hw
  have hw' : edited.resolveWithin 4 "page" = some (.error (.circular ["page", "page"])) := rfl
  have hcircle : edited.resolve "page" = .error (.circular ["page", "page"]) :=
    resolve_of_resolveWithin (by decide) hw'
  exact ⟨⟨flat, hnavy⟩, hedits, (hlocal.2 edited hedits).2, hcircle, hsame, hlocal.1 styles hsame⟩

end Registry

end Stylebook
