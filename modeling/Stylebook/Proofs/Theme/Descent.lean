import Stylebook.Proofs.Theme.Resolution

/-!
Flattening without a memory. The descent flattens every ancestor anew wherever it is named, and comes to
the layer or the error that the walk comes to. What two flattenings have to do with one another is said
of descents, where nothing but the way leads from one call to the next.
-/

namespace Stylebook

open Relation

/-- Lays what `f` gives for each name over `base`, up to the first error. -/
def layAll (f : String → Except ThemeError Layer) (base : Layer) : List String → Except ThemeError Layer
  | [] => .ok base
  | n :: rest =>
    match f n with
    | .error e => .error e
    | .ok l => layAll f (base.merge l) rest

/-- The error as it looks to one who has come the way `front` before. -/
def ThemeError.after (front : List String) : ThemeError → ThemeError
  | circular chain => circular (front ++ chain)
  | e => e

section LayAll

variable {f g : String → Except ThemeError Layer} {base : Layer} {names : List String}

theorem layAll_congr (h : ∀ p ∈ names, f p = g p) : layAll f base names = layAll g base names := by
  induction names generalizing base with
  | nil => rfl
  | cons n rest ih =>
    rw [List.forall_mem_cons] at h
    rw [layAll, layAll, h.1]
    cases g n with
    | error e => rfl
    | ok l => exact ih h.2

theorem layAll_mapError (k : ThemeError → ThemeError) :
    layAll (fun p => (f p).mapError k) base names = (layAll f base names).mapError k := by
  induction names generalizing base with
  | nil => rfl
  | cons n rest ih =>
    rw [layAll, layAll]
    cases f n with
    | error e => rfl
    | ok l => exact ih

theorem layAll_of_forall₂ {ls : List Layer} (h : List.Forall₂ (fun p l => f p = .ok l) names ls) :
    layAll f base names = .ok (ls.foldl Layer.merge base) := by
  induction h generalizing base with
  | nil => rfl
  | cons hp _ ih =>
    rw [layAll, hp]
    exact ih

end LayAll

namespace Registry

variable {r : Registry} {way : List String} {memo : Memo} {n : String}

/-- Flattens `n`, to which the names on the way have led. -/
def descend (r : Registry) (way : List String) (n : String) : Except ThemeError Layer :=
  if _hw : n ∈ way then .error (.circular (way ++ [n]))
  else
    match _ht : r.get? n with
    | none => .error (.notFound n)
    | some t => (layAll (fun p => descend r (way ++ [n]) p) .empty t.parents).map (·.withTheme t)
termination_by (r.offWay way).length
decreasing_by exact offWay_lt (mem_keys_of_get? _ht) _hw

theorem descend_onWay (hw : n ∈ way) : r.descend way n = .error (.circular (way ++ [n])) := by
  rw [descend, dif_pos hw]

theorem descend_missing (hw : n ∉ way) (ht : r.get? n = none) :
    r.descend way n = .error (.notFound n) := by
  rw [descend, dif_neg hw]
  split
  · rfl
  · rename_i t ht'
    rw [ht] at ht'
    cases ht'

theorem descend_parents {t : Theme} (hw : n ∉ way) (ht : r.get? n = some t) :
    r.descend way n = (layAll (r.descend (way ++ [n])) .empty t.parents).map (·.withTheme t) := by
  rw [descend, dif_neg hw]
  split
  · rename_i ht'
    rw [ht] at ht'
    cases ht'
  · rename_i s hs
    rw [ht] at hs
    cases hs
    rfl

theorem inherits_of_get? {t : Theme} {p : String} (ht : r.get? n = some t) (hp : p ∈ t.parents) :
    r.Inherits n p := ⟨t, ht, hp⟩

/-- A way by which no ancestor of `n` has been passed does not matter, but for the chains in errors. -/
theorem descend_append {front : List String} (h : ∀ w ∈ front, ¬ r.Reaches n w) :
    r.descend (front ++ way) n = (r.descend way n).mapError (.after front) := by
  induction way, n using descend.induct r with
  | case1 way n hw =>
    rw [descend_onWay (List.mem_append_right front hw), descend_onWay hw, List.append_assoc]
    rfl
  | case2 way n hw ht =>
    have hf : n ∉ front := fun hf => h n hf .refl
    have hw' : n ∉ front ++ way := by simp [hf, hw]
    rw [descend_missing hw' ht, descend_missing hw ht]
    rfl
  | case3 way n hw t ht ih =>
    have hf : n ∉ front := fun hf => h n hf .refl
    have hw' : n ∉ front ++ way := by simp [hf, hw]
    have hp : ∀ p ∈ t.parents, r.descend (front ++ way ++ [n]) p =
        (r.descend (way ++ [n]) p).mapError (.after front) := by
      intro p hp
      rw [List.append_assoc]
      exact ih p fun w hwf hr => h w hwf (hr.head (inherits_of_get? ht hp))
    rw [descend_parents hw' ht, descend_parents hw ht, layAll_congr hp, layAll_mapError]
    cases layAll (r.descend (way ++ [n])) .empty t.parents <;> rfl

/-- A grounded theme comes out the same whichever of its descendants have led to it. -/
theorem Grounded.descend_eq (h : r.Grounded n) (hway : ∀ w ∈ way, TransGen r.Inherits w n) {l : Layer}
    (hl : r.descend [] n = .ok l) : r.descend way n = .ok l := by
  have hf : ∀ w ∈ way, ¬ r.Reaches n w := fun w hw hr => h.not_onCircle (.trans_right hr (hway w hw))
  have ha : r.descend (way ++ []) n = (r.descend [] n).mapError (.after way) := descend_append hf
  rw [List.append_nil, hl] at ha
  exact ha

/-- The layer of a grounded theme is what the descent gives. -/
def IsDescent (r : Registry) (n : String) (l : Layer) : Prop := r.Grounded n ∧ r.descend [] n = .ok l

theorem flattening_isDescent : r.Flattening r.IsDescent := by
  intro n t ls ht hls
  have hn : r.Grounded n := .of_forall₂ ht hls fun _ _ h => h.1
  have hps : List.Forall₂ (fun p l => r.descend [n] p = .ok l) t.parents ls := by
    rw [List.forall₂_iff_get] at hls ⊢
    refine ⟨hls.1, fun i hp hl => ?_⟩
    have hd := hls.2 i hp hl
    have hi : r.Inherits n (t.parents.get ⟨i, hp⟩) := inherits_of_get? ht (List.get_mem _ _)
    exact hd.1.descend_eq (by simpa using TransGen.single hi) hd.2
  refine ⟨hn, ?_⟩
  rw [descend_parents List.not_mem_nil ht, List.nil_append, layAll_of_forall₂ hps]
  rfl

theorem walk_parents_eq_descend {t : Theme} (hk : Pairs.get? n memo = none) (hw : n ∉ way)
    (ht : r.get? n = some t) (hway : ∀ w ∈ way, TransGen r.Inherits w n)
    (hall : (∀ p ∈ t.parents, ∀ w ∈ way ++ [n], TransGen r.Inherits w p) →
      (r.walkAll (way ++ [n]) memo .empty t.parents).map Prod.fst =
        layAll (r.descend (way ++ [n])) .empty t.parents) :
    (r.walk way memo n).map Prod.fst = r.descend way n := by
  have hp : ∀ p ∈ t.parents, ∀ w ∈ way ++ [n], TransGen r.Inherits w p := by
    intro p hp w hw
    have hnp : r.Inherits n p := inherits_of_get? ht hp
    rcases List.mem_append.mp hw with hw | hw
    · exact (hway w hw).tail hnp
    · exact List.mem_singleton.mp hw ▸ .single hnp
  rw [walk_parents hk hw ht, descend_parents hw ht, ← hall hp]
  cases r.walkAll (way ++ [n]) memo .empty t.parents <;> rfl

/-- The induction follows the calls of the walk. What is remembered is taken as it is by the walk and
flattened once more by the descent, which does not notice the way since a grounded theme is never on it. -/
theorem walk_eq_descend :
    (∀ way memo n, r.Remembers r.IsDescent memo → (∀ w ∈ way, TransGen r.Inherits w n) →
      (r.walk way memo n).map Prod.fst = r.descend way n) ∧
    (∀ way memo base names, r.Remembers r.IsDescent memo →
      (∀ p ∈ names, ∀ w ∈ way, TransGen r.Inherits w p) →
      (r.walkAll way memo base names).map Prod.fst = layAll (r.descend way) base names) := by
  apply walk.mutual_induct r
  case case1 =>
    intro way memo n l hk hm hway
    obtain ⟨hg, hl⟩ := hm.sound n l hk
    rw [walk_known hk, hg.descend_eq hway hl]
    rfl
  case case2 =>
    intro way memo n hk hw hm hway
    rw [walk_onWay hk hw, descend_onWay hw]
    rfl
  case case3 =>
    intro way memo n hk hw ht hm hway
    rw [walk_missing hk hw ht, descend_missing hw ht]
    rfl
  case case4 =>
    intro way memo n hk hw t ht e _ ih hm hway
    exact walk_parents_eq_descend hk hw ht hway (ih hm)
  case case5 =>
    intro way memo n hk hw t ht base memo₁ _ ih hm hway
    exact walk_parents_eq_descend hk hw ht hway (ih hm)
  case case6 =>
    intro way memo base hm hway
    rw [walkAll, layAll]
    rfl
  case case7 =>
    intro way memo base n rest e he ih hm hway
    have hn := ih hm (hway n List.mem_cons_self)
    rw [he] at hn
    rw [walkAll, he, layAll, ← hn]
    rfl
  case case8 =>
    intro way memo base n rest l memo₁ he ih ihs hm hway
    have hn := ih hm (hway n List.mem_cons_self)
    rw [he] at hn
    -- the rest is walked with what has been remembered by now
    have hm₁ := ((walk_remembers flattening_isDescent).1 way memo n l memo₁ he hm).1
    have hrest := ihs hm₁ fun p hp => hway p (List.mem_cons_of_mem n hp)
    rw [walkAll, he, layAll, ← hn]
    exact hrest

theorem resolve_eq_descend (r : Registry) (n : String) :
    r.resolve n = (r.descend [] n).map fun l => ⟨n, l⟩ := by
  have h : (r.walk [] [] n).map Prod.fst = r.descend [] n := walk_eq_descend.1 [] [] n (.nil _) (by simp)
  rw [resolve, ← h]
  cases r.walk [] [] n <;> rfl

end Registry

end Stylebook
