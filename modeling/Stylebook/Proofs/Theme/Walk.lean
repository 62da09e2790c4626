import Stylebook.Proofs.Theme.Ancestry

/-!
What a walk through the ancestors of a theme leaves behind. If it succeeds, every layer it remembers
is made from those of the parents, which it remembers too. If it fails, it has met a missing ancestor
or has come back to a name on its way.
-/

namespace Stylebook.Registry

open Relation

variable {r : Registry} {way : List String} {memo : Memo} {n : String}

theorem walk_known {l : Layer} (h : Pairs.get? n memo = some l) :
    r.walk way memo n = .ok (l, memo) := by
  rw [walk, h]

theorem walk_onWay (h : Pairs.get? n memo = none) (hw : n ∈ way) :
    r.walk way memo n = .error (.circular (way ++ [n])) := by
  rw [walk, h]
  simp only [hw, ↓reduceDIte]

theorem walk_missing (h : Pairs.get? n memo = none) (hw : n ∉ way) (ht : r.get? n = none) :
    r.walk way memo n = .error (.notFound n) := by
  rw [walk, h]
  simp only [hw, ↓reduceDIte]
  split
  · rfl
  · rename_i t ht'
    rw [ht] at ht'
    cases ht'

theorem walk_parents {t : Theme} (h : Pairs.get? n memo = none) (hw : n ∉ way)
    (ht : r.get? n = some t) :
    r.walk way memo n = (r.walkAll (way ++ [n]) memo .empty t.parents).map
      fun x => (x.1.withTheme t, Pairs.set n (x.1.withTheme t) x.2) := by
  rw [walk, h]
  simp only [hw, ↓reduceDIte]
  split
  · rename_i ht'
    rw [ht] at ht'
    cases ht'
  · rename_i s hs
    rw [ht] at hs
    cases hs
    cases r.walkAll (way ++ [n]) memo .empty t.parents <;> rfl

/-- What a theme brings, given what each of its parents brings. -/
def flatten (t : Theme) (ls : List Layer) : Layer := (ls.foldl Layer.merge .empty).withTheme t

/-- What holds of a theme's layer as soon as it holds of the layers of its parents. -/
def Flattening (r : Registry) (P : String → Layer → Prop) : Prop :=
  ∀ n t ls, r.get? n = some t → List.Forall₂ P t.parents ls → P n (flatten t ls)

/-- What holds of the empty layer, and goes on to hold when layers are merged and themes are laid over them,
holds of every layer. -/
theorem Flattening.of_kept {Q : Layer → Prop} (hempty : Q .empty)
    (hmerge : ∀ base top, Q base → Q top → Q (base.merge top))
    (htheme : ∀ n t base, r.get? n = some t → Q base → Q (base.withTheme t)) :
    r.Flattening fun _ l => Q l := by
  intro n t ls ht hls
  refine htheme n t _ ht (List.foldlRecOn ls Layer.merge hempty fun base hbase l hl => ?_)
  obtain ⟨i, hi, rfl⟩ := List.getElem_of_mem hl
  exact hmerge base _ hbase (hls.get (hls.length_eq.symm ▸ hi) hi)

/-- Every layer that is remembered has the property, and with a theme its parents are remembered. -/
structure Remembers (r : Registry) (P : String → Layer → Prop) (memo : Memo) : Prop where
  sound : ∀ m l, Pairs.get? m memo = some l → P m l
  closed : ∀ m p, m ∈ Pairs.keys memo → r.Inherits m p → p ∈ Pairs.keys memo

theorem Grounded.of_forall₂ {t : Theme} {P : String → Layer → Prop} {ls : List Layer}
    (ht : r.get? n = some t) (hls : List.Forall₂ P t.parents ls) (hP : ∀ m l, P m l → r.Grounded m) :
    r.Grounded n := by
  refine .intro ht fun p hp => ?_
  obtain ⟨i, hi, rfl⟩ := List.getElem_of_mem hp
  exact hP _ _ (hls.get hi (hls.length_eq ▸ hi))

theorem Remembers.nil (P : String → Layer → Prop) : r.Remembers P [] where
  sound m l h := by cases h
  closed m p h := by cases h

theorem Remembers.set {P : String → Layer → Prop} (h : r.Remembers P memo) {t : Theme} {l : Layer}
    (ht : r.get? n = some t) (hp : ∀ p ∈ t.parents, p ∈ Pairs.keys memo) (hl : P n l) :
    r.Remembers P (Pairs.set n l memo) where
  sound m k hm := by
    rw [Pairs.get?_set] at hm
    split at hm
    · rename_i he
      subst he
      cases hm
      exact hl
    · exact h.sound m k hm
  closed m p hm hi := by
    rw [Pairs.mem_keys_set] at hm ⊢
    rcases hm with rfl | hm
    · exact .inr (hp p (hi.of_get? ht))
    · exact .inr (h.closed m p hm hi)

theorem Remembers.reaches {P : String → Layer → Prop} (h : r.Remembers P memo) {m : String}
    (hn : n ∈ Pairs.keys memo) (hm : r.Reaches n m) : m ∈ Pairs.keys memo := by
  induction hm with
  | refl => exact hn
  | tail _ hbc ih => exact h.closed _ _ ih hbc

/-- A walk that succeeds forgets nothing and remembers what it gives. The induction follows the calls;
the memo of one call is handed to the next, so each part says what it adds to the memo it is given. -/
theorem walk_remembers {P : String → Layer → Prop} (hP : r.Flattening P) :
    (∀ way memo n l memo', r.walk way memo n = .ok (l, memo') → r.Remembers P memo →
      r.Remembers P memo' ∧ (∀ k ∈ Pairs.keys memo, k ∈ Pairs.keys memo') ∧ Pairs.get? n memo' = some l) ∧
    (∀ way memo base names out memo', r.walkAll way memo base names = .ok (out, memo') →
      r.Remembers P memo → r.Remembers P memo' ∧ (∀ k ∈ Pairs.keys memo, k ∈ Pairs.keys memo') ∧
        (∀ p ∈ names, p ∈ Pairs.keys memo') ∧
        ∃ ls, List.Forall₂ P names ls ∧ out = ls.foldl Layer.merge base) := by
  apply walk.mutual_induct r
  case case1 =>
    intro way memo n l hk l' memo' h hm
    rw [walk_known hk] at h
    cases h
    exact ⟨hm, fun _ h => h, hk⟩
  case case2 =>
    intro way memo n hk hw l memo' h
    rw [walk_onWay hk hw] at h
    cases h
  case case3 =>
    intro way memo n hk hw ht l memo' h
    rw [walk_missing hk hw ht] at h
    cases h
  case case4 =>
    intro way memo n hk hw t ht e he _ l memo' h
    rw [walk_parents hk hw ht, he] at h
    cases h
  case case5 =>
    intro way memo n hk hw t ht base memo₁ he ih l memo' h hm
    rw [walk_parents hk hw ht, he] at h
    cases h
    obtain ⟨hm₁, hs, hp, ls, hls, rfl⟩ := ih _ _ he hm
    -- only now that the parents are remembered may the theme be added
    refine ⟨hm₁.set ht hp (hP n t ls ht hls), fun k hk => ?_, Pairs.get?_set_self⟩
    exact Pairs.mem_keys_set.mpr (.inr (hs k hk))
  case case6 =>
    intro way memo base out memo' h hm
    rw [walkAll] at h
    cases h
    exact ⟨hm, fun _ h => h, by simp, [], .nil, rfl⟩
  case case7 =>
    intro way memo base n rest e he _ out memo' h
    rw [walkAll, he] at h
    cases h
  case case8 =>
    intro way memo base n rest l memo₁ he ih ihs out memo' h hm
    rw [walkAll, he] at h
    obtain ⟨hm₁, hs₁, hn⟩ := ih _ _ he hm
    obtain ⟨hm', hs, hp, ls, hls, rfl⟩ := ihs _ _ h hm₁
    have hk : n ∈ Pairs.keys memo₁ := Pairs.get?_isSome_iff.mp (by rw [hn]; rfl)
    refine ⟨hm', fun k hk => hs k (hs₁ k hk), List.forall_mem_cons.mpr ⟨hs n hk, hp⟩, l :: ls, ?_, rfl⟩
    exact .cons (hm₁.sound n l hn) hls

/-- Why a walk fails that has come to `n` along `way`. -/
inductive Fault (r : Registry) (way : List String) (n : String) : ThemeError → Prop
  | missing {m : String} (hr : r.Reaches n m) (hm : r.get? m = none) : Fault r way n (.notFound m)
  | circle {before : List String} {last : String} (hc : r.Circles before last)
      (hw : way ++ [n] <+: before ++ [last]) : Fault r way n (.circular (before ++ [last]))

theorem Fault.ofParent {p : String} {e : ThemeError} (h : r.Fault (way ++ [n]) p e)
    (hp : r.Inherits n p) : r.Fault way n e := by
  cases h with
  | missing hr hm => exact .missing (hr.head hp) hm
  | circle hc hw => exact .circle hc ((List.prefix_append _ _).trans hw)

/-- The way is a chain of parents without repetition, down to the name that is looked at. -/
theorem walk_fault :
    (∀ way memo n e, r.walk way memo n = .error e → way.Nodup →
      (way ++ [n]).IsChain r.Inherits → r.Fault way n e) ∧
    (∀ way memo base names e, r.walkAll way memo base names = .error e → way.Nodup →
      (∀ p ∈ names, (way ++ [p]).IsChain r.Inherits) → ∃ p ∈ names, r.Fault way p e) := by
  apply walk.mutual_induct r
  case case1 =>
    intro way memo n l hk e h
    rw [walk_known hk] at h
    cases h
  case case2 =>
    intro way memo n hk hw e h hd hc
    rw [walk_onWay hk hw] at h
    cases h
    exact .circle ⟨hc, hd, by rw [hd.count, if_pos hw]⟩ List.prefix_rfl
  case case3 =>
    intro way memo n hk hw ht e h _ _
    rw [walk_missing hk hw ht] at h
    cases h
    exact .missing .refl ht
  case case4 =>
    intro way memo n hk hw t ht e' he ih e h hd hc
    rw [walk_parents hk hw ht, he] at h
    cases h
    -- `n` is not on the way, so the way to its parents has no repetition either
    have hd' : (way ++ [n]).Nodup := by
      simpa [List.nodup_append, hd] using fun a ha (h : a = n) => hw (h ▸ ha)
    have hc' : ∀ p ∈ t.parents, (way ++ [n] ++ [p]).IsChain r.Inherits := by
      intro p hp
      have hnp : r.Inherits n p := ⟨t, ht, hp⟩
      simpa [List.isChain_append, hnp] using hc
    obtain ⟨p, hp, hf⟩ := ih e' he hd' hc'
    exact hf.ofParent ⟨t, ht, hp⟩
  case case5 =>
    intro way memo n hk hw t ht base memo₁ he _ e h
    rw [walk_parents hk hw ht, he] at h
    cases h
  case case6 =>
    intro way memo base e h
    rw [walkAll] at h
    cases h
  case case7 =>
    intro way memo base n rest e' he ih e h hd hc
    rw [walkAll, he] at h
    cases h
    exact ⟨n, List.mem_cons_self, ih e' he hd (hc n List.mem_cons_self)⟩
  case case8 =>
    intro way memo base n rest l memo₁ he _ ihs e h hd hc
    rw [walkAll, he] at h
    obtain ⟨p, hp, hf⟩ := ihs e h hd fun p hp => hc p (List.mem_cons_of_mem n hp)
    exact ⟨p, List.mem_cons_of_mem n hp, hf⟩

end Stylebook.Registry
