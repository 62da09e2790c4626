import Stylebook.Proofs.Theme.Merge
import Stylebook.Proofs.Theme.Resolution
import Stylebook.Proofs.Traversal

/-!
Flattening by plain recursion: every parent is flattened anew wherever it is named, and nothing is
remembered. On grounded themes the walk gives the same, for the theme that is asked for and for every
ancestor that it remembers.
-/

namespace Stylebook

open Relation

/-- What a theme brings, as fields. -/
structure PlainLayer where
  tokens : Fields
  darkTokens : Fields
  overrides : Fields
  pre : String

def Layer.plain (l : Layer) : PlainLayer :=
  ⟨l.tokens.fields, l.darkTokens.fields, l.overrides, l.pre⟩

/-- Folds what the parents bring from the left, and merges the theme's own parts on top. The prefix
is the theme's own, or that of its last parent, or the usual one. -/
def Theme.over (t : Theme) (ps : List PlainLayer) : PlainLayer where
  tokens := deepMerge ((ps.map PlainLayer.tokens).foldl deepMerge []) t.tokens.fields
  darkTokens := deepMerge ((ps.map PlainLayer.darkTokens).foldl deepMerge [])
    (t.darkTokens.getD ∅).fields
  overrides := deepMerge ((ps.map PlainLayer.overrides).foldl deepMerge []) t.overrides
  pre := t.pre?.getD ((ps.getLast?.map PlainLayer.pre).getD defaultPrefix)

namespace Registry

/-- Plain recursion over the parents, down to a number of levels; none if they do not suffice or a
theme is missing. -/
def plain (r : Registry) : Nat → String → Option PlainLayer
  | 0, _ => none
  | levels + 1, n =>
    (r.get? n).bind fun t => (t.parents.mapM (r.plain levels)).map t.over

end Registry

theorem Layer.foldl_merge_fields {g : Layer → Fields}
    (hg : ∀ a b : Layer, g (a.merge b) = deepMerge (g a) (g b)) (ls : List Layer) (base : Layer) :
    g (ls.foldl Layer.merge base) = (ls.map g).foldl deepMerge (g base) := by
  induction ls generalizing base with
  | nil => rfl
  | cons l ls ih => rw [List.foldl_cons, ih, hg]; rfl

theorem Layer.foldl_merge_pre (ls : List Layer) (base : Layer) :
    (ls.foldl Layer.merge base).pre = (ls.getLast?.map Layer.pre).getD base.pre := by
  induction ls generalizing base with
  | nil => rfl
  | cons l ls ih =>
    rw [List.foldl_cons, ih, List.getLast?_cons]
    cases ls.getLast? <;> rfl

theorem Registry.plain_flatten (t : Theme) (ls : List Layer) :
    (flatten t ls).plain = t.over (ls.map Layer.plain) := by
  have ht := Layer.foldl_merge_fields (g := fun l => l.tokens.fields)
    (fun a b => Tokens.fields_merge a.tokens b.tokens) ls .empty
  have hd := Layer.foldl_merge_fields (g := fun l => l.darkTokens.fields)
    (fun a b => Tokens.fields_merge a.darkTokens b.darkTokens) ls .empty
  have ho := Layer.foldl_merge_fields (g := Layer.overrides) (fun _ _ => rfl) ls .empty
  have hp := Layer.foldl_merge_pre ls .empty
  have he : Tokens.fields ∅ = [] := by rw [Tokens.fields_eq]; rfl
  simp only [flatten, Layer.plain, Layer.withTheme, Theme.over, Tokens.fields_merge, List.map_map,
    Function.comp_def, List.getLast?_map, Option.map_map, ht, hd, ho, hp]
  simp only [Layer.empty, he]

namespace Registry

variable {r : Registry} {n : String}

theorem plain_eq_some_iff {levels : Nat} {x : PlainLayer} :
    r.plain (levels + 1) n = some x ↔
      ∃ t xs, r.get? n = some t ∧ List.Forall₂ (fun p y => r.plain levels p = some y) t.parents xs ∧
        t.over xs = x := by
  simp only [plain, Option.bind_eq_some_iff, Option.map_eq_some_iff, mapM_eq_some_iff]
  constructor
  · rintro ⟨t, ht, xs, hxs, hx⟩
    exact ⟨t, xs, ht, hxs, hx⟩
  · rintro ⟨t, xs, ht, hxs, hx⟩
    exact ⟨t, ht, xs, hxs, hx⟩

/-- More levels give what fewer give. -/
theorem plain_mono {a b : Nat} {x : PlainLayer} (h : r.plain a n = some x) (hab : a ≤ b) :
    r.plain b n = some x := by
  induction a generalizing b n x with
  | zero => cases h
  | succ a ih =>
    obtain ⟨b, rfl⟩ : ∃ c, b = c + 1 := ⟨b - 1, by omega⟩
    obtain ⟨t, xs, ht, hxs, hx⟩ := plain_eq_some_iff.mp h
    exact plain_eq_some_iff.mpr ⟨t, xs, ht, hxs.imp fun _ _ hp => ih hp (by omega), hx⟩

/-- Names that lead down to a grounded theme are no ancestors of it, so its plain recursion needs no
more levels than there are other names. -/
theorem Grounded.exists_plain (h : r.Grounded n) (way : List String)
    (hway : ∀ w ∈ way, TransGen r.Inherits w n) : ∃ x, r.plain (r.offWay way).length n = some x := by
  induction h generalizing way with
  | @intro n t ht hp ih =>
    -- on the way, `n` would be its own ancestor
    have hn : n ∉ way := fun hw => (Grounded.intro ht hp).not_onCircle (hway n hw)
    have hlt := offWay_lt (mem_keys_of_get? ht) hn
    obtain ⟨k, hk⟩ : ∃ k, (r.offWay way).length = k + 1 := ⟨(r.offWay way).length - 1, by omega⟩
    have hall : ∀ p ∈ t.parents, ∃ y, r.plain k p = some y := by
      intro p hpt
      have hnp : r.Inherits n p := ⟨t, ht, hpt⟩
      have hway' : ∀ w ∈ way ++ [n], TransGen r.Inherits w p := by
        intro w hw
        rcases List.mem_append.mp hw with hw | hw
        · exact (hway w hw).tail hnp
        · exact List.mem_singleton.mp hw ▸ .single hnp
      obtain ⟨y, hy⟩ := ih p hpt (way ++ [n]) hway'
      exact ⟨y, plain_mono hy (by omega)⟩
    obtain ⟨xs, hxs⟩ := exists_forall₂_iff.mpr hall
    exact ⟨t.over xs, hk ▸ plain_eq_some_iff.mpr ⟨t, xs, ht, hxs, rfl⟩⟩

/-- The layer of a grounded theme is what plain recursion gives. -/
def IsPlain (r : Registry) (n : String) (l : Layer) : Prop :=
  r.Grounded n ∧ ∀ levels, r.size ≤ levels → r.plain levels n = some l.plain

theorem flattening_isPlain : r.Flattening r.IsPlain := by
  intro n t ls ht hls
  have hg : r.Grounded n := .of_forall₂ ht hls fun _ _ h => h.1
  obtain ⟨x, hx⟩ := hg.exists_plain [] (by simp)
  have hxs : r.plain r.size n = some x := plain_mono hx r.offWay_nil_le
  have hps : List.Forall₂ (fun p y => r.plain r.size p = some y) t.parents (ls.map Layer.plain) :=
    List.forall₂_map_right_iff.mpr (hls.imp fun _ _ h => h.2 r.size le_rfl)
  have hy : r.plain (r.size + 1) n = some (flatten t ls).plain :=
    plain_eq_some_iff.mpr ⟨t, _, ht, hps, (plain_flatten t ls).symm⟩
  have hxy : some x = some (flatten t ls).plain := (plain_mono hxs (Nat.le_succ _)).symm.trans hy
  exact ⟨hg, fun levels hl => plain_mono (hxy ▸ hxs) hl⟩

/-- A theme that can be flattened comes out as plain recursion has it, key order included, and so
does every ancestor that the walk remembers, by whichever way it was first met. -/
theorem resolve_eq_plain {flat : FlatTheme} (h : r.resolve n = .ok flat) :
    flat.name = n ∧ (∀ levels, r.size ≤ levels → r.plain levels n = some flat.layer.plain) ∧
    ∃ memo, r.walk [] [] n = .ok (flat.layer, memo) ∧
      ∀ m, r.Reaches n m → ∃ l, Pairs.get? m memo = some l ∧
        ∀ levels, r.size ≤ levels → r.plain levels m = some l.plain := by
  obtain ⟨hname, memo, hw⟩ := resolve_eq_ok_iff.mp h
  obtain ⟨hm, -, hn⟩ := (walk_remembers r.flattening_isPlain).1 [] [] n flat.layer memo hw (.nil _)
  refine ⟨hname, (hm.sound n flat.layer hn).2, memo, hw, fun m hr => ?_⟩
  have hkeys : m ∈ Pairs.keys memo :=
    hm.reaches (Pairs.get?_isSome_iff.mp (by rw [hn]; rfl)) hr
  obtain ⟨l, hl⟩ := Option.isSome_iff_exists.mp (Pairs.get?_isSome_iff.mpr hkeys)
  exact ⟨l, hl, (hm.sound m l hl).2⟩

/-- Two themes with one parent, and a child of both. -/
def diamond : Registry :=
  let theme (name : String) (parents : List String) (tokens : Tokens) : Theme :=
    ⟨name, none, some (.many parents), tokens, none, none, none⟩
  Dict.ofList [
    ("base", theme "base" [] (.ofList [("ink", .ofList [("dark", .text "black")])])),
    ("left", theme "left" ["base"] (.ofList [("ink", .ofList [("dark", .text "navy")])])),
    ("right", theme "right" ["base"] (.ofList [("gap", .ofList [("s", .number (.int 4))])])),
    ("leaf", theme "leaf" ["left", "right"] ∅)]

/-- The second parent brings the shared ancestor once more, over what the first has changed. -/
def diamondLeaf : FlatTheme where
  name := "leaf"
  layer :=
    { tokens := .ofList [("ink", .ofList [("dark", .text "black")]),
        ("gap", .ofList [("s", .number (.int 4))])]
      darkTokens := ∅
      overrides := []
      pre := defaultPrefix }

theorem resolve_eq_plain_diamond : diamond.resolve "leaf" = .ok diamondLeaf ∧
    ∀ levels, diamond.size ≤ levels → diamond.plain levels "leaf" = some diamondLeaf.layer.plain := by
  have hw : diamond.resolveWithin 5 "leaf" = some (.ok diamondLeaf) := rfl
  have h : diamond.resolve "leaf" = .ok diamondLeaf :=
    Option.some.inj ((resolveWithin_eq (by decide) "leaf").symm.trans hw)
  exact ⟨h, (resolve_eq_plain h).2.1⟩

end Registry

end Stylebook
