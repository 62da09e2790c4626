import Stylebook.Proofs.Dict.Overlay
import Stylebook.Proofs.Theme.PlainRecursion

/-!
Which theme decides on a token. Flattening merges parents that are merged already, but what comes out
is what the lineage says: the lineages of the parents one after the other, shared ancestors repeated,
then the theme itself. Of the themes in it that define a token, the last one gives its value.
-/

namespace Stylebook

/-- A layer has the tokens and dark tokens of some themes, the later ones laid over the earlier. -/
structure Layer.LaidFrom (ts : List Theme) (l : Layer) : Prop where
  tokens : Dict.LastWins (ts.map Theme.tokens) l.tokens
  darkTokens : Dict.LastWins (ts.map fun t => t.darkTokens.getD ∅) l.darkTokens

theorem Tokens.merge_eq_overlay (base top : Tokens) : base.merge top = Dict.overlay base top := rfl

namespace Layer.LaidFrom

variable {ts upper : List Theme} {base top : Layer}

theorem empty : Layer.empty.LaidFrom [] := ⟨.nil, .nil⟩

theorem merge (h : base.LaidFrom ts) (ht : top.LaidFrom upper) :
    (base.merge top).LaidFrom (ts ++ upper) where
  tokens := by
    rw [List.map_append, Layer.merge, Tokens.merge_eq_overlay]
    exact h.tokens.overlay ht.tokens
  darkTokens := by
    rw [List.map_append, Layer.merge, Tokens.merge_eq_overlay]
    exact h.darkTokens.overlay ht.darkTokens

theorem withTheme (h : base.LaidFrom ts) (t : Theme) : (base.withTheme t).LaidFrom (ts ++ [t]) where
  tokens := by
    rw [List.map_append, Layer.withTheme, Tokens.merge_eq_overlay]
    exact h.tokens.overlay (.single t.tokens)
  darkTokens := by
    rw [List.map_append, Layer.withTheme, Tokens.merge_eq_overlay]
    exact h.darkTokens.overlay (.single (t.darkTokens.getD ∅))

/-- Each layer adds its own themes above all that were there. -/
theorem foldl_merge {names : List String} {ls : List Layer} {f : String → List Theme}
    (h : base.LaidFrom ts) (hls : List.Forall₂ (fun p l => l.LaidFrom (f p)) names ls) :
    (ls.foldl Layer.merge base).LaidFrom (ts ++ names.flatMap f) := by
  induction hls generalizing base ts with
  | nil => simpa using h
  | cons hl _ ih =>
    rw [List.foldl_cons, List.flatMap_cons, ← List.append_assoc]
    exact ih (h.merge hl)

end Layer.LaidFrom

namespace Registry

variable {r : Registry} {n : String} {t : Theme}

/-- The lineage of a theme, down to a number of levels. -/
def lineageWithin (r : Registry) : Nat → String → List Theme
  | 0, _ => []
  | levels + 1, n =>
    match r.get? n with
    | none => []
    | some t => t.parents.flatMap (r.lineageWithin levels) ++ [t]

/-- The lineages of the parents in the order of declaration, then the theme itself. -/
def lineage (r : Registry) (n : String) : List Theme := r.lineageWithin r.size n

theorem lineageWithin_succ (ht : r.get? n = some t) (levels : Nat) :
    r.lineageWithin (levels + 1) n = t.parents.flatMap (r.lineageWithin levels) ++ [t] := by
  rw [lineageWithin, ht]

/-- A level below one that suffices for a theme suffices for its parents. -/
theorem plain_parents {levels : Nat} {x : PlainLayer} (h : r.plain (levels + 1) n = some x)
    (ht : r.get? n = some t) : ∀ p ∈ t.parents, ∃ y, r.plain levels p = some y := by
  obtain ⟨s, xs, hs, hxs, -⟩ := plain_eq_some_iff.mp h
  obtain rfl : t = s := Option.some.inj (ht.symm.trans hs)
  intro p hp
  obtain ⟨i, hi, rfl⟩ := List.getElem_of_mem hp
  exact ⟨_, hxs.get hi (hxs.length_eq ▸ hi)⟩

/-- Levels that suffice for plain recursion suffice for the lineage, and more of them add nothing. -/
theorem lineageWithin_of_plain {a b : Nat} {x : PlainLayer} (h : r.plain a n = some x) (hab : a ≤ b) :
    r.lineageWithin b n = r.lineageWithin a n := by
  induction a generalizing b n x with
  | zero => cases h
  | succ a ih =>
    obtain ⟨b, rfl⟩ : ∃ c, b = c + 1 := ⟨b - 1, by omega⟩
    obtain ⟨t, -, ht, -⟩ := plain_eq_some_iff.mp h
    have hp : t.parents.map (r.lineageWithin b) = t.parents.map (r.lineageWithin a) := by
      refine List.map_congr_left fun p hp => ?_
      obtain ⟨y, hy⟩ := plain_parents h ht p hp
      exact ih hy (by omega)
    rw [lineageWithin_succ ht, lineageWithin_succ ht, List.flatMap_def, List.flatMap_def, hp]

theorem Grounded.lineage_eq (h : r.Grounded n) (ht : r.get? n = some t) :
    r.lineage n = t.parents.flatMap r.lineage ++ [t] := by
  obtain ⟨x, hx⟩ := h.exists_plain [] (by simp)
  have hsize : r.plain r.size n = some x := plain_mono hx r.offWay_nil_le
  rw [lineage]
  cases hs : r.size with
  | zero =>
    rw [hs] at hsize
    cases hsize
  | succ k =>
    rw [hs] at hsize
    have hp : t.parents.map r.lineage = t.parents.map (r.lineageWithin k) := by
      refine List.map_congr_left fun p hp => ?_
      obtain ⟨y, hy⟩ := plain_parents hsize ht p hp
      exact lineageWithin_of_plain hy (by omega)
    rw [lineageWithin_succ ht, List.flatMap_def, List.flatMap_def, hp]

/-- The layer of a grounded theme is laid from its lineage. -/
def IsLaid (r : Registry) (n : String) (l : Layer) : Prop := r.Grounded n ∧ l.LaidFrom (r.lineage n)

theorem flattening_isLaid : r.Flattening r.IsLaid := by
  intro n t ls ht hls
  have hn : r.Grounded n := .of_forall₂ ht hls fun _ _ h => h.1
  have hps := Layer.LaidFrom.empty.foldl_merge (hls.imp fun _ _ h => h.2)
  refine ⟨hn, ?_⟩
  rw [hn.lineage_eq ht]
  exact hps.withTheme t

/-- The tokens of a flat theme are those of the themes in its lineage, and the last theme that defines
a token decides; a category is there if some theme declares it, if only with nothing in it. It is the
same for dark tokens. -/
theorem resolve_lastWins {flat : FlatTheme} (h : r.resolve n = .ok flat) :
    (∀ m t, r.Reaches n m → r.get? m = some t →
      r.lineage m = t.parents.flatMap r.lineage ++ [t]) ∧
    Dict.LastWins ((r.lineage n).map Theme.tokens) flat.layer.tokens ∧
    Dict.LastWins ((r.lineage n).map fun t => t.darkTokens.getD ∅) flat.layer.darkTokens := by
  obtain ⟨-, memo, hw⟩ := resolve_eq_ok_iff.mp h
  obtain ⟨hm, -, hn⟩ := (walk_remembers flattening_isLaid).1 [] [] n flat.layer memo hw (.nil _)
  obtain ⟨hg, hl⟩ := hm.sound n flat.layer hn
  exact ⟨fun m t hr ht => (hg.reaches hr).lineage_eq ht, hl.tokens, hl.darkTokens⟩

/-- A house style with two variants, of which one names its inks anew and the other declares gaps
without any, and a page that takes after both. -/
def housePaper : Registry :=
  let theme (name : String) (parents : List String) (tokens : Tokens) (dark : Option Tokens) : Theme :=
    ⟨name, none, some (.many parents), tokens, dark, none, none⟩
  Dict.ofList [
    ("house", theme "house" [] (.ofList [("ink", .ofList [("text", .text "black")])])
      (some (.ofList [("ink", .ofList [("text", .text "white")])]))),
    ("navy", theme "navy" ["house"]
      (.ofList [("ink", .ofList [("text", .text "navy"), ("link", .text "blue")])]) none),
    ("airy", theme "airy" ["house"] (.ofList [("gap", ∅)]) none),
    ("page", theme "page" ["navy", "airy"] ∅
      (some (.ofList [("ink", .ofList [("text", .text "ivory")])])))]

/-- The house style comes once more with the second variant, and takes back the first one's ink. -/
theorem resolve_lastWins_housePaper : ∃ flat, housePaper.resolve "page" = .ok flat ∧
    (housePaper.lineage "page").map Theme.name = ["house", "navy", "house", "airy", "page"] ∧
    Dict.LastWins ((housePaper.lineage "page").map Theme.tokens) flat.layer.tokens ∧
    flat.layer.tokens.at? "ink" "text" = some (.text "black") ∧
    flat.layer.tokens.at? "ink" "link" = some (.text "blue") ∧
    flat.layer.tokens.contains "gap" = true ∧
    flat.layer.darkTokens.at? "ink" "text" = some (.text "ivory") := by
  obtain ⟨flat, hw⟩ : ∃ flat, housePaper.resolveWithin 5 "page" = some (.ok flat) := ⟨_, rfl⟩
  have h : housePaper.resolve "page" = .ok flat :=
    Option.some.inj ((resolveWithin_eq (by decide) "page").symm.trans hw)
  obtain ⟨-, ht, hd⟩ := resolve_lastWins h
  refine ⟨flat, h, rfl, ht, ?_, ?_, ?_, ?_⟩
  · rw [ht.value]; rfl
  · rw [ht.value]; rfl
  · rw [ht.category]
    exact ⟨.ofList [("gap", ∅)], by decide, rfl⟩
  · rw [hd.value]; rfl

end Registry

end Stylebook
