import Stylebook.Proofs.Dict.Layers
import Stylebook.Proofs.Theme.Frame
import Stylebook.Proofs.Theme.Resolution

/-!
Laying themes over a system one after the other, and laying their composition over it at once. Tokens
and prefix come out the same.
-/

namespace Stylebook

/-- Over tokens that are there, a composition lies as its parts do one after the other. -/
theorem Tokens.merge_composed (base a b : Tokens) :
    base.merge (((∅ : Tokens).merge a).merge b) = (base.merge a).merge b := by
  have hbase : base.overlay (∅ : Tokens) = base := rfl
  simp only [merge_eq_overlay, ← Dict.overlay_assoc, hbase]

theorem Registry.compose_pair {r : Registry} {a b : String} {fa fb : FlatTheme}
    (ha : r.resolve a = .ok fa) (hb : r.resolve b = .ok fb) :
    r.compose [a, b] =
      .ok ⟨Text.joinWith "+" [a, b], (Layer.empty.merge fa.layer).merge fb.layer⟩ := by
  simp only [compose, composeOver, ha, hb]
  rfl

namespace DesignSystem

variable {components : Dict Component} {overrides : Fields}

/-- Each override is laid over the component of its name as this is at first, as no other override changes
it. -/
theorem exists_overrideComponents_iff (hn : (Pairs.keys overrides).Nodup) :
    (∃ changed, overrideComponents components overrides = .ok changed) ↔
      ∀ name c v, components.get? name = some c → (.text name, v) ∈ overrides →
        ∃ c', c.withOverride v.fieldsOf = .ok c' := by
  induction overrides generalizing components with
  | nil => simp [overrideComponents]
  | cons e overrides ih =>
    obtain ⟨k, v⟩ := e
    rw [Pairs.keys_cons, List.nodup_cons] at hn
    cases k with
    | text s =>
      have hlater {name : String} {w : Value} (hw : (.text name, w) ∈ overrides) (c' : Component) :
          (components.insert s c').get? name = components.get? name := by
        have hne : s ≠ name := fun he => hn.1 (List.mem_map.mpr ⟨_, hw, congrArg Key.text he.symm⟩)
        rw [Dict.get?_insert, if_neg hne]
      constructor
      · rintro ⟨changed, h⟩ name c w hc hw
        obtain ⟨hnone, h⟩ | ⟨b, b', hb, hchange, h⟩ := overrideComponents_cons_iff.mp h
        · obtain he | hw := List.mem_cons.mp hw
          · cases he
            cases hnone.symm.trans hc
          · exact (ih hn.2).mp ⟨changed, h⟩ name c w hc hw
        · obtain he | hw := List.mem_cons.mp hw
          · cases he
            cases hb.symm.trans hc
            exact ⟨b', hchange⟩
          · exact (ih hn.2).mp ⟨changed, h⟩ name c w ((hlater hw b').trans hc) hw
      · intro h
        have hrest {name : String} {c : Component} {w : Value} := h name c w
        simp only [List.mem_cons] at hrest
        cases hc : components.get? s with
        | none =>
          obtain ⟨changed, hchanged⟩ := (ih hn.2).mpr fun _ _ _ hd hw => hrest hd (.inr hw)
          exact ⟨changed, overrideComponents_cons_iff.mpr (.inl ⟨hc, hchanged⟩)⟩
        | some c =>
          obtain ⟨c', hchange⟩ := hrest hc (.inl rfl)
          obtain ⟨changed, hchanged⟩ := (ih hn.2).mpr fun name d w hd hw =>
            hrest ((hlater hw c').symm.trans hd) (.inr hw)
          exact ⟨changed, overrideComponents_cons_iff.mpr (.inr ⟨c, c', hc, hchange, hchanged⟩)⟩
    | _ => simpa [overrideComponents] using ih hn.2

/-- A theme can be laid over a system exactly if each of its overrides can be laid over the component that it
is for. -/
theorem exists_withTheme_iff {s : DesignSystem} {t : FlatTheme} (hn : (Pairs.keys t.layer.overrides).Nodup) :
    (∃ s', s.withTheme t = .ok s') ↔ ∀ name c override, s.components.get? name = some c →
      t.layer.HasOverride name override → ∃ c', c.withOverride override = .ok c' := by
  have hmap : (∃ s', s.withTheme t = .ok s') ↔
      ∃ changed, overrideComponents s.components t.layer.overrides = .ok changed := by
    rw [withTheme]
    cases overrideComponents s.components t.layer.overrides <;> simp [Except.map]
  rw [hmap, exists_overrideComponents_iff hn]
  constructor
  · rintro h name c override hc ⟨v, hv, rfl⟩
    exact h name c v hc hv
  · exact fun h name c v hc hv => h name c v.fieldsOf hc ⟨v, hv, rfl⟩

/-- Two themes that can be flattened can be composed. If both can be laid over a system one after the
other, then laying the composition over it gives the same tokens, the same dark tokens or none, all in the
same order, and the same prefix; it gives a system exactly if what the themes change in a component, merged, can
be laid over it. -/
theorem withTheme_compose {s s₁ s₂ : DesignSystem} {r : Registry} {a b : String} {fa fb : FlatTheme}
    (ha : r.resolve a = .ok fa) (hb : r.resolve b = .ok fb)
    (h₁ : s.withTheme fa = .ok s₁) (h₂ : s₁.withTheme fb = .ok s₂) :
    ∃ f, r.compose [a, b] = .ok f ∧
      ((∃ s', s.withTheme f = .ok s') ↔ ∀ name c override, s.components.get? name = some c →
        f.layer.HasOverride name override → ∃ c', c.withOverride override = .ok c') ∧
      ∀ s', s.withTheme f = .ok s' → s₂.tokens = s'.tokens ∧ s₂.darkTokens = s'.darkTokens ∧
        s₂.settings.cssPrefix = s'.settings.cssPrefix := by
  have hnames : (Pairs.keys ((Layer.empty.merge fa.layer).merge fb.layer).overrides).Nodup :=
    nodup_deepMerge (nodup_deepMerge List.nodup_nil)
  refine ⟨_, Registry.compose_pair ha hb, exists_withTheme_iff hnames, fun s' h => ?_⟩
  obtain ⟨-, -, -, htokens₁, hdark₁, -⟩ := withTheme_eq_ok_iff.mp h₁
  obtain ⟨-, -, -, htokens₂, hdark₂, hsettings₂⟩ := withTheme_eq_ok_iff.mp h₂
  obtain ⟨-, -, -, htokens, hdark, hsettings⟩ := withTheme_eq_ok_iff.mp h
  refine ⟨?_, ?_, ?_⟩
  · rw [htokens₂, htokens₁, htokens]
    exact (Tokens.merge_composed ..).symm
  · rw [hdark₂, hdark₁, getD_someTokens, hdark]
    exact congrArg someTokens (Tokens.merge_composed ..).symm
  · rw [hsettings₂, hsettings]
    rfl

end DesignSystem

/-- The evening takes after the morning, has a shadow that the morning only announces, and changes the
label once more. -/
def skies : Registry :=
  let change (fields : List (String × Value)) : Option (Dict (Dict Value)) :=
    some (.ofList [("Label", .ofList fields)])
  Dict.ofList [
    ("morning", ⟨"morning", none, none, .ofList [("ink", .ofList [("text", .text "gray")]), ("gap", ∅)],
      some (.ofList [("shadow", ∅)]), change [("description", .text "A label")], some ⟨some "am", none⟩⟩),
    ("evening", ⟨"evening", none, some (.one "morning"),
      .ofList [("gap", .ofList [("s", .number (.int 2))]), ("ink", .ofList [("link", .text "blue")])],
      some (.ofList [("shadow", .ofList [("deep", .text "black")])]),
      change [("baseStyles", .record [("gap", .text "gap-s")])], none⟩)]

theorem DesignSystem.withTheme_compose_skies :
    ∃ fa fb f s₁ s₂ s', skies.resolve "morning" = .ok fa ∧ skies.resolve "evening" = .ok fb ∧
      labels.withTheme fa = .ok s₁ ∧ s₁.withTheme fb = .ok s₂ ∧
      skies.compose ["morning", "evening"] = .ok f ∧ labels.withTheme f = .ok s' ∧
      s₂.tokens = s'.tokens ∧ s₂.darkTokens = s'.darkTokens ∧
      s₂.settings.cssPrefix = s'.settings.cssPrefix ∧ s'.tokens.keys = ["ink", "gap"] := by
  obtain ⟨fa, hwa⟩ : ∃ fa, skies.resolveWithin 3 "morning" = some (.ok fa) := ⟨_, rfl⟩
  obtain ⟨fb, hwb⟩ : ∃ fb, skies.resolveWithin 3 "evening" = some (.ok fb) := ⟨_, rfl⟩
  have ha : skies.resolve "morning" = .ok fa := Registry.resolve_of_resolveWithin (by decide) hwa
  have hb : skies.resolve "evening" = .ok fb := Registry.resolve_of_resolveWithin (by decide) hwb
  cases hwa
  cases hwb
  have hf := Registry.compose_pair ha hb
  obtain ⟨f, hcompose, -, hsame⟩ := withTheme_compose (s := labels) ha hb rfl rfl
  cases hcompose.symm.trans hf
  obtain ⟨htokens, hdark, hpre⟩ := hsame _ rfl
  exact ⟨_, _, _, _, _, _, ha, hb, rfl, rfl, hf, rfl, htokens, hdark, hpre, rfl⟩

end Stylebook
