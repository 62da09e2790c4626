import Stylebook.Proofs.Stylesheet.Reference
import Stylebook.Proofs.Theme.Layering
import Stylebook.Stylesheet.Theme

/-!
What a theme looks like by itself, and in the stylesheet of a system that it is laid over. Over a system that
brings no tokens of its own, both have the custom properties in the same words.
-/

namespace Stylebook

open Text

/-- Over nothing, a map of maps lies as it is. -/
theorem Dict.overlay_empty {α : Type} (d : Dict (Dict α)) : (∅ : Dict (Dict α)).overlay d = d := by
  have hkeys : (∅ : Dict (Dict α)).keys = [] := rfl
  apply eq_of_get?
  · rw [keys_overlay, hkeys, Pairs.joinKeys, List.nil_append]
    simp
  · intro c
    rw [get?_overlay]
    cases d.get? c with
    | none => rfl
    | some e => exact congrArg some (ofList_entries e)

theorem Tokens.merge_empty (t : Tokens) : (∅ : Tokens).merge t = t := by
  rw [merge_eq_overlay, Dict.overlay_empty]

/-- A theme's prefix counts only if it is not empty, and there is always one to fall back on. -/
theorem Registry.pre_ne_of_resolve {r : Registry} {n : String} {t : FlatTheme} (h : r.resolve n = .ok t) :
    t.layer.pre ≠ "" := by
  have hP : r.Flattening fun _ l => l.pre ≠ "" := by
    refine .of_kept (by decide) (fun _ _ _ htop => htop) fun n t base _ hbase => ?_
    cases hp : t.pre? with
    | none => rwa [Layer.withTheme, hp]
    | some p =>
      rw [Layer.withTheme, hp, Option.getD_some]
      have hfilter := (Option.filter_eq_some_iff.mp hp).2
      rintro rfl
      cases hfilter
  exact hP.of_resolve h

/-- The line break between an empty line and the parts after it, if there are any. -/
def breakBefore (parts : List String) : String := if parts.isEmpty then "" else "\n"

theorem joinWith_empty_cons (parts : List String) :
    joinWith "\n" ("" :: parts) = breakBefore parts ++ joinWith "\n" parts := by
  cases parts with
  | nil => rfl
  | cons p parts => rw [joinWith_cons_cons, String.empty_append, breakBefore, List.isEmpty_cons,
      if_neg Bool.false_ne_true]

namespace DesignSystem

variable {s s' : DesignSystem} {t : FlatTheme} {r : Registry} {n : String}

/-- The comment that a sheet starts with. -/
def header (s : DesignSystem) : String :=
  comment ("Intent Design System: " ++ s.name ++ " v" ++ s.shownVersion)

/-- The parts of a sheet that are about components: a comment, the rules and an empty line for each. -/
def componentParts (s : DesignSystem) : List String :=
  s.components.entries.flatMap fun c => [comment ("Component: " ++ c.1), (c.2.compile s).css, ""]

/-- A system shows a theme if it has the theme's tokens, in the dark and else, and its prefix, and its sheet
has all of them. -/
structure ShowsTheme (s : DesignSystem) (t : FlatTheme) : Prop where
  tokens : s.tokens = t.layer.tokens
  darkTokens : s.darkTokens = someTokens t.layer.darkTokens
  pre : s.pre = t.layer.pre
  cssVariables : s.settings.cssVariables = true
  darkMode : s.settings.darkMode = .auto

theorem showsTheme_of_withTheme (ht : t.layer.pre ≠ "") (htokens : s.tokens = ∅)
    (hdark : s.darkTokens.getD ∅ = ∅) (hvariables : s.settings.cssVariables = true)
    (hmode : s.settings.darkMode = .auto) (h : s.withTheme t = .ok s') : s'.ShowsTheme t := by
  obtain ⟨-, -, -, htokens', hdark', hsettings⟩ := withTheme_eq_ok_iff.mp h
  have hempty : t.layer.pre.isEmpty = false := by simpa using ht
  refine ⟨?_, ?_, ?_, ?_, ?_⟩
  · rw [htokens', htokens, Tokens.merge_empty]
  · rw [hdark', hdark, Tokens.merge_empty]
  · rw [pre, hsettings, hempty, if_neg Bool.false_ne_true]
  · rw [hsettings]
    exact hvariables
  · rw [hsettings]
    exact hmode

theorem dark_sheet (h : s.settings.cssVariables = true) : s.sheet.dark = s.darkBlocks? := by
  unfold sheet
  exact if_pos h

theorem componentParts_eq (s : DesignSystem) : s.sheet.components.flatMap (fun c =>
    [comment ("Component: " ++ c.1), paragraphs (c.2.map Rule.text), ""]) = s.componentParts := by
  have h : s.sheet.components = s.components.entries.map fun e => (e.1, e.2.rules s.tokens s.pre) := by
    unfold sheet
    rfl
  rw [h, List.flatMap_map]
  rfl

theorem sheet_parts (h : s.settings.cssVariables = true) : s.sheet.parts =
    s.header :: "" :: (Block.rule (s.tokens.rootRule s.pre)).text :: "" ::
      ((s.darkBlocks?.toList.flatMap fun bs => [paragraphs (bs.map Block.text), ""]) ++
        s.componentParts) := by
  have htitle : comment s.sheet.title = s.header := by
    unfold sheet
    rfl
  rw [Sheet.parts, root_sheet h, dark_sheet h, componentParts_eq, htitle]
  rfl

theorem ShowsTheme.darkTokens? (h : s.ShowsTheme t) : s.darkTokens? = someTokens t.layer.darkTokens := by
  rw [DesignSystem.darkTokens?, h.darkTokens, h.darkMode, someTokens]
  cases he : t.layer.darkTokens.isEmpty with
  | true => rfl
  | false =>
    rw [if_neg Bool.false_ne_true, Option.filter_some, he]
    rfl

/-- Between the header and the components there is the text of the theme, and then there are line breaks. -/
theorem ShowsTheme.css_eq (h : s.ShowsTheme t) : s.css false =
    s.header ++ "\n\n" ++ (t.css .auto ++ ("\n" ++ breakBefore s.componentParts)) ++
      joinWith "\n" s.componentParts := by
  have hbreaks : "\n\n" = "\n" ++ "\n" := rfl
  rw [DesignSystem.css_false, Sheet.text, sheet_parts h.cssVariables, darkBlocks?, h.darkTokens?, h.tokens,
    h.pre, h.darkMode, FlatTheme.css, someTokens]
  cases t.layer.darkTokens.isEmpty with
  | true =>
    simp only [if_true, Option.map_none, Option.toList_none, List.flatMap_nil, List.nil_append,
      joinWith_cons_cons, joinWith_empty_cons, String.append_assoc, String.empty_append, hbreaks]
  | false =>
    simp only [Bool.false_eq_true, if_false, Option.map_some, Option.toList_some, List.flatMap_singleton,
      List.cons_append, List.nil_append, joinWith_cons_cons, joinWith_empty_cons, String.append_assoc,
      String.empty_append, paragraphs, joinWith_singleton, hbreaks]

/-- All that the theme's text holds is short enough to be written, and so is all that the rules hold, exactly
if all that the sheet holds is. -/
theorem ShowsTheme.sheetWritable (h : s.ShowsTheme t) : s.sheetWritable =
    (t.layer.tokens.areWritable && t.layer.darkTokens.areWritable &&
      s.components.values.all Component.stylesWritable) := by
  have hdark : (s.darkTokens?.map Tokens.areWritable).getD true = t.layer.darkTokens.areWritable := by
    rw [h.darkTokens?, someTokens]
    split
    · rename_i he
      have hnone : t.layer.darkTokens = ∅ := Dict.eq_of_entries (List.isEmpty_iff.mp he)
      rw [hnone]
      rfl
    · rfl
  rw [DesignSystem.sheetWritable, h.cssVariables, h.tokens, hdark]
  rfl

/-- A theme that can be flattened, laid over a system that has no tokens, no dark tokens and the usual way of
showing both: the stylesheet is its header with an empty line, what the theme looks like by itself with line
breaks after it, and the components, if there are any, each with its comment. -/
theorem css_withTheme_eq (ht : r.resolve n = .ok t) (htokens : s.tokens = ∅)
    (hdark : s.darkTokens.getD ∅ = ∅) (hvariables : s.settings.cssVariables = true)
    (hmode : s.settings.darkMode = .auto) (h : s.withTheme t = .ok s') :
    (∃ breaks, (∀ c ∈ breaks.toList, c = '\n') ∧
      s'.css false = s.header ++ "\n\n" ++ (t.css .auto ++ breaks) ++ joinWith "\n" s'.componentParts) ∧
    s'.sheetWritable = (t.layer.tokens.areWritable && t.layer.darkTokens.areWritable &&
      s'.components.values.all Component.stylesWritable) := by
  have hshows := showsTheme_of_withTheme (Registry.pre_ne_of_resolve ht) htokens hdark hvariables hmode h
  have hheader : s'.header = s.header := by
    obtain ⟨-, hname, hversion, -⟩ := withTheme_eq_ok_iff.mp h
    rw [header, header, shownVersion, shownVersion, hname, hversion]
  refine ⟨⟨"\n" ++ breakBefore s'.componentParts, ?_, ?_⟩, hshows.sheetWritable⟩
  · intro c hc
    rw [breakBefore] at hc
    split at hc <;> simpa using hc
  · rw [hshows.css_eq, hheader]

/-- The labels, with custom properties shown in every way. -/
def litLabels : DesignSystem := { labels with darkTokens := some ∅, settings := .default }

/-- The evening takes its prefix from the morning, and its shadow is for the dark. -/
def eveningText : String :=
  ":root \x7b\n  --am-ink-text: gray;\n  --am-ink-link: blue;\n  --am-gap-s: 2;\n\x7d\n\n" ++
    "@media (prefers-color-scheme: dark) \x7b\n  :root \x7b\n    --am-shadow-deep: black;\n  \x7d\n\x7d\n\n" ++
    ":root.dark,\n.dark,\n[data-theme=\"dark\"] \x7b\n  --am-shadow-deep: black;\n\x7d"

theorem css_withTheme_eq_evening : ∃ t s', skies.resolve "evening" = .ok t ∧ litLabels.tokens = ∅ ∧
    litLabels.darkTokens.getD ∅ = ∅ ∧ litLabels.settings.cssVariables = true ∧
    litLabels.settings.darkMode = .auto ∧ litLabels.withTheme t = .ok s' ∧ t.css .auto = eveningText ∧
    ∃ breaks, (∀ c ∈ breaks.toList, c = '\n') ∧ s'.css false =
      "/* Intent Design System: Labels v0.1.0 */\n\n" ++ (eveningText ++ breaks) ++
        joinWith "\n" s'.componentParts := by
  obtain ⟨t, hw⟩ : ∃ t, skies.resolveWithin 3 "evening" = some (.ok t) := ⟨_, rfl⟩
  have ht : skies.resolve "evening" = .ok t := Registry.resolve_of_resolveWithin (by decide) hw
  have htext : t.css .auto = eveningText := by
    cases hw
    decide +kernel
  obtain ⟨s', h⟩ : ∃ s', litLabels.withTheme t = .ok s' := by
    cases hw
    exact ⟨_, rfl⟩
  obtain ⟨⟨breaks, hbreaks, hcss⟩, -⟩ := css_withTheme_eq ht rfl rfl rfl rfl h
  rw [htext] at hcss
  exact ⟨t, s', ht, rfl, rfl, rfl, rfl, h, htext, breaks, hbreaks, hcss⟩

end DesignSystem

end Stylebook
