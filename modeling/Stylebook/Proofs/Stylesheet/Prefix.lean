import Mathlib.Tactic.Choose
import Stylebook.Proofs.Stylesheet.Additivity

/-!
The prefix of a stylesheet as a parameter. Texts that a prefix is filled in at fixed places are forms; of what
a sheet is made of everything is a form, down to the selectors and values, and in number and order the same
whatever the prefix is. So is the whole text.
-/

namespace Stylebook

open Text

variable {α β : Type}

/-- A text made by filling in a prefix: segments with the prefix between them. -/
def IsForm (f : String → String) : Prop :=
  ∃ segments, segments ≠ [] ∧ ∀ p, p ≠ "" → f p = joinWith p segments

/-- A list of fixed length, each member made by filling in a prefix. -/
def AreForms (P : (String → α) → Prop) (F : String → List α) : Prop :=
  ∃ fs : List (String → α), (∀ f ∈ fs, P f) ∧ ∀ p, p ≠ "" → F p = fs.map fun f => f p

namespace AreForms

variable {P : (String → α) → Prop} {Q : (String → β) → Prop} {f : String → α} {F G : String → List α}

theorem congr (hF : AreForms P F) (h : ∀ p, p ≠ "" → G p = F p) : AreForms P G := by
  obtain ⟨fs, hfs, he⟩ := hF
  exact ⟨fs, hfs, fun p hp => (h p hp).trans (he p hp)⟩

theorem nil : AreForms P fun _ => [] := ⟨[], by simp, fun _ _ => rfl⟩

theorem cons (hf : P f) (hF : AreForms P F) : AreForms P fun p => f p :: F p := by
  obtain ⟨fs, hfs, he⟩ := hF
  exact ⟨f :: fs, List.forall_mem_cons.mpr ⟨hf, hfs⟩, fun p hp => by simp [he p hp]⟩

theorem append (hF : AreForms P F) (hG : AreForms P G) : AreForms P fun p => F p ++ G p := by
  obtain ⟨fs, hfs, hF⟩ := hF
  obtain ⟨gs, hgs, hG⟩ := hG
  exact ⟨fs ++ gs, List.forall_mem_append.mpr ⟨hfs, hgs⟩, fun p hp => by simp [hF p hp, hG p hp]⟩

/-- One form for each member of a list. -/
theorem each {l : List β} {g : String → β → α} (h : ∀ b ∈ l, P fun p => g p b) :
    AreForms P fun p => l.map (g p) := by
  refine ⟨l.map fun b p => g p b, by simpa using h, fun p _ => ?_⟩
  simp [Function.comp_def]

/-- A list that has nothing to do with the prefix. -/
theorem fixed {l : List α} (h : ∀ a ∈ l, P fun _ => a) : AreForms P fun _ => l := by
  simpa using each (g := fun _ a => a) h

theorem map {g : α → β} (hF : AreForms P F) (h : ∀ f, P f → Q fun p => g (f p)) :
    AreForms Q fun p => (F p).map g := by
  obtain ⟨fs, hfs, he⟩ := hF
  refine congr (each fun f hf => h f (hfs f hf)) fun p hp => ?_
  rw [he p hp, List.map_map]
  rfl

theorem flatMap {g : α → List β} (hF : AreForms P F) (h : ∀ f, P f → AreForms Q fun p => g (f p)) :
    AreForms Q fun p => (F p).flatMap g := by
  obtain ⟨fs, hfs, he⟩ := hF
  suffices hflat : AreForms Q fun p => (fs.map fun f => f p).flatMap g from
    hflat.congr fun p hp => by rw [he p hp]
  clear he
  induction fs with
  | nil => exact nil
  | cons f fs ih =>
    rw [List.forall_mem_cons] at hfs
    simpa using (h f hfs.1).append (ih hfs.2)

end AreForms

theorem joinWith_append_joinWith (p t u : String) (l m : List String) :
    joinWith p (l ++ [t]) ++ joinWith p (u :: m) = joinWith p (l ++ (t ++ u) :: m) := by
  simp only [joinWith]
  by_cases h : l = []
  · simp [h]
  · rw [String.intercalate_append_of_ne_nil h (List.cons_ne_nil _ _),
      String.intercalate_append_of_ne_nil h (List.cons_ne_nil _ _)]
    simp [String.append_assoc]

namespace IsForm

variable {f g : String → String} {F : String → List String}

theorem congr (hf : IsForm f) (h : ∀ p, p ≠ "" → g p = f p) : IsForm g := by
  obtain ⟨segments, hne, he⟩ := hf
  exact ⟨segments, hne, fun p hp => (h p hp).trans (he p hp)⟩

theorem const (s : String) : IsForm fun _ => s := ⟨[s], by simp, fun p _ => by simp [joinWith]⟩

theorem place : IsForm fun p => p := ⟨["", ""], by simp, fun p _ => by simp [joinWith]⟩

/-- The last segment of one text goes on as the first segment of the other. -/
theorem append (hf : IsForm f) (hg : IsForm g) : IsForm fun p => f p ++ g p := by
  obtain ⟨segments, hne, hf⟩ := hf
  obtain ⟨others, hne', hg⟩ := hg
  obtain ⟨u, m, rfl⟩ := List.exists_cons_of_ne_nil hne'
  obtain ⟨l, t, rfl⟩ := segments.eq_nil_or_concat.resolve_left hne
  refine ⟨l ++ (t ++ u) :: m, by simp, fun p hp => ?_⟩
  rw [← joinWith_append_joinWith, ← List.concat_eq_append, ← hf p hp, ← hg p hp]

theorem joinWith (sep : String) (hF : AreForms IsForm F) : IsForm fun p => joinWith sep (F p) := by
  obtain ⟨fs, hfs, he⟩ := hF
  suffices hjoin : IsForm fun p => Text.joinWith sep (fs.map fun f => f p) from
    hjoin.congr fun p hp => by rw [he p hp]
  clear he
  induction fs with
  | nil => exact const ""
  | cons f fs ih =>
    rw [List.forall_mem_cons] at hfs
    cases fs with
    | nil => simpa [Text.joinWith] using hfs.1
    | cons g fs => simpa [Text.joinWith] using (hfs.1.append (const sep)).append (ih hfs.2)

end IsForm

structure Declaration.IsForm (d : String → Declaration) : Prop where
  property : Stylebook.IsForm fun p => (d p).property
  value : Stylebook.IsForm fun p => (d p).value

structure Rule.IsForm (r : String → Rule) : Prop where
  selectors : AreForms Stylebook.IsForm fun p => (r p).selectors
  declarations : AreForms Declaration.IsForm fun p => (r p).declarations

inductive Block.IsForm : (String → Block) → Prop
  | rule {r : String → Rule} (h : Rule.IsForm r) : IsForm fun p => .rule (r p)
  | media {r : String → Rule} (query : String) (h : Rule.IsForm r) : IsForm fun p => .media query (r p)

/-- A component's name and its rules. -/
structure Group.IsForm (g : String → String × List Rule) : Prop where
  name : Stylebook.IsForm fun p => (g p).1
  rules : AreForms Rule.IsForm fun p => (g p).2

structure Sheet.IsForm (s : String → Sheet) : Prop where
  title : Stylebook.IsForm fun p => (s p).title
  root : AreForms Block.IsForm fun p => (s p).root.toList
  dark : AreForms (AreForms Block.IsForm) fun p => (s p).dark.toList
  components : AreForms Group.IsForm fun p => (s p).components

section Text

variable {r : String → Rule} {b : String → Block}

theorem Declaration.IsForm.text {d : String → Declaration} (h : Declaration.IsForm d) :
    Stylebook.IsForm fun p => (d p).text :=
  ((h.property.append (.const ": ")).append h.value).append (.const ";")

theorem Rule.IsForm.lines (pad : String) (h : Rule.IsForm r) :
    AreForms Stylebook.IsForm fun p => (r p).lines pad := by
  refine .append (.cons ?_ (h.declarations.map fun d hd => ?_)) (.cons (.const _) .nil)
  · exact ((IsForm.const pad).append (.joinWith ",\n" h.selectors)).append (.const " \x7b")
  · exact (IsForm.const (pad ++ "  ")).append hd.text

theorem Rule.IsForm.text (h : Rule.IsForm r) : Stylebook.IsForm fun p => (r p).text := .joinWith "\n" (h.lines "")

theorem Block.IsForm.text (h : Block.IsForm b) : Stylebook.IsForm fun p => (b p).text := by
  apply IsForm.joinWith
  cases h with
  | rule h => exact h.lines ""
  | media query h => exact .append (.cons (.const _) (h.lines "  ")) (.cons (.const _) .nil)

theorem Sheet.IsForm.text {s : String → Sheet} (h : Sheet.IsForm s) : Stylebook.IsForm fun p => (s p).text := by
  have comment {f : String → String} (hf : Stylebook.IsForm f) : Stylebook.IsForm fun p => comment (f p) :=
    ((IsForm.const "/* ").append hf).append (.const " */")
  have hempty : AreForms Stylebook.IsForm fun _ => [""] := .cons (.const "") .nil
  apply IsForm.joinWith
  refine .append (.append (.append (.cons (comment h.title) hempty) (h.root.flatMap fun b hb => ?_))
    (h.dark.flatMap fun bs hbs => ?_)) (h.components.flatMap fun g hg => ?_)
  · exact .cons hb.text hempty
  · exact .cons (.joinWith _ (hbs.map fun b hb => hb.text)) hempty
  · exact .cons (comment ((IsForm.const _).append hg.name))
      (.cons (.joinWith _ (hg.rules.map fun r hr => hr.text)) hempty)

end Text

section Tokens

variable (tokens : Tokens)

theorem isForm_variableName (c n : String) : IsForm fun p => variableName p c n :=
  (((((IsForm.const "--").append .place).append (.const "-")).append (.const c)).append (.const "-")).append
    (.const n)

theorem Tokens.isForm_resolveName (word : String) : IsForm fun p => tokens.resolveName p word := by
  simp only [resolveName]
  cases tokens.find? word with
  | none => exact .const word
  | some t => exact ((IsForm.const "var(").append (isForm_variableName t.1 t.2)).append (.const ")")

theorem Tokens.isForm_resolveWord (word : String) : IsForm fun p => tokens.resolveWord p word := by
  simp only [resolveWord]
  by_cases h : isIdentifier word = true
  · simpa [h] using tokens.isForm_resolveName word
  · simpa [h] using IsForm.const word

/-- Which words refer to tokens, and to which, is settled without the prefix. -/
theorem Tokens.isForm_resolve (value : String) : IsForm fun p => tokens.resolve p value := by
  simp only [resolve]
  by_cases h : isIdentifier value = true
  · simpa [h] using tokens.isForm_resolveName value
  · by_cases hw : 1 < (words value).length
    · simpa [h, hw] using IsForm.joinWith " " (.each fun w _ => tokens.isForm_resolveWord w)
    · simpa [h, hw] using IsForm.const value

theorem Tokens.isForm_resolveStyle (context : Context) (v : StyleValue) :
    IsForm fun p => tokens.resolveStyle p context v := by
  simp only [resolveStyle]
  cases v.literal? context with
  | none => exact .const ""
  | some l => exact tokens.isForm_resolve l.plain

theorem Tokens.isForm_declarations : AreForms Declaration.IsForm fun p => tokens.declarations p :=
  .each fun t _ => ⟨isForm_variableName t.1 t.2.1, .const t.2.2.shown⟩

theorem Tokens.isForm_rootRule : Rule.IsForm fun p => tokens.rootRule p :=
  ⟨.cons (.const _) .nil, tokens.isForm_declarations⟩

theorem DarkMode.isForm_blocks (mode : DarkMode) : AreForms Block.IsForm fun p => mode.blocks tokens p := by
  simp only [blocks]
  apply AreForms.append
  · cases mode.followsDevice with
    | false => exact .nil
    | true => exact .cons (.media query tokens.isForm_rootRule) .nil
  · cases mode.toggles.isEmpty with
    | true => exact .nil
    | false => exact .cons (.rule ⟨.fixed fun s _ => .const s, tokens.isForm_declarations⟩) .nil

/-- Clauses are independent of the prefix, and it is in the class of each selector. -/
theorem Component.isForm_rules (c : Component) : AreForms Rule.IsForm fun p => c.rules tokens p := by
  simp only [rules_eq]
  refine .each fun clause _ => ⟨.cons ?_ .nil, .each fun e _ => ⟨.const (kebab e.1), ?_⟩⟩
  · exact ((IsForm.const ".").append ((IsForm.place.append (.const "-")).append (.const _))).append (.const _)
  · exact tokens.isForm_resolveStyle _ e.2

end Tokens

namespace DesignSystem

variable (s : DesignSystem)

theorem pre_withPrefix {p : String} (hp : p ≠ "") : (s.withPrefix p).pre = p := by
  simp [pre, withPrefix, hp]

theorem sheet_withPrefix {p : String} (hp : p ≠ "") : (s.withPrefix p).sheet =
    { title := s.sheet.title
      root := if s.settings.cssVariables then some (.rule (s.tokens.rootRule p)) else none
      dark := if s.settings.cssVariables then
        s.darkTokens?.map fun dark => s.settings.darkMode.blocks dark p else none
      components := s.components.entries.map fun e => (e.1, e.2.rules s.tokens p) } := by
  unfold sheet darkBlocks?
  rw [pre_withPrefix s hp]
  rfl

theorem isForm_sheet : Sheet.IsForm fun p => (s.withPrefix p).sheet where
  title := .const s.sheet.title
  root := by
    refine AreForms.congr ?_ fun p hp => by rw [sheet_withPrefix s hp]
    cases s.settings.cssVariables with
    | false => exact .nil
    | true => exact .cons (.rule s.tokens.isForm_rootRule) .nil
  dark := by
    refine AreForms.congr ?_ fun p hp => by rw [sheet_withPrefix s hp]
    cases s.settings.cssVariables with
    | false => exact .nil
    | true =>
      cases s.darkTokens? with
      | none => exact .nil
      | some dark => exact .cons (DarkMode.isForm_blocks dark _) .nil
  components := by
    refine AreForms.congr ?_ fun p hp => by rw [sheet_withPrefix s hp]
    exact .each fun e _ => ⟨.const e.1, e.2.isForm_rules s.tokens⟩

/-- The stylesheet of a system is made of segments in which the prefix has no part, with the prefix between
them. The blocks, their selectors and their declarations are the same in number and order for all prefixes, and
in each of these texts, too, the prefix is filled in at fixed places. The prefix plays no part either in whether
the sheet can be written. -/
theorem css_withPrefix : ∃ segments : DesignSystem → List String,
    (∀ s q, segments (s.withPrefix q) = segments s) ∧
    (∀ s p, p ≠ "" → (s.withPrefix p).css false = joinWith p (segments s)) ∧
    (∀ s : DesignSystem, Sheet.IsForm fun p => (s.withPrefix p).sheet) ∧
    ∀ s p css, p ≠ "" → ((s.withPrefix p).stylesheet false = .ok css ↔
      s.sheetWritable = true ∧ joinWith p (segments s) = css) := by
  have hexists (s : DesignSystem) :
      ∃ segments, ∀ p, p ≠ "" → (s.withPrefix p).css false = joinWith p segments := by
    obtain ⟨segments, -, h⟩ := s.isForm_sheet.text
    exact ⟨segments, h⟩
  choose segments h using hexists
  -- those of the system without a prefix stand for all
  have hcss (s : DesignSystem) := h (s.withPrefix "")
  refine ⟨fun s => segments (s.withPrefix ""), fun _ _ => rfl, hcss, isForm_sheet, fun s p css hp => ?_⟩
  rw [← hcss s p hp]
  exact (s.withPrefix p).stylesheet_eq_ok_iff false css

end DesignSystem

end Stylebook
