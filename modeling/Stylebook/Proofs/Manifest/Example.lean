import Stylebook.Manifest.Example
import Stylebook.Proofs.Combination.Listing

/-!
Examples that are shown as valid. Each is the markup of a usage that gives texts, and the check of such
a usage reports nothing but properties that are missing, no enumeration among them. The large variant
is no such usage where the size is a number or a truth value, and it is shown all the same.
-/

namespace Stylebook

theorem exists_of_mem_takeEach {α β : Type} {f : Option Nat → α → List β} {limit : Option Nat}
    {l : List α} {b : β} (h : b ∈ takeEach f limit l) : ∃ a ∈ l, ∃ wanted, b ∈ f wanted a := by
  induction l generalizing limit with
  | nil => simp [takeEach] at h
  | cons a rest ih =>
    rw [takeEach] at h
    split at h
    · exact ⟨a, List.mem_cons_self, limit, h⟩
    · rcases List.mem_append.mp h with h | h
      · exact ⟨a, List.mem_cons_self, limit, h⟩
      · obtain ⟨a', ha, wanted, hb⟩ := ih h
        exact ⟨a', List.mem_cons_of_mem _ ha, wanted, hb⟩

/-- Whatever the limit, what a search finds completes the choices made so far and is accepted. -/
theorem exists_of_mem_search {accepts : Combination → Bool} {entries : List (String × List String)}
    {limit : Option Nat} {chosen x : Combination} (h : x ∈ search accepts entries limit chosen) :
    accepts x = true ∧ ∃ y ∈ assignments entries, x = chosen ++ y := by
  induction entries generalizing limit chosen with
  | nil =>
    rw [search] at h
    split at h
    · rename_i ha
      obtain rfl := List.mem_singleton.mp h
      exact ⟨ha, [], List.mem_singleton.mpr rfl, (List.append_nil _).symm⟩
    · cases h
  | cons e rest ih =>
    obtain ⟨name, values⟩ := e
    obtain ⟨v, hv, wanted, h⟩ := exists_of_mem_takeEach h
    obtain ⟨ha, y, hy, rfl⟩ := ih h
    exact ⟨ha, (name, v) :: y, cons_mem_assignments.mpr ⟨rfl, hv, hy⟩, by simp⟩

/-- The domains in which a text lies without being read as something else. -/
inductive Domain.HoldsText : Domain → String → Prop
  | enum {values : List String} {default : Option String} {s : String} (h : s ∈ values) :
      HoldsText (.enum values default) s
  | string (default : Option String) (s : String) : HoldsText (.string default) s

theorem Domain.HoldsText.valueIssues {d : Domain} {s : String} (h : d.HoldsText s)
    (name path : String) : d.valueIssues name path (.literal (.text s)) = .ok [] := by
  cases h with
  | enum h => simp [Domain.valueIssues, literalIssues, enumIssues, Value.isWritable, Value.plain, h]
  | string default s => rfl

/-- Is a property a truth value or a number, so that a word for a size is not in its domain? -/
def Property.IsMeasure (p : Property) : Prop := p.domain.kind = "boolean" ∨ p.domain.kind = "number"

namespace Component

variable {c : Component} {m : Dict String} {u : Usage} {x : Combination} {limit : Option Nat}

/-- What the enumeration lists are assignments; the rules can be looked at for each, and none is violated. -/
theorem of_mem_enumerate {l : List Combination} (h : c.enumerate limit = .ok l) (hx : x ∈ l) :
    x ∈ assignments c.enums.entries ∧ c.CanTry x ∧ c.accepts x = true := by
  rw [enumerate] at h
  split at h
  · cases h
  · rename_i hfit
    obtain rfl := Except.ok.inj h
    have hnone := List.findSome?_eq_none_iff.mp hfit x hx
    split at hx
    · cases hx
    · obtain ⟨ha, y, hy, rfl⟩ := exists_of_mem_search hx
      rw [stopsAt_of_fit hnone] at ha
      exact ⟨hy, canTry_iff.mpr hnone, ha⟩

/-- The map gives texts to properties in whose domains they lie, to every enumeration among others,
and violates no rule. -/
structure Suits (c : Component) (m : Dict String) : Prop where
  texts : ∀ name s, m.get? name = some s →
    ∃ p, c.properties.get? name = some p ∧ p.domain.HoldsText s
  enums : ∀ name, c.enums.contains name = true → m.contains name = true
  tried : c.CanTry m.entries
  accepted : c.accepts m.entries = true

namespace Suits

variable (h : c.Suits m) (hu : u.Gives m)
include h hu

theorem values?_of_missing : ∀ e ∈ c.missing u, e.2.values? = none := by
  intro e he
  obtain ⟨hp, -, hn⟩ := mem_missing_iff.mp he
  cases hv : e.2.values? with
  | none => rfl
  | some values =>
    have hc := h.enums e.1 (contains_enums_iff.mpr ⟨e.2, values, hp, hv⟩)
    exact absurd ((hu.mem_keys_iff e.1).mpr hc) hn

theorem unknownPropIssues_eq_nil : c.unknownPropIssues u = [] := by
  rw [unknownPropIssues, List.map_eq_nil_iff, List.filter_eq_nil_iff]
  intro name hn
  obtain ⟨s, hs⟩ := Option.isSome_iff_exists.mp ((hu.mem_keys_iff name).mp hn)
  obtain ⟨p, hp, -⟩ := h.texts name s hs
  have hc : c.properties.contains name = true := Option.isSome_iff_exists.mpr ⟨p, hp⟩
  simp [isKnownProp, hc]

theorem valueIssues_eq_nil : c.valueIssues u u.props.entries = .ok [] := by
  have hp : ∀ e ∈ u.props.entries, c.propIssues u e.1 e.2 = .ok [] := by
    intro e he
    have hg := Dict.get?_eq_some_iff.mpr he
    rw [hu.areTexts] at hg
    obtain ⟨s, hs, hv⟩ := Option.map_eq_some_iff.mp hg
    obtain ⟨p, hp, ht⟩ := h.texts e.1 s hs
    rw [← hv, propIssues, hp]
    exact ht.valueIssues e.1 _
  generalize u.props.entries = l at hp
  induction l with
  | nil => rfl
  | cons e rest ih =>
    rw [List.forall_mem_cons] at hp
    exact valueIssues_cons_eq_ok_iff.mpr ⟨[], [], hp.1, ih hp.2, rfl⟩

theorem constraintIssues_eq_nil : c.constraintIssues u = [] := by
  rw [constraintIssues, constraintIssues_eq_nil_iff]
  exact (accepts_iff_of_represents m.nodup (fun _ => rfl) hu).mp h.accepted

theorem ruleUnfit?_eq_none : ∀ rule ∈ c.constraints, ruleUnfit? u rule = none :=
  (combinationUnfit?_iff_of_represents m.nodup (fun _ => rfl) hu).mp (canTry_iff.mp h.tried)

/-- The check reports what is missing. It comes to an end if its place can be written, and a value for all
that is missing. -/
theorem usageIssues_eq_ok_iff {l : List Issue} : c.usageIssues u = .ok l ↔
    u.isPlaced = true ∧ (∀ e ∈ c.missing u, e.2.domain.isProposable = true) ∧ c.missingIssues u = l := by
  rw [Component.usageIssues_eq_ok_iff, h.unknownPropIssues_eq_nil hu, h.valueIssues_eq_nil hu]
  simp only [ruleIssues_eq_ok_iff, h.constraintIssues_eq_nil hu, Except.ok.injEq]
  constructor
  · rintro ⟨hplaced, hp, values, rules, rfl, ⟨-, -, rfl⟩, rfl⟩
    exact ⟨hplaced, hp, by simp⟩
  · rintro ⟨hplaced, hp, rfl⟩
    exact ⟨hplaced, hp, [], [], rfl, ⟨hplaced, h.ruleUnfit?_eq_none hu, rfl⟩, by simp⟩

end Suits

theorem suits_of_mem_enumerate {l : List Combination} (h : c.enumerate limit = .ok l) (hx : x ∈ l) :
    ∃ m : Dict String, m.entries = x ∧ c.Suits m := by
  obtain ⟨hx, ht, ha⟩ := of_mem_enumerate h hx
  refine ⟨⟨x, nodup_of_mem_assignments hx⟩, rfl, fun name s hs => ?_, fun name hn => ?_, ht, ha⟩
  · obtain ⟨p, values, hp, hv⟩ :=
      (isFull_of_mem_assignments hx name).mp (Option.isSome_iff_exists.mpr ⟨s, hs⟩)
    obtain ⟨d, hd⟩ := Property.domain_of_values? hv
    have hm : s ∈ values :=
      mem_of_mem_assignments hx (get?_enums_eq_some_iff.mpr ⟨p, hp, hv⟩) hs
    exact ⟨p, hp, hd ▸ .enum hm⟩
  · exact (isFull_iff.mp (isFull_of_mem_assignments hx) name).mpr hn

/-- The large variant suits where the size is an enumeration or a free text. -/
theorem Suits.large {p : Property} (h : c.Suits m) (hp : c.properties.get? "size" = some p)
    (hm : ¬ p.IsMeasure) (hvalues : c.hasEnumValues (m.insert "size" "lg").entries = true)
    (ht : c.CanTry (m.insert "size" "lg").entries)
    (ha : c.accepts (m.insert "size" "lg").entries = true) : c.Suits (m.insert "size" "lg") := by
  rw [hasEnumValues, List.all_eq_true] at hvalues
  refine ⟨fun name s hs => ?_, fun name hn => ?_, ht, ha⟩
  · rw [Dict.get?_insert] at hs
    split at hs
    · rename_i hn
      subst hn
      cases hs
      have hv := hvalues ("size", "lg") (Dict.get?_eq_some_iff.mp (by rw [Dict.get?_insert, if_pos rfl]))
      refine ⟨p, hp, ?_⟩
      rw [property?, hp, Option.bind_some, Property.values?] at hv
      cases hd : p.domain with
      | enum values d =>
        rw [hd] at hv
        exact .enum (List.contains_iff_mem.mp hv)
      | string d => exact .string d "lg"
      | boolean d => exact absurd (.inl (by rw [hd]; rfl)) hm
      | number d lo hi => exact absurd (.inr (by rw [hd]; rfl)) hm
    · exact h.texts name s hs
  · rw [Dict.contains, Dict.get?_insert]
    split
    · rfl
    · exact h.enums name hn

/-- The valid examples end if the enumeration does, and the rules can be looked at for the large variant. -/
theorem validAttributes_eq_ok_iff {l : List (Attributes × String)} : c.validAttributes = .ok l ↔
    ∃ found, c.enumerate (some 3) = .ok found ∧
      (∀ x, c.largeVariant? found = some x → c.CanTry x) ∧ c.shownAttributes found = l := by
  rw [validAttributes]
  cases c.enumerate (some 3) with
  | error e => simp [bind, Except.bind]
  | ok found => simp [bind, Except.bind, Unfit.guard_eq_ok_iff, canTry_iff]

/-- A large variant is one of the first combination, for a size that is declared. -/
theorem largeVariant?_eq_some_iff {found : List Combination} {x : Attributes} :
    c.largeVariant? found = some x ↔ (∃ first, found.head? = some first ∧ Pairs.set "size" "lg" first = x) ∧
      (∃ p, c.properties.get? "size" = some p) ∧ c.hasEnumValues x = true := by
  rw [largeVariant?, Option.filter_eq_some_iff, Option.map_eq_some_iff, Bool.and_eq_true, Dict.contains,
    Option.isSome_iff_exists]

theorem examples_eq_ok_iff {name : String} {shown : Examples} : c.examples name = .ok shown ↔
    ∃ valid, c.validAttributes = .ok valid ∧ c.violationsWritable = true ∧
      shown = ⟨valid.map fun x => markup name x.1 x.2, c.invalidExamples name ++ [utilityExample name]⟩ := by
  rw [examples]
  cases c.validAttributes with
  | error e => simp [bind, Except.bind]
  | ok valid =>
    dsimp only [bind, Except.bind]
    rw [Unfit.guard_eq_ok_iff, Unfit.unlessShort_eq_none_iff, eq_comm (b := shown)]
    simp

theorem isWritable_of_listed? {cond : Condition} {s : Scalar} (h : cond.hasWording = true)
    (hs : cond.listed? = some s) : s.isWritable = true := by
  rw [Condition.hasWording, Option.isNone_iff_eq_none] at h
  cases cond with
  | equals t =>
    cases hs
    exact Unfit.unlessShort_eq_none_iff.mp h
  | oneOf l => exact List.all_eq_true.mp (Unfit.unlessShort_eq_none_iff.mp h) s (List.mem_of_mem_head? hs)
  | compares op operand => cases hs

theorem areListed_of_hasWording {conds : List Condition} (h : ∀ cond ∈ conds, cond.hasWording = true) :
    Condition.areListed conds = true := by
  induction conds with
  | nil => rfl
  | cons cond rest ih =>
    rw [List.forall_mem_cons] at h
    rw [Condition.areListed]
    cases hs : cond.listed? with
    | none => rfl
    | some s => simp [isWritable_of_listed? h.1 hs, ih h.2]

/-- Where all rules can be put into words, examples can be given. -/
theorem exists_examples (h : ∀ rule ∈ c.constraints, rule.hasWording = true) (name : String) :
    ∃ shown, c.examples name = .ok shown := by
  obtain ⟨found, hfound⟩ : ∃ found, c.enumerate (some 3) = .ok found :=
    ⟨_, enumerate_some_eq_ok_iff.mpr
      ⟨fun _ _ hx _ => canTry_of_hasWording h (List.mem_of_getElem? hx), rfl⟩⟩
  refine ⟨_, examples_eq_ok_iff.mpr ⟨_, validAttributes_eq_ok_iff.mpr ⟨_, hfound, fun x hx => ?_, rfl⟩, ?_, rfl⟩⟩
  · obtain ⟨⟨first, hf, rfl⟩, -⟩ := largeVariant?_eq_some_iff.mp hx
    have hfirst := (of_mem_enumerate hfound (List.mem_of_mem_head? hf)).1
    exact canTry_of_nodup h (Pairs.nodup_set (nodup_of_mem_assignments hfirst))
  · rw [violationsWritable, List.all_eq_true]
    intro rule hr
    have hrule := rule.hasWording_iff.mp (h rule (List.mem_of_mem_take hr))
    have hlisted : Condition.areListed rule.trigger.values = true :=
      areListed_of_hasWording (List.forall_mem_map.mpr hrule.1)
    rw [hlisted, Bool.or_true]

/-- A number or a truth value is not given by the word for a large size. -/
theorem not_accepts_of_measure {p : Property} (hp : c.properties.get? "size" = some p)
    (hm : p.IsMeasure) (hs : m.get? "size" = some "lg") (hu : u.Gives m) : ¬ c.Accepts u := by
  intro ha
  have hg : u.props.get? "size" = some (.literal (.text "lg")) := by rw [hu.areTexts, hs]; rfl
  rcases ha.values "size" p _ hp hg with ⟨q, hq⟩ | hd
  · cases hq
  · rw [Property.IsMeasure] at hm
    cases hk : p.domain with
    | enum values d => simp [hk, Domain.kind] at hm
    | string d => simp [hk, Domain.kind] at hm
    | boolean d =>
      rw [hk] at hd
      cases hd
    | number d lo hi =>
      rw [hk] at hd
      cases hd with
      | number hx hr =>
        cases hx with
        | text h hx =>
          have hn : readNumeral? "lg" = none := by decide
          rw [hn] at h
          cases h

/-- There are examples where all rules can be put into words. One that is shown as valid is the markup of
texts for properties, and the check of a usage that gives them, wherever it is found, reports missing
properties that are no enumerations and nothing else. The one exception is the large variant where the size
is a number or a truth value: that usage is not acceptable. -/
theorem validExamples_usable (c : Component) (name : String) :
    ((∀ rule ∈ c.constraints, rule.hasWording = true) → ∃ shown, c.examples name = .ok shown) ∧
    ∀ shown, c.examples name = .ok shown → ∀ s ∈ shown.valid, ∃ (m : Dict String) (content : String),
      s = markup name m.entries content ∧
      ((∀ u, u.Gives m → (∀ e ∈ c.missing u, e.2.values? = none) ∧
          (∀ rule ∈ c.constraints, ruleUnfit? u rule = none) ∧
          ∀ l, c.usageIssues u = .ok l ↔ u.isPlaced = true ∧
            (∀ e ∈ c.missing u, e.2.domain.isProposable = true) ∧ c.missingIssues u = l) ∨
        m.get? "size" = some "lg" ∧
          (∃ p, c.properties.get? "size" = some p ∧ p.IsMeasure) ∧
          ∀ u, u.Gives m → ¬ c.Accepts u) := by
  have hclean : ∀ m : Dict String, c.Suits m → ∀ u, u.Gives m →
      (∀ e ∈ c.missing u, e.2.values? = none) ∧ (∀ rule ∈ c.constraints, ruleUnfit? u rule = none) ∧
        ∀ l, c.usageIssues u = .ok l ↔ u.isPlaced = true ∧
          (∀ e ∈ c.missing u, e.2.domain.isProposable = true) ∧ c.missingIssues u = l :=
    fun m h u hu => ⟨h.values?_of_missing hu, h.ruleUnfit?_eq_none hu, fun l => h.usageIssues_eq_ok_iff hu⟩
  refine ⟨fun h => exists_examples h name, fun shown hshown s hs => ?_⟩
  obtain ⟨valid, hvalid, -, rfl⟩ := examples_eq_ok_iff.mp hshown
  obtain ⟨found, hfound, htry, rfl⟩ := validAttributes_eq_ok_iff.mp hvalid
  obtain ⟨⟨x, content⟩, hx, rfl⟩ := List.mem_map.mp hs
  -- an admissible combination, or the large variant of the first of them
  rcases List.mem_append.mp hx with hx | hx
  · obtain ⟨y, hy, he⟩ := List.mem_map.mp hx
    cases he
    obtain ⟨m, rfl, hm⟩ := suits_of_mem_enumerate hfound hy
    exact ⟨m, "Content", rfl, .inl (hclean m hm)⟩
  · obtain ⟨y, hy, he⟩ := List.mem_map.mp hx
    cases he
    obtain ⟨hlarge, ha⟩ := Option.filter_eq_some_iff.mp (Option.mem_toList.mp hy)
    obtain ⟨⟨first, hf, rfl⟩, ⟨p, hp⟩, hvalues⟩ := largeVariant?_eq_some_iff.mp hlarge
    obtain ⟨m, rfl, hm⟩ := suits_of_mem_enumerate hfound (List.mem_of_mem_head? hf)
    refine ⟨m.insert "size" "lg", "Larger variant", rfl, ?_⟩
    by_cases hk : p.IsMeasure
    · have hlg : (m.insert "size" "lg").get? "size" = some "lg" := by
        rw [Dict.get?_insert, if_pos rfl]
      exact .inr ⟨hlg, ⟨p, hp, hk⟩, fun u hu => not_accepts_of_measure hp hk hlg hu⟩
    · exact .inl (hclean _ (hm.large hp hk hvalues (htry _ hlarge) ha))

/-- A chip that may be large, and then has to be counted, where it is not muted. -/
def chip : Component where
  name := "Chip"
  description := none
  properties := .ofList [("size", ⟨.enum ["small", "lg"] none, true, none⟩),
    ("count", ⟨.number none (some (.int 0)) none, true, none⟩),
    ("tone", ⟨.enum ["calm", "loud"] none, false, none⟩)]
  constraints := [
    { trigger := .ofList [("size", .equals (.text "small"))]
      consequence := .forbid ["tone = loud"]
      suggest := none
      message := none }]
  mappings := ∅
  baseStyles := none

theorem validExamples_usable_chip : ∃ shown, chip.examples "Chip" = .ok shown ∧
    "<Chip size=\"lg\" tone=\"calm\">Larger variant</Chip>" ∈ shown.valid ∧
    ∃ (m : Dict String) (content : String),
      "<Chip size=\"lg\" tone=\"calm\">Larger variant</Chip>" = markup "Chip" m.entries content ∧
      ∀ u, u.Gives m → ∀ l, chip.usageIssues u = .ok l → l = chip.missingIssues u := by
  obtain ⟨hends, husable⟩ := validExamples_usable chip "Chip"
  obtain ⟨shown, hshown⟩ := hends (by decide)
  have hs : "<Chip size=\"lg\" tone=\"calm\">Larger variant</Chip>" ∈ shown.valid := by
    have hin : ((chip.examples "Chip").toOption.map fun shown =>
        shown.valid.contains "<Chip size=\"lg\" tone=\"calm\">Larger variant</Chip>") = some true := by decide
    rw [hshown] at hin
    exact List.contains_iff_mem.mp (Option.some.inj hin)
  obtain ⟨m, content, he, h | ⟨-, ⟨p, hp, hm⟩, -⟩⟩ := husable shown hshown _ hs
  · exact ⟨shown, hshown, hs, m, content, he, fun u hu l hl => (((h u hu).2.2 l).mp hl).2.2.symm⟩
  · have hk : (chip.properties.get? "size").map (fun p => p.domain.kind) = some "enum" := by decide
    rw [hp, Option.map_some, Option.some.injEq] at hk
    rw [Property.IsMeasure, hk] at hm
    exact absurd hm (by decide)

end Component

open Text

theorem attributesText_cons_cons (e f : String × String) (x : Attributes) :
    attributesText (e :: f :: x) = e.1 ++ "=\"" ++ e.2 ++ "\"" ++ " " ++ attributesText (f :: x) := by
  rw [attributesText, List.map_cons, List.map_cons, joinWith, String.intercalate_cons_cons]
  rfl

theorem toList_attributesText_singleton (k v : String) :
    (attributesText [(k, v)]).toList = (k ++ "=").toList ++ '"' :: (v.toList ++ ['"']) := by
  simp [attributesText, joinWith, String.toList_append]

/-- The markup of an attribute has two quotation marks of its own. -/
theorem length_le_count_attributesText (x : Attributes) :
    2 * x.length ≤ (attributesText x).toList.count '"' := by
  induction x with
  | nil => simp
  | cons e x ih =>
    cases x with
    | nil =>
      rw [toList_attributesText_singleton]
      simp
      omega
    | cons f x =>
      rw [attributesText_cons_cons]
      simp at ih ⊢
      omega

/-- The first quotation marks show where the name and the value of an attribute end. -/
theorem eq_of_attribute {k v k' v' : String} {s t : List Char} (hk : '"' ∉ (k ++ "=").toList)
    (hv : '"' ∉ v.toList) (hk' : '"' ∉ (k' ++ "=").toList) (hv' : '"' ∉ v'.toList)
    (h : (attributesText [(k, v)]).toList ++ s = (attributesText [(k', v')]).toList ++ t) :
    k = k' ∧ v = v' := by
  rw [toList_attributesText_singleton, toList_attributesText_singleton, List.append_assoc,
    List.append_assoc, List.cons_append, List.cons_append, List.append_assoc, List.append_assoc] at h
  have hname := congrArg (cutFirst '"') h
  rw [cutFirst_append hk, cutFirst_append hk', Prod.mk.injEq, Option.some.injEq] at hname
  have hvalue := congrArg (cutFirst '"') hname.2
  rw [List.cons_append, List.cons_append, cutFirst_append hv, cutFirst_append hv', Prod.mk.injEq] at hvalue
  have hname := hname.1
  rw [String.toList_append, String.toList_append] at hname
  exact ⟨String.toList_inj.mp (List.append_cancel_right hname), String.toList_inj.mp hvalue.1⟩

/-- A scale whose size is a number. -/
def scale : Component where
  name := "Scale"
  description := none
  properties := .ofList [("size", ⟨.number none none none, false, none⟩)]
  constraints := []
  mappings := ∅
  baseStyles := none

/-- No other attributes have this markup: its two quotation marks leave room for one attribute. -/
theorem eq_of_markup_scale {x : Attributes} {content : String}
    (h : markup "Scale" x content = "<Scale size=\"lg\">Larger variant</Scale>") :
    x = [("size", "lg")] := by
  have hcount := length_le_count_attributesText x
  rw [markup, ← String.toList_inj] at h
  split at h
  · simp at h
  · have hl : "<Scale ".toList ++ ((attributesText x).toList ++ '>' :: content.toList) ++
        "</Scale>".toList =
          "<Scale ".toList ++ ((attributesText [("size", "lg")]).toList ++ '>' :: "Larger variant".toList) ++
            "</Scale>".toList := by
      rw [toList_attributesText_singleton]
      simpa using h
    have hl := List.append_cancel_left (List.append_cancel_right hl)
    have hq : (attributesText x).toList.count '"' + content.toList.count '"' = 2 := by
      have hq := congrArg (List.count '"') hl
      rwa [List.count_append, List.count_cons_of_ne (by decide), toList_attributesText_singleton] at hq
    cases x with
    | nil => simp [attributesText, joinWith] at hl
    | cons e x =>
      cases x with
      | cons f x =>
        rw [List.length_cons, List.length_cons] at hcount
        omega
      | nil =>
        obtain ⟨k, v⟩ := e
        rw [toList_attributesText_singleton, List.count_append, List.count_cons_self, List.count_append,
          List.count_singleton_self] at hq
        have hk : '"' ∉ (k ++ "=").toList := List.count_eq_zero.mp (by omega)
        have hv : '"' ∉ v.toList := List.count_eq_zero.mp (by omega)
        obtain ⟨rfl, rfl⟩ := eq_of_attribute hk hv (by decide) (by decide) hl
        rfl

/-- What is shown as valid need not be usable: a large variant is shown for a size that is a number. -/
theorem Component.validExamples_unusable : ¬ ∀ (c : Component) (name : String) (shown : Examples),
    c.examples name = .ok shown → ∀ s ∈ shown.valid, ∃ (m : Dict String) (content : String),
      s = markup name m.entries content ∧ ∀ u, u.Gives m → u.isPlaced = true →
        ∃ l, c.usageIssues u = .ok l ∧ ∀ i ∈ l, i.severity = .error → i.code = .missingRequiredProp := by
  intro h
  have hexamples : scale.examples "Scale" = .ok ⟨["<Scale>Content</Scale>",
      "<Scale size=\"lg\">Larger variant</Scale>"], [utilityExample "Scale"]⟩ := by decide
  obtain ⟨m, content, he, hu⟩ := h scale "Scale" _ hexamples _ (.tail _ (.head _))
  have hm := eq_of_markup_scale he.symm
  obtain ⟨l, hl, hc⟩ := hu ⟨"Scale", Combination.props m.entries, none⟩ (Props.decode_texts m) rfl
  rw [hm] at hl
  have hi : (scale.usageIssues ⟨"Scale", Combination.props [("size", "lg")], none⟩).toOption =
      some [Domain.mismatch "size" "Scale.size" "number" "str"] := by
    decide
  rw [hl] at hi
  cases hi
  exact absurd (hc _ (List.mem_singleton.mpr rfl) rfl) (by decide)

end Stylebook
