import Mathlib.Data.List.Forall2
import Stylebook.Proofs.Decoding.RoundTrip
import Stylebook.Proofs.Definition.Summary

/-!
Systems given piece by piece. Where each component has a name of its own, the pieces make the system that the
plain description with these pieces makes, or neither makes one.
-/

namespace Stylebook

namespace Decoded

variable {α β : Type}

/-- The same outcome, but for the details. -/
inductive Alike : Decoded α → Decoded α → Prop
  | ok (a : α) : Alike (ok a) (ok a)
  | bad (ds es : List Detail) : Alike (bad ds) (bad es)
  | refused (why : Refusal) : Alike (refused why) (refused why)

namespace Alike

theorem rfl {x : Decoded α} : Alike x x := by
  cases x with
  | ok a => exact .ok a
  | bad ds => exact .bad ds ds
  | refused why => exact .refused why

theorem seq {f g : Decoded (α → β)} {x y : Decoded α} (hf : Alike f g) (hx : Alike x y) :
    Alike (f <*> x) (g <*> y) := by
  cases hf with
  | ok f =>
    cases hx with
    | ok a => exact .ok (f a)
    | bad ds es => exact .bad ds es
    | refused why => exact .refused why
  | bad ds es =>
    cases hx with
    | ok a => exact .bad ds es
    | bad ds' es' => exact .bad (ds ++ ds') (es ++ es')
    | refused why => exact .refused why
  | refused why => cases hx <;> exact .refused why

theorem under {x : Decoded α} (s t : Step) : Alike (x.under s) (x.under t) := by
  cases x with
  | ok a => exact .ok a
  | bad ds => exact .bad _ _
  | refused why => exact .refused why

/-- The name under which a field stands shows in the details only. -/
theorem optional {f g : Fields} {names others : List String} {default : α} {read : Value → Decoded α}
    (h : (field? f names).map Prod.snd = (field? g others).map Prod.snd) :
    Alike (Decoded.optional f names default read) (Decoded.optional g others default read) := by
  rw [Decoded.optional, Decoded.optional]
  cases hf : field? f names with
  | none =>
    cases hg : field? g others with
    | none => exact .rfl
    | some e => simp [hf, hg] at h
  | some e =>
    cases hg : field? g others with
    | none => simp [hf, hg] at h
    | some e' =>
      obtain ⟨n, v⟩ := e
      obtain ⟨m, w⟩ := e'
      obtain rfl : v = w := by simpa [hf, hg] using h
      exact .under _ _

end Alike

/-- A map is read from its names and from what is read of its values. -/
theorem entries_congr {f : Value → Decoded α} {l m : Fields}
    (h : List.Forall₂ (fun a b => a.1 = b.1 ∧ f a.2 = f b.2) l m) : entries f l = entries f m := by
  induction h with
  | nil => rfl
  | @cons a b l m h _ ih =>
    obtain ⟨k, v⟩ := a
    obtain ⟨k', w⟩ := b
    obtain ⟨rfl, hv⟩ := h
    rw [entries, entries, hv, ih]

/-- In a map that was read, every value was read. -/
theorem exists_of_entries_ok {f : Value → Decoded α} {fields : Fields} {l : List (String × α)}
    (h : entries f fields = ok l) : ∀ e ∈ fields, ∃ a, f e.2 = ok a := by
  induction fields generalizing l with
  | nil => simp
  | cons e rest ih =>
    obtain ⟨k, v⟩ := e
    obtain ⟨_, l, hm, hl, -⟩ := seq_eq_ok_iff.mp h
    obtain ⟨_, a, -, ha, -⟩ := seq_eq_ok_iff.mp hm
    exact List.forall_mem_cons.mpr ⟨⟨a, under_eq_ok_iff.mp ha⟩, ih hl⟩

end Decoded

open Fields

namespace DesignSystem

namespace Step

/-- The field that a step replaces, and its new value. -/
def replaces? : Step → Option (String × Value)
  | name v => some ("name", v)
  | version v => some ("version", v)
  | tokens fields => some ("tokens", .object fields)
  | darkTokens fields => some ("dark_tokens", .object fields)
  | component _ _ => none
  | settings v => some ("settings", v)

/-- The component that a step adds under a key, or why it has none. -/
def adds? : Step → Option (Except DefinitionError (Key × Component))
  | component key source => some ((source.component key.toValue).map fun c => (key, c))
  | _ => none

end Step

/-- What the fields of a description hold after some values were written and some components added. -/
structure Holds (fields : Fields) (writes : List (String × Value)) (added : List (Key × Component)) :
    Prop where
  replaced : ∀ n, n ≠ "components" → get? fields n = (lastWritten? writes n).or (get? blank n)
  components : get? fields "components" =
    some (.object (Pairs.setAll [] (added.map fun e => (e.1, e.2.toValue))))

section Steps

variable {fields : Fields} {writes : List (String × Value)} {added : List (Key × Component)}

theorem holds_blank : Holds blank [] [] := ⟨fun _ _ => rfl, rfl⟩

theorem Holds.replace (h : Holds fields writes added) {m : String} (hm : m ≠ "components") (v : Value) :
    Holds (set fields m v) (writes ++ [(m, v)]) added where
  replaced n hn := by
    rw [get?_set, lastWritten?_append, h.replaced n hn, Option.or_assoc]
    by_cases he : m = n <;> simp [lastWritten?, Pairs.get?, he]
  components := by rw [get?_set, if_neg hm, h.components]

theorem Holds.add (h : Holds fields writes added) (key : Key) (c : Component) :
    Holds (set fields "components"
      (.object (Pairs.set key c.toValue (getD fields "components").fieldsOf)))
      writes (added ++ [(key, c)]) where
  replaced n hn := by rw [get?_set, if_neg hn.symm, h.replaced n hn]
  components := by
    rw [get?_set, if_pos rfl, getD, h.components, List.map_append, Pairs.setAll_append]
    rfl

/-- A step replaces a field, or adds a component, or fails where the component does. -/
theorem apply_cases (fields : Fields) (step : Step) :
    (∃ m v, step.replaces? = some (m, v) ∧ step.adds? = none ∧ m ≠ "components" ∧
      step.apply fields = .ok (set fields m v)) ∨
    (∃ key c, step.replaces? = none ∧ step.adds? = some (.ok (key, c)) ∧
      step.apply fields = .ok (set fields "components"
        (.object (Pairs.set key c.toValue (getD fields "components").fieldsOf)))) ∨
    ∃ e, step.adds? = some (.error e) ∧ step.apply fields = .error e := by
  cases step with
  | component key source =>
    refine .inr ?_
    cases hc : source.component key.toValue with
    | ok c => exact .inl ⟨key, c, rfl, by rw [Step.adds?, hc]; rfl, by rw [Step.apply, hc]; rfl⟩
    | error e => exact .inr ⟨e, by rw [Step.adds?, hc]; rfl, by rw [Step.apply, hc]; rfl⟩
  | _ => exact .inl ⟨_, _, rfl, rfl, by decide, rfl⟩

/-- All steps are taken, or some component cannot be added. -/
theorem foldlM_apply (steps : List Step) (h : Holds fields writes added) :
    (∃ out cs, steps.foldlM Step.apply fields = .ok out ∧ steps.filterMap Step.adds? = cs.map .ok ∧
      Holds out (writes ++ steps.filterMap Step.replaces?) (added ++ cs)) ∨
    ∃ e, steps.foldlM Step.apply fields = .error e ∧ .error e ∈ steps.filterMap Step.adds? := by
  induction steps generalizing fields writes added with
  | nil => exact .inl ⟨fields, [], rfl, rfl, by simpa using h⟩
  | cons step steps ih =>
    rw [List.foldlM_cons]
    rcases apply_cases fields step with ⟨m, v, hr, ha, hm, happly⟩ | ⟨key, c, hr, ha, happly⟩ | ⟨e, ha, happly⟩
    · rw [happly, List.filterMap_cons_none ha, List.filterMap_cons_some hr, List.append_cons]
      exact ih (h.replace hm v)
    · rw [happly, List.filterMap_cons_some ha, List.filterMap_cons_none hr]
      rcases ih (h.add key c) with ⟨out, cs, hout, hcs, hholds⟩ | ⟨e, hout, he⟩
      · refine .inl ⟨out, (key, c) :: cs, hout, by rw [hcs]; rfl, ?_⟩
        rwa [List.append_cons]
      · exact .inr ⟨e, hout, List.mem_cons_of_mem _ he⟩
    · rw [happly, List.filterMap_cons_some ha]
      exact .inr ⟨e, rfl, List.mem_cons_self⟩

end Steps

/-- The pieces of a description. Components are told by their fields, under keys of their own. -/
structure Pieces where
  name : Option Value
  version : Option Value
  tokens : Option Fields
  darkTokens : Option Fields
  components : List (Key × Fields)
  settings : Option Value
  distinct : (Pairs.keys components).Nodup
  distinctFields : ∀ e ∈ components, (Pairs.keys e.2).Nodup

namespace Pieces

variable (p : Pieces)

def objects : Fields := p.components.map fun e => (e.1, .object e.2)

/-- The pieces as steps: one for each component, and one for anything else that is there. -/
def steps : List Step :=
  p.name.toList.map .name ++ p.version.toList.map .version ++ p.tokens.toList.map .tokens ++
    p.darkTokens.toList.map .darkTokens ++ (p.components.map fun e => .component e.1 (.plain e.2)) ++
    p.settings.toList.map .settings

def AllNamed : Prop := ∀ e ∈ p.components, Fields.has e.2 "name" = true

/-- The fields of a component, with its key for a name if there is none among them. -/
def withName (key : Key) (fields : Fields) : Fields :=
  if Fields.has fields "name" then fields else Fields.set fields "name" key.toValue

/-- The same pieces, where each component has a name. -/
def named : Pieces where
  name := p.name
  version := p.version
  tokens := p.tokens
  darkTokens := p.darkTokens
  components := p.components.map fun e => (e.1, withName e.1 e.2)
  settings := p.settings
  distinct := by
    rw [Pairs.keys, List.map_map]
    exact p.distinct
  distinctFields := by
    intro e he
    obtain ⟨d, hd, rfl⟩ := List.mem_map.mp he
    have h := p.distinctFields d hd
    rw [withName]
    split
    · exact h
    · exact Pairs.nodup_set h

variable {p}

theorem withName_of_has {key : Key} {fields : Fields} (h : Fields.has fields "name" = true) :
    withName key fields = fields :=
  if_pos h

theorem AllNamed.steps_named (h : p.AllNamed) : p.named.steps = p.steps := by
  have hc : p.named.components = p.components := by
    refine (List.map_congr_left fun e he => ?_).trans (List.map_id _)
    rw [withName_of_has (h e he)]
    rfl
  rw [steps, steps, hc]
  rfl

theorem nameComponents_objects : nameComponents (.object p.objects) = .object p.named.objects := by
  rw [nameComponents, objects, objects, named, List.map_map, List.map_map]
  rfl

section Taken

variable {α : Type} {f : α → Step}

theorem adds?_toList (h : ∀ a, (f a).adds? = none) (o : Option α) :
    (o.toList.map f).filterMap Step.adds? = [] := by
  cases o <;> simp [h]

/-- A component step for each component, and no other. -/
theorem adds?_steps : p.steps.filterMap Step.adds? =
    p.components.map fun e => (Component.define e.2).map fun c => (e.1, c) := by
  have hcs : (p.components.map fun e => Step.component e.1 (.plain e.2)).filterMap Step.adds? =
      p.components.map fun e => (Component.define e.2).map fun c => (e.1, c) := by
    rw [List.filterMap_map, ← List.filterMap_eq_map]
    rfl
  simp only [steps, List.filterMap_append, hcs, adds?_toList (f := Step.name) fun _ => rfl,
    adds?_toList (f := Step.version) fun _ => rfl, adds?_toList (f := Step.tokens) fun _ => rfl,
    adds?_toList (f := Step.darkTokens) fun _ => rfl, adds?_toList (f := Step.settings) fun _ => rfl,
    List.nil_append, List.append_nil]

theorem lastWritten?_toList {m : String} {g : α → Value} (h : ∀ a, (f a).replaces? = some (m, g a))
    (o : Option α) (n : String) : lastWritten? ((o.toList.map f).filterMap Step.replaces?) n =
      if m = n then o.map g else none := by
  cases o with
  | none => simp [lastWritten?, Pairs.get?]
  | some a => simp [lastWritten?, Pairs.get?, h]

theorem lastWritten?_steps (n : String) : lastWritten? (p.steps.filterMap Step.replaces?) n =
    (if "settings" = n then p.settings else none).or
      ((if "dark_tokens" = n then p.darkTokens.map .object else none).or
        ((if "tokens" = n then p.tokens.map .object else none).or
          ((if "version" = n then p.version else none).or (if "name" = n then p.name else none)))) := by
  have hcs : (p.components.map fun e => Step.component e.1 (.plain e.2)).filterMap Step.replaces? = [] := by
    rw [List.filterMap_map]
    exact List.filterMap_eq_nil_iff.mpr fun _ _ => rfl
  simp only [steps, List.filterMap_append, lastWritten?_append, hcs,
    lastWritten?_toList (f := Step.name) (g := id) fun _ => rfl,
    lastWritten?_toList (f := Step.version) (g := id) fun _ => rfl,
    lastWritten?_toList (f := Step.tokens) (g := .object) fun _ => rfl,
    lastWritten?_toList (f := Step.darkTokens) (g := .object) fun _ => rfl,
    lastWritten?_toList (f := Step.settings) (g := id) fun _ => rfl, Option.map_id_apply]
  rfl

end Taken

end Pieces

/-- A plain description has these pieces; the dark tokens may stand under either of their names. -/
structure Describes (fields : Fields) (p : Pieces) : Prop where
  name : get? fields "name" = p.name
  version : get? fields "version" = p.version
  tokens : get? fields "tokens" = p.tokens.map .object
  darkTokens : (Decoded.field? fields ["darkTokens", "dark_tokens"]).map Prod.snd = p.darkTokens.map .object
  components : (get? fields "components").getD (.object []) = .object p.objects
  settings : get? fields "settings" = p.settings

section Agreement

open Decoded Pieces

variable {fields out : Fields} {p : Pieces} {cs : List (Key × Component)}

theorem has_name_of_decode {c : Component} (h : Component.decode (.object fields) = ok c) :
    Fields.has fields "name" = true := by
  obtain ⟨_, hfs, -, hc⟩ := Component.reads_of_decode h
  cases hfs
  obtain ⟨n, v, hv, -⟩ := exists_of_required hc.name
  rw [field?_singleton] at hv
  rw [Fields.has]
  cases hn : get? fields "name" with
  | none => rw [hn] at hv; cases hv
  | some w => rfl

/-- The components are those that the pieces tell of, each under its key. -/
def Tells (l : List (Key × Fields)) (cs : List (Key × Component)) : Prop :=
  List.Forall₂ (fun e c => e.1 = c.1 ∧ Component.decode (.object e.2) = ok c.2) l cs

theorem tells_of_adds? {l : List (Key × Fields)} (hl : ∀ e ∈ l, (Pairs.keys e.2).Nodup)
    (h : (l.map fun e => (Component.define e.2).map fun c => (e.1, c)) = cs.map .ok) : Tells l cs := by
  induction l generalizing cs with
  | nil =>
    obtain rfl := List.map_eq_nil_iff.mp h.symm
    exact .nil
  | cons e l ih =>
    rw [List.forall_mem_cons] at hl
    obtain ⟨c, cs, rfl, hc, hcs⟩ := List.map_eq_cons_iff.mp h.symm
    dsimp only at hc
    cases hd : Component.define e.2 with
    | error why => rw [hd] at hc; cases hc
    | ok d =>
      rw [hd] at hc
      cases hc
      exact .cons ⟨rfl, (Component.define_eq_ok_iff hl.1).mp hd⟩ (ih hl.2 hcs.symm)

theorem Tells.keys {l : List (Key × Fields)} (h : Tells l cs) : Pairs.keys l = Pairs.keys cs := by
  induction h with
  | nil => rfl
  | cons he _ ih => rw [Pairs.keys_cons, Pairs.keys_cons, he.1, ih]

/-- Ready components are read again as what they are. -/
theorem Tells.readComponents {l : List (Key × Fields)} (h : Tells l cs) :
    dict Component.decode (nameComponents (.object (cs.map fun e => (e.1, e.2.toValue)))) =
      dict Component.decode (.object (l.map fun e => (e.1, .object e.2))) := by
  have hnames : nameComponents (.object (cs.map fun e => (e.1, e.2.toValue))) =
      .object (cs.map fun e => (e.1, e.2.toValue)) := by
    rw [nameComponents, List.map_map]
    exact congrArg Value.object (List.map_congr_left fun e _ => rfl)
  have hentries : entries Component.decode (l.map fun e => (e.1, .object e.2)) =
      entries Component.decode (cs.map fun e => (e.1, e.2.toValue)) := by
    refine entries_congr ?_
    rw [List.forall₂_map_left_iff, List.forall₂_map_right_iff]
    refine h.imp fun e c hec => ⟨hec.1, ?_⟩
    rw [hec.2, Component.decode_toValue (Component.name_ne_of_decode hec.2)]
  rw [hnames, dict, dict, hentries]

theorem readComponents_described (h : Describes fields p) :
    Decoded.optional fields ["components"] ∅ (fun v => dict Component.decode (nameComponents v)) =
      (dict Component.decode (.object p.named.objects)).named "components" := by
  have hc := h.components
  rw [Decoded.optional, field?_singleton]
  cases hg : get? fields "components" with
  | none =>
    rw [hg] at hc
    have hn := nameComponents_objects (p := p)
    rw [← hc] at hn
    rw [← hn]
    rfl
  | some v =>
    rw [hg, Option.getD_some] at hc
    rw [← nameComponents_objects, ← hc]
    rfl

/-- What the fields hold once all steps were taken, apart from the components. -/
structure Left (out : Fields) (p : Pieces) : Prop where
  name : get? out "name" = p.name.or (some (.text ""))
  version : get? out "version" = p.version
  tokens : get? out "tokens" = (p.tokens.map .object).or (some (.object []))
  darkTokens : get? out "dark_tokens" = p.darkTokens.map .object
  otherName : get? out "darkTokens" = none
  settings : get? out "settings" = p.settings

theorem Holds.left (h : Holds out (p.steps.filterMap Step.replaces?) cs) : Left out p := by
  have hget (n : String) (hn : n ≠ "components") : get? out n =
      (lastWritten? (p.steps.filterMap Step.replaces?) n).or (get? blank n) := h.replaced n hn
  simp only [lastWritten?_steps] at hget
  constructor <;> rw [hget _ (by decide)] <;> simp [blank, Fields.get?, Pairs.get?]

theorem name_alike (h : get? fields "name" = p.name) {name : Value} (hname : p.name = some name)
    (hout : Left out p) : required out ["name"] Decoding.text = required fields ["name"] Decoding.text := by
  refine required_congr fun n hn => ?_
  obtain rfl := List.mem_singleton.mp hn
  rw [hout.name, h, hname]
  rfl

theorem tokens_alike (h : Describes fields p) (hout : Left out p) :
    Alike (Decoded.optional out ["tokens"] ∅ Tokens.decode)
      (Decoded.optional fields ["tokens"] ∅ Tokens.decode) := by
  have ht := h.tokens
  rw [Decoded.optional, Decoded.optional, field?_singleton, field?_singleton, hout.tokens, ht]
  cases p.tokens with
  | none => exact .ok ∅
  | some tokens => exact .rfl

/-- The components that were added are read as those of the description, with their names. -/
theorem components_alike (h : Describes fields p) (hcs : Tells p.named.components cs)
    (hout : get? out "components" =
      some (.object (Pairs.setAll [] (cs.map fun e => (e.1, e.2.toValue))))) :
    Decoded.optional out ["components"] ∅ (fun v => dict Component.decode (nameComponents v)) =
      Decoded.optional fields ["components"] ∅ (fun v => dict Component.decode (nameComponents v)) := by
  have hdistinct : (Pairs.keys ([] ++ cs.map fun e => (e.1, e.2.toValue))).Nodup := by
    have hk := p.named.distinct
    rw [hcs.keys] at hk
    simpa [Pairs.keys, Function.comp_def] using hk
  rw [readComponents_described h, Decoded.optional, field?_singleton, hout, Pairs.setAll_of_nodup hdistinct]
  exact congrArg (Decoded.named "components") hcs.readComponents

/-- The fields that all steps leave are read as the plain description is. -/
theorem decode_alike (h : Describes fields p) {name : Value} (hname : p.name = some name)
    (hcs : Tells p.named.components cs)
    (hout : Holds out (p.named.steps.filterMap Step.replaces?) cs) :
    Alike (decode (.object out)) (decode (.object fields)) := by
  -- but for its components, `p.named` is `p`
  have hleft : Left out p := ⟨hout.left.name, hout.left.version, hout.left.tokens, hout.left.darkTokens,
    hout.left.otherName, hout.left.settings⟩
  have hcomponents := components_alike h hcs hout.components
  refine .seq (.seq (.seq (.seq (.seq ?_ (.optional ?_)) (tokens_alike h hleft)) (.optional ?_)) ?_)
    (.optional ?_)
  · rw [name_alike h.name hname hleft]
    exact .rfl
  · simp [field?_singleton, hleft.version, h.version]
  · rw [h.darkTokens]
    simp [field?, hleft.otherName, hleft.darkTokens, Function.comp_def]
  · rw [hcomponents]
    exact .rfl
  · simp [field?_singleton, hleft.settings, h.settings]

/-- Each component is one by itself. -/
def Pieces.AllMade (p : Pieces) : Prop := ∀ e ∈ p.components, ∃ c, Component.define e.2 = .ok c

theorem Pieces.AllMade.allNamed (h : p.AllMade) : p.AllNamed := by
  intro e he
  obtain ⟨c, hc⟩ := h e he
  exact has_name_of_decode ((Component.define_eq_ok_iff (p.distinctFields e he)).mp hc)

theorem foldlM_of_allMade (h : p.AllMade) : ∃ out cs, p.steps.foldlM Step.apply blank = .ok out ∧
    Tells p.components cs ∧ Holds out (p.steps.filterMap Step.replaces?) cs := by
  rcases foldlM_apply p.steps holds_blank with ⟨out, cs, hout, hcs, hholds⟩ | ⟨e, -, he⟩
  · rw [adds?_steps] at hcs
    exact ⟨out, cs, hout, tells_of_adds? p.distinctFields hcs, hholds⟩
  · rw [adds?_steps] at he
    obtain ⟨d, hd, hde⟩ := List.mem_map.mp he
    obtain ⟨c, hc⟩ := h d hd
    rw [hc] at hde
    cases hde

theorem ofSteps_of_not_allMade (h : ¬ p.AllMade) : ∃ e, ofSteps p.steps = .error e := by
  rcases foldlM_apply p.steps holds_blank with ⟨out, cs, hout, hcs, -⟩ | ⟨e, he, -⟩
  · refine absurd (fun d hd => ?_) h
    rw [adds?_steps] at hcs
    have hmem := List.mem_map_of_mem (f := fun e => (Component.define e.2).map fun c => (e.1, c)) hd
    rw [hcs] at hmem
    obtain ⟨c, -, hc⟩ := List.mem_map.mp hmem
    cases hdef : Component.define d.2 with
    | ok c => exact ⟨c, rfl⟩
    | error e => rw [hdef] at hc; cases hc
  · exact ⟨e, by rw [ofSteps, he]; rfl⟩

theorem define_eq_ok_iff {s : DesignSystem} : define fields = .ok s ↔
    (getD fields "name").isNothing = false ∧ decode (.object fields) = ok s := by
  rw [define]
  cases hn : (getD fields "name").isNothing with
  | true => simp
  | false => cases hd : decode (.object fields) <;> simp [Decoded.orElse]

theorem define_ne_unwritable (h : (getD fields "name").isWritable = true) :
    define fields ≠ .error .unwritable := by
  rw [define]
  split
  · simp
  · cases decode (.object fields) <;> simp [Decoded.orElse, DefinitionError.showing, h]

/-- A plain description of a system needs each of its components. -/
theorem allMade_named_of_define {s : DesignSystem} (h : Describes fields p) (hs : define fields = .ok s) :
    p.named.AllMade := by
  intro e he
  obtain ⟨_, _, hseq, -, -⟩ := seq_eq_ok_iff.mp (define_eq_ok_iff.mp hs).2
  obtain ⟨_, cs, -, hcs, -⟩ := seq_eq_ok_iff.mp hseq
  rw [readComponents_described h] at hcs
  obtain ⟨l, hl, -⟩ := map_eq_ok_iff.mp (under_eq_ok_iff.mp hcs)
  obtain ⟨c, hc⟩ := exists_of_entries_ok hl (e.1, .object e.2) (List.mem_map_of_mem he)
  exact ⟨c, (Component.define_eq_ok_iff (p.named.distinctFields e he)).mpr hc⟩

/-- With a name for each component, both ways read the same, or both miss the name of the system. -/
theorem read_alike (h : Describes fields p) (hmade : p.named.AllMade) :
    (ofSteps p.named.steps = .error .unnamedSystem ∧ define fields = .error .unnamedSystem) ∨
    ∃ built read, Alike built read ∧ ofSteps p.named.steps = .ok built ∧
      define fields = read.orElse fun details =>
        .showing (getD fields "name") fun name => .badSystem name details := by
  obtain ⟨out, cs, hout, hcs, hholds⟩ := foldlM_of_allMade hmade
  have hname : getD out "name" = (p.name.or (some (.text ""))).getD .null := by
    rw [getD, hholds.left.name]
    rfl
  have hplain : getD fields "name" = p.name.getD .null := by rw [getD, h.name]
  have hbuilt : ofSteps p.named.steps =
      if (getD out "name").isNothing then .error .unnamedSystem else .ok (decode (.object out)) := by
    rw [ofSteps, hout]
    rfl
  rw [hbuilt, define, hname, hplain]
  cases hn : p.name with
  | none => exact .inl ⟨rfl, rfl⟩
  | some name =>
    cases hnothing : name.isNothing with
    | true => exact .inl ⟨by simp [hnothing], by simp [hnothing]⟩
    | false =>
      exact .inr ⟨_, _, decode_alike h hn hcs hholds, by simp [hnothing], by simp [hnothing]⟩

/-- What is made step by step is the same system, or neither way makes one and both say why. Bare details do
not say why, and nor does a name that is too long to be shown. -/
inductive SameOutcome : Except DefinitionError (Decoded DesignSystem) → Except DefinitionError DesignSystem →
    Prop
  | made (s : DesignSystem) : SameOutcome (.ok (ok s)) (.ok s)
  | failed {e e' : DefinitionError} (h : e ≠ .unwritable) (h' : e' ≠ .unwritable) :
      SameOutcome (.error e) (.error e')
  | refused (why : Refusal) {e : DefinitionError} (h : e ≠ .unwritable) :
      SameOutcome (.ok (Decoded.refused why)) (.error e)

/-- The names of the system and of its components, as they were given. -/
def Pieces.names (p : Pieces) : List Value :=
  p.name.toList ++ p.components.map fun e => getD e.2 "name"

theorem ofSteps_ne_unwritable (h : ∀ name ∈ p.names, name.isWritable = true) :
    ofSteps p.steps ≠ .error .unwritable := by
  rw [ofSteps]
  rcases foldlM_apply p.steps holds_blank with ⟨out, cs, hout, -, -⟩ | ⟨e, he, hadds⟩
  · rw [hout, Except.bind]
    split <;> simp
  · -- the error is that of a component
    rw [he]
    rintro ⟨⟩
    rw [adds?_steps] at hadds
    obtain ⟨d, hd, hde⟩ := List.mem_map.mp hadds
    have hname := h _ (List.mem_append_right _ (List.mem_map_of_mem hd))
    have hdefine := Component.ofFields_ne_unwritable hname
    rw [← Component.define_eq_ofFields (p.distinctFields d hd)] at hdefine
    cases hdef : Component.define d.2 with
    | ok c => rw [hdef] at hde; cases hde
    | error e =>
      rw [hdef] at hde
      cases hde
      exact hdefine hdef

theorem Pieces.AllMade.of_named (hmade : p.named.AllMade) (hnamed : p.AllNamed) : p.AllMade := by
  intro e he
  have h := hmade (e.1, withName e.1 e.2) (List.mem_map_of_mem he)
  rwa [withName_of_has (hnamed e he)] at h

theorem named_allMade_iff (hnamed : p.AllNamed) : p.named.AllMade ↔ p.AllMade := by
  refine ⟨fun h => h.of_named hnamed, fun h e he => ?_⟩
  obtain ⟨d, hd, rfl⟩ := List.mem_map.mp he
  rw [withName_of_has (hnamed d hd)]
  exact h d hd

/-- Components that are all there leave bare details as the one difference. -/
theorem same_iff_of_allMade (h : Describes fields p) (hmade : p.named.AllMade) :
    SameOutcome (ofSteps p.named.steps) (define fields) ↔
      (∀ n ds, define fields ≠ .error (.badSystem n ds)) ∧ define fields ≠ .error .unwritable := by
  rcases read_alike h hmade with ⟨hb, hd⟩ | ⟨built, read, halike, hb, hd⟩
  · rw [hb, hd]
    exact ⟨fun _ => ⟨fun _ _ he => (by cases he), fun he => (by cases he)⟩, fun _ => .failed (by simp) (by simp)⟩
  · rw [hb, hd]
    cases halike with
    | ok s => exact ⟨fun _ => ⟨fun _ _ he => (by cases he), fun he => (by cases he)⟩, fun _ => .made s⟩
    | bad ds es =>
      refine ⟨fun hs => (by cases hs), fun ⟨hne, hne'⟩ => ?_⟩
      by_cases hw : (getD fields "name").isWritable = true
      · exact absurd (congrArg Except.error (if_pos hw)) (hne _ es)
      · exact absurd (congrArg Except.error (if_neg hw)) hne'
    | refused why =>
      exact ⟨fun _ => ⟨fun _ _ he => (by cases he), fun he => (by cases he)⟩, fun _ => .refused why (by simp)⟩

theorem SameOutcome.ne_unwritable {built : Except DefinitionError (Decoded DesignSystem)}
    {made : Except DefinitionError DesignSystem} (h : SameOutcome built made) :
    built ≠ .error .unwritable ∧ made ≠ .error .unwritable := by
  cases h with
  | made s => simp
  | failed h h' => simpa using ⟨h, h'⟩
  | refused why h => simpa using h

/-- The pieces make what the plain description makes, unless a component is there that has no name of its own,
or the details of something else than a component are left bare, or a name that is wrong is too long to be
shown. Pieces whose components are named by their keys make the same system in any case. -/
theorem ofSteps_same_iff (h : Describes fields p) :
    (SameOutcome (ofSteps p.steps) (define fields) ↔
      (∀ s, define fields = .ok s → p.AllNamed) ∧
        (p.AllMade → ∀ n ds, define fields ≠ .error (.badSystem n ds)) ∧
        ofSteps p.steps ≠ .error .unwritable ∧ define fields ≠ .error .unwritable) ∧
    ((∀ name ∈ p.names, name.isWritable = true) →
      ofSteps p.steps ≠ .error .unwritable ∧ define fields ≠ .error .unwritable) ∧
    ∀ s, ofSteps p.named.steps = .ok (ok s) ↔ define fields = .ok s := by
  refine ⟨?_, fun hnames => ⟨ofSteps_ne_unwritable hnames, ?_⟩, fun s => ?_⟩
  · by_cases hmade : p.AllMade
    · have hnamed := hmade.allNamed
      have hsame := same_iff_of_allMade h ((named_allMade_iff hnamed).mpr hmade)
      rw [hnamed.steps_named] at hsame
      constructor
      · exact fun hs => ⟨fun _ _ => hnamed, fun _ => (hsame.mp hs).1, hs.ne_unwritable⟩
      · exact fun hs => hsame.mpr ⟨hs.2.1 hmade, hs.2.2.2⟩
    · obtain ⟨e, he⟩ := ofSteps_of_not_allMade hmade
      rw [he]
      cases hd : define fields with
      | error e' =>
        constructor
        · exact fun hs => ⟨fun _ hs => (by cases hs), fun hm => absurd hm hmade, hs.ne_unwritable⟩
        · exact fun hs => .failed (by simpa using hs.2.2.1) (by simpa using hs.2.2.2)
      | ok s =>
        refine ⟨fun hs => (by cases hs), fun hs => ?_⟩
        exact absurd ((allMade_named_of_define h hd).of_named (hs.1 s rfl)) hmade
  · apply define_ne_unwritable
    rw [getD, h.name]
    cases hp : p.name with
    | none => rfl
    | some name => exact hnames name (by simp [Pieces.names, hp])
  · by_cases hmade : p.named.AllMade
    · rcases read_alike h hmade with ⟨hb, hd⟩ | ⟨built, read, halike, hb, hd⟩
      · simp [hb, hd]
      · cases halike <;> simp [hb, hd, Decoded.orElse]
    · obtain ⟨e, he⟩ := ofSteps_of_not_allMade hmade
      rw [he]
      exact ⟨fun hs => (by cases hs), fun hs => absurd (allMade_named_of_define h hs) hmade⟩

end Agreement

section Acme

open Decoded (ok)

/-- A system of one chip, with its dark tokens under the other name. -/
def acmeFields (version : Value) (chip : Fields) : Fields := [
  (.text "name", .text "acme"),
  (.text "version", version),
  (.text "tokens", .record [("color", .record [("ink", .text "black")])]),
  (.text "darkTokens", .record [("color", .record [("ink", .text "white")])]),
  (.text "components", .record [("Chip", .object chip)])]

def acmePieces (version : Value) (chip : Fields) (h : (Pairs.keys chip).Nodup) : Pieces where
  name := some (.text "acme")
  version := some version
  tokens := some [(.text "color", .record [("ink", .text "black")])]
  darkTokens := some [(.text "color", .record [("ink", .text "white")])]
  components := [(.text "Chip", chip)]
  settings := none
  distinct := by
    change [Key.text "Chip"].Nodup
    decide
  distinctFields := by simpa using h

theorem acmeFields_describes (version : Value) (chip : Fields) (h : (Pairs.keys chip).Nodup) :
    Describes (acmeFields version chip) (acmePieces version chip h) :=
  ⟨rfl, rfl, rfl, rfl, rfl, rfl⟩

def namedChip : Fields := [(.text "name", .text "Pill"), (.text "properties", .record [])]

def namelessChip : Fields := [(.text "properties", .record [])]

theorem namedChip_nodup : (Pairs.keys namedChip).Nodup := by
  change [Key.text "name", .text "properties"].Nodup
  decide

theorem namelessChip_nodup : (Pairs.keys namelessChip).Nodup := by
  change [Key.text "properties"].Nodup
  decide

theorem ofSteps_same_iff_acme :
    SameOutcome (ofSteps (acmePieces (.text "1.0") namedChip namedChip_nodup).steps)
      (define (acmeFields (.text "1.0") namedChip)) ∧
    (∃ s, define (acmeFields (.text "1.0") namedChip) = .ok s ∧ s.components.keys = ["Chip"]) ∧
    ∃ s, ofSteps (acmePieces (.text "1.0") namelessChip namelessChip_nodup).named.steps = .ok (ok s) := by
  refine ⟨?_, ⟨_, rfl, rfl⟩, ?_⟩
  · refine (ofSteps_same_iff (acmeFields_describes _ _ namedChip_nodup)).1.mpr
      ⟨fun _ _ => ?_, fun _ n ds h => ?_, ?_⟩
    · exact List.forall_mem_singleton.mpr rfl
    · cases h
    · exact (ofSteps_same_iff (acmeFields_describes _ _ namedChip_nodup)).2.1 (by decide)
  · exact ⟨_, ((ofSteps_same_iff (acmeFields_describes _ _ namelessChip_nodup)).2.2 _).mpr rfl⟩

/-- A chip without a name is no component by itself, and the details of a bad version are left bare. -/
theorem ofSteps_differs :
    (¬ ∀ fields p, Describes fields p → SameOutcome (ofSteps p.steps) (define fields)) ∧
    ofSteps (acmePieces (.text "1.0") namelessChip namelessChip_nodup).steps =
      .error (.refused .noName) ∧
    (∃ s, define (acmeFields (.text "1.0") namelessChip) = .ok s ∧ s.components.keys = ["Chip"]) ∧
    ofSteps (acmePieces (.list []) namedChip namedChip_nodup).steps =
      .ok (.bad [⟨[.name "version"], .notText⟩]) ∧
    define (acmeFields (.list []) namedChip) = .error (.badSystem "acme" [⟨[.name "version"], .notText⟩]) := by
  refine ⟨fun h => ?_, rfl, ⟨_, rfl, rfl⟩, rfl, rfl⟩
  have hsame := h _ _ (acmeFields_describes (.text "1.0") _ namelessChip_nodup)
  cases hsame

end Acme

end DesignSystem

end Stylebook
