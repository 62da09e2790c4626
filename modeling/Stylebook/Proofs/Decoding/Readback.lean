import Stylebook.Proofs.Dict.Overlay
import Stylebook.Proofs.Theme.Merge

/-!
Reading back what was written. A reader that reads back each part of a list, a map or a record reads back
the whole.
-/

namespace Stylebook.Decoded

variable {α β : Type}

section Outcomes

variable {x : Decoded α} {a : α}

theorem map_ok {f : α → β} (h : x = ok a) : f <$> x = ok (f a) := by
  rw [h]
  rfl

theorem seq_ok {f : Decoded (α → β)} {g : α → β} (hf : f = ok g) (hx : x = ok a) :
    f <*> x = ok (g a) := by
  rw [hf, hx]
  rfl

theorem map_eq_ok_iff {f : α → β} {b : β} : f <$> x = ok b ↔ ∃ a, x = ok a ∧ f a = b := by
  refine ⟨fun h => ?_, fun ⟨a, hx, hb⟩ => hb ▸ map_ok hx⟩
  cases x with
  | ok a => exact ⟨a, rfl, ok.inj h⟩
  | bad ds => cases h
  | refused r => cases h

theorem seq_eq_ok_iff {f : Decoded (α → β)} {b : β} :
    f <*> x = ok b ↔ ∃ g a, f = ok g ∧ x = ok a ∧ g a = b := by
  refine ⟨fun h => ?_, fun ⟨g, a, hf, hx, hb⟩ => hb ▸ seq_ok hf hx⟩
  cases f with
  | ok g =>
    cases x with
    | ok a => exact ⟨g, a, rfl, rfl, ok.inj h⟩
    | bad ds => cases h
    | refused r => cases h
  | bad ds => cases x <;> cases h
  | refused r => cases x <;> cases h

theorem andThen_ok {f : α → Decoded β} {b : β} (hx : x = ok a) (hf : f a = ok b) :
    x.andThen f = ok b := by
  rw [hx]
  exact hf

theorem under_ok {s : Step} (h : x = ok a) : x.under s = ok a := by
  rw [h]
  rfl

theorem under_eq_ok_iff {s : Step} : x.under s = ok a ↔ x = ok a := by
  refine ⟨fun h => ?_, under_ok⟩
  cases x with
  | ok b => exact h
  | bad ds => cases h
  | refused r => cases h

end Outcomes

section Fields

variable {fields : Fields} {names : List String} {n : String} {v : Value} {f : Value → Decoded α} {a : α}

theorem required_ok (h : field? fields names = some (n, v)) (hf : f v = ok a) :
    required fields names f = ok a := by
  rw [required, h]
  exact under_ok hf

theorem optional_ok {default : α} (h : field? fields names = some (n, v)) (hf : f v = ok a) :
    optional fields names default f = ok a := by
  rw [optional, h]
  exact under_ok hf

/-- Nothing but the values under its names counts for a field. -/
theorem field?_congr {others : Fields} (h : ∀ n ∈ names, fields.get? n = others.get? n) :
    field? fields names = field? others names := by
  induction names with
  | nil => rfl
  | cons n names ih =>
    rw [List.forall_mem_cons] at h
    rw [field?, field?, List.findSome?_cons, List.findSome?_cons, h.1]
    cases others.get? n with
    | none => exact ih h.2
    | some v => rfl

theorem required_congr {others : Fields} (h : ∀ n ∈ names, fields.get? n = others.get? n) :
    required fields names f = required others names f := by
  rw [required, field?_congr h, required]

theorem optional_congr {others : Fields} {default : α} (h : ∀ n ∈ names, fields.get? n = others.get? n) :
    optional fields names default f = optional others names default f := by
  rw [optional, field?_congr h, optional]

end Fields

section Parts

variable {f : Value → Decoded α} {g : α → Value}

theorem items_map (l : List α) (h : ∀ a ∈ l, f (g a) = ok a) (i : Int) :
    items f i (l.map g) = ok l := by
  induction l generalizing i with
  | nil => rfl
  | cons a l ih =>
    rw [List.forall_mem_cons] at h
    exact seq_ok (map_ok (under_ok h.1)) (ih h.2 (i + 1))

theorem list_map {l : List α} (h : ∀ a ∈ l, f (g a) = ok a) : list f (.list (l.map g)) = ok l :=
  items_map l h 0

theorem nullable_ofOption (h : ∀ a, f (g a) = ok a) (hn : ∀ a, g a ≠ .null) (o : Option α) :
    nullable f (.ofOption g o) = ok o := by
  cases o with
  | none => rfl
  | some a =>
    rw [Value.ofOption, nullable, map_ok (h a)]
    exact hn a

theorem entries_fields (l : List (String × α)) (h : ∀ e ∈ l, f (g e.2) = ok e.2) :
    entries f (Pairs.fields g l) = ok l := by
  induction l with
  | nil => rfl
  | cons e l ih =>
    rw [List.forall_mem_cons] at h
    exact seq_ok (seq_ok (map_ok rfl) (under_ok h.1)) (ih h.2)

theorem dict_ofDict {d : Dict α} (h : ∀ e ∈ d.entries, f (g e.2) = ok e.2) :
    dict f (.ofDict g d) = ok d := by
  rw [Value.ofDict_eq, dict, map_ok (entries_fields d.entries h), Dict.ofList_entries]

end Parts

section Origins

variable {f : Value → Decoded α} {fields : Fields} {names : List String} {a : α}

theorem exists_of_required (h : required fields names f = ok a) :
    ∃ n v, field? fields names = some (n, v) ∧ f v = ok a := by
  rw [required] at h
  split at h
  · rename_i n v hv
    exact ⟨n, v, hv, under_eq_ok_iff.mp h⟩
  · cases h

theorem exists_of_optional {default : α} (h : optional fields names default f = ok a) :
    (field? fields names = none ∧ a = default) ∨
      ∃ n v, field? fields names = some (n, v) ∧ f v = ok a := by
  rw [optional] at h
  split at h
  · rename_i n v hv
    exact .inr ⟨n, v, hv, under_eq_ok_iff.mp h⟩
  · rename_i hn
    exact .inl ⟨hn, (ok.inj h).symm⟩

theorem field?_singleton (fields : Fields) (n : String) :
    field? fields [n] = (Fields.get? fields n).map fun v => (n, v) := by
  rw [field?, List.findSome?_cons]
  cases Fields.get? fields n <;> rfl

theorem tagged_ok {tag kind : String} {read : Fields → Decoded α}
    {f : String → Option (Fields → Decoded α)} (hk : Fields.get? fields tag = some (.text kind))
    (hf : f kind = some read) (h : read fields = ok a) : tagged tag f (.object fields) = ok a := by
  rw [tagged, hk]
  dsimp only
  rw [hf]
  exact under_ok h

theorem exists_of_tagged {tag : String} {f : String → Option (Fields → Decoded α)}
    (h : tagged tag f (.object fields) = ok a) :
    ∃ kind read, Fields.get? fields tag = some (.text kind) ∧ f kind = some read ∧ read fields = ok a := by
  rw [tagged] at h
  split at h
  · cases h
  · rename_i kind hk
    split at h
    · rename_i read hf
      exact ⟨kind, read, hk, hf, under_eq_ok_iff.mp h⟩
    · cases h
  · cases h

theorem exists_of_entries {l : List (String × α)} (h : entries f fields = ok l) :
    ∀ e ∈ l, ∃ v, f v = ok e.2 := by
  induction fields generalizing l with
  | nil =>
    cases h
    simp
  | cons kv rest ih =>
    obtain ⟨k, v⟩ := kv
    obtain ⟨_, l, hm, hl, rfl⟩ := seq_eq_ok_iff.mp h
    obtain ⟨_, a, hn, ha, rfl⟩ := seq_eq_ok_iff.mp hm
    obtain ⟨name, hk, rfl⟩ := map_eq_ok_iff.mp hn
    exact List.forall_mem_cons.mpr ⟨⟨v, under_eq_ok_iff.mp ha⟩, ih hl⟩

/-- All that is in a map was read. -/
theorem exists_of_dict {v : Value} {d : Dict α} (h : dict f v = ok d) :
    ∀ e ∈ d.entries, ∃ w, f w = ok e.2 := by
  cases v with
  | object fields =>
    obtain ⟨l, hl, rfl⟩ := map_eq_ok_iff.mp h
    intro e he
    rcases Pairs.mem_setAll he with he | he
    · cases he
    · exact exists_of_entries hl e he
  | _ => cases h

end Origins

end Stylebook.Decoded
