import Stylebook.Component
import Stylebook.Theme
import Stylebook.Usage

/-!
Reading that says in details what is wrong. Only a component that lacks what it is made of is refused outright;
no other record is, nor any part of one.
-/

namespace Stylebook

namespace Decoded

variable {α β : Type} {x y : Decoded α} {f : Value → Decoded α} {fields : Fields} {names : List String}

/-- What is wrong is said in details, if anything is. -/
def Detailed (x : Decoded α) : Prop := ∀ why, x ≠ refused why

@[simp] theorem detailed_ok {a : α} : (ok a).Detailed := fun _ h => nomatch h

@[simp] theorem detailed_bad {ds : List Detail} : (bad ds : Decoded α).Detailed := fun _ h => nomatch h

@[simp] theorem detailed_fault {d : Defect} : (fault d : Decoded α).Detailed := detailed_bad

theorem not_detailed_refused {why : Refusal} : ¬ (refused why : Decoded α).Detailed := fun h => h why rfl

theorem detailed_ite {c : Prop} [Decidable c] (hx : x.Detailed) (hy : y.Detailed) :
    (if c then x else y).Detailed := by
  split
  · exact hx
  · exact hy

@[simp] theorem detailed_map {g : α → β} : (g <$> x).Detailed ↔ x.Detailed := by
  cases x with
  | refused why => exact iff_of_false not_detailed_refused not_detailed_refused
  | _ => exact iff_of_true (fun _ h => nomatch h) (fun _ h => nomatch h)

@[simp] theorem detailed_seq {g : Decoded (α → β)} : (g <*> x).Detailed ↔ g.Detailed ∧ x.Detailed := by
  cases g with
  | refused why => exact iff_of_false not_detailed_refused fun h => not_detailed_refused h.1
  | _ =>
    cases x with
    | refused why => exact iff_of_false not_detailed_refused fun h => not_detailed_refused h.2
    | _ => exact iff_of_true (fun _ h => nomatch h) (.intro (fun _ h => nomatch h) fun _ h => nomatch h)

theorem detailed_andThen {g : α → Decoded β} (hx : x.Detailed) (hg : ∀ a, (g a).Detailed) :
    (x.andThen g).Detailed := by
  cases x with
  | ok a => exact hg a
  | bad ds => exact detailed_bad
  | refused why => exact absurd hx not_detailed_refused

@[simp] theorem detailed_under {s : Step} : (x.under s).Detailed ↔ x.Detailed := by
  cases x with
  | refused why => exact iff_of_false not_detailed_refused not_detailed_refused
  | _ => exact iff_of_true (fun _ h => nomatch h) (fun _ h => nomatch h)

@[simp] theorem detailed_named {s : String} : (x.named s).Detailed ↔ x.Detailed := detailed_under

@[simp] theorem detailed_fieldName (k : Key) : (fieldName k).Detailed := by
  cases k <;> simp [fieldName]

@[simp] theorem detailed_entries (h : ∀ v, (f v).Detailed) (fields : Fields) : (entries f fields).Detailed := by
  induction fields with
  | nil => exact detailed_ok
  | cons e rest ih => simp [entries, h, ih]

@[simp] theorem detailed_dict (h : ∀ v, (f v).Detailed) (v : Value) : (dict f v).Detailed := by
  cases v <;> simp [dict, detailed_entries h]

@[simp] theorem detailed_items (h : ∀ v, (f v).Detailed) (i : Int) (l : List Value) : (items f i l).Detailed := by
  induction l generalizing i with
  | nil => exact detailed_ok
  | cons v rest ih => simp [items, h, ih]

@[simp] theorem detailed_list (h : ∀ v, (f v).Detailed) (v : Value) : (list f v).Detailed := by
  cases v <;> simp [list, detailed_items h]

@[simp] theorem detailed_nullable (h : ∀ v, (f v).Detailed) (v : Value) : (nullable f v).Detailed := by
  cases v <;> simp [nullable, h]

@[simp] theorem detailed_required (h : ∀ v, (f v).Detailed) : (required fields names f).Detailed := by
  rw [required]
  split <;> simp [h]

@[simp] theorem detailed_optional {default : α} (h : ∀ v, (f v).Detailed) :
    (optional fields names default f).Detailed := by
  rw [optional]
  split <;> simp [h]

@[simp] theorem detailed_record {g : Fields → Decoded α} (h : ∀ fs, (g fs).Detailed) (v : Value) :
    (record g v).Detailed := by
  cases v <;> simp [record, h]

theorem detailed_tagged {tag : String} {g : String → Option (Fields → Decoded α)}
    (h : ∀ kind read, g kind = some read → ∀ fs, (read fs).Detailed) (v : Value) :
    (tagged tag g v).Detailed := by
  cases v with
  | object fields =>
    rw [tagged]
    split
    · exact detailed_fault
    · split
      · rename_i hread
        exact detailed_named.mpr (h _ _ hread fields)
      · exact detailed_fault
    · exact detailed_fault
  | _ => exact detailed_fault

/-- The readers of a tagged record are tried kind by kind. -/
theorem detailed_kind {c : Prop} [Decidable c] {g : Fields → Decoded α} {others : Option (Fields → Decoded α)}
    (hg : ∀ fs, (g fs).Detailed) (ho : ∀ read, others = some read → ∀ fs, (read fs).Detailed) :
    ∀ read, (if c then some g else others) = some read → ∀ fs, (read fs).Detailed := by
  intro read h
  split at h
  · obtain rfl := Option.some.inj h
    exact hg
  · exact ho read h

theorem detailed_no_kind (read : Fields → Decoded α) (h : none = some read) :
    ∀ fs, (read fs).Detailed := nomatch h

end Decoded

open Decoded

namespace Decoding

@[simp] theorem detailed_text (v : Value) : (text v).Detailed := by
  unfold text
  split <;> simp

theorem detailed_wholeOf (x : Binary64) : (wholeOf x).Detailed := by
  unfold wholeOf
  repeat' split
  all_goals simp

theorem detailed_boolOfInt (i : Int) : (boolOfInt i).Detailed :=
  detailed_ite detailed_ok (detailed_ite detailed_ok detailed_fault)

@[simp] theorem detailed_bool (v : Value) : (bool v).Detailed := by
  unfold bool
  repeat' split
  all_goals simp [detailed_boolOfInt]

theorem detailed_plainInteger (s : List Char) : (plainInteger s).Detailed := by
  unfold plainInteger
  split
  exact detailed_ite detailed_fault (detailed_ite detailed_fault (detailed_ite detailed_fault detailed_ok))

theorem detailed_integerOfText (s : String) : (integerOfText s).Detailed := by
  rw [integerOfText]
  split
  · exact detailed_plainInteger _
  · exact detailed_fault

@[simp] theorem detailed_integer (v : Value) : (integer v).Detailed := by
  unfold integer
  split
  case h_2 x _ => exact detailed_wholeOf x
  case h_4 s _ => exact detailed_integerOfText s
  all_goals simp

@[simp] theorem detailed_number (v : Value) : (number v).Detailed := by
  unfold number
  split
  case h_4 s _ =>
    split
    case h_4 why hwhy _ => exact absurd hwhy (detailed_integerOfText s why)
    all_goals simp
  all_goals simp [noneFits]

@[simp] theorem detailed_literal (v : Value) : (literal v).Detailed := by
  unfold literal
  split <;> simp [noneFits]

@[simp] theorem detailed_scalar (v : Value) : (scalar v).Detailed := by
  unfold scalar
  split <;> simp [noneFits]

end Decoding

open Decoding

namespace Property

theorem detailed_readPlain (v : Value) : (readPlain v).Detailed := detailed_ite detailed_ok detailed_fault

theorem detailed_readValues (v : Value) : (readValues v).Detailed := by
  unfold readValues
  split
  · exact detailed_ite detailed_ok detailed_fault
  · exact detailed_list detailed_text v

@[simp] theorem detailed_decode (v : Value) : (decode v).Detailed := by
  have henum (fs : Fields) : (readEnum fs).Detailed := by
    simp [readEnum, detailed_readValues, detailed_readPlain]
  have hboolean (fs : Fields) : (readBoolean fs).Detailed := by simp [readBoolean]
  have hnumber (fs : Fields) : (readNumber fs).Detailed := by simp [readNumber]
  have hstring (fs : Fields) : (readString fs).Detailed := by simp [readString]
  exact detailed_tagged (fun _ => detailed_kind henum (detailed_kind hboolean (detailed_kind hnumber
    (detailed_kind hstring detailed_no_kind)))) v

end Property

namespace Constraint

theorem detailed_readCondition (v : Value) : (readCondition v).Detailed := by
  unfold readCondition
  repeat' split
  all_goals simp [noCondition]

theorem detailed_ofParts (trigger : Dict Condition) (forbid : Option (List String))
    (require : Option (Dict (List Scalar))) (suggest : Option (Dict String)) (message : Option String) :
    (ofParts trigger forbid require suggest message).Detailed := by
  rw [ofParts]
  split
  · exact detailed_ok
  · exact detailed_fault

@[simp] theorem detailed_decode (v : Value) : (decode v).Detailed := by
  have hforbid := detailed_nullable (detailed_list detailed_text)
  have hrequire := detailed_nullable (detailed_dict (detailed_list detailed_scalar))
  have hsuggest := detailed_nullable (detailed_dict detailed_text)
  refine detailed_record (fun fs => ?_) v
  rw [readFields]
  exact detailed_andThen (by simp [detailed_readCondition, hforbid, hrequire, hsuggest]) fun parts =>
    detailed_ofParts _ _ _ _ _

end Constraint

@[simp] theorem StyleMap.detailed_decode (v : Value) : (decode v).Detailed := by
  refine detailed_dict (fun v => ?_) v
  unfold readStyleValue
  split <;> simp

@[simp] theorem Mapping.detailed_decode (v : Value) : (decode v).Detailed := by
  have hentry (v : Value) : (record readConditional v).Detailed :=
    detailed_record (fun fs => by simp [readConditional]) v
  have hflat (fs : Fields) : (Mapping.flat <$> optional fs ["styles"] ∅ StyleMap.decode).Detailed := by simp
  have hconditional (fs : Fields) :
      (Mapping.conditional <$> optional fs ["entries"] [] (list (record readConditional))).Detailed := by
    simp [detailed_list hentry]
  exact detailed_tagged (fun _ => detailed_kind hflat (detailed_kind hconditional detailed_no_kind)) v

/-- Once a component is not refused for its name or its properties, all else is said in details. -/
theorem Component.detailed_readFields (fs : Fields) : (readFields fs).Detailed := by
  simp [readFields]

@[simp] theorem Tokens.detailed_decode (v : Value) : (decode v).Detailed :=
  detailed_ite (detailed_dict (detailed_dict detailed_literal) _) detailed_fault

@[simp] theorem DarkMode.detailed_decode (v : Value) : (decode v).Detailed := by
  unfold decode
  repeat' split
  all_goals simp [noneFits]

theorem PropValue.detailed_decode (v : Value) : (decode v).Detailed := by
  have hliteral (fs : Fields) : (literal <$> required fs ["value"] ok).Detailed := by simp
  have hdynamic (fs : Fields) : (dynamic <$> optional fs ["placeholder"] "" text).Detailed := by simp
  have hnested (fs : Fields) : (nested <$> optional fs ["value"] ∅ (dict ok)).Detailed := by simp
  exact detailed_tagged (fun _ => detailed_kind hliteral (detailed_kind hdynamic (detailed_kind hnested
    detailed_no_kind))) v

theorem Usage.detailed_decode (v : Value) : (decode v).Detailed := by
  have hlocation (v : Value) : (record readLocation v).Detailed :=
    detailed_record (fun fs => by simp [readLocation]) v
  have hprops (v : Value) : (Props.decode v).Detailed := detailed_dict PropValue.detailed_decode _
  exact detailed_record (fun fs => by simp [hprops, detailed_nullable hlocation]) v

theorem Batch.detailed_decode (v : Value) : (decode v).Detailed :=
  detailed_record (fun fs => by simp [detailed_list Usage.detailed_decode]) v

namespace Theme

theorem detailed_readParents (v : Value) : (readParents v).Detailed := by
  unfold readParents
  repeat' split
  all_goals simp

theorem detailed_decode (v : Value) : (decode v).Detailed := by
  have hsettings (v : Value) : (record readSettings v).Detailed :=
    detailed_record (fun fs => by simp [readSettings]) v
  have hcomponents := detailed_nullable (detailed_dict (detailed_dict fun v => detailed_ok (a := v)))
  exact detailed_record (fun fs => by
    simp [detailed_readParents, hcomponents, detailed_nullable hsettings]) v

end Theme

end Stylebook
