import Stylebook.Proofs.Decoding.Detailed
import Stylebook.Source.Load

/-!
How loading from a file fails. What is wrong with a description is an error about the file, of the kind that
belongs to what is loaded. Only two failures say nothing of the file: bytes that are no text, and a scalar that
the parser settles on but cannot make a value of.
-/

namespace Stylebook

namespace SourceError

/-- What can be wrong with the data in a file, whatever is read from it. -/
inductive OfData : SourceError → Prop where
  | empty : OfData empty
  | json (p : Json.Problem) (position : Text.Position) : OfData (json p position)
  | yaml (p : Yaml.Problem) (position : Text.Position) : OfData (yaml p position)
  | unprintable (c : Char) (index : Nat) : OfData (unprintable c index)

inductive OfSystem : SourceError → Prop where
  | data {e : SourceError} (h : OfData e) : OfSystem e
  | notMapping : OfSystem notMapping
  | bad (details : List Detail) : OfSystem (badSystem details)
  | refused (why : Refusal) : OfSystem (refusedSystem why)

inductive OfUsages : SourceError → Prop where
  | data {e : SourceError} (h : OfData e) : OfUsages e
  | notUsages : OfUsages notUsages
  | bad (details : List Detail) : OfUsages (badUsage details)

inductive OfThemes : SourceError → Prop where
  | data {e : SourceError} (h : OfData e) : OfThemes e
  | notThemes : OfThemes notThemes
  | bad (details : List Detail) : OfThemes (badTheme details)

end SourceError

open SourceError

namespace Source

variable {α β : Type} {own : SourceError → Prop} {file p : Path} {files : Lookup} {bytes : List UInt8}

/-- Loading comes to an end, or to an error about the file that is one of its own. -/
def Explained (own : SourceError → Prop) (file : Path) (r : Except LoadError α) : Prop :=
  (∃ a, r = .ok a) ∨ ∃ e, own e ∧ r = .error (.source file e)

namespace Explained

variable {r : Except LoadError α}

theorem ok {a : α} : Explained own file (.ok a) := .inl ⟨a, rfl⟩

theorem fail {e : SourceError} (h : own e) : Explained own file (fail file e : Except LoadError α) :=
  .inr ⟨e, h, rfl⟩

theorem mono {wider : SourceError → Prop} (h : Explained own file r) (hw : ∀ e, own e → wider e) :
    Explained wider file r :=
  h.imp_right fun ⟨e, he, hr⟩ => ⟨e, hw e he, hr⟩

theorem bind {f : α → Except LoadError β} (hr : Explained own file r)
    (hf : ∀ a, Explained own file (f a)) : Explained own file (r >>= f) := by
  obtain ⟨a, rfl⟩ | ⟨e, he, rfl⟩ := hr
  · exact hf a
  · exact .inr ⟨e, he, rfl⟩

theorem mapM {f : α → Except LoadError β} (hf : ∀ a, Explained own file (f a)) (l : List α) :
    Explained own file (l.mapM f) := by
  induction l with
  | nil => exact .ok
  | cons a l ih =>
    rw [List.mapM_cons]
    exact (hf a).bind fun b => ih.bind fun m => .ok

/-- Details become an error of the loader's own; a refusal is one of a system. -/
theorem checked {bad : List Detail → SourceError} (hbad : ∀ ds, own (bad ds)) {x : Decoded α}
    (hx : x.Detailed ∨ ∀ why, own (.refusedSystem why)) : Explained own file (checked file bad x) := by
  cases x with
  | ok a => exact .ok
  | bad ds => exact .fail (hbad ds)
  | refused why => exact .fail (hx.resolve_left Decoded.not_detailed_refused why)

end Explained

/-- The parser for a file meets a scalar whose kind is settled but which has no value of that kind, such as an
integer of too many digits. -/
inductive MeetsScalar (file : Path) (text : String) : Yaml.ScalarProblem → Prop where
  | json {n : Nat} {position : Text.Position} (hfile : file.isJson = true)
      (h : Json.parse text = .error ⟨.tooManyDigits n, position⟩) : MeetsScalar file text (.tooManyDigits n)
  | yaml {e : Yaml.ScalarProblem} (hfile : file.isJson = false) (h : Yaml.parse text = .error (.scalar e)) :
      MeetsScalar file text e

/-- The bytes of a file end its loading before there is any data to judge. -/
inductive Stumbles (file : Path) (bytes : List UInt8) : LoadError → Prop where
  | bytes {e : Text.Utf8Error} (h : Text.decodeUtf8 bytes = .error e) : Stumbles file bytes (.bytes e)
  | number {text : String} {e : Yaml.ScalarProblem} (h : Text.decodeUtf8 bytes = .ok text)
      (he : MeetsScalar file (String.ofList (Text.joinLineEnds text.toList)) e) :
      Stumbles file bytes (.number e)

/-- The value of a text, in the notation that the name of the file asks for. -/
def readText (file : Path) (text : String) : Except LoadError Value :=
  if file.isJson then readJson file text else readYaml file text

theorem readText_of_meetsScalar {text : String} {e : Yaml.ScalarProblem} (h : MeetsScalar file text e) :
    readText file text = .error (.number e) := by
  cases h with
  | json hfile h => simp [readText, hfile, readJson, h]
  | yaml hfile h => simp [readText, hfile, readYaml, h]

theorem explained_readText {text : String} (h : ∀ e, ¬ MeetsScalar file text e) :
    Explained OfData file (readText file text) := by
  unfold readText
  split
  · rename_i hfile
    unfold readJson
    split
    · exact .ok
    · rename_i hn
      exact absurd (.json hfile hn) (h _)
    · exact .fail (.json _ _)
  · rename_i hfile
    unfold readYaml
    split
    · exact .ok
    · exact .fail (.yaml _ _)
    · rename_i hn
      exact absurd (.yaml (Bool.eq_false_iff.mpr hfile) hn) (h _)
    · exact .fail (.unprintable _ _)

theorem data_of_text {text : String} (h : files file = some (.file bytes))
    (ht : Text.decodeUtf8 bytes = .ok text) :
    data files file = readText file (String.ofList (Text.joinLineEnds text.toList)) >>= fun v =>
      if v.isNull then fail file .empty else pure v := by
  rw [data, h]
  dsimp only
  rw [ht, readText]
  split <;> rfl

theorem data_of_stumbles (h : files file = some (.file bytes)) {e : LoadError} (he : Stumbles file bytes e) :
    data files file = .error e := by
  cases he with
  | bytes hb =>
    rw [data, h]
    dsimp only
    rw [hb]
    rfl
  | number ht hs =>
    rw [data_of_text h ht, readText_of_meetsScalar hs]
    rfl

theorem explained_data (h : files file = some (.file bytes)) (hs : ∀ e, ¬ Stumbles file bytes e) :
    Explained OfData file (data files file) := by
  cases ht : Text.decodeUtf8 bytes with
  | error e => exact absurd (.bytes ht) (hs _)
  | ok text =>
    rw [data_of_text h ht]
    refine (explained_readText fun e he => hs _ (.number ht he)).bind fun v => ?_
    split
    · exact .fail .empty
    · exact .ok

/-- A file is its own place of a system. -/
theorem configPath_of_file (h : files p = some (.file bytes)) : configPath files p = .ok p := by
  rw [configPath, h]

theorem explained_system (h : files p = some (.file bytes)) (hd : Explained OfData p (data files p)) :
    Explained OfSystem p (system files p) := by
  rw [system, configPath_of_file h]
  refine (hd.mono fun e => .data).bind fun v => ?_
  split
  · exact .checked .bad (.inr .refused)
  · exact .fail .notMapping

theorem explained_usages (hd : Explained OfData p (data files p)) : Explained OfUsages p (usages files p) := by
  refine (hd.mono fun e => .data).bind fun v => ?_
  split
  · exact .fail .notUsages
  · split
    · exact .mapM (fun r => .checked .bad (.inl (Batch.detailed_decode r))) _
    · exact (Explained.mapM (fun r => .checked .bad (.inl (Usage.detailed_decode r))) _).bind fun l => .ok

theorem explained_themes (hd : Explained OfData p (data files p)) : Explained OfThemes p (themes files p) := by
  refine (hd.mono fun e => .data).bind fun v => ?_
  split
  · exact .fail .notThemes
  · exact .mapM (fun r => .checked .bad (.inl (Theme.detailed_decode r))) _

theorem load_of_stumbles (h : files p = some (.file bytes)) {e : LoadError} (he : Stumbles p bytes e) :
    system files p = .error e ∧ usages files p = .error e ∧ themes files p = .error e := by
  have hd := data_of_stumbles h he
  refine ⟨?_, ?_, ?_⟩
  · rw [system, configPath_of_file h]
    dsimp only [bind, Except.bind]
    rw [hd]
  · rw [usages, hd]
    rfl
  · rw [themes, hd]
    rfl

/-- Whatever bytes a file holds, loading a system, usages or themes from it comes to an end or to an error of the
loader's own about the file, with one exception: where the bytes are no text, or the parser meets a scalar
without a value, that failure is what all three of them pass on. -/
theorem load_of_file (h : files p = some (.file bytes)) :
    (∀ e, Stumbles p bytes e →
      system files p = .error e ∧ usages files p = .error e ∧ themes files p = .error e) ∧
    ((∀ e, ¬ Stumbles p bytes e) →
      Explained OfSystem p (system files p) ∧ Explained OfUsages p (usages files p) ∧
        Explained OfThemes p (themes files p)) := by
  refine ⟨fun e he => load_of_stumbles h he, fun hs => ?_⟩
  have hd := explained_data h hs
  exact ⟨explained_system h hd, explained_usages hd, explained_themes hd⟩

/-- A list of one number, and a byte that starts no character. -/
def drafts : FileTree := ⟨[(["draft.json"], [0x5b, 0x31, 0x5d]), (["draft.yaml"], [0xff])], []⟩

theorem decodeUtf8_draft : Text.decodeUtf8 [0xff] = .error ⟨.start, 0xff, 0, 1⟩ := rfl

/-- Whatever is loaded from the list, an error is one about its file; the byte is no text for any of the three. -/
theorem load_of_file_drafts :
    (Explained OfSystem ⟨"", ["draft.json"]⟩ (system drafts.lookup ⟨"", ["draft.json"]⟩) ∧
      Explained OfUsages ⟨"", ["draft.json"]⟩ (usages drafts.lookup ⟨"", ["draft.json"]⟩) ∧
      Explained OfThemes ⟨"", ["draft.json"]⟩ (themes drafts.lookup ⟨"", ["draft.json"]⟩)) ∧
    system drafts.lookup ⟨"", ["draft.yaml"]⟩ = .error (.bytes ⟨.start, 0xff, 0, 1⟩) ∧
    usages drafts.lookup ⟨"", ["draft.yaml"]⟩ = .error (.bytes ⟨.start, 0xff, 0, 1⟩) ∧
    themes drafts.lookup ⟨"", ["draft.yaml"]⟩ = .error (.bytes ⟨.start, 0xff, 0, 1⟩) := by
  have hlist : drafts.lookup ⟨"", ["draft.json"]⟩ = some (.file [0x5b, 0x31, 0x5d]) := rfl
  have hbyte : drafts.lookup ⟨"", ["draft.yaml"]⟩ = some (.file [0xff]) := rfl
  constructor
  · refine (load_of_file hlist).2 fun e he => ?_
    have htext : Text.decodeUtf8 [0x5b, 0x31, 0x5d] = .ok "[1]" := rfl
    have hparse : (Json.parse (String.ofList (Text.joinLineEnds "[1]".toList))).isOk = true := by decide +kernel
    cases he with
    | bytes h => cases htext.symm.trans h
    | number h he =>
      obtain rfl := Except.ok.inj (htext.symm.trans h)
      cases he with
      | json hfile h =>
        rw [h] at hparse
        cases hparse
      | yaml hfile h => exact absurd hfile (by decide +kernel)
  · exact (load_of_file hbyte).1 _ (.bytes decodeUtf8_draft)

/-- An error about the bytes is none of a loader's own, although the parser has done nothing wrong. -/
theorem load_of_file_unexplained :
    ¬ ∀ (files : Lookup) (p : Path) (bytes : List UInt8), files p = some (.file bytes) →
      (∀ e, ¬ Stumbles p bytes (.number e)) →
      Explained OfSystem p (system files p) ∧ Explained OfUsages p (usages files p) ∧
        Explained OfThemes p (themes files p) := by
  intro hall
  have hparsed : ∀ e, ¬ Stumbles ⟨"", ["draft.yaml"]⟩ [0xff] (.number e) := by
    intro e he
    cases he with
    | number h _ => cases decodeUtf8_draft.symm.trans h
  have hsystem : system drafts.lookup ⟨"", ["draft.yaml"]⟩ = .error (.bytes ⟨.start, 0xff, 0, 1⟩) :=
    (load_of_stumbles rfl (.bytes decodeUtf8_draft)).1
  obtain ⟨⟨s, hs⟩ | ⟨e, -, he⟩, -⟩ := hall drafts.lookup ⟨"", ["draft.yaml"]⟩ [0xff] rfl hparsed
  · cases hsystem.symm.trans hs
  · cases hsystem.symm.trans he

end Source

end Stylebook
