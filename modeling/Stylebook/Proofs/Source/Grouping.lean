import Mathlib.Data.List.Induction
import Mathlib.Data.List.Perm.Basic
import Stylebook.Proofs.Usage.Completion
import Stylebook.Source.Load

/-!
Single usages put into batches by file. Each batch has a file of its own and the usages of that file in the
order in which they came; to put usages together in this way changes only the order of what is said of them.
-/

namespace Stylebook

/-- The items of different keys, one key after the other, are all items in another order. -/
theorem flatMap_filter_perm {α κ : Type} [DecidableEq κ] {key : α → κ} {ks : List κ} (hks : ks.Nodup)
    {l : List α} (hl : ∀ a ∈ l, key a ∈ ks) : (ks.flatMap fun k => l.filter fun a => key a = k).Perm l := by
  induction ks generalizing l with
  | nil =>
    obtain rfl : l = [] := List.eq_nil_iff_forall_not_mem.mpr fun a ha => nomatch hl a ha
    exact .refl _
  | cons k ks ih =>
    rw [List.nodup_cons] at hks
    let others := l.filter fun a => !decide (key a = k)
    have hothers : ∀ a ∈ others, key a ∈ ks := by
      intro a ha
      obtain ⟨ha, hk⟩ := List.mem_filter.mp ha
      exact (List.mem_cons.mp (hl a ha)).resolve_left (by simpa using hk)
    have hfilter : ∀ j ∈ ks, l.filter (fun a => key a = j) = others.filter fun a => key a = j := by
      intro j hj
      have hne : j ≠ k := fun h => hks.1 (h ▸ hj)
      rw [List.filter_filter]
      refine List.filter_congr fun a _ => ?_
      by_cases h : key a = j <;> simp [h, hne]
    rw [List.flatMap_cons, List.flatMap_congr hfilter]
    exact ((ih hks.2 hothers).append_left _).trans (List.filter_append_perm _ l)

namespace Dict

variable {α : Type} {k j : String}

theorem entries_eq_map (d : Dict α) (v : α) : d.entries = d.keys.map fun k => (k, (d.get? k).getD v) := by
  rw [keys, Pairs.keys, List.map_map]
  refine (List.map_id _).symm.trans (List.map_congr_left fun e he => ?_)
  rw [Function.comp_apply, get?_eq_some_iff.mpr he]
  rfl

variable {d : Dict (List α)} {a : α} {l : List α} {key : α → String}

theorem getD_push : ((d.push k a).get? j).getD [] = (d.get? j).getD [] ++ if k = j then [a] else [] := by
  rw [push, get?_insert]
  split <;> simp_all

/-- Keys stand in the order in which they first came. -/
theorem keys_foldl_push :
    (l.foldl (fun (d : Dict (List α)) a => d.push (key a) a) ∅).keys = (l.map key).eraseDups := by
  induction l using List.reverseRecOn with
  | nil => rfl
  | append_singleton l a ih =>
    rw [List.foldl_concat, push, keys_insert, ih, List.map_append, List.eraseDups_append]
    by_cases h : key a ∈ l.map key <;> simp [h, List.removeAll, List.eraseDups_cons, -List.mem_map]

theorem getD_foldl_push : ((l.foldl (fun (d : Dict (List α)) a => d.push (key a) a) ∅).get? k).getD [] =
    l.filter fun a => key a = k := by
  induction l using List.reverseRecOn with
  | nil => rfl
  | append_singleton l a ih =>
    rw [List.foldl_concat, getD_push, ih, List.filter_append, List.filter_singleton]
    simp

end Dict

namespace Source

variable {usual : String} {l : List Usage}

/-- The batches are the files in the order of their first usages, each with all of its usages. -/
theorem groupUsages_eq : groupUsages usual l = (l.map (fileOf usual)).eraseDups.map fun file =>
    ⟨file, l.filter fun u => fileOf usual u = file⟩ := by
  rw [groupUsages, Dict.entries_eq_map _ [], Dict.keys_foldl_push, List.map_map]
  exact List.map_congr_left fun file _ => congrArg (Batch.mk file) Dict.getD_foldl_push

theorem map_file_groupUsages :
    (groupUsages usual l).map Batch.file = (l.map (fileOf usual)).eraseDups := by
  rw [groupUsages_eq, List.map_map]
  exact List.map_id _

theorem nodup_map_file_groupUsages : ((groupUsages usual l).map Batch.file).Nodup := by
  rw [groupUsages, List.map_map]
  exact Dict.nodup _

/-- Each usage in a batch of its own. -/
def alone (usual : String) (l : List Usage) : List Batch := l.map fun u => ⟨fileOf usual u, [u]⟩

theorem filed_alone : DesignSystem.filed (alone usual l) = l.map fun u => (fileOf usual u, u) := by
  rw [DesignSystem.filed, alone, List.flatMap_map, List.map_eq_flatMap]
  rfl

theorem filed_groupUsages : DesignSystem.filed (groupUsages usual l) =
    (l.map (fileOf usual)).eraseDups.flatMap fun file =>
      (l.map fun u => (fileOf usual u, u)).filter fun e => e.1 = file := by
  rw [DesignSystem.filed, groupUsages_eq, List.flatMap_map]
  refine List.flatMap_congr fun file _ => ?_
  rw [List.filter_map]
  refine List.map_congr_left fun u hu => ?_
  rw [of_decide_eq_true (List.mem_filter.mp hu).2]

theorem filed_groupUsages_perm :
    (DesignSystem.filed (groupUsages usual l)).Perm (DesignSystem.filed (alone usual l)) := by
  rw [filed_groupUsages, filed_alone]
  refine flatMap_filter_perm (map_file_groupUsages ▸ nodup_map_file_groupUsages) fun e he => ?_
  obtain ⟨u, hu, rfl⟩ := List.mem_map.mp he
  exact List.mem_eraseDups.mpr (List.mem_map_of_mem hu)

end Source

theorem Verdict.valid_ofIssues_of_perm {l m : List Issue} (h : l.Perm m) (strict : Bool) :
    (ofIssues l strict).valid = (ofIssues m strict).valid := by
  rw [ofIssues, ofIssues, h.any_eq]

namespace DesignSystem

variable {s : DesignSystem} {a b : List Batch} {strict : Option Bool} {v : Verdict}

/-- The checks take usages one by one, so where batches hold the same usages, the same is said of them. -/
theorem checkUsages_of_perm (h : (filed a).Perm (filed b)) (hv : s.checkUsages a strict = .ok v) :
    ∃ w, s.checkUsages b strict = .ok w ∧ v.issues.Perm w.issues ∧ v.valid = w.valid := by
  obtain ⟨parts, hparts, rfl⟩ := checkUsages_eq_ok_iff.mp hv
  obtain ⟨parts', hparts', hperm⟩ := List.perm_comp_forall₂ h.symm hparts
  have hflat : parts.flatten.Perm parts'.flatten := hperm.symm.flatten
  exact ⟨_, checkUsages_eq_ok_iff.mpr ⟨parts', hparts', rfl⟩, hflat, Verdict.valid_ofIssues_of_perm hflat _⟩

end DesignSystem

namespace Source

/-- Usages in batches by file and usages each for itself are checked to an end together, with the same issues up
to their order. -/
theorem checkUsages_groupUsages (s : DesignSystem) (strict : Option Bool) :
    ((∃ v, s.checkUsages (groupUsages usual l) strict = .ok v) ↔
      ∃ w, s.checkUsages (alone usual l) strict = .ok w) ∧
    ∀ v w, s.checkUsages (groupUsages usual l) strict = .ok v → s.checkUsages (alone usual l) strict = .ok w →
      v.issues.Perm w.issues ∧ v.valid = w.valid := by
  refine ⟨⟨?_, ?_⟩, ?_⟩
  · rintro ⟨v, hv⟩
    obtain ⟨w, hw, -⟩ := DesignSystem.checkUsages_of_perm filed_groupUsages_perm hv
    exact ⟨w, hw⟩
  · rintro ⟨w, hw⟩
    obtain ⟨v, hv, -⟩ := DesignSystem.checkUsages_of_perm filed_groupUsages_perm.symm hw
    exact ⟨v, hv⟩
  · intro v w hv hw
    obtain ⟨w', hw', h⟩ := DesignSystem.checkUsages_of_perm filed_groupUsages_perm hv
    obtain rfl : w = w' := Except.ok.inj (hw.symm.trans hw')
    exact h

theorem mapM_checked_eq_ok {α : Type} {file : Path} {bad : List Detail → SourceError}
    {decode : Value → Decoded α} {records : List Value} {l : List α}
    (h : List.Forall₂ (fun r a => decode r = .ok a) records l) :
    records.mapM (fun r => checked file bad (decode r)) = .ok l := by
  induction h with
  | nil => rfl
  | cons hr _ ih =>
    rw [List.mapM_cons, hr, ih]
    rfl

/-- Records of usages make batches of different files, in the order of their first usages, of which each has
all usages of its file. Any system finds in them what it finds in the same usages each for itself. -/
theorem groupRecords_keeps (file : Path) (records : List Value) (l : List Usage)
    (h : List.Forall₂ (fun r u => Usage.decode r = .ok u) records l) :
    ∃ batches, groupRecords file records = .ok batches ∧ (batches.map Batch.file).Nodup ∧
      batches.map Batch.file = (l.map (fileOf file.text)).eraseDups ∧
      (∀ b ∈ batches, b.usages = l.filter fun u => fileOf file.text u = b.file) ∧
      ∀ (s : DesignSystem) (strict : Option Bool),
        ((∃ v, s.checkUsages batches strict = .ok v) ↔
          ∃ w, s.checkUsages (alone file.text l) strict = .ok w) ∧
        ∀ v w, s.checkUsages batches strict = .ok v → s.checkUsages (alone file.text l) strict = .ok w →
          v.issues.Perm w.issues ∧ v.valid = w.valid := by
  refine ⟨groupUsages file.text l, ?_, nodup_map_file_groupUsages, map_file_groupUsages, ?_,
    checkUsages_groupUsages⟩
  · rw [groupRecords, mapM_checked_eq_ok h]
    rfl
  · intro b hb
    rw [groupUsages_eq] at hb
    obtain ⟨f, -, rfl⟩ := List.mem_map.mp hb
    rfl

/-- Records of gauges that show too much, and of badges, which are unknown. The second does not say where it is,
and the last is in the file of the records. -/
def foundRecords : List Value := [
  .record [("component", .text "Gauge"), ("props", .record [("level", .int 120)]),
    ("location", .record [("file", .text "Hall.tsx"), ("line", .int 3)])],
  .record [("component", .text "Badge")],
  .record [("component", .text "Badge"), ("location", .record [("file", .text "Door.tsx")])],
  .record [("component", .text "Gauge"), ("props", .record [("level", .int 130)]),
    ("location", .record [("file", .text "Hall.tsx"), ("line", .int 9)])],
  .record [("component", .text "Badge"), ("location", .record [("file", .text "found.json"), ("line", .int 5)])]]

def found : List Usage := [
  ⟨"Gauge", .ofList [("level", .literal (.int 120))], some ⟨"Hall.tsx", 3, 0⟩⟩,
  ⟨"Badge", ∅, none⟩,
  ⟨"Badge", ∅, some ⟨"Door.tsx", 0, 0⟩⟩,
  ⟨"Gauge", .ofList [("level", .literal (.int 130))], some ⟨"Hall.tsx", 9, 0⟩⟩,
  ⟨"Badge", ∅, some ⟨"found.json", 5, 0⟩⟩]

/-- The issues of both gauges come first, as those of one file, and are no others than those of the records in
turn. -/
theorem groupRecords_keeps_found : ∃ batches v,
    groupRecords ⟨"", ["found.json"]⟩ foundRecords = .ok batches ∧
      batches.map Batch.file = ["Hall.tsx", "found.json", "Door.tsx"] ∧
      DesignSystem.gauges.checkUsages batches none = .ok v ∧ v.valid = false ∧
      (v.issues.map Issue.path).Perm ["Hall.tsx:3:0", "found.json", "Door.tsx", "Hall.tsx:9:0", "found.json"] := by
  obtain ⟨batches, hb, -, hfiles, -, hchecks⟩ := groupRecords_keeps ⟨"", ["found.json"]⟩ foundRecords found
    (.cons rfl (.cons rfl (.cons rfl (.cons rfl (.cons rfl .nil)))))
  obtain ⟨hends, hsame⟩ := hchecks DesignSystem.gauges none
  have halone : (DesignSystem.gauges.checkUsages (alone "found.json" found) none).toOption.map
      (fun w => (w.valid, w.issues.map Issue.path)) =
        some (false, ["Hall.tsx:3:0", "found.json", "Door.tsx", "Hall.tsx:9:0", "found.json"]) := by
    decide +kernel
  cases hw : DesignSystem.gauges.checkUsages (alone "found.json" found) none with
  | error e => simp [hw, Except.toOption] at halone
  | ok w =>
    rw [hw] at halone
    obtain ⟨hvalid, hpaths⟩ := Prod.mk.inj (Option.some.inj halone)
    obtain ⟨v, hv⟩ := hends.mpr ⟨w, hw⟩
    obtain ⟨hperm, hveq⟩ := hsame v w hv hw
    refine ⟨batches, v, hb, hfiles, hv, hveq.trans hvalid, ?_⟩
    rw [← hpaths]
    exact hperm.map Issue.path

end Source

end Stylebook
