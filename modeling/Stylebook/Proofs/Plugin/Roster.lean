import Stylebook.Proofs.Dict.Overlay
import Stylebook.Proofs.Plugin.Step

/-!
Runs of a manager. Whatever was asked of it, and however that ended, its plugins are those of the
roster that one keeps by noting each request with its result, and what it shows was rebuilt from them.
-/

namespace Stylebook

namespace Pairs

variable {κ α : Type} [DecidableEq κ] {k : κ} {v : α} {l : List (κ × α)}

theorem map_of_not_mem (h : k ∉ keys l) : (l.map fun e => if e.1 = k then (e.1, v) else e) = l := by
  refine (List.map_congr_left fun e he => if_neg ?_).trans (List.map_id l)
  rintro rfl
  exact h (List.mem_map_of_mem he)

/-- A write changes the one entry that has the key. -/
theorem set_of_mem (hl : (keys l).Nodup) (h : k ∈ keys l) :
    set k v l = l.map fun e => if e.1 = k then (e.1, v) else e := by
  induction l with
  | nil => cases h
  | cons e l ih =>
    obtain ⟨j, w⟩ := e
    rw [keys_cons, List.nodup_cons] at hl
    by_cases hj : j = k
    · subst hj
      simp [set, map_of_not_mem hl.1]
    · rw [keys_cons, List.mem_cons] at h
      simp [set, hj, ih hl.2 (h.resolve_left (Ne.symm hj))]

end Pairs

/-- The plugins that are registered, in the order of registration, and whether each is enabled. -/
abbrev Roster := List (Plugin × Bool)

namespace Roster

def names (l : Roster) : List String := l.map fun e => e.1.name

def enabled (l : Roster) : List Plugin := (l.filter Prod.snd).map Prod.fst

def without (l : Roster) (name : String) : Roster := l.filter fun e => e.1.name ≠ name

def switch (l : Roster) (name : String) (on : Bool) : Roster :=
  l.map fun e => if e.1.name = name then (e.1, on) else e

theorem switch_of_not_mem {l : Roster} {name : String} (h : name ∉ l.names) (on : Bool) :
    l.switch name on = l := by
  refine (List.map_congr_left fun e he => if_neg ?_).trans (List.map_id l)
  rintro rfl
  exact h (List.mem_map_of_mem he)

theorem enabled_without (l : Roster) (name : String) :
    (l.without name).enabled = l.enabled.filter fun p => p.name ≠ name := by
  rw [enabled, without, enabled, List.filter_map, List.filter_filter, List.filter_filter]
  simp only [Function.comp_def, Bool.and_comm]

theorem enabled_switch_off (l : Roster) (name : String) :
    (l.switch name false).enabled = l.enabled.filter fun p => p.name ≠ name := by
  induction l with
  | nil => rfl
  | cons e l ih =>
    obtain ⟨p, on⟩ := e
    have hs : switch ((p, on) :: l) name false =
        (if p.name = name then (p, false) else (p, on)) :: switch l name false := rfl
    rw [hs]
    by_cases h : p.name = name <;> cases on <;> simpa [enabled, h] using ih

end Roster

namespace Manager

/-- What a manager may be asked to do to itself. -/
inductive Request where
  | register (p : Plugin) (options : Fields)
  | unregister (name : String)
  | enable (name : String)
  | disable (name : String)
  | registerValidator (name : String) (f : Validator)
  | unregisterValidator (name : String)
  | registerGenerator (name : String) (f : Generator)
  | unregisterGenerator (name : String)
  | clear

variable (m : Manager)

def perform : Request → Outcome
  | .register p options => m.register p options
  | .unregister name => m.unregister name
  | .enable name => ⟨m.setEnabled name true, [], .ok ()⟩
  | .disable name => ⟨m.setEnabled name false, [], .ok ()⟩
  | .registerValidator name f => ⟨m.registerValidator name f, [], .ok ()⟩
  | .unregisterValidator name => ⟨m.unregisterValidator name, [], .ok ()⟩
  | .registerGenerator name f => ⟨m.registerGenerator name f, [], .ok ()⟩
  | .unregisterGenerator name => ⟨m.unregisterGenerator name, [], .ok ()⟩
  | .clear => ⟨clear, [], .ok ()⟩

/-- The manager after requests one after the other; those that fail are no end to it. -/
def after (qs : List Request) : Manager := qs.foldl (fun m q => (m.perform q).manager) m

/-- The requests, each with the result that it had. -/
def log (m : Manager) : List Request → List (Request × Except PluginError Unit)
  | [] => []
  | q :: rest => (q, (m.perform q).result) :: log (m.perform q).manager rest

end Manager

namespace Roster

/-- A name can be registered but once; a plugin stays if it could not be told to go. -/
def note (l : Roster) : Manager.Request × Except PluginError Unit → Roster
  | (.register p _, _) => if p.name ∈ l.names then l else l ++ [(p, true)]
  | (.unregister name, .ok ()) => l.without name
  | (.enable name, _) => l.switch name true
  | (.disable name, _) => l.switch name false
  | (.clear, _) => []
  | _ => l

def ofLog (log : List (Manager.Request × Except PluginError Unit)) : Roster := log.foldl note []

end Roster

namespace Manager

variable {m : Manager} {l : Roster}

/-- The plugins of a manager as its roster. -/
def roster (plugins : Dict Registration) : Roster :=
  plugins.entries.map fun e => (e.2.plugin, e.2.enabled)

/-- The manager has the plugins of the roster, each under its own name, and shows what the enabled
ones contribute. -/
structure Follows (m : Manager) (l : Roster) : Prop where
  plugins : roster m.plugins = l
  named : ∀ e ∈ m.plugins.entries, e.2.plugin.name = e.1
  components : m.components = componentsOf m.all
  tokens : m.tokens = tokensOf m.all

namespace Follows

theorem empty : Manager.empty.Follows [] := ⟨rfl, nofun, rfl, rfl⟩

theorem all_eq (h : m.Follows l) : m.all = l.enabled := by
  rw [← h.plugins, all, enabledRegistrations, Dict.values, roster, Roster.enabled, List.filter_map,
    List.filter_map, List.map_map, List.map_map]
  rfl

theorem keys_eq (h : m.Follows l) : m.plugins.keys = l.names := by
  rw [← h.plugins, Dict.keys, Pairs.keys, roster, Roster.names, List.map_map]
  exact List.map_congr_left fun e he => (h.named e he).symm

/-- What is shown is rebuilt with the plugins. -/
theorem withPlugins {plugins : Dict Registration} (hl : roster plugins = l)
    (hn : ∀ e ∈ plugins.entries, e.2.plugin.name = e.1) : (m.withPlugins plugins).Follows l :=
  ⟨hl, hn, rfl, rfl⟩

theorem insert_new (h : m.Follows l) {p : Plugin} {options : Fields} (hp : p.name ∉ l.names) :
    (m.withPlugins (m.plugins.insert p.name ⟨p, options, true⟩)).Follows (l ++ [(p, true)]) := by
  have he : (m.plugins.insert p.name ⟨p, options, true⟩).entries =
      m.plugins.entries ++ [(p.name, ⟨p, options, true⟩)] := by
    rw [← h.keys_eq] at hp
    exact Pairs.set_of_not_mem hp
  refine .withPlugins ?_ ?_
  · rw [roster, he, List.map_append, ← h.plugins]
    rfl
  · intro e hm
    rw [he, List.mem_append, List.mem_singleton] at hm
    rcases hm with hm | rfl
    · exact h.named e hm
    · rfl

theorem register (h : m.Follows l) (p : Plugin) (options : Fields) :
    (m.register p options).manager.Follows (if p.name ∈ l.names then l else l ++ [(p, true)]) := by
  have hc : m.has p.name = true ↔ p.name ∈ l.names := by
    rw [has, Dict.contains_iff, h.keys_eq]
  by_cases hp : p.name ∈ l.names
  · rw [register_of_has (hc.mpr hp), if_pos hp]
    exact h
  · rw [register_of_not_has (eq_false_of_ne_true (mt hc.mp hp)), if_neg hp]
    exact h.insert_new hp

theorem erase (h : m.Follows l) (name : String) :
    (m.withPlugins (m.plugins.erase name)).Follows (l.without name) := by
  refine .withPlugins ?_ fun e he => h.named e (List.mem_filter.mp he).1
  have he : (m.plugins.erase name).entries = m.plugins.entries.filter fun e => e.1 ≠ name := rfl
  rw [roster, he, ← h.plugins, roster, Roster.without, List.filter_map]
  congr 1
  refine List.filter_congr fun e he => ?_
  rw [Function.comp_apply, h.named e he]

/-- The plugin goes only if its teardown came to an end. -/
theorem unregister (h : m.Follows l) (name : String) :
    (m.unregister name).manager.Follows (l.note (.unregister name, (m.unregister name).result)) := by
  cases hr : m.plugins.get? name with
  | none =>
    rw [unregister_of_none hr]
    exact h
  | some r =>
    cases ht : (m.afterSetup r.plugin.teardown r.options).2 with
    | error e =>
      rw [unregister_of_error hr ht]
      exact h
    | ok u =>
      rw [unregister_of_ok hr ht]
      exact h.erase name

/-- Of a registered plugin nothing but its mark changes. -/
theorem insert_mark (h : m.Follows l) {name : String} {r : Registration} (on : Bool)
    (hr : m.plugins.get? name = some r) :
    (m.withPlugins (m.plugins.insert name { r with enabled := on })).Follows (l.switch name on) := by
  have hmem : name ∈ Pairs.keys m.plugins.entries := Dict.mem_keys_of_get? hr
  have he : (m.plugins.insert name { r with enabled := on }).entries =
      m.plugins.entries.map fun e => if e.1 = name then (e.1, { r with enabled := on }) else e :=
    Pairs.set_of_mem m.plugins.nodup hmem
  -- the entry of the name is the one that was read
  have hsame : ∀ e ∈ m.plugins.entries, e.1 = name → e.2 = r := by
    rintro ⟨k, s⟩ hks rfl
    exact Option.some.inj ((Dict.get?_eq_some_iff.mpr hks).symm.trans hr)
  have hname : r.plugin.name = name := h.named (name, r) (Dict.get?_eq_some_iff.mp hr)
  refine .withPlugins ?_ ?_
  · rw [roster, he, ← h.plugins, roster, Roster.switch, List.map_map, List.map_map]
    refine List.map_congr_left fun e hm => ?_
    by_cases hn : e.1 = name
    · simp [hn, hname, hsame e hm hn]
    · simp [hn, h.named e hm]
  · intro e hm
    rw [he] at hm
    obtain ⟨d, hd, rfl⟩ := List.mem_map.mp hm
    by_cases hn : d.1 = name
    · simpa [hn] using hname
    · simpa [hn] using h.named d hd

theorem setEnabled (h : m.Follows l) (name : String) (on : Bool) :
    (m.setEnabled name on).Follows (l.switch name on) := by
  cases hr : m.plugins.get? name with
  | some r =>
    rw [setEnabled_of_some hr]
    exact h.insert_mark on hr
  | none =>
    have hn : name ∉ l.names := by
      rw [← h.keys_eq]
      exact Pairs.get?_eq_none_iff.mp hr
    rw [setEnabled_of_none hr, Roster.switch_of_not_mem hn on]
    exact h

/-- One request, whether it succeeds or fails, changes the manager as it changes the roster. -/
theorem perform (h : m.Follows l) (q : Request) :
    (m.perform q).manager.Follows (l.note (q, (m.perform q).result)) := by
  cases q with
  | register p options => exact h.register p options
  | unregister name => exact h.unregister name
  | enable name => exact h.setEnabled name true
  | disable name => exact h.setEnabled name false
  | clear => exact .empty
  | registerValidator | unregisterValidator | registerGenerator | unregisterGenerator =>
    exact ⟨h.plugins, h.named, h.components, h.tokens⟩

theorem after (h : m.Follows l) (qs : List Request) :
    (m.after qs).Follows ((m.log qs).foldl Roster.note l) := by
  induction qs generalizing m l with
  | nil => exact h
  | cons q qs ih => exact ih (h.perform q)

end Follows

end Manager

end Stylebook
