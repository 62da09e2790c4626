import Stylebook.Proofs.Dict.Erasure
import Stylebook.Proofs.Plugin.Contribution

/-!
Requests that fail. Where a name is taken or unknown, or a teardown fails, the manager is as it was, so
the same request can be made again. A setup that fails comes too late for that: its plugin is registered
by then and stays, and the manager is as it was only once the plugin has gone.
-/

namespace Stylebook.Manager

variable {m : Manager} {p : Plugin} {options : Fields} {name : String} {e : PluginError}

/-- Requests lead to the manager from a fresh one. -/
def Reachable (m : Manager) : Prop := ∃ qs, empty.after qs = m

/-- Asked about its plugins and about what they bring, a manager answers as another one does. -/
structure AnswersAs (m k : Manager) : Prop where
  has : ∀ name, m.has name = k.has name
  get : ∀ name, m.get? name = k.get? name
  all : m.all = k.all
  components : m.components = k.components
  tokens : m.tokens = k.tokens

/-- A manager that has one plugin more than another and shows it last. The name is taken, and the manager is
the other one again once the plugin has gone. -/
structure Keeps (m : Manager) (p : Plugin) (k : Manager) : Prop where
  get : k.get? p.name = some p
  shows : k.Shows (m.all ++ [p])
  taken : ∀ q options, q.name = p.name →
    k.register q options = ⟨k, [], .error (.alreadyRegistered p.name)⟩
  undone : (k.unregister p.name).result = .ok () → (k.unregister p.name).manager = m

/-- What a callback fails with is passed on. -/
theorem afterSetup_error {setup : Option Setup} (h : (m.afterSetup setup options).2 = .error e) :
    ∃ f why, setup = some f ∧ e = .failed why := by
  cases setup with
  | none => cases h
  | some f =>
    have hr : (f (m.context options none)).result.mapError .failed = .error e := h
    cases hf : (f (m.context options none)).result with
    | ok u =>
      rw [hf] at hr
      cases hr
    | error why =>
      rw [hf] at hr
      exact ⟨f, why, rfl, (Except.error.inj hr).symm⟩

theorem unregister_failed (h : (m.unregister name).result = .error e) :
    (m.unregister name).manager = m := by
  cases hr : m.plugins.get? name with
  | none => rw [unregister_of_none hr]
  | some r =>
    cases ht : (m.afterSetup r.plugin.teardown r.options).2 with
    | error why => rw [unregister_of_error hr ht]
    | ok u =>
      rw [unregister_of_ok hr ht] at h
      cases h

theorem unregister_done (h : (m.unregister name).result = .ok ()) :
    (m.unregister name).manager = m.withPlugins (m.plugins.erase name) := by
  cases hr : m.plugins.get? name with
  | none =>
    rw [unregister_of_none hr] at h
    cases h
  | some r =>
    cases ht : (m.afterSetup r.plugin.teardown r.options).2 with
    | error why =>
      rw [unregister_of_error hr ht] at h
      cases h
    | ok u => rw [unregister_of_ok hr ht]

theorem Reachable.follows (h : m.Reachable) : ∃ l, m.Follows l := by
  obtain ⟨qs, rfl⟩ := h
  exact ⟨_, Follows.empty.after qs⟩

/-- What is shown is what the plugins would be rebuilt to. -/
theorem Follows.withPlugins_self {l : Roster} (h : m.Follows l) : m.withPlugins m.plugins = m := by
  have hc := h.components
  have ht := h.tokens
  cases m
  rw [Manager.withPlugins, ← Manager.all, ← hc, ← ht]

theorem Follows.keeps {l : Roster} (h : m.Follows l) (hp : m.has p.name = false) (options : Fields) :
    m.Keeps p (m.withPlugin p options) := by
  have hk : p.name ∉ m.plugins.keys := by
    rw [← Dict.contains_iff]
    exact ne_true_of_eq_false hp
  have hget : (m.withPlugin p options).plugins.get? p.name =
      some ⟨p, Pairs.setAll p.options options, true⟩ := by
    rw [withPlugin, Manager.withPlugins, Dict.get?_insert, if_pos rfl]
  refine ⟨congrArg (Option.map Registration.plugin) hget, ?_, ?_, ?_⟩
  · have henabled : Roster.enabled (l ++ [(p, true)]) = m.all ++ [p] := by
      rw [h.all_eq, Roster.enabled, Roster.enabled, List.filter_append, List.map_append]
      rfl
    rw [h.keys_eq] at hk
    rw [← henabled]
    exact (h.insert_new hk).shows
  · intro q _ hq
    rw [← hq] at hget ⊢
    exact register_of_has (congrArg Option.isSome hget)
  · intro hu
    have he : (m.withPlugin p options).plugins.erase p.name = m.plugins := by
      rw [withPlugin, Manager.withPlugins, Dict.erase_insert_self, Dict.erase_of_not_mem hk]
    rw [unregister_done hu, he]
    exact h.withPlugins_self

/-- A request that fails leaves the manager as it was, except for a plugin that is new and whose setup
fails. That one is there, unlike before, and bars its name until it has gone again. -/
theorem unchanged_unless_setup_fails (h : m.Reachable) :
    (∀ name e, (m.unregister name).result = .error e → (m.unregister name).manager = m) ∧
    ∀ p options e, (m.register p options).result = .error e →
      (m.has p.name = true → (m.register p options).manager = m) ∧
      (m.has p.name = false → (∃ f why, p.setup = some f ∧ e = .failed why) ∧
        m.Keeps p (m.register p options).manager ∧ ¬ (m.register p options).manager.AnswersAs m) := by
  obtain ⟨l, hl⟩ := h.follows
  refine ⟨fun _ _ hu => unregister_failed hu, fun p options e hr => ⟨fun hp => ?_, fun hp => ?_⟩⟩
  · rw [register_of_has hp]
  · have hk := hl.keeps hp options
    rw [register_of_not_has hp] at hr ⊢
    refine ⟨afterSetup_error hr, hk, fun ha => ?_⟩
    have hlen := congrArg List.length (hk.shows.all.symm.trans ha.all)
    simp at hlen

/-- One plugin without callbacks, and one that cannot be told to go. -/
def guardedManager : Manager := empty.after [
  .register (inkPlugin "plain" "black" none none) [],
  .register (inkPlugin "sealed" "grey" none (some failingSetup)) []]

/-- An unknown name, a teardown that fails, a name that is taken, and a setup that fails. -/
theorem unchanged_unless_setup_fails_guarded :
    (guardedManager.unregister "ghost").manager = guardedManager ∧
    (guardedManager.unregister "sealed").manager = guardedManager ∧
    (guardedManager.register (inkPlugin "plain" "white" none none) []).manager = guardedManager ∧
    guardedManager.Keeps (inkPlugin "brand" "navy" (some failingSetup) none)
      (guardedManager.register (inkPlugin "brand" "navy" (some failingSetup) none) []).manager := by
  obtain ⟨hu, hr⟩ := unchanged_unless_setup_fails (m := guardedManager) ⟨_, rfl⟩
  have hb := hr (inkPlugin "brand" "navy" (some failingSetup) none) [] _ rfl
  exact ⟨hu "ghost" _ rfl, hu "sealed" _ rfl, (hr (inkPlugin "plain" "white" none none) [] _ rfl).1 rfl,
    (hb.2 rfl).2.1⟩

/-- A setup that fails leaves its plugin behind. -/
theorem failed_setup_kept : ¬ ∀ m : Manager, m.Reachable → ∀ p options e,
    (m.register p options).result = .error e → (m.register p options).manager.AnswersAs m := by
  intro h
  have ha := h empty ⟨[], rfl⟩ (inkPlugin "brand" "navy" (some failingSetup) none) [] _ rfl
  have hb : true = false := ha.has "brand"
  cases hb

end Stylebook.Manager
