import Stylebook.Proofs.Dict.Erasure
import Stylebook.Proofs.Plugin.Contribution

/-!
Disabled plugins. A manager with a disabled plugin is the manager without it as far as anyone can tell who
does not name the plugin: forgetting the plugin before a request or after it comes to the same.
-/

namespace Stylebook.Manager

/-- Does a request leave the plugin of a name alone? -/
def Request.Spares (name : String) : Request → Prop
  | register p _ => p.name ≠ name
  | unregister other | enable other | disable other => other ≠ name
  | _ => True

/-- What may be asked of a manager: to change, to show what it has, or to run callbacks. -/
inductive Call where
  | change (q : Request)
  | has (name : String)
  | get (name : String)
  | all
  | components
  | tokens
  | hook (name : String) (data : Value) (system : Option DesignSystem)
  | validate (usages : List Usage) (system : Option DesignSystem)
  | generate (name : String) (c : Component) (system : Option DesignSystem)

def Call.Spares (name : String) : Call → Prop
  | change q => q.Spares name
  | has other | get other => other ≠ name
  | _ => True

inductive Answer where
  | done (notes : List Value) (result : Except PluginError Unit)
  | truth (b : Bool)
  | plugin (p : Option Plugin)
  | plugins (l : List Plugin)
  | components (d : Dict Component)
  | tokens (d : Dict (Dict Value))
  | issues (l : List Issue)
  | data (r : Except Failure Value)
  | generated (r : Except Failure (Option Value))

variable (m : Manager)

def answer : Call → Answer
  | .change q => .done (m.perform q).notes (m.perform q).result
  | .has name => .truth (m.has name)
  | .get name => .plugin (m.get? name)
  | .all => .plugins m.all
  | .components => .components m.components
  | .tokens => .tokens m.tokens
  | .hook name data system => .data (m.executeHook name data system)
  | .validate usages system => .issues (m.executeValidators usages system)
  | .generate name c system => .generated (m.executeGenerator name c system)

/-- The manager after a call; only a request changes it. -/
def next : Call → Manager
  | .change q => (m.perform q).manager
  | _ => m

/-- The answers to calls one after the other. -/
def answers (m : Manager) : List Call → List Answer
  | [] => []
  | c :: rest => m.answer c :: answers (m.next c) rest

def forget (name : String) : Manager := { m with plugins := m.plugins.erase name }

/-- No plugin of the name is enabled. -/
def Off (name : String) (plugins : Dict Registration) : Prop :=
  ∀ r, plugins.get? name = some r → r.enabled = false

variable {m} {name other : String} {plugins : Dict Registration} {q : Request} {c : Call}

theorem Off.insert_of_ne (h : Off name plugins) (hne : other ≠ name) (r : Registration) :
    Off name (plugins.insert other r) := by
  intro s hs
  rw [Dict.get?_insert, if_neg hne] at hs
  exact h s hs

theorem Off.erase (h : Off name plugins) (other : String) : Off name (plugins.erase other) := by
  intro s hs
  exact h s (Dict.get?_eq_some_iff.mpr (List.mem_filter.mp (Dict.get?_eq_some_iff.mp hs)).1)

theorem enabledRegistrations_erase (h : Off name plugins) :
    enabledRegistrations (plugins.erase name) = enabledRegistrations plugins := by
  have he : (plugins.erase name).entries = plugins.entries.filter fun e => e.1 ≠ name := rfl
  rw [enabledRegistrations, enabledRegistrations, Dict.values, Dict.values, he, List.filter_map,
    List.filter_map, List.filter_filter]
  congr 1
  refine List.filter_congr fun e hm => ?_
  by_cases hn : e.1 = name
  · have hoff : e.2.enabled = false := h e.2 (Dict.get?_eq_some_iff.mpr (hn ▸ hm))
    simp [hn, hoff]
  · simp [hn]

theorem forget_withPlugins (h : Off name plugins) :
    (m.withPlugins plugins).forget name = (m.forget name).withPlugins (plugins.erase name) := by
  rw [withPlugins, withPlugins, enabledRegistrations_erase h]
  rfl

theorem all_forget (h : Off name m.plugins) : (m.forget name).all = m.all := by
  rw [all, all, forget, enabledRegistrations_erase h]

theorem get?_forget (hne : other ≠ name) : (m.forget name).plugins.get? other = m.plugins.get? other :=
  Dict.get?_erase_of_ne hne

theorem has_forget (hne : other ≠ name) : (m.forget name).has other = m.has other :=
  congrArg Option.isSome (get?_forget hne)

/-- A request can be made before the plugin is forgotten or after. -/
structure Commutes (m : Manager) (name : String) (q : Request) : Prop where
  outcome : (m.forget name).perform q = { m.perform q with manager := (m.perform q).manager.forget name }
  off : Off name (m.perform q).manager.plugins

theorem Commutes.of_outcomes {o o' : Outcome} (ho : m.perform q = o) (ho' : (m.forget name).perform q = o')
    (he : o' = { o with manager := o.manager.forget name }) (hoff : Off name o.manager.plugins) :
    m.Commutes name q := by
  subst ho
  exact ⟨ho'.trans he, hoff⟩

theorem commutes_register (h : Off name m.plugins) {p : Plugin} (hp : p.name ≠ name) (options : Fields) :
    m.Commutes name (.register p options) := by
  have hc : (m.forget name).has p.name = m.has p.name := has_forget hp
  cases ht : m.has p.name with
  | true => exact .of_outcomes (register_of_has ht) (register_of_has (hc.trans ht)) rfl h
  | false =>
    have hoff := h.insert_of_ne hp ⟨p, Pairs.setAll p.options options, true⟩
    have hw : (m.forget name).withPlugin p options = (m.withPlugin p options).forget name := by
      rw [withPlugin, withPlugin, forget_withPlugins hoff, Dict.erase_insert_of_ne hp]
      rfl
    refine .of_outcomes (register_of_not_has ht) (register_of_not_has (hc.trans ht)) ?_ hoff
    rw [hw]
    rfl

theorem commutes_unregister (h : Off name m.plugins) (hne : other ≠ name) :
    m.Commutes name (.unregister other) := by
  have hg : (m.forget name).plugins.get? other = m.plugins.get? other := get?_forget hne
  cases hr : m.plugins.get? other with
  | none => exact .of_outcomes (unregister_of_none hr) (unregister_of_none (hg.trans hr)) rfl h
  | some r =>
    -- A teardown is told what the manager shows, which is the same without the plugin.
    have hs : (m.forget name).afterSetup r.plugin.teardown r.options =
        m.afterSetup r.plugin.teardown r.options := rfl
    cases ht : (m.afterSetup r.plugin.teardown r.options).2 with
    | error e =>
      exact .of_outcomes (unregister_of_error hr ht) (unregister_of_error (hg.trans hr) (hs ▸ ht)) rfl h
    | ok u =>
      have hw : (m.forget name).withPlugins ((m.forget name).plugins.erase other) =
          (m.withPlugins (m.plugins.erase other)).forget name := by
        rw [forget_withPlugins (h.erase other), Dict.erase_erase_comm]
        rfl
      refine .of_outcomes (unregister_of_ok hr ht) (unregister_of_ok (hg.trans hr) (hs ▸ ht)) ?_ (h.erase other)
      rw [hw]
      rfl

theorem forget_setEnabled (h : Off name m.plugins) (hne : other ≠ name) (on : Bool) :
    (m.forget name).setEnabled other on = (m.setEnabled other on).forget name ∧
    Off name (m.setEnabled other on).plugins := by
  have hg : (m.forget name).plugins.get? other = m.plugins.get? other := get?_forget hne
  cases hr : m.plugins.get? other with
  | none =>
    rw [setEnabled_of_none hr, setEnabled_of_none (hg.trans hr)]
    exact ⟨rfl, h⟩
  | some r =>
    have hoff := h.insert_of_ne hne { r with enabled := on }
    rw [setEnabled_of_some hr, setEnabled_of_some (hg.trans hr), forget_withPlugins hoff,
      Dict.erase_insert_of_ne hne]
    exact ⟨rfl, hoff⟩

theorem commutes (h : Off name m.plugins) (hq : q.Spares name) : m.Commutes name q := by
  cases q with
  | register p options => exact commutes_register h hq options
  | unregister other => exact commutes_unregister h hq
  | enable other =>
    obtain ⟨he, hoff⟩ := forget_setEnabled h hq true
    exact ⟨by rw [perform, perform, he], hoff⟩
  | disable other =>
    obtain ⟨he, hoff⟩ := forget_setEnabled h hq false
    exact ⟨by rw [perform, perform, he], hoff⟩
  | clear => exact ⟨rfl, nofun⟩
  | registerValidator | unregisterValidator | registerGenerator | unregisterGenerator => exact ⟨rfl, h⟩

/-- Hooks are told what the manager shows, and not which plugins it has. -/
theorem runHooks_forget (hook : String) (system : Option DesignSystem) (data : Value)
    (l : List Registration) :
    (m.forget name).runHooks hook system data l = m.runHooks hook system data l := by
  induction l generalizing data with
  | nil => rfl
  | cons r l ih =>
    rw [runHooks, runHooks]
    simp only [ih]
    rfl

theorem answer_forget (h : Off name m.plugins) (hc : c.Spares name) :
    (m.forget name).answer c = m.answer c := by
  cases c with
  | change q =>
    rw [answer, answer, (commutes h hc).outcome]
  | has other => rw [answer, answer, has_forget hc]
  | get other => rw [answer, answer, Manager.get?, Manager.get?, get?_forget hc]
  | all => rw [answer, answer, all_forget h]
  | hook hook data system =>
    rw [answer, answer, executeHook, executeHook, runHooks_forget, forget, enabledRegistrations_erase h]
  | components | tokens | validate | generate => rfl

theorem next_forget (h : Off name m.plugins) (hc : c.Spares name) :
    (m.forget name).next c = (m.next c).forget name ∧ Off name (m.next c).plugins := by
  cases c with
  | change q =>
    have hq := commutes h hc
    exact ⟨congrArg Outcome.manager hq.outcome, hq.off⟩
  | has | get | all | components | tokens | hook | validate | generate => exact ⟨rfl, h⟩

/-- Who does not name a disabled plugin cannot tell that it is there. -/
theorem answers_forget (h : Off name m.plugins) {cs : List Call} (hcs : ∀ c ∈ cs, c.Spares name) :
    (m.forget name).answers cs = m.answers cs := by
  induction cs generalizing m with
  | nil => rfl
  | cons c cs ih =>
    rw [List.forall_mem_cons] at hcs
    obtain ⟨hn, hoff⟩ := next_forget h hcs.1
    rw [answers, answers, answer_forget h hcs.1, hn, ih hoff hcs.2]

theorem afterSetup_ok {setup : Option Setup} {options : Fields}
    (h : ∀ f, setup = some f → (f (m.context options none)).result = .ok ()) :
    (m.afterSetup setup options).2 = .ok () := by
  cases setup with
  | none => rfl
  | some f => rw [afterSetup, h f rfl]; rfl

/-- A plugin whose teardown comes to an end may as well be disabled as unregistered: whatever is asked of
the manager from then on, without naming the plugin, the answers are the same, failures included. -/
theorem disabled_as_absent {r : Registration} (hr : m.plugins.get? name = some r)
    (ht : ∀ f, r.plugin.teardown = some f → (f (m.context r.options none)).result = .ok ()) :
    (m.perform (.unregister name)).result = .ok () ∧
    ∀ cs : List Call, (∀ c ∈ cs, c.Spares name) →
      (m.perform (.disable name)).manager.answers cs =
        (m.perform (.unregister name)).manager.answers cs := by
  have hu := unregister_of_ok hr (afterSetup_ok ht)
  have hoff : Off name (m.plugins.insert name { r with enabled := false }) := by
    intro s hs
    rw [Dict.get?_insert, if_pos rfl] at hs
    cases hs
    rfl
  have hd : (m.perform (.disable name)).manager =
      m.withPlugins (m.plugins.insert name { r with enabled := false }) := setEnabled_of_some hr false
  have hforget : (m.perform (.unregister name)).manager =
      (m.perform (.disable name)).manager.forget name := by
    rw [hd, forget_withPlugins hoff, Dict.erase_insert_self]
    exact congrArg Outcome.manager hu
  refine ⟨congrArg Outcome.result hu, fun cs hcs => ?_⟩
  rw [hforget, answers_forget _ hcs]
  rw [hd]
  exact hoff

/-- A plugin with a hook, and with a teardown that comes to an end. -/
def hookedPlugin : Plugin :=
  { inkPlugin "brand" "navy" none (some fun _ => ⟨[], [], .ok ()⟩) with
    hooks := .ofList [("tokens", fun _ _ => ⟨[], [], .ok (.text "brand")⟩)] }

def hookedManager : Manager :=
  empty.after [.register (inkPlugin "plain" "black" none none) [], .register hookedPlugin []]

/-- The hook is asked for, and of the requests the first and the last one fail. -/
def laterCalls : List Call := [
  .all, .hook "tokens" (.text "data") none,
  .change (.register (inkPlugin "late" "green" (some failingSetup) none) []), .tokens,
  .change (.disable "plain"), .change (.unregister "plain"), .change (.unregister "plain"), .tokens]

theorem disabled_as_absent_hooked :
    (hookedManager.perform (.unregister "brand")).result = .ok () ∧
    (hookedManager.perform (.disable "brand")).manager.answers laterCalls =
      (hookedManager.perform (.unregister "brand")).manager.answers laterCalls := by
  have hr : hookedManager.plugins.get? "brand" = some ⟨hookedPlugin, [], true⟩ := rfl
  obtain ⟨hu, ha⟩ := disabled_as_absent hr (by rintro f ⟨⟩; rfl)
  refine ⟨hu, ha laterCalls ?_⟩
  simp [laterCalls, Call.Spares, Request.Spares, inkPlugin]

end Stylebook.Manager
