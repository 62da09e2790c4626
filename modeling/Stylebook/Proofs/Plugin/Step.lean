import Stylebook.Plugin.Manager

/-!
What one request does to a manager, in each of the ways it can end.
-/

namespace Stylebook.Manager

variable {m : Manager} {p : Plugin} {options : Fields} {name : String} {r : Registration} {e : PluginError}

/-- The manager with one more plugin, which is enabled. -/
def withPlugin (m : Manager) (p : Plugin) (options : Fields) : Manager :=
  m.withPlugins (m.plugins.insert p.name ⟨p, Pairs.setAll p.options options, true⟩)

theorem register_of_has (h : m.has p.name = true) :
    m.register p options = ⟨m, [], .error (.alreadyRegistered p.name)⟩ := if_pos h

/-- A new plugin is there before its setup runs, and stays however that ends. -/
theorem register_of_not_has (h : m.has p.name = false) : m.register p options =
    ⟨m.withPlugin p options,
      ((m.withPlugin p options).afterSetup p.setup (Pairs.setAll p.options options)).1,
      ((m.withPlugin p options).afterSetup p.setup (Pairs.setAll p.options options)).2⟩ :=
  if_neg (ne_true_of_eq_false h)

theorem unregister_of_none (h : m.plugins.get? name = none) :
    m.unregister name = ⟨m, [], .error (.notRegistered name)⟩ := by
  rw [Manager.unregister, h]

/-- A plugin goes only after its teardown, so it stays if that fails. -/
theorem unregister_of_error (h : m.plugins.get? name = some r)
    (ht : (m.afterSetup r.plugin.teardown r.options).2 = .error e) :
    m.unregister name = ⟨m, (m.afterSetup r.plugin.teardown r.options).1, .error e⟩ := by
  simp only [Manager.unregister, h, ht]

theorem unregister_of_ok (h : m.plugins.get? name = some r)
    (ht : (m.afterSetup r.plugin.teardown r.options).2 = .ok ()) :
    m.unregister name = ⟨m.withPlugins (m.plugins.erase name),
      (m.afterSetup r.plugin.teardown r.options).1, .ok ()⟩ := by
  simp only [Manager.unregister, h, ht]

theorem setEnabled_of_none (h : m.plugins.get? name = none) (on : Bool) :
    m.setEnabled name on = m := by
  rw [Manager.setEnabled, h]

theorem setEnabled_of_some (h : m.plugins.get? name = some r) (on : Bool) :
    m.setEnabled name on = m.withPlugins (m.plugins.insert name { r with enabled := on }) := by
  rw [Manager.setEnabled, h]

end Stylebook.Manager
