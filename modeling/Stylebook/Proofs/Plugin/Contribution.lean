import Stylebook.Proofs.Dict.Overlay
import Stylebook.Proofs.Plugin.Roster

/-!
What a manager shows. After any run, failures included, the components and tokens are what the enabled
plugins contribute in the order of registration, and where several contribute one of them the last
one counts. So a plugin that goes or is disabled brings back whatever it had hidden.
-/

namespace Stylebook

/-- The tokens of a plugin; a category that is declared with nothing is an empty one. -/
def Plugin.tokenLayer (p : Plugin) : Dict (Dict Value) := p.tokens.mapValues fun c => c.getD ∅

namespace Manager

variable {m : Manager} {l : Roster}

theorem tokensOf_eq (ps : List Plugin) :
    tokensOf ps = (ps.map Plugin.tokenLayer).foldl Dict.overlay ∅ := by
  have hp : ∀ (d : Dict (Dict Value)) (p : Plugin),
      p.tokens.entries.foldl addCategory d = d.overlay p.tokenLayer := by
    intro d p
    rw [Dict.overlay, Plugin.tokenLayer, Dict.mapValues, List.foldl_map]
    rfl
  rw [tokensOf, List.foldl_map]
  simp only [hp]

theorem tokensOf_lastWins (ps : List Plugin) :
    Dict.LastWins (ps.map Plugin.tokenLayer) (tokensOf ps) := by
  rw [tokensOf_eq]
  exact Dict.LastWins.nil.foldl_overlay (ps.map Plugin.tokenLayer)

theorem get?_componentsOf (ps : List Plugin) (name : String) :
    (componentsOf ps).get? name = (ps.filterMap fun p => p.components.get? name).getLast? := by
  have hc : componentsOf ps = (ps.map Plugin.components).foldl Dict.update ∅ := by
    rw [componentsOf, List.foldl_map]
  rw [hc, Dict.get?_foldl_update, List.filterMap_map]
  exact Option.or_none

/-- A manager lists some plugins and shows what they contribute: a component or a token that several
of them have is that of the last one. -/
structure Shows (m : Manager) (ps : List Plugin) : Prop where
  all : m.all = ps
  component : ∀ name, m.components.contains name = true ↔
    ∃ p ∈ ps, p.components.contains name = true
  schema : ∀ name, m.components.get? name = (ps.filterMap fun p => p.components.get? name).getLast?
  tokens : Dict.LastWins (ps.map Plugin.tokenLayer) m.tokens

theorem Follows.shows (h : m.Follows l) : m.Shows l.enabled := by
  have hs : ∀ name, m.components.get? name =
      (l.enabled.filterMap fun p => p.components.get? name).getLast? := by
    intro name
    rw [h.components, h.all_eq, get?_componentsOf]
  refine ⟨h.all_eq, fun name => ?_, hs, ?_⟩
  · rw [Dict.contains, hs, isSome_getLast?_filterMap]
    rfl
  · rw [h.tokens, h.all_eq]
    exact tokensOf_lastWins l.enabled

/-- Without a plugin, the others show what they contribute without it. -/
theorem Follows.shows_disable (h : m.Follows l) (name : String) :
    (m.perform (.disable name)).manager.Shows (l.enabled.filter fun p => p.name ≠ name) := by
  rw [← Roster.enabled_switch_off]
  exact (h.setEnabled name false).shows

theorem Follows.shows_unregister (h : m.Follows l) {name : String}
    (hr : (m.perform (.unregister name)).result = .ok ()) :
    (m.perform (.unregister name)).manager.Shows (l.enabled.filter fun p => p.name ≠ name) := by
  have hf := h.perform (.unregister name)
  rw [hr] at hf
  rw [← Roster.enabled_without]
  exact hf.shows

/-- A fresh manager that has gone through any requests lists the enabled plugins in the order of
registration and shows what they contribute. What it shows depends on that list alone, order of names
included, and once a plugin is disabled or gone it is what the others contribute. -/
theorem shows_after (qs : List Request) :
    (empty.after qs).Shows (Roster.ofLog (empty.log qs)).enabled ∧
    (∀ rs, (empty.after rs).all = (empty.after qs).all →
      (empty.after rs).components = (empty.after qs).components ∧
      (empty.after rs).tokens = (empty.after qs).tokens) ∧
    ∀ name,
      ((empty.after qs).perform (.disable name)).manager.Shows
        ((empty.after qs).all.filter fun p => p.name ≠ name) ∧
      (((empty.after qs).perform (.unregister name)).result = .ok () →
        ((empty.after qs).perform (.unregister name)).manager.Shows
          ((empty.after qs).all.filter fun p => p.name ≠ name)) := by
  have hf : ∀ qs, (empty.after qs).Follows (Roster.ofLog (empty.log qs)) := Follows.empty.after
  have h := hf qs
  refine ⟨h.shows, fun rs he => ?_, fun name => ?_⟩
  · rw [(hf rs).components, (hf rs).tokens, h.components, h.tokens, he]
    exact ⟨rfl, rfl⟩
  · rw [h.all_eq]
    exact ⟨h.shows_disable name, h.shows_unregister⟩

/-- A plugin that brings one ink. -/
def inkPlugin (name ink : String) (setup teardown : Option Setup) : Plugin where
  name := name
  version := "1.0.0"
  description := none
  components := ∅
  tokens := .ofList [("ink", some (.ofList [("text", .text ink)])), ("gap", none)]
  darkTokens := ∅
  options := []
  hooks := ∅
  setup := setup
  teardown := teardown

def failingSetup : Setup := fun _ => ⟨[], [], .error ⟨"RuntimeError", "busy"⟩⟩

/-- A setup that fails, a name that is taken, one that is unknown, and a teardown that fails. -/
def inkRequests : List Request := [
  .register (inkPlugin "plain" "black" none none) [],
  .register (inkPlugin "brand" "navy" (some failingSetup) none) [],
  .register (inkPlugin "brand" "red" none none) [],
  .unregister "ghost",
  .register (inkPlugin "sealed" "grey" none (some failingSetup)) [],
  .unregister "sealed",
  .disable "sealed"]

theorem shows_after_inkRequests :
    (empty.log inkRequests).map (fun e => e.2.toOption.isSome) =
      [true, false, false, false, true, false, true] ∧
    (empty.after inkRequests).all.map Plugin.name = ["plain", "brand"] ∧
    (empty.after inkRequests).tokens.at? "ink" "text" = some (.text "navy") ∧
    ((empty.after inkRequests).perform (.unregister "brand")).result = .ok () ∧
    ((empty.after inkRequests).perform (.unregister "brand")).manager.tokens.at? "ink" "text" =
      some (.text "black") := by
  obtain ⟨hs, -, hr⟩ := shows_after inkRequests
  have hok : ((empty.after inkRequests).perform (.unregister "brand")).result = .ok () := rfl
  refine ⟨rfl, ?_, ?_, hok, ?_⟩
  · rw [hs.all]; rfl
  · rw [hs.tokens.value]; rfl
  · rw [((hr "brand").2 hok).tokens.value]; rfl

end Manager

end Stylebook
