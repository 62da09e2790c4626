import Mathlib.Data.List.Forall2
import Stylebook.Proofs.Dict.Erasure
import Stylebook.Proofs.Plugin.Roster

/-!
Passes of validators over usages. A pass is a list of checks with their replies, and all that was reported or
added in them is in its outcome, whether or not some of them failed. Validators that do not look at what
others have added make the same replies whoever else takes part.
-/

namespace Stylebook

/-- Is a validator blind to the issues that were added before? -/
def Validator.IgnoresIssues (f : Validator) : Prop :=
  ∀ u (ctx : PluginContext) l, f u { ctx with issues := l } = f u ctx

namespace Manager

/-- A validator that is to be run on a usage. -/
structure Check where
  name : String
  validator : Validator
  usage : Usage

namespace Check

def reply (c : Check) (ctx : PluginContext) (before : List Issue) : Reply Report :=
  c.validator c.usage { ctx with issues := before }

/-- The issues that stand for what came of a check: what the validator gave back, or one error in the
place of it. -/
inductive Reports (c : Check) : Except Failure Report → List Issue → Prop
  | done (report : Report) : Reports c (.ok report) report.issues
  | failed (why : Failure) : Reports c (.error why) [⟨.error, .validatorError,
      "Validator " ++ quoteName c.name ++ " failed: " ++ why.text, c.usage.component, none⟩]

/-- Checks with their replies, each in sight of the issues that those before it have added. -/
def replies (ctx : PluginContext) : List Issue → List Check → List (Check × Reply Report)
  | _, [] => []
  | before, c :: rest =>
    (c, c.reply ctx before) :: replies ctx (before ++ (c.reply ctx before).issues) rest

end Check

variable (m : Manager)

/-- The checks of a pass: usage by usage, and for each in the order in which validators were registered. -/
def checks (usages : List Usage) : List Check :=
  usages.flatMap fun u => m.validators.entries.map fun v => ⟨v.1, v.2, u⟩

def pass (usages : List Usage) (system : Option DesignSystem) : List (Check × Reply Report) :=
  Check.replies (m.context [] system) [] (m.checks usages)

variable {m} {ctx : PluginContext} {before : List Issue} {cs : List Check} {name : String} {g : Validator}

namespace Check

theorem map_replies : (replies ctx before cs).map Prod.fst = cs := by
  induction cs generalizing before with
  | nil => rfl
  | cons c cs ih => rw [replies, List.map_cons, ih]

theorem reply_of_split {front back : List (Check × Reply Report)} {c : Check} {r : Reply Report}
    (h : replies ctx before cs = front ++ (c, r) :: back) :
    r = c.reply ctx (before ++ front.flatMap fun e => e.2.issues) := by
  induction cs generalizing before front with
  | nil => simp [replies] at h
  | cons d cs ih =>
    rw [replies] at h
    cases front with
    | nil =>
      rw [List.nil_append, List.cons.injEq, Prod.mk.injEq] at h
      obtain ⟨⟨rfl, rfl⟩, -⟩ := h
      rw [List.flatMap_nil, List.append_nil]
    | cons e front =>
      rw [List.cons_append, List.cons.injEq] at h
      obtain ⟨rfl, h⟩ := h
      rw [ih h, List.flatMap_cons, List.append_assoc]

theorem reports_reported (c : Check) (r : Reply Report) :
    c.Reports r.result (reported c.name c.usage r) := by
  rw [reported]
  cases r.result with
  | ok report => exact .done report
  | error why => exact .failed why

/-- One loop over the checks carries both lists of issues along. -/
theorem foldl_run (f : Findings) :
    cs.foldl (fun f c => f.run ctx c.usage (c.name, c.validator)) f =
      ⟨f.reported ++ (replies ctx f.added cs).flatMap fun e => reported e.1.name e.1.usage e.2,
        f.added ++ (replies ctx f.added cs).flatMap fun e => e.2.issues⟩ := by
  induction cs generalizing f with
  | nil => simp [replies]
  | cons c cs ih =>
    rw [List.foldl_cons, ih, replies, List.flatMap_cons, List.flatMap_cons, ← List.append_assoc,
      ← List.append_assoc]
    rfl

/-- Those who ignore what was added reply as if they were the first. -/
theorem filter_replies (h : ∀ c ∈ cs, c.name ≠ name → Validator.IgnoresIssues c.validator) :
    (replies ctx before cs).filter (fun e => e.1.name ≠ name) =
      (cs.filter fun c => c.name ≠ name).map fun c => (c, c.reply ctx []) := by
  induction cs generalizing before with
  | nil => rfl
  | cons c cs ih =>
    rw [List.forall_mem_cons] at h
    rw [replies]
    by_cases hc : c.name = name
    · simpa [hc] using ih h.2
    · have hr : c.reply ctx before = c.reply ctx [] := by
        rw [reply, reply, h.1 hc c.usage ctx before, h.1 hc c.usage ctx []]
      simpa [hc, hr] using ih h.2

end Check

theorem executeValidators_eq (usages : List Usage) (system : Option DesignSystem) :
    m.executeValidators usages system =
      ((m.pass usages system).flatMap fun e => reported e.1.name e.1.usage e.2) ++
        (m.pass usages system).flatMap fun e => e.2.issues := by
  have hloop : usages.foldl (fun f u => m.validators.entries.foldl
      (Findings.run (m.context [] system) u) f) ⟨[], []⟩ = (m.checks usages).foldl
      (fun f c => f.run (m.context [] system) c.usage (c.name, c.validator)) ⟨[], []⟩ := by
    rw [checks, List.foldl_flatMap]
    simp only [List.foldl_map]
  rw [executeValidators, hloop, Check.foldl_run]
  rfl

theorem filter_checks (usages : List Usage) :
    (m.checks usages).filter (fun c => c.name ≠ name) = usages.flatMap fun u =>
      (m.validators.erase name).entries.map fun v => ⟨v.1, v.2, u⟩ := by
  have he : (m.validators.erase name).entries = m.validators.entries.filter fun v => v.1 ≠ name := rfl
  rw [checks, List.filter_flatMap, he]
  simp only [List.filter_map]
  rfl

theorem filter_checks_registerValidator (usages : List Usage) :
    ((m.registerValidator name g).checks usages).filter (fun c => c.name ≠ name) =
      (m.checks usages).filter fun c => c.name ≠ name := by
  rw [filter_checks, filter_checks, registerValidator, Dict.erase_insert_self]

/-- Who ignores what others add does not notice that a validator has given way to another one. -/
theorem filter_pass_registerValidator {usages : List Usage} {system : Option DesignSystem}
    (h : ∀ c ∈ m.checks usages, c.name ≠ name → Validator.IgnoresIssues c.validator) :
    ((m.registerValidator name g).pass usages system).filter (fun e => e.1.name ≠ name) =
      (m.pass usages system).filter fun e => e.1.name ≠ name := by
  have hf : ((m.registerValidator name g).checks usages).filter (fun c => c.name ≠ name) =
      (m.checks usages).filter fun c => c.name ≠ name := filter_checks_registerValidator usages
  have h' : ∀ c ∈ (m.registerValidator name g).checks usages, c.name ≠ name →
      Validator.IgnoresIssues c.validator := by
    intro c hc hn
    have hm : c ∈ ((m.registerValidator name g).checks usages).filter fun c => c.name ≠ name :=
      List.mem_filter.mpr ⟨hc, decide_eq_true hn⟩
    rw [hf] at hm
    exact h c (List.mem_filter.mp hm).1 hn
  rw [pass, pass, Check.filter_replies h', Check.filter_replies h, hf]
  rfl

/-- The outcome of a pass is what came of its checks, in their order, and then all that was added in
them. A validator that takes the place of another one, be it that it always fails, changes nothing about
the checks of those who ignore what others add. -/
theorem executeValidators_isolates (m : Manager) (usages : List Usage) (system : Option DesignSystem) :
    (m.pass usages system).map Prod.fst = m.checks usages ∧
    (∀ front c r back, m.pass usages system = front ++ (c, r) :: back →
      r = c.reply (m.context [] system) (front.flatMap fun e => e.2.issues)) ∧
    (∃ reports, List.Forall₂ (fun e l => e.1.Reports e.2.result l) (m.pass usages system) reports ∧
      m.executeValidators usages system =
        reports.flatten ++ (m.pass usages system).flatMap fun e => e.2.issues) ∧
    ∀ name g, (∀ c ∈ m.checks usages, c.name ≠ name → Validator.IgnoresIssues c.validator) →
      ((m.registerValidator name g).pass usages system).filter (fun e => e.1.name ≠ name) =
        (m.pass usages system).filter fun e => e.1.name ≠ name := by
  refine ⟨Check.map_replies, fun front c r back h => Check.reply_of_split h, ?_,
    fun _ _ => filter_pass_registerValidator⟩
  refine ⟨(m.pass usages system).map fun e => reported e.1.name e.1.usage e.2, ?_, ?_⟩
  · rw [List.forall₂_map_right_iff, List.forall₂_same]
    exact fun e _ => e.1.reports_reported e.2
  · rw [executeValidators_eq, ← List.flatMap_def]

def remark (text : String) : Issue := ⟨.warning, .custom text, "", "", none⟩

/-- Adds an issue on the way to its failure. -/
def stumblingValidator : Validator := fun _ _ => ⟨[], [remark "seen"], .error ⟨"RuntimeError", "boom"⟩⟩

def listingValidator : Validator := fun _ _ => ⟨[], [], .ok (.list [remark "one", remark "two"])⟩

/-- Gives back the first issue that was added before it. -/
def echoingValidator : Validator := fun _ ctx =>
  ⟨[], [], .ok (match ctx.issues with
    | [] => .nothing
    | i :: _ => .issue i)⟩

def failingValidator : Validator := fun _ _ => ⟨[], [], .error ⟨"RuntimeError", "gone"⟩⟩

def validatingManager : Manager := empty.after [
  .registerValidator "stumbling" stumblingValidator, .registerValidator "echoing" echoingValidator,
  .registerValidator "listing" listingValidator]

def twoUsages : List Usage := [⟨"Button", ∅, none⟩, ⟨"Card", ∅, none⟩]

/-- The validator that reads what was added gives way to one that fails. -/
theorem executeValidators_isolates_echoing :
    ((validatingManager.executeValidators twoUsages none).map fun i => (i.code.name, i.path)) = [
      ("VALIDATOR_ERROR", "Button"), ("seen", ""), ("one", ""), ("two", ""),
      ("VALIDATOR_ERROR", "Card"), ("seen", ""), ("one", ""), ("two", ""), ("seen", ""), ("seen", "")] ∧
    ⟨[], [], .ok (.issue (remark "seen"))⟩ = Check.reply ⟨"echoing", echoingValidator, ⟨"Button", ∅, none⟩⟩
      (validatingManager.context [] none) [remark "seen"] ∧
    ((validatingManager.registerValidator "echoing" failingValidator).pass twoUsages none).filter
        (fun e => e.1.name ≠ "echoing") =
      (validatingManager.pass twoUsages none).filter fun e => e.1.name ≠ "echoing" := by
  obtain ⟨-, hreply, -, hothers⟩ := executeValidators_isolates validatingManager twoUsages none
  refine ⟨rfl, hreply [(⟨"stumbling", stumblingValidator, ⟨"Button", ∅, none⟩⟩, _)] _ _
    ((validatingManager.pass twoUsages none).drop 2) rfl, hothers "echoing" failingValidator ?_⟩
  have hc : validatingManager.checks twoUsages = twoUsages.flatMap fun u => [
      ⟨"stumbling", stumblingValidator, u⟩, ⟨"echoing", echoingValidator, u⟩,
      ⟨"listing", listingValidator, u⟩] := rfl
  rw [hc]
  simp only [List.forall_mem_flatMap, List.forall_mem_cons]
  exact fun u _ => ⟨fun _ _ _ _ => rfl, fun h => absurd rfl h, fun _ _ _ _ => rfl, nofun⟩

end Manager

end Stylebook
