import Mathlib.Data.List.Forall2

/-!
Traversals of lists that may fail: each item on its own decides whether the whole comes to an end.
-/

namespace Stylebook

variable {α β : Type} {l : List α}

theorem exists_forall₂_iff {R : α → β → Prop} :
    (∃ m, List.Forall₂ R l m) ↔ ∀ a ∈ l, ∃ b, R a b := by
  induction l with
  | nil => simp
  | cons a l ih =>
    rw [List.forall_mem_cons, ← ih]
    constructor
    · rintro ⟨m, h⟩
      cases h with
      | cons ha h => exact ⟨⟨_, ha⟩, _, h⟩
    · rintro ⟨⟨b, ha⟩, m, h⟩
      exact ⟨b :: m, .cons ha h⟩

theorem mapM_eq_some_iff {f : α → Option β} {m : List β} :
    l.mapM f = some m ↔ List.Forall₂ (fun a b => f a = some b) l m := by
  induction l generalizing m with
  | nil => cases m <;> simp
  | cons a l ih =>
    rw [List.mapM_cons]
    constructor
    · intro h
      obtain ⟨b, hb, h⟩ := Option.bind_eq_some_iff.mp h
      obtain ⟨n, hn, h⟩ := Option.bind_eq_some_iff.mp h
      cases h
      exact .cons hb (ih.mp hn)
    · intro h
      cases h with
      | @cons _ b _ n hb hn => simp [hb, ih.mpr hn]

/-- A traversal fails with the first failure in the list. -/
theorem mapM_eq_error_iff {ε : Type} {f : α → Except ε β} {fault? : α → Option ε}
    (hf : ∀ a e, f a = .error e ↔ fault? a = some e) (e : ε) :
    l.mapM f = .error e ↔ l.findSome? fault? = some e := by
  induction l with
  | nil => simp [pure, Except.pure]
  | cons a l ih =>
    rw [List.mapM_cons, List.findSome?_cons]
    cases ha : f a with
    | error d =>
      rw [(hf a d).mp ha]
      simp [bind, Except.bind]
    | ok b =>
      have hnone : fault? a = none :=
        Option.eq_none_iff_forall_ne_some.mpr fun d hd => by cases ha.symm.trans ((hf a d).mpr hd)
      rw [hnone]
      dsimp only [bind, Except.bind]
      rw [← ih]
      cases l.mapM f <;> simp [pure, Except.pure]

/-- What fails with one of some faults, and no other way, comes to an end where there is none. -/
theorem exists_ok_iff {ε : Type} {x : Except ε α} {fault? : Option ε}
    (h : ∀ e, x = .error e ↔ fault? = some e) : (∃ a, x = .ok a) ↔ fault? = none := by
  rw [Option.eq_none_iff_forall_ne_some]
  cases x with
  | ok a =>
    refine ⟨fun _ e he => ?_, fun _ => ⟨a, rfl⟩⟩
    cases (h e).mpr he
  | error d =>
    refine ⟨?_, fun hn => absurd ((h d).mp rfl) (hn d)⟩
    rintro ⟨a, ⟨⟩⟩

end Stylebook
