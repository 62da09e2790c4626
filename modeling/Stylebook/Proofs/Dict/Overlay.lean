import Stylebook.Dict

/-!
Maps laid over one another. What is read at a name is what the uppermost map has there; of several
layers in categories, each token is that of the last layer which has it.
-/

namespace Stylebook

variable {α : Type}

namespace Pairs

variable {κ : Type} [DecidableEq κ] {k : κ} {base l : List (κ × α)}

theorem get?_setAll (hl : (keys l).Nodup) : get? k (setAll base l) = (get? k l).or (get? k base) := by
  induction l generalizing base with
  | nil => rfl
  | cons e l ih =>
    obtain ⟨j, v⟩ := e
    rw [keys_cons, List.nodup_cons] at hl
    have hs : setAll base ((j, v) :: l) = setAll (set j v base) l := rfl
    rw [hs, ih hl.2, get?_set, get?]
    by_cases h : j = k
    · have hn : get? k l = none := get?_eq_none_iff.mpr (h ▸ hl.1)
      simp [h, hn]
    · simp [h]

theorem get?_append {l m : List (κ × α)} : get? k (l ++ m) = (get? k l).or (get? k m) := by
  induction l with
  | nil => rfl
  | cons e l ih =>
    obtain ⟨j, v⟩ := e
    by_cases h : j = k
    · simp [get?, h]
    · simp [get?, h, ih]

theorem set_of_not_mem {v : α} (h : k ∉ keys l) : set k v l = l ++ [(k, v)] := by
  induction l with
  | nil => rfl
  | cons e l ih =>
    rw [keys_cons, List.mem_cons, not_or] at h
    rw [set, if_neg (Ne.symm h.1), ih h.2, List.cons_append]

theorem set_set {v w : α} : set k w (set k v l) = set k w l := by
  induction l with
  | nil => simp [set]
  | cons e l ih =>
    obtain ⟨j, u⟩ := e
    by_cases h : j = k
    · simp [set, h]
    · simp [set, h, ih]

theorem mem_set {e : κ × α} {v : α} (h : e ∈ set k v l) : e = (k, v) ∨ e ∈ l := by
  induction l with
  | nil => exact .inl (List.mem_singleton.mp h)
  | cons d l ih =>
    rw [set] at h
    split at h
    · rename_i hd
      subst hd
      exact (List.mem_cons.mp h).imp id (List.mem_cons_of_mem d)
    · rcases List.mem_cons.mp h with rfl | h
      · exact .inr List.mem_cons_self
      · exact (ih h).imp id (List.mem_cons_of_mem d)

theorem mem_setAll {e : κ × α} (h : e ∈ setAll base l) : e ∈ base ∨ e ∈ l := by
  induction l generalizing base with
  | nil => exact .inl h
  | cons d l ih =>
    rcases ih h with h | h
    · rcases mem_set h with rfl | h
      · exact .inr List.mem_cons_self
      · exact .inl h
    · exact .inr (List.mem_cons_of_mem d h)

/-- Pairs that agree on a key, whichever of them is written last. -/
theorem get?_setAll_of_forall {v : α} (hl : ∀ w, (k, w) ∈ l → w = v)
    (h : (k, v) ∈ l ∨ get? k base = some v) : get? k (setAll base l) = some v := by
  induction l generalizing base with
  | nil => exact h.resolve_left List.not_mem_nil
  | cons e l ih =>
    obtain ⟨j, w⟩ := e
    change get? k (setAll (set j w base) l) = some v
    refine ih (fun u hu => hl u (List.mem_cons_of_mem _ hu)) ?_
    by_cases hj : j = k
    · subst hj
      rw [hl w List.mem_cons_self]
      exact .inr get?_set_self
    · rw [get?_set_of_ne hj]
      refine h.imp_left fun hm => (List.mem_cons.mp hm).resolve_left fun he => hj ?_
      exact (Prod.mk.inj he).1.symm

theorem setAll_append {m : List (κ × α)} : setAll base (l ++ m) = setAll (setAll base l) m :=
  List.foldl_append

theorem setAll_of_nodup (h : (keys (base ++ l)).Nodup) : setAll base l = base ++ l := by
  induction l generalizing base with
  | nil => rw [List.append_nil]; rfl
  | cons e l ih =>
    have hk : e.1 ∉ keys base := by
      rw [keys_append, keys_cons, List.nodup_append] at h
      exact fun hm => h.2.2 _ hm _ List.mem_cons_self rfl
    rw [List.append_cons] at h ⊢
    rw [← ih h, ← set_of_not_mem hk]
    rfl

/-- Writing what is there already changes nothing. -/
theorem setAll_of_get? (h : ∀ e ∈ l, get? e.1 base = some e.2) : setAll base l = base := by
  induction l with
  | nil => rfl
  | cons e l ih =>
    rw [List.forall_mem_cons] at h
    have hs : setAll base (e :: l) = setAll (set e.1 e.2 base) l := rfl
    rw [hs, set_of_get? h.1, ih h.2]

end Pairs

/-- There is a last value given as soon as any is given. -/
theorem isSome_getLast?_filterMap {β : Type} {f : α → Option β} {l : List α} :
    (l.filterMap f).getLast?.isSome = true ↔ ∃ a ∈ l, (f a).isSome = true := by
  rw [List.getLast?_isSome, ne_eq, List.filterMap_eq_nil_iff]
  simp only [Classical.not_forall, Option.isSome_iff_ne_none, ne_eq, exists_prop]

namespace Dict

variable {c k : String}

theorem get?_update (d e : Dict α) : (d.update e).get? k = (e.get? k).or (d.get? k) :=
  Pairs.get?_setAll e.nodup

theorem get?_ofList {l : List (String × α)} (hl : (Pairs.keys l).Nodup) :
    (ofList l).get? k = Pairs.get? k l :=
  (Pairs.get?_setAll hl).trans (Option.or_none ..)

theorem ofList_entries (d : Dict α) : ofList d.entries = d := by
  have h : (Pairs.keys ([] ++ d.entries)).Nodup := d.nodup
  exact eq_of_entries (Pairs.setAll_of_nodup h)

/-- Of maps that are written one over the other, the last one that has a name decides. -/
theorem get?_foldl_update (l : List (Dict α)) (d : Dict α) :
    (l.foldl update d).get? k = ((l.filterMap fun e => e.get? k).getLast?).or (d.get? k) := by
  induction l generalizing d with
  | nil => rfl
  | cons e l ih =>
    rw [List.foldl_cons, ih, get?_update, List.filterMap_cons]
    cases e.get? k with
    | none => rfl
    | some v => cases h : (l.filterMap fun e => e.get? k).getLast? <;> simp [List.getLast?_cons, h]

/-- What stands under a name in a category. -/
def at? (d : Dict (Dict α)) (c k : String) : Option α := (d.get? c).bind fun e => e.get? k

/-- Writes the entries of `e` over those of a category. -/
def joinAt (d : Dict (Dict α)) (c : String) (e : Dict α) : Dict (Dict α) :=
  d.insert c (((d.get? c).getD ∅).update e)

/-- Lays `top` on `base`, category by category. -/
def overlay (base top : Dict (Dict α)) : Dict (Dict α) :=
  top.entries.foldl (fun d e => d.joinAt e.1 e.2) base

theorem contains_joinAt (d : Dict (Dict α)) (c' : String) (e : Dict α) :
    (d.joinAt c' e).contains c = (decide (c' = c) || d.contains c) := by
  rw [contains, joinAt, get?_insert, contains]
  by_cases h : c' = c <;> simp [h]

theorem at?_joinAt (d : Dict (Dict α)) (c' : String) (e : Dict α) :
    (d.joinAt c' e).at? c k = if c' = c then (e.get? k).or (d.at? c k) else d.at? c k := by
  rw [at?, joinAt, get?_insert, at?]
  by_cases h : c' = c
  · subst h
    have hd : ((d.get? c').getD ∅).get? k = (d.get? c').bind fun e => e.get? k := by
      cases d.get? c' <;> rfl
    simp [get?_update, hd]
  · simp [h]

theorem contains_foldl_joinAt (l : List (String × Dict α)) (d : Dict (Dict α)) :
    (l.foldl (fun d e => d.joinAt e.1 e.2) d).contains c = true ↔
      c ∈ Pairs.keys l ∨ d.contains c = true := by
  induction l generalizing d with
  | nil => simp
  | cons e l ih =>
    rw [List.foldl_cons, ih, contains_joinAt, Pairs.keys_cons, List.mem_cons, Bool.or_eq_true,
      decide_eq_true_iff, @eq_comm _ e.1 c, or_left_comm, or_assoc]

theorem at?_foldl_joinAt {l : List (String × Dict α)} (hl : (Pairs.keys l).Nodup)
    (d : Dict (Dict α)) :
    (l.foldl (fun d e => d.joinAt e.1 e.2) d).at? c k =
      ((Pairs.get? c l).bind fun e => e.get? k).or (d.at? c k) := by
  induction l generalizing d with
  | nil => rfl
  | cons e l ih =>
    obtain ⟨c', e⟩ := e
    rw [Pairs.keys_cons, List.nodup_cons] at hl
    rw [List.foldl_cons, ih hl.2, at?_joinAt, Pairs.get?]
    by_cases h : c' = c
    · have hn : Pairs.get? c l = none := Pairs.get?_eq_none_iff.mpr (h ▸ hl.1)
      simp [h, hn]
    · simp [h]

theorem contains_overlay (base top : Dict (Dict α)) :
    (base.overlay top).contains c = true ↔ base.contains c = true ∨ top.contains c = true := by
  rw [overlay, contains_foldl_joinAt, or_comm, contains_iff (d := top)]
  rfl

theorem at?_overlay (base top : Dict (Dict α)) :
    (base.overlay top).at? c k = (top.at? c k).or (base.at? c k) :=
  at?_foldl_joinAt top.nodup base

theorem update_again (d e : Dict α) : (d.update e).update e = d.update e := by
  refine eq_of_entries (Pairs.setAll_of_get? fun p hp => ?_)
  have hg : e.get? p.1 = some p.2 := get?_eq_some_iff.mpr hp
  have hu := get?_update d e (k := p.1)
  rwa [hg] at hu

/-- Lays `top` on `base`, each value joined with what is there under its name, if anything is. -/
def joinWith (join : α → Option α → α) (base top : Dict α) : Dict α :=
  top.entries.foldl (fun d e => d.insert e.1 (join e.2 (d.get? e.1))) base

theorem get?_foldl_insert {join : α → Option α → α} {l : List (String × α)} (hl : (Pairs.keys l).Nodup)
    (d : Dict α) : (l.foldl (fun d e => d.insert e.1 (join e.2 (d.get? e.1))) d).get? k =
      ((Pairs.get? k l).map fun v => join v (d.get? k)).or (d.get? k) := by
  induction l generalizing d with
  | nil => rfl
  | cons e l ih =>
    obtain ⟨j, v⟩ := e
    rw [Pairs.keys_cons, List.nodup_cons] at hl
    rw [List.foldl_cons, ih hl.2, get?_insert, Pairs.get?]
    by_cases h : j = k
    · have hn : Pairs.get? k l = none := Pairs.get?_eq_none_iff.mpr (h ▸ hl.1)
      simp [h, hn]
    · simp [h]

theorem get?_joinWith (join : α → Option α → α) (base top : Dict α) :
    (base.joinWith join top).get? k =
      ((top.get? k).map fun v => join v (base.get? k)).or (base.get? k) :=
  get?_foldl_insert top.nodup base

theorem overlay_eq_joinWith (base top : Dict (Dict α)) :
    base.overlay top = base.joinWith (fun e below => (below.getD ∅).update e) top := rfl

theorem foldl_joinAt_of_get? {l : List (String × Dict α)} {d : Dict (Dict α)}
    (h : ∀ e ∈ l, ∃ m, d.get? e.1 = some m ∧ m.update e.2 = m) :
    l.foldl (fun d e => d.joinAt e.1 e.2) d = d := by
  induction l with
  | nil => rfl
  | cons e l ih =>
    rw [List.forall_mem_cons] at h
    obtain ⟨m, hm, hu⟩ := h.1
    have hj : d.joinAt e.1 e.2 = d := by
      rw [joinAt, hm, Option.getD_some, hu]
      exact eq_of_entries (Pairs.set_of_get? hm)
    rw [List.foldl_cons, hj, ih h.2]

/-- What lies over a map already can be laid over it again. -/
theorem overlay_again (base top : Dict (Dict α)) :
    (base.overlay top).overlay top = base.overlay top := by
  refine foldl_joinAt_of_get? fun e he => ⟨_, ?_, update_again ((base.get? e.1).getD ∅) e.2⟩
  rw [overlay_eq_joinWith, get?_joinWith, get?_eq_some_iff.mpr he]
  rfl

/-- `out` has the categories and tokens that some layer has; where several layers have one token, the
last of them gives its value. -/
structure LastWins (layers : List (Dict (Dict α))) (out : Dict (Dict α)) : Prop where
  category : ∀ c, out.contains c = true ↔ ∃ l ∈ layers, l.contains c = true
  token : ∀ c k, (out.at? c k).isSome = true ↔ ∃ l ∈ layers, (l.at? c k).isSome = true
  value : ∀ c k, out.at? c k = (layers.filterMap fun l => l.at? c k).getLast?

namespace LastWins

variable {layers upper : List (Dict (Dict α))} {out top : Dict (Dict α)}

theorem ofValue (hc : ∀ c, out.contains c = true ↔ ∃ l ∈ layers, l.contains c = true)
    (hv : ∀ c k, out.at? c k = (layers.filterMap fun l => l.at? c k).getLast?) :
    LastWins layers out where
  category := hc
  token c k := by rw [hv, isSome_getLast?_filterMap]
  value := hv

theorem nil : LastWins [] (∅ : Dict (Dict α)) :=
  .ofValue (fun c => by simp [show (∅ : Dict (Dict α)).contains c = false from rfl]) fun _ _ => rfl

theorem single (d : Dict (Dict α)) : LastWins [d] d := by
  refine .ofValue (by simp) fun c k => ?_
  rw [List.filterMap_cons]
  cases d.at? c k <;> rfl

/-- Layers that lie over others lie above them all. -/
theorem overlay (h : LastWins layers out) (ht : LastWins upper top) :
    LastWins (layers ++ upper) (out.overlay top) := by
  refine .ofValue (fun c => ?_) fun c k => ?_
  · rw [contains_overlay, h.category, ht.category]
    simp only [List.mem_append, or_and_right, exists_or]
  · rw [at?_overlay, h.value, ht.value, List.filterMap_append, List.getLast?_append]

theorem foldl_overlay (h : LastWins layers out) (ls : List (Dict (Dict α))) :
    LastWins (layers ++ ls) (ls.foldl Dict.overlay out) := by
  induction ls generalizing layers out with
  | nil => simpa using h
  | cons l ls ih => simpa using ih (h.overlay (.single l))

end LastWins

end Dict

end Stylebook
