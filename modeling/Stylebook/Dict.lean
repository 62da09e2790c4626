import Stylebook.Pairs

/-!
Maps from names that keep the order in which names first came. Every entry has a name of its own.
-/

namespace Stylebook

open Pairs

structure Dict (α : Type) where
  entries : List (String × α)
  nodup : (keys entries).Nodup

namespace Dict

variable {α β : Type} {k j : String} {v : α} {d : Dict α}

theorem eq_of_entries {d e : Dict α} (h : d.entries = e.entries) : d = e := by
  cases d; cases e; cases h; rfl

instance [DecidableEq α] : DecidableEq (Dict α) := fun d e =>
  if h : d.entries = e.entries then .isTrue (eq_of_entries h)
  else .isFalse fun he => h (he ▸ rfl)

def empty : Dict α := ⟨[], .nil⟩

instance : EmptyCollection (Dict α) := ⟨empty⟩

instance : Inhabited (Dict α) := ⟨empty⟩

def isEmpty (d : Dict α) : Bool := d.entries.isEmpty

def size (d : Dict α) : Nat := d.entries.length

def keys (d : Dict α) : List String := Pairs.keys d.entries

def values (d : Dict α) : List α := d.entries.map Prod.snd

def get? (d : Dict α) (k : String) : Option α := Pairs.get? k d.entries

def contains (d : Dict α) (k : String) : Bool := (d.get? k).isSome

/-- Writes `v` at `k`; a name that is there keeps its place. -/
def insert (d : Dict α) (k : String) (v : α) : Dict α := ⟨set k v d.entries, nodup_set d.nodup⟩

def erase (d : Dict α) (k : String) : Dict α := ⟨Pairs.erase k d.entries, nodup_erase d.nodup⟩

/-- Puts `a` last in the list at `k`, which is empty until then if there is none. -/
def push (d : Dict (List α)) (k : String) (a : α) : Dict (List α) :=
  d.insert k ((d.get? k).getD [] ++ [a])

/-- Writes every pair over `d`, from the first one on. -/
def insertAll (d : Dict α) (l : List (String × α)) : Dict α :=
  ⟨setAll d.entries l, nodup_setAll d.nodup⟩

def ofList (l : List (String × α)) : Dict α := empty.insertAll l

/-- The entries of `e` written over those of `d`. -/
def update (d e : Dict α) : Dict α := d.insertAll e.entries

theorem keys_mapValues (f : String → α → β) (l : List (String × α)) :
    Pairs.keys (l.map fun e => (e.1, f e.1 e.2)) = Pairs.keys l := by
  simp [Pairs.keys]

/-- The same names, each with a value made from its old one. -/
def mapValues (f : α → β) (d : Dict α) : Dict β :=
  ⟨d.entries.map fun e => (e.1, f e.2), by rw [keys_mapValues fun _ => f]; exact d.nodup⟩

/-- The entries whose value `f` accepts, with what it makes of it. -/
def filterMapValues (f : α → Option β) (d : Dict α) : Dict β :=
  ⟨d.entries.filterMap fun e => (f e.2).map fun v => (e.1, v), by
    refine d.nodup.sublist ?_
    induction d.entries with
    | nil => simp
    | cons e l ih =>
      cases h : f e.2 with
      | none => simpa [h, Pairs.keys] using ih.cons e.1
      | some v => simpa [h, Pairs.keys] using ih⟩

theorem get?_eq_some_iff : d.get? k = some v ↔ (k, v) ∈ d.entries := Pairs.get?_eq_some_iff d.nodup

theorem contains_iff : d.contains k = true ↔ k ∈ d.keys := Pairs.get?_isSome_iff

theorem mem_keys_of_get? (h : d.get? k = some v) : k ∈ d.keys :=
  List.mem_map_of_mem (f := Prod.fst) (get?_eq_some_iff.mp h)

theorem mem_values_of_get? (h : d.get? k = some v) : v ∈ d.values :=
  List.mem_map_of_mem (f := Prod.snd) (get?_eq_some_iff.mp h)

theorem get?_insert : (d.insert k v).get? j = if k = j then some v else d.get? j := Pairs.get?_set

theorem keys_insert : (d.insert k v).keys = if k ∈ d.keys then d.keys else d.keys ++ [k] :=
  Pairs.keys_set

theorem get?_filterMapValues (f : α → Option β) :
    (d.filterMapValues f).get? k = (d.get? k).bind f := by
  refine Option.ext fun v => ?_
  rw [get?_eq_some_iff, filterMapValues, List.mem_filterMap, Option.bind_eq_some_iff]
  constructor
  · rintro ⟨⟨j, a⟩, he, hv⟩
    obtain ⟨b, hb, hk⟩ := Option.map_eq_some_iff.mp hv
    cases hk
    exact ⟨a, get?_eq_some_iff.mpr he, hb⟩
  · rintro ⟨a, ha, hv⟩
    exact ⟨(k, a), get?_eq_some_iff.mp ha, by simp [hv]⟩

@[simp] theorem get?_empty : (empty : Dict α).get? k = none := rfl

end Dict

end Stylebook
