import Mathlib.Algebra.BigOperators.Group.List.Basic
import Mathlib.Algebra.Ring.Nat

/-!
# Maps in insertion order

A map as the list of its entries in the order in which their keys came in. A new value for
an old key stays in its place.
-/

namespace SparkRoute.Lib

open List

structure OrderedMap (Key Value : Type) where
  entries : List (Key × Value)
  distinct : (entries.map Prod.fst).Nodup

namespace OrderedMap

variable {Key Value : Type} [DecidableEq Key]

def empty : OrderedMap Key Value := ⟨[], nodup_nil⟩

def keys (map : OrderedMap Key Value) : List Key := map.entries.map Prod.fst

def lookupEntry (key : Key) : List (Key × Value) → Option Value
  | [] => none
  | entry :: rest => if entry.1 = key then some entry.2 else lookupEntry key rest

def get (map : OrderedMap Key Value) (key : Key) : Option Value :=
  lookupEntry key map.entries

def insertEntry (key : Key) (value : Value) : List (Key × Value) → List (Key × Value)
  | [] => [(key, value)]
  | entry :: rest =>
    if entry.1 = key then (key, value) :: rest else entry :: insertEntry key value rest

theorem insertEntry_keys (key : Key) (value : Value) (entries : List (Key × Value)) :
    (insertEntry key value entries).map Prod.fst =
      if key ∈ entries.map Prod.fst then entries.map Prod.fst
      else entries.map Prod.fst ++ [key] := by
  induction entries with
  | nil => rfl
  | cons entry rest ih =>
    by_cases same : entry.1 = key
    · simp [insertEntry, same]
    · have other : key ≠ entry.1 := Ne.symm same
      simp only [insertEntry, if_neg same, map_cons, ih, mem_cons, other, false_or]
      split <;> rfl

def insert (map : OrderedMap Key Value) (key : Key) (value : Value) : OrderedMap Key Value where
  entries := insertEntry key value map.entries
  distinct := by
    rw [insertEntry_keys]
    split
    next => exact map.distinct
    next absent =>
      exact nodup_append.mpr ⟨map.distinct, pairwise_singleton _ key, by
        rintro old listed new mem rfl
        cases mem_singleton.mp mem
        exact absent listed⟩

def erase (map : OrderedMap Key Value) (key : Key) : OrderedMap Key Value where
  entries := map.entries.filter fun entry => entry.1 ≠ key
  distinct := map.distinct.sublist (filter_sublist.map Prod.fst)

def mapValues (change : Value → Value) (map : OrderedMap Key Value) : OrderedMap Key Value where
  entries := map.entries.map fun entry => (entry.1, change entry.2)
  distinct := by
    rw [map_map]
    exact map.distinct

def total (weight : Value → Nat) (map : OrderedMap Key Value) : Nat :=
  (map.entries.map fun entry => weight entry.2).sum

theorem lookupEntry_insertEntry (key other : Key) (value : Value) (entries : List (Key × Value)) :
    lookupEntry other (insertEntry key value entries) =
      if other = key then some value else lookupEntry other entries := by
  induction entries with
  | nil => simp [insertEntry, lookupEntry, eq_comm]
  | cons entry rest ih =>
    by_cases same : entry.1 = key
    · by_cases asked : other = key
      · simp [insertEntry, lookupEntry, same, asked]
      · simp [insertEntry, lookupEntry, same, asked, Ne.symm asked]
    · by_cases first : entry.1 = other
      · have different : other ≠ key := first ▸ same
        simp [insertEntry, lookupEntry, first, different]
      · simp [insertEntry, lookupEntry, same, first, ih]

theorem get_insert (map : OrderedMap Key Value) (key other : Key) (value : Value) :
    (map.insert key value).get other = if other = key then some value else map.get other :=
  lookupEntry_insertEntry key other value map.entries

theorem get_insert_same (map : OrderedMap Key Value) (key : Key) (value : Value) :
    (map.insert key value).get key = some value :=
  (map.get_insert key key value).trans (if_pos rfl)

theorem lookupEntry_filter (key other : Key) (entries : List (Key × Value)) :
    lookupEntry other (entries.filter fun entry => entry.1 ≠ key) =
      if other = key then none else lookupEntry other entries := by
  induction entries with
  | nil => exact (ite_self none).symm
  | cons entry rest ih =>
    by_cases same : entry.1 = key
    · rw [filter_cons_of_neg (by simpa using same), ih, lookupEntry, same]
      split
      next => rfl
      next different => rw [if_neg (Ne.symm different)]
    · rw [filter_cons_of_pos (by simpa using same), lookupEntry, lookupEntry, ih]
      split
      next first => rw [if_neg (first ▸ same)]
      next => rfl

theorem get_erase (map : OrderedMap Key Value) (key other : Key) :
    (map.erase key).get other = if other = key then none else map.get other :=
  lookupEntry_filter key other map.entries

theorem lookupEntry_isSome {key : Key} {entries : List (Key × Value)} :
    (lookupEntry key entries).isSome ↔ key ∈ entries.map Prod.fst := by
  induction entries with
  | nil => simp [lookupEntry]
  | cons entry rest ih =>
    by_cases same : entry.1 = key
    · simp [lookupEntry, same]
    · simpa [lookupEntry, same, Ne.symm same] using ih

theorem lookupEntry_eq_lookup (key : Key) (entries : List (Key × Value)) :
    lookupEntry key entries = entries.lookup key := by
  induction entries with
  | nil => rfl
  | cons entry rest ih =>
    rw [lookupEntry, ih, lookup_cons]
    by_cases same : entry.1 = key
    · simp [same]
    · rw [if_neg same, beq_false_of_ne (Ne.symm same)]

theorem lookupEntry_map {Other : Type} (change : Value → Other) (key : Key)
    (entries : List (Key × Value)) :
    lookupEntry key (entries.map fun entry => (entry.1, change entry.2)) =
      (lookupEntry key entries).map change := by
  induction entries with
  | nil => rfl
  | cons entry rest ih =>
    simp only [map_cons, lookupEntry]
    split
    · rfl
    · exact ih

theorem get_mapValues (change : Value → Value) (map : OrderedMap Key Value) (key : Key) :
    (map.mapValues change).get key = (map.get key).map change :=
  lookupEntry_map change key map.entries

variable {key : Key} {map : OrderedMap Key Value}

theorem mem_keys : key ∈ map.keys ↔ ∃ value, map.get key = some value :=
  lookupEntry_isSome.symm.trans Option.isSome_iff_exists

theorem get_of_mem {map : OrderedMap Key Value} {entry : Key × Value}
    (listed : entry ∈ map.entries) : map.get entry.1 = some entry.2 := by
  have distinct := map.distinct
  rw [get]
  revert listed distinct
  induction map.entries with
  | nil => simp
  | cons first rest ih =>
    intro listed distinct
    obtain ⟨notLater, distinctRest⟩ := nodup_cons.mp distinct
    rcases mem_cons.mp listed with rfl | later
    · simp [lookupEntry]
    · have apart : first.1 ≠ entry.1 :=
        fun same => notLater (same ▸ mem_map_of_mem later)
      rw [lookupEntry, if_neg apart]
      exact ih later distinctRest

theorem keys_erase (map : OrderedMap Key Value) (key : Key) :
    (map.erase key).keys = map.keys.filter fun other => other ≠ key := by
  simp only [keys, erase, filter_map]
  rfl

theorem keys_insert_old (value : Value)
    (listed : key ∈ map.keys) : (map.insert key value).keys = map.keys := by
  rw [keys] at listed
  rw [keys, insert, insertEntry_keys, if_pos listed, keys]

theorem mem_keys_insert {other : Key} (value : Value) :
    other ∈ (map.insert key value).keys ↔ other = key ∨ other ∈ map.keys := by
  rw [keys, insert, insertEntry_keys, keys]
  split
  next listed =>
    constructor
    · exact Or.inr
    · rintro (rfl | present)
      · exact listed
      · exact present
  next =>
    rw [mem_append, mem_singleton]
    exact or_comm

/-! ### Maps whose values change one by one -/

/-- Two maps with the same keys and related values. -/
def Follows (related : Value → Value → Prop) (before after : OrderedMap Key Value) : Prop :=
  ∀ key, Option.Rel related (before.get key) (after.get key)

namespace Follows

variable {related : Value → Value → Prop} {before after : OrderedMap Key Value}

theorem of_eq (reflexive : ∀ value, related value value) (same : after = before) :
    before.Follows related after := by
  intro key
  rw [same]
  cases before.get key with
  | none => exact .none
  | some value => exact .some (reflexive value)

theorem trans (transitive : ∀ {first second third}, related first second →
      related second third → related first third) {last : OrderedMap Key Value}
    (left : before.Follows related after) (right : after.Follows related last) :
    before.Follows related last := by
  intro key
  have leftAt := left key
  have rightAt := right key
  generalize before.get key = first, after.get key = second, last.get key = third at *
  cases leftAt with
  | none =>
    cases rightAt
    exact .none
  | some moved =>
    cases rightAt with
    | some movedOn => exact .some (transitive moved movedOn)

theorem imp {weaker : Value → Value → Prop}
    (implies : ∀ {old new}, related old new → weaker old new)
    (follows : before.Follows related after) : before.Follows weaker after := by
  intro key
  have pair := follows key
  generalize before.get key = first, after.get key = second at *
  cases pair with
  | none => exact .none
  | some moved => exact .some (implies moved)

theorem insert (reflexive : ∀ value, related value value) {key : Key} {old new : Value}
    (present : before.get key = some old) (moved : related old new) :
    before.Follows related (before.insert key new) := by
  intro other
  rw [get_insert]
  split
  next same =>
    rw [same, present]
    exact .some moved
  next =>
    cases before.get other with
    | none => exact .none
    | some value => exact .some (reflexive value)

theorem mapValues {change : Value → Value} (moved : ∀ value, related value (change value)) :
    before.Follows related (before.mapValues change) := by
  intro key
  rw [get_mapValues]
  cases before.get key with
  | none => exact .none
  | some value => exact .some (moved value)

theorem forward (follows : before.Follows related after) {key : Key} {old : Value}
    (present : before.get key = some old) : ∃ new, after.get key = some new ∧ related old new := by
  have pair := follows key
  rw [present] at pair
  generalize after.get key = found at *
  cases pair with
  | some moved => exact ⟨_, rfl, moved⟩

theorem backward (follows : before.Follows related after) {key : Key} {new : Value}
    (present : after.get key = some new) : ∃ old, before.get key = some old ∧ related old new := by
  have pair := follows key
  rw [present] at pair
  generalize before.get key = found at *
  cases pair with
  | some moved => exact ⟨_, rfl, moved⟩

end Follows

/-! ### Weights -/

variable (weight : Value → Nat)

theorem total_insert_new (value : Value) (absent : map.get key = none) :
    (map.insert key value).total weight = map.total weight + weight value := by
  simp only [total, insert, get] at absent ⊢
  revert absent
  induction map.entries with
  | nil => simp [insertEntry]
  | cons entry rest ih =>
    intro absent
    by_cases same : entry.1 = key
    · simp [lookupEntry, same] at absent
    · have later : lookupEntry key rest = none := by simpa [lookupEntry, same] using absent
      simp only [insertEntry, if_neg same, map_cons, sum_cons, ih later]
      omega

theorem total_insert_old {old : Value} (value : Value) (present : map.get key = some old) :
    (map.insert key value).total weight + weight old = map.total weight + weight value := by
  simp only [total, insert, get] at present ⊢
  revert present
  induction map.entries with
  | nil => simp [lookupEntry]
  | cons entry rest ih =>
    intro present
    by_cases same : entry.1 = key
    · have first : entry.2 = old := by simpa [lookupEntry, same] using present
      simp only [insertEntry, if_pos same, map_cons, sum_cons, first]
      omega
    · have later : lookupEntry key rest = some old := by
        simpa [lookupEntry, same] using present
      have rest_total := ih later
      simp only [insertEntry, if_neg same, map_cons, sum_cons]
      omega

theorem total_erase {old : Value} (present : map.get key = some old) :
    (map.erase key).total weight + weight old = map.total weight := by
  have distinct := map.distinct
  simp only [total, erase, get] at present ⊢
  revert present distinct
  induction map.entries with
  | nil => simp [lookupEntry]
  | cons entry rest ih =>
    intro present distinct
    obtain ⟨notLater, distinctRest⟩ := nodup_cons.mp distinct
    by_cases same : entry.1 = key
    · have first : entry.2 = old := by simpa [lookupEntry, same] using present
      have kept : rest.filter (fun entry => entry.1 ≠ key) = rest := by
        rw [filter_eq_self]
        intro other listed
        have present : other.1 ∈ rest.map Prod.fst := mem_map_of_mem listed
        have different : other.1 ≠ key := fun equal => notLater (same ▸ equal ▸ present)
        simpa using different
      rw [filter_cons_of_neg (by simp [same]), kept, map_cons, sum_cons, first]
      omega
    · have later : lookupEntry key rest = some old := by
        simpa [lookupEntry, same] using present
      have rest_total := ih later distinctRest
      rw [filter_cons_of_pos (by simp [same]), map_cons, map_cons, sum_cons, sum_cons]
      omega

end OrderedMap

end SparkRoute.Lib
