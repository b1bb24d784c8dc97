import SparkRoute.Lib.OrderedMap

/-!
# Overlaid maps

Entries laid over a base, where a key of both takes a value combined from the two.  When
the combination is stable under repetition, so is the overlay.  Trees of maps are overlaid
level by level.
-/

namespace SparkRoute.Lib

namespace OrderedMap

section Entries

variable {Key Value : Type} [DecidableEq Key]

variable {entries : List (Key × Value)}

theorem lookupEntry_mem {key : Key} {value : Value}
    (found : lookupEntry key entries = some value) : (key, value) ∈ entries := by
  induction entries with
  | nil => cases found
  | cons entry rest ih =>
    by_cases same : entry.1 = key
    · simp only [lookupEntry, same, if_true, Option.some.injEq] at found
      simp [← same, ← found]
    · simp only [lookupEntry, same, if_false] at found
      exact List.mem_cons_of_mem _ (ih found)

/-- Entries with the same distinct keys and the same values are the same list. -/
theorem entries_ext {left right : List (Key × Value)} (distinct : (left.map Prod.fst).Nodup)
    (keys : left.map Prod.fst = right.map Prod.fst)
    (values : ∀ key, lookupEntry key left = lookupEntry key right) : left = right := by
  induction left generalizing right with
  | nil =>
    cases right with
    | nil => rfl
    | cons entry rest => cases keys
  | cons entry rest ih =>
    cases right with
    | nil => cases keys
    | cons other others =>
      obtain ⟨name, value⟩ := entry
      obtain ⟨name', value'⟩ := other
      simp only [List.map_cons, List.cons.injEq] at keys
      obtain ⟨rfl, keys⟩ := keys
      obtain ⟨notLater, distinct⟩ := List.nodup_cons.mp distinct
      have first := values name
      simp only [lookupEntry, if_true, Option.some.injEq] at first
      have later : rest = others := by
        apply ih distinct keys
        intro key
        by_cases same : name = key
        · have absent : ∀ {entries : List (Key × Value)},
              name ∉ entries.map Prod.fst → lookupEntry key entries = none := by
            intro entries missing
            rw [← same, ← Option.not_isSome_iff_eq_none]
            exact fun found => missing (lookupEntry_isSome.mp found)
          rw [absent notLater, absent (keys ▸ notLater)]
        · simpa [lookupEntry, same] using values key
      rw [first, later]

variable (combine : Option Value → Value → Value)

/-- Lay entries over a base; the combination sees the value the base holds. -/
def overlayEntries : List (Key × Value) → List (Key × Value) → List (Key × Value)
  | base, [] => base
  | base, entry :: rest =>
    overlayEntries (insertEntry entry.1 (combine (lookupEntry entry.1 base) entry.2) base) rest

variable {base top : List (Key × Value)}

theorem insertEntry_map {Other : Type} (change : Value → Other) (key : Key) (value : Value)
    (entries : List (Key × Value)) :
    (insertEntry key value entries).map (fun entry => (entry.1, change entry.2)) =
      insertEntry key (change value) (entries.map fun entry => (entry.1, change entry.2)) := by
  induction entries with
  | nil => rfl
  | cons entry rest ih =>
    simp only [List.map_cons, insertEntry]
    split
    · rfl
    · simp only [List.map_cons, ih]

theorem overlayEntries_map {Other : Type} (change : Value → Other)
    {combined : Option Other → Other → Other} (agree : ∀ held value, change (combine held value) =
      combined (held.map change) (change value)) :
    (overlayEntries combine base top).map (fun entry => (entry.1, change entry.2)) =
      overlayEntries combined (base.map fun entry => (entry.1, change entry.2))
        (top.map fun entry => (entry.1, change entry.2)) := by
  induction top generalizing base with
  | nil => rfl
  | cons entry rest ih =>
    rw [overlayEntries, ih, insertEntry_map, agree, List.map_cons, overlayEntries, lookupEntry_map]

theorem overlayEntries_lookup (distinct : (top.map Prod.fst).Nodup) (key : Key) :
    lookupEntry key (overlayEntries combine base top) =
      match lookupEntry key top with
      | none => lookupEntry key base
      | some value => some (combine (lookupEntry key base) value) := by
  induction top generalizing base with
  | nil => rfl
  | cons entry rest ih =>
    obtain ⟨notLater, distinct⟩ := List.nodup_cons.mp distinct
    rw [overlayEntries, ih distinct, lookupEntry_insertEntry]
    by_cases same : entry.1 = key
    · have absent : lookupEntry key rest = none := by
        rw [← Option.not_isSome_iff_eq_none]
        exact fun found => notLater (same ▸ lookupEntry_isSome.mp found)
      simp only [absent, lookupEntry, same, if_true]
    · simp only [lookupEntry, same, Ne.symm same, if_false]

theorem overlayEntries_keys (distinct : (top.map Prod.fst).Nodup) :
    (overlayEntries combine base top).map Prod.fst =
      base.map Prod.fst ++ (top.map Prod.fst).filter fun key => key ∉ base.map Prod.fst := by
  induction top generalizing base with
  | nil => simp [overlayEntries]
  | cons entry rest ih =>
    obtain ⟨notLater, distinct⟩ := List.nodup_cons.mp distinct
    rw [overlayEntries, ih distinct, insertEntry_keys, List.map_cons]
    by_cases listed : entry.1 ∈ base.map Prod.fst
    · rw [if_pos listed, List.filter_cons_of_neg (by simpa using listed)]
    · rw [if_neg listed, List.filter_cons_of_pos (by simpa using listed), List.append_assoc]
      congr 1
      rw [List.singleton_append]
      congr 1
      apply List.filter_congr
      intro key later
      have different : key ≠ entry.1 := fun same => notLater (same ▸ later)
      simp [different]

theorem overlayEntries_distinct
    (distinct : (base.map Prod.fst).Nodup) (distinctOver : (top.map Prod.fst).Nodup) :
    ((overlayEntries combine base top).map Prod.fst).Nodup := by
  rw [overlayEntries_keys combine distinctOver]
  apply List.nodup_append.mpr
  refine ⟨distinct, distinctOver.filter _, ?_⟩
  intro key old other new same
  have fresh := (List.mem_filter.mp new).2
  simp only [decide_eq_true_eq] at fresh
  exact fresh (same ▸ old)

theorem overlayEntries_self (distinct : (entries.map Prod.fst).Nodup)
    (self : ∀ {key value}, lookupEntry key entries = some value →
      combine (some value) value = value) : overlayEntries combine entries entries = entries := by
  apply entries_ext (overlayEntries_distinct combine distinct distinct)
  · rw [overlayEntries_keys combine distinct, List.filter_eq_nil_iff.mpr, List.append_nil]
    intro key listed
    simpa using listed
  · intro key
    rw [overlayEntries_lookup combine distinct]
    cases held : lookupEntry key entries with
    | none => rfl
    | some value => simp only [self held]

/-- What the overlay keeps of the base is its own combination with itself. -/
theorem overlayEntries_again
    (distinct : (base.map Prod.fst).Nodup) (distinctOver : (top.map Prod.fst).Nodup)
    (self : ∀ {key value}, lookupEntry key base = some value → combine (some value) value = value)
    (again : ∀ {key value}, lookupEntry key top = some value →
      combine (lookupEntry key base) (combine (lookupEntry key base) value) =
        combine (lookupEntry key base) value) :
    overlayEntries combine base (overlayEntries combine base top) =
      overlayEntries combine base top := by
  have merged := overlayEntries_distinct combine distinct distinctOver
  apply entries_ext (overlayEntries_distinct combine distinct merged)
  · rw [overlayEntries_keys combine merged, overlayEntries_keys combine distinctOver,
    List.filter_append,
      List.filter_filter]
    have none_left : (base.map Prod.fst).filter (fun key => key ∉ base.map Prod.fst) = [] := by
      apply List.filter_eq_nil_iff.mpr
      intro key listed
      simpa using listed
    simp only [none_left, List.nil_append, Bool.and_self]
  · intro key
    rw [overlayEntries_lookup combine merged, overlayEntries_lookup combine distinctOver]
    cases present : lookupEntry key top with
    | none =>
      cases held : lookupEntry key base with
      | none => rfl
      | some value => simp only [self held]
    | some value => simp only [again present]

end Entries

variable {Key Value : Type} [DecidableEq Key]

def overlay (combine : Option Value → Value → Value) (base top : OrderedMap Key Value) :
    OrderedMap Key Value where
  entries := overlayEntries combine base.entries top.entries
  distinct := overlayEntries_distinct combine base.distinct top.distinct

variable {combine : Option Value → Value → Value}

theorem overlay_self (self : ∀ value, combine (some value) value = value)
    (map : OrderedMap Key Value) : map.overlay combine map = map := by
  have entries := overlayEntries_self combine map.distinct fun _ => self _
  cases map
  simp only [overlay, OrderedMap.mk.injEq]
  exact entries

theorem overlay_again (self : ∀ value, combine (some value) value = value)
    (again : ∀ held value, combine held (combine held value) = combine held value)
    (base top : OrderedMap Key Value) :
    base.overlay combine (base.overlay combine top) = base.overlay combine top := by
  have entries := overlayEntries_again combine base.distinct top.distinct
    (fun _ => self _) (fun _ => again _ _)
  simpa only [overlay, OrderedMap.mk.injEq] using entries

end OrderedMap

/-! ### Trees of maps -/

/-- A document of lists and maps over leaves. -/
inductive Tree (Key Leaf : Type) where
  | leaf (content : Leaf)
  | sequence (items : List (Tree Key Leaf))
  | mapping (members : List (Key × Tree Key Leaf))

namespace Tree

open OrderedMap

variable {Key Leaf : Type}

/-- No map of the tree has a key twice. -/
inductive Distinct : Tree Key Leaf → Prop where
  | leaf (content : Leaf) : Distinct (.leaf content)
  | sequence {items : List (Tree Key Leaf)} (inner : ∀ item ∈ items, Distinct item) :
      Distinct (.sequence items)
  | mapping {members : List (Key × Tree Key Leaf)} (keys : (members.map Prod.fst).Nodup)
      (inner : ∀ member ∈ members, Distinct member.2) : Distinct (.mapping members)

variable [DecidableEq Key]

mutual

/-- Maps are overlaid member by member; anything else replaces the base. -/
def overlay (base : Option (Tree Key Leaf)) : Tree Key Leaf → Tree Key Leaf
  | .leaf content => .leaf content
  | .sequence items => .sequence items
  | .mapping members =>
    match base with
    | some (.mapping inherited) => .mapping (overlayMembers inherited members)
    | _ => .mapping members

def overlayMembers (base : List (Key × Tree Key Leaf)) :
    List (Key × Tree Key Leaf) → List (Key × Tree Key Leaf)
  | [] => base
  | (key, value) :: rest =>
    overlayMembers (insertEntry key (overlay (lookupEntry key base) value) base) rest

end

theorem overlayMembers_eq (base top : List (Key × Tree Key Leaf)) :
    overlayMembers base top = overlayEntries overlay base top := by
  induction top generalizing base with
  | nil => simp only [overlayMembers, overlayEntries]
  | cons entry rest ih =>
    simp only [overlayMembers, overlayEntries, ih]

theorem overlay_mapping (inherited members : List (Key × Tree Key Leaf)) :
    overlay (some (.mapping inherited)) (.mapping members) =
      .mapping (overlayEntries overlay inherited members) := by
  simp only [overlay, overlayMembers_eq]

/-- The value at a path of members. An `element` may find a value in a sequence. -/
def resolve (element : Key → List (Tree Key Leaf) → Option (Tree Key Leaf)) :
    List Key → Tree Key Leaf → Option (Tree Key Leaf)
  | [], tree => some tree
  | key :: path, .mapping members => (lookupEntry key members).bind (resolve element path)
  | key :: path, .sequence items => (element key items).bind (resolve element path)
  | _ :: _, .leaf _ => none

/-- The value at a path of members, unless it is itself a map. -/
def leafAt : List Key → Tree Key Leaf → Option (Tree Key Leaf)
  | [], .mapping _ => none
  | [], tree => some tree
  | key :: path, .mapping members => (lookupEntry key members).bind (leafAt path)
  | _ :: _, _ => none

variable {base : Option (Tree Key Leaf)} {top : Tree Key Leaf}

theorem Distinct.overlay (distinct : top.Distinct)
    (held : ∀ tree, base = some tree → tree.Distinct) : (overlay base top).Distinct := by
  induction distinct generalizing base with
  | leaf content => exact .leaf content
  | sequence inner _ => exact .sequence inner
  | @mapping members keys inner ih =>
    match base, held with
    | none, _ => exact .mapping keys inner
    | some (.leaf _), _ => exact .mapping keys inner
    | some (.sequence _), _ => exact .mapping keys inner
    | some (.mapping inherited), held =>
      cases held _ rfl with
      | mapping keysHeld innerHeld =>
        rw [overlay_mapping]
        have merged := overlayEntries_distinct Tree.overlay keysHeld keys
        apply Distinct.mapping merged
        intro member listed
        have found : lookupEntry member.1 _ = some member.2 :=
          @get_of_mem _ _ _ ⟨_, merged⟩ member listed
        rw [overlayEntries_lookup Tree.overlay keys] at found
        have inherits : ∀ {key tree}, lookupEntry key inherited = some tree →
            tree.Distinct := fun present => innerHeld _ (lookupEntry_mem present)
        cases present : lookupEntry member.1 members with
        | none =>
          rw [present] at found
          exact inherits found
        | some value =>
          simp only [present, Option.some.injEq] at found
          rw [← found]
          apply ih _ (lookupEntry_mem present)
          exact fun _ => inherits

theorem Distinct.overlay_self {tree : Tree Key Leaf} (distinct : tree.Distinct) :
    Tree.overlay (some tree) tree = tree := by
  induction distinct with
  | leaf content | sequence inner _ => simp only [Tree.overlay]
  | @mapping members keys inner ih =>
    rw [overlay_mapping]
    congr 1
    apply overlayEntries_self _ keys
    intro key value present
    exact ih _ (lookupEntry_mem present)

theorem Distinct.overlay_again (distinct : top.Distinct)
    (held : ∀ tree, base = some tree → tree.Distinct) :
    Tree.overlay base (Tree.overlay base top) = Tree.overlay base top := by
  induction distinct generalizing base with
  | leaf content | sequence inner _ => simp only [Tree.overlay]
  | @mapping members keys inner ih =>
    match base, held with
    | none, _ => simp only [Tree.overlay]
    | some (.leaf _), _ => simp only [Tree.overlay]
    | some (.sequence _), _ => simp only [Tree.overlay]
    | some (.mapping inherited), held =>
      cases held _ rfl with
      | mapping keysHeld innerHeld =>
        rw [overlay_mapping, overlay_mapping]
        congr 1
        apply overlayEntries_again _ keysHeld keys
        · intro key value present
          exact (innerHeld _ (lookupEntry_mem present)).overlay_self
        · intro key value present
          apply ih _ (lookupEntry_mem present)
          exact fun tree found => innerHeld _ (lookupEntry_mem found)

end Tree

end SparkRoute.Lib
