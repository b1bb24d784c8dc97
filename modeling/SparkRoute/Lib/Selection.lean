import Mathlib.Data.List.Basic
import Mathlib.Order.Lattice

/-!
# Greedy selection of intervals

Intervals come in the order of their starts, and each one that does not overlap the
last one chosen is chosen.  The lemmas say how far more intervals can change what the
chosen ones cover.
-/

namespace SparkRoute.Lib

open List

variable {Item : Type}

/-- Chooses the items that start no earlier than the last chosen one stops. -/
def select (start stop : Item → Nat) (last : Nat) : List Item → List Item
  | [] => []
  | item :: rest =>
    if start item < last then select start stop last rest
    else item :: select start stop (stop item) rest

def Covers (start stop : Item → Nat) (items : List Item) (position : Nat) : Prop :=
  ∃ item ∈ items, start item ≤ position ∧ position < stop item

def Ordered (start : Item → Nat) (items : List Item) : Prop :=
  items.Pairwise fun first second => start first ≤ start second

section

variable {Key : Type} [LT Key] (start stop : Item → Nat) (key : Item → Key) (Among : Item → Prop)

/-- An item stands when every earlier one that reaches into it is dropped: an earlier one still,
its winner, stands and reaches into that one. -/
inductive Stands : Item → Prop
  | intro {item : Item} (winner : Item → Item) : Among item →
      (∀ other, Among other → key other < key item → start item < stop other →
        Stands (winner other)) →
      (∀ other, Among other → key other < key item → start item < stop other →
        key (winner other) < key other ∧ start other < stop (winner other)) →
      Stands item

end

variable {start stop : Item → Nat}

theorem select_sublist (last : Nat) (items : List Item) :
    (select start stop last items).Sublist items := by
  induction items generalizing last with
  | nil => exact List.Sublist.refl _
  | cons item rest ih =>
    rw [select]
    split
    · exact (ih last).cons item
    · exact (ih (stop item)).cons_cons item

variable {items : List Item}

theorem select_disjoint (nonempty : ∀ item ∈ items, start item < stop item) (last : Nat) :
    (select start stop last items).Pairwise (fun first second => stop first ≤ start second) ∧
      ∀ item ∈ select start stop last items, last ≤ start item := by
  induction items generalizing last with
  | nil => exact ⟨List.Pairwise.nil, fun item listed => nomatch listed⟩
  | cons item rest ih =>
    have later := ih fun other mem =>
      nonempty other (mem_cons_of_mem item mem)
    have itemNonempty := nonempty item mem_cons_self
    rw [select]
    split
    · exact later last
    · obtain ⟨disjoint, behind⟩ := later (stop item)
      refine ⟨List.Pairwise.cons behind disjoint, ?_⟩
      intro other mem
      rcases mem_cons.mp mem with rfl | chosen
      · omega
      · have above := behind other chosen
        omega

variable {position : Nat}

theorem covers_cons {item : Item} :
    Covers start stop (item :: items) position ↔
      (start item ≤ position ∧ position < stop item) ∨ Covers start stop items position :=
  exists_mem_cons_iff _ _ _

variable {last : Nat}

/-- Only the first item's start matters for the end of what was chosen before. -/
theorem select_clear (clear : ∀ item ∈ items, last ≤ start item) :
    select start stop last items = select start stop 0 items := by
  cases items with
  | nil => rfl
  | cons item rest =>
    have behind := clear item mem_cons_self
    rw [select, select, if_neg (Nat.not_lt.mpr behind), if_neg (Nat.not_lt_zero _)]

/-! ### The standing items -/

section

variable {Key : Type} [LinearOrder Key] {key : Item → Key} (injective : Function.Injective key)
  (sorted : items.Pairwise fun first second => key first ≤ key second)

include injective sorted

/-- An item that is passed over starts inside a chosen one before it. -/
theorem mem_select_or_inside {last : Nat} {item : Item} (behind : last ≤ start item)
    (listed : item ∈ items) :
    item ∈ select start stop last items ∨
      ∃ chosen ∈ select start stop last items, key chosen < key item ∧
        start item < stop chosen := by
  induction items generalizing last with
  | nil => cases listed
  | cons head rest ih =>
    obtain ⟨least, restSorted⟩ := pairwise_cons.mp sorted
    rw [select]
    by_cases same : head = item
    · rw [same, if_neg (Nat.not_lt.mpr behind)]
      exact .inl mem_cons_self
    have later := (mem_cons.mp listed).resolve_left (Ne.symm same)
    split
    next => exact ih restSorted behind later
    next =>
      by_cases inside : start item < stop head
      · exact .inr ⟨head, mem_cons_self,
          lt_of_le_of_ne (least item later) (injective.ne same), inside⟩
      · refine (ih restSorted (Nat.le_of_not_lt inside) later).imp (mem_cons_of_mem _) ?_
        rintro ⟨chosen, mem, facts⟩
        exact ⟨chosen, mem_cons_of_mem _ mem, facts⟩

variable (nonempty : ∀ item ∈ items, start item < stop item)

omit injective

include nonempty

theorem select_stop_le {first second : Item} (chosen : first ∈ select start stop 0 items)
    (other : second ∈ select start stop 0 items) (before : key first < key second) :
    stop first ≤ start second := by
  have disjoint := (select_disjoint nonempty 0).1.and (sorted.sublist (select_sublist 0 items))
  obtain ⟨front, behind, parts⟩ := append_of_mem other
  rw [parts] at disjoint chosen
  obtain ⟨_, later, across⟩ := pairwise_append.mp disjoint
  rcases mem_append.mp chosen with earlier | own
  · exact (across first earlier second mem_cons_self).1
  · rcases mem_cons.mp own with rfl | own
    · exact absurd before (lt_irrefl _)
    · exact absurd before (not_lt.mpr (rel_of_pairwise_cons later own).2)

include injective

theorem Stands.mem_select {item : Item} (standing : Stands start stop key (· ∈ items) item) :
    item ∈ select start stop 0 items := by
  induction standing with
  | intro winner listed _ drops chosen =>
    rcases mem_select_or_inside injective sorted (Nat.zero_le _) listed with
      own | ⟨earlier, taken, before, inside⟩
    · exact own
    · -- The one it starts inside was taken, but so was the winner over that one.
      have among := (select_sublist 0 items).subset taken
      obtain ⟨first, reaches⟩ := drops earlier among before inside
      have apart := select_stop_le sorted nonempty (chosen earlier among before inside) taken first
      exact absurd reaches (Nat.not_lt.mpr apart)

/-- The chosen items are the standing ones. -/
theorem stands_iff_mem_select {item : Item} :
    Stands start stop key (· ∈ items) item ↔ item ∈ select start stop 0 items := by
  refine ⟨Stands.mem_select injective sorted nonempty, fun chosen => ?_⟩
  -- An item that was passed over starts inside a chosen one, which starts before this one.
  induction size : start item using Nat.strongRecOn generalizing item with
  | ind size ih =>
    have dropped : ∀ other, ∃ winner, other ∈ items → key other < key item →
        start item < stop other → Stands start stop key (· ∈ items) winner ∧
          key winner < key other ∧ start other < stop winner := by
      intro other
      by_cases reaching : other ∈ items ∧ key other < key item ∧ start item < stop other
      · obtain ⟨listed, before, inside⟩ := reaching
        rcases mem_select_or_inside injective sorted (Nat.zero_le _) listed with
          taken | ⟨earlier, taken, first, reaches⟩
        · have apart := select_stop_le sorted nonempty taken chosen before
          exact absurd inside (Nat.not_lt.mpr apart)
        · have apart := select_stop_le sorted nonempty taken chosen (lt_trans first before)
          have positive := nonempty earlier ((select_sublist 0 items).subset taken)
          exact ⟨earlier, fun _ _ _ => ⟨ih (start earlier) (by omega) taken rfl, first, reaches⟩⟩
      · exact ⟨other, fun listed before inside => absurd ⟨listed, before, inside⟩ reaching⟩
    choose winner facts using dropped
    exact .intro winner ((select_sublist 0 items).subset chosen)
      (fun other listed before inside => (facts other listed before inside).1)
      fun other listed before inside => (facts other listed before inside).2

end

/-! ### More intervals -/

/-- Two parts with a border between them are chosen from separately. -/
theorem select_append {border : Nat} {first second : List Item} (before : last ≤ border)
    (within : ∀ item ∈ first, stop item ≤ border) (behind : ∀ item ∈ second, border ≤ start item) :
    select start stop last (first ++ second) =
      select start stop last first ++ select start stop 0 second := by
  induction first generalizing last with
  | nil => exact select_clear fun item mem => Nat.le_trans before (behind item mem)
  | cons item rest ih =>
    have itemWithin := within item mem_cons_self
    have restWithin := fun other mem =>
      within other (mem_cons_of_mem item mem)
    rw [cons_append, select, select]
    split
    · exact ih before restWithin
    · rw [ih itemWithin restWithin, cons_append]

theorem select_map {shift : Item → Item} {distance : Nat}
    (moved : ∀ item, start (shift item) = start item + distance)
    (movedStop : ∀ item, stop (shift item) = stop item + distance) (last : Nat)
    (items : List Item) :
    select start stop (last + distance) (items.map shift) =
      (select start stop last items).map shift := by
  induction items generalizing last with
  | nil => rfl
  | cons item rest ih =>
    have compared : start item + distance < last + distance ↔ start item < last := by omega
    rw [map_cons, select, select, moved, movedStop]
    simp only [compared]
    split
    · exact ih last
    · rw [ih (stop item), map_cons]

variable {keep : Item → Bool}

/-- Further items cover more when each of them, once chosen, covers what was chosen behind
it. -/
theorem covers_of_filter
    (displaces : ∀ item rest last, item :: rest <:+ items → keep item = false → last ≤ start item →
      Covers start stop (select start stop last (rest.filter keep)) position →
        Covers start stop (item :: select start stop (stop item) rest) position)
    (covered : Covers start stop (select start stop last (items.filter keep)) position) :
    Covers start stop (select start stop last items) position := by
  induction items generalizing last with
  | nil => exact covered
  | cons item rest ih =>
    have later := fun last => @ih last fun other behind last suffix =>
      displaces other behind last (suffix.trans (suffix_cons item rest))
    rw [select]
    by_cases kept : keep item = true
    · rw [filter_cons_of_pos kept, select] at covered
      split
      next overlaps =>
        rw [if_pos overlaps] at covered
        exact later last covered
      next free =>
        rw [if_neg free] at covered
        rw [covers_cons] at covered ⊢
        exact covered.imp_right (later (stop item))
    · rw [filter_cons_of_neg kept] at covered
      split
      next => exact later last covered
      next free =>
        exact displaces item rest last suffix_rfl (Bool.eq_false_iff.mpr kept)
          (Nat.le_of_not_lt free) covered

/-- Further items that reach to the border cover more. -/
theorem covers_of_filter_reaching {border : Nat} (ordered : Ordered start items)
    (within : ∀ item ∈ items, stop item ≤ border)
    (reaching : ∀ item ∈ items, keep item = false → stop item = border)
    (covered : Covers start stop (select start stop last (items.filter keep)) position) :
    Covers start stop (select start stop last items) position := by
  refine covers_of_filter (fun item rest last suffix dropped _ covered => ?_) covered
  obtain ⟨other, chosen, above, below⟩ := covered
  have behind := (mem_filter.mp ((select_sublist last _).subset chosen)).1
  have reaches := reaching item (suffix.subset mem_cons_self) dropped
  have otherWithin := within other (suffix.subset (mem_cons_of_mem item behind))
  have otherLater := rel_of_pairwise_cons (ordered.sublist suffix.sublist) behind
  exact covers_cons.mpr (Or.inl ⟨by omega, by omega⟩)

/-- Behind a further item that was chosen: what it displaces it covers. -/
theorem covers_behind {front : Nat} {taken : Item} (ordered : Ordered start items)
    (late : ∀ item ∈ items, start taken ≤ start item) (before : last ≤ stop taken)
    (atFront : ∀ item ∈ items, keep item = false → start item = front)
    (takenFront : start taken = front) (nonempty : start taken < stop taken)
    (covering : ∀ item ∈ items, start item < stop taken → stop item ≤ stop taken)
    (covered : Covers start stop (select start stop last (items.filter keep)) position) :
    Covers start stop (taken :: select start stop (stop taken) items) position := by
  induction items generalizing last with
  | nil =>
    obtain ⟨item, chosen, _⟩ := covered
    cases chosen
  | cons item rest ih =>
    obtain ⟨least, restOrdered⟩ := pairwise_cons.mp ordered
    have restLate := fun other mem => late other (mem_cons_of_mem item mem)
    have restFront := fun other mem =>
      atFront other (mem_cons_of_mem item mem)
    have restCovering := fun other mem =>
      covering other (mem_cons_of_mem item mem)
    have later := fun last before =>
      @ih last restOrdered restLate before restFront restCovering
    have itemLate := late item mem_cons_self
    have itemCovering := covering item mem_cons_self
    by_cases overlaps : start item < stop taken
    · rw [select, if_pos overlaps]
      by_cases kept : keep item = true
      · rw [filter_cons_of_pos kept, select] at covered
        split at covered
        · exact later last before covered
        · rcases covers_cons.mp covered with inside | behind
          · exact covers_cons.mpr (Or.inl ⟨by omega, by have := itemCovering overlaps; omega⟩)
          · exact later (stop item) (itemCovering overlaps) behind
      · rw [filter_cons_of_neg kept] at covered
        exact later last before covered
    · have all : (item :: rest).filter keep = item :: rest := by
        rw [filter_eq_self]
        intro other mem
        by_contra dropped
        have front := atFront other mem (Bool.eq_false_iff.mpr dropped)
        rcases mem_cons.mp mem with rfl | behind
        · omega
        · have above := least other behind
          omega
      rw [all, select, if_neg (by omega)] at covered
      rw [select, if_neg overlaps, covers_cons]
      exact Or.inr covered

/-- Further items at the front cover more when no item reaches beyond one that it
overlaps. -/
theorem covers_of_filter_front {front : Nat} (ordered : Ordered start items)
    (nonempty : ∀ item ∈ items, start item < stop item)
    (atFront : ∀ item ∈ items, keep item = false → start item = front)
    (covering : ∀ taken ∈ items, keep taken = false → ∀ item ∈ items,
      start item < stop taken → stop item ≤ stop taken)
    (covered : Covers start stop (select start stop last (items.filter keep)) position) :
    Covers start stop (select start stop last items) position := by
  refine covers_of_filter (fun item rest last suffix dropped before covered => ?_) covered
  obtain ⟨least, restOrdered⟩ := pairwise_cons.mp (ordered.sublist suffix.sublist)
  have listed := suffix.subset mem_cons_self
  have later : ∀ other ∈ rest, other ∈ items := fun other mem =>
    suffix.subset (mem_cons_of_mem item mem)
  have itemNonempty := nonempty item listed
  apply covers_behind restOrdered least _ (fun other mem => atFront other (later other mem))
    (atFront item listed dropped) itemNonempty _ covered
  · omega
  · exact fun other mem => covering item listed dropped other (later other mem)

end SparkRoute.Lib
