import Mathlib.Data.List.Sort

/-!
# Stable reordering

A stable sort by a key refines an order that the list already has: elements
with equal keys keep it.  A partition that moves a part to the front is the same
with a key of two values.
-/

namespace SparkRoute.Lib

open List

variable {Element Key : Type*} [LinearOrder Key]

/-- A stable sort by ascending key. -/
def sortByKey (key : Element → Key) (elements : List Element) : List Element :=
  elements.mergeSort fun first second => key first ≤ key second

variable (key : Element → Key)

theorem keyLE_trans (first second third : Element) (below : decide (key first ≤ key second) = true)
    (above : decide (key second ≤ key third) = true) : decide (key first ≤ key third) = true := by
  simp only [decide_eq_true_eq] at below above ⊢
  exact le_trans below above

theorem keyLE_total (first second : Element) :
    (decide (key first ≤ key second) || decide (key second ≤ key first)) = true := by
  simp only [Bool.or_eq_true, decide_eq_true_eq]
  exact le_total _ _

theorem sortByKey_perm (elements : List Element) : (sortByKey key elements).Perm elements :=
  mergeSort_perm _ _

theorem sortByKey_sorted (elements : List Element) :
    (sortByKey key elements).Pairwise fun first second => key first ≤ key second := by
  have sorted := pairwise_mergeSort (keyLE_trans key) (keyLE_total key) elements
  simpa only [sortByKey, decide_eq_true_eq] using sorted

variable {elements : List Element}

/-- With distinct keys only one order is sorted. -/
theorem sortByKey_eq_of_perm {key : Element → Key} (distinct : Function.Injective key)
    {sorted : List Element} (same : sorted.Perm elements)
    (ascending : sorted.Pairwise fun first second => key first ≤ key second) :
    sortByKey key elements = sorted := by
  have permuted := (sortByKey_perm key elements).trans same.symm
  apply permuted.eq_of_pairwise _ (sortByKey_sorted key elements) ascending
  intro first second _ _ below above
  exact distinct (le_antisymm below above)

theorem sortByKey_eq_self (sorted : elements.Pairwise fun first second => key first ≤ key second) :
    sortByKey key elements = elements := by
  apply mergeSort_of_pairwise
  exact sorted.imp decide_eq_true

/-- A new head goes before the first element that it is not above. -/
theorem sortByKey_cons (head : Element) (elements : List Element) :
    sortByKey key (head :: elements) =
      (sortByKey key elements).orderedInsert (fun first second => key first ≤ key second) head := by
  obtain ⟨smaller, rest, shape, tail, above⟩ :=
    mergeSort_cons (keyLE_trans key) (keyLE_total key) head elements
  have sorted := sortByKey_sorted key (head :: elements)
  rw [sortByKey, shape] at sorted
  have below := (pairwise_cons.mp (pairwise_append.mp sorted).2.1).1
  simp only [Bool.not_eq_true', decide_eq_false_iff_not] at above
  rw [sortByKey, sortByKey, shape, tail, orderedInsert_eq_take_drop,
    takeWhile_append_of_pos (by simpa using above), dropWhile_append_of_pos (by simpa using above)]
  cases rest with
  | nil => simp
  | cons next rest => simp [below next mem_cons_self]

/-- Unlike the merge, the insertions are structural: they evaluate. -/
theorem sortByKey_eq_insertionSort (elements : List Element) :
    sortByKey key elements =
      elements.insertionSort (fun first second => key first ≤ key second) := by
  induction elements with
  | nil => simp [sortByKey]
  | cons head elements ih => rw [sortByKey_cons, ih, insertionSort_cons]

/-- The elements with one key value stand in their original order. -/
theorem filter_sortByKey (value : Key) (elements : List Element) :
    (sortByKey key elements).filter (fun element => key element = value) =
      elements.filter fun element => key element = value := by
  have alike : (elements.filter fun element => key element = value).Pairwise
      fun first second => decide (key first ≤ key second) = true := by
    rw [pairwise_iff_forall_sublist]
    intro first second pair
    have firstKept := pair.subset mem_cons_self
    have secondKept := pair.subset (mem_cons_of_mem _ mem_cons_self)
    simp only [mem_filter, decide_eq_true_eq] at firstKept secondKept ⊢
    rw [firstKept.2, secondKept.2]
  have inside : (elements.filter fun element => key element = value).Sublist
      (sortByKey key elements) :=
    sublist_mergeSort (keyLE_trans key) (keyLE_total key) alike filter_sublist
  have kept := inside.filter fun element => decide (key element = value)
  simp only [filter_filter, Bool.and_self] at kept
  have sameLength := ((sortByKey_perm key elements).filter
    fun element => decide (key element = value)).length_eq
  exact (kept.eq_of_length sameLength.symm).symm

variable {related : Element → Element → Prop}

/-- Sorting by a key refines any order the list already has. -/
theorem sortByKey_refines (ordered : elements.Pairwise related) :
    (sortByKey key elements).Pairwise fun first second =>
      key first < key second ∨ key first = key second ∧ related first second := by
  rw [pairwise_iff_forall_sublist]
  intro first second pair
  have below := pairwise_iff_forall_sublist.mp (sortByKey_sorted key elements) pair
  rcases lt_or_eq_of_le below with less | same
  · exact Or.inl less
  · refine Or.inr ⟨same, ?_⟩
    have kept := pair.filter fun element => decide (key element = key second)
    rw [filter_sortByKey] at kept
    simp only [filter_cons, filter_nil, same, decide_true, if_true] at kept
    exact pairwise_iff_forall_sublist.mp ordered (kept.trans filter_sublist)

/-- Moving the elements that satisfy `front` ahead keeps the order otherwise. -/
theorem partition_refines (front : Element → Bool) (ordered : elements.Pairwise related) :
    (elements.filter front ++ elements.filter fun element => !front element).Pairwise
      fun first second => (front first = true ∧ front second = false) ∨
        front first = front second ∧ related first second := by
  apply pairwise_append.mpr
  refine ⟨?_, ?_, ?_⟩
  · apply (List.Pairwise.filter front ordered).imp_of_mem
    intro first second firstKept secondKept pair
    simp only [mem_filter] at firstKept secondKept
    exact Or.inr ⟨firstKept.2.trans secondKept.2.symm, pair⟩
  · apply (List.Pairwise.filter (fun element => !front element) ordered).imp_of_mem
    intro first second firstKept secondKept pair
    simp only [mem_filter, Bool.not_eq_true'] at firstKept secondKept
    exact Or.inr ⟨firstKept.2.trans secondKept.2.symm, pair⟩
  · intro first firstKept second secondKept
    simp only [mem_filter, Bool.not_eq_true'] at firstKept secondKept
    exact Or.inl ⟨firstKept.2, secondKept.2⟩

end SparkRoute.Lib
