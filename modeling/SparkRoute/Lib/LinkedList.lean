import Mathlib.Data.List.Nodup

/-!
# Linked lists with element handles

A list whose elements are addressed by handles.  A handle is given out once: a new element
gets a number that no element had before, and moving an element keeps its handle.
-/

namespace SparkRoute.Lib

open List

structure LinkedList (Value : Type) where
  elements : List (Nat × Value)
  fresh : Nat
  distinct : (elements.map Prod.fst).Nodup
  issued : ∀ element ∈ elements, element.1 < fresh

namespace LinkedList

variable {Value : Type}

def empty : LinkedList Value where
  elements := []
  fresh := 0
  distinct := nodup_nil
  issued := by simp

def front (list : LinkedList Value) : Option (Nat × Value) := list.elements.head?

def without (handle : Nat) (elements : List (Nat × Value)) : List (Nat × Value) :=
  elements.filter fun element => element.1 ≠ handle

def remove (list : LinkedList Value) (handle : Nat) : LinkedList Value where
  elements := without handle list.elements
  fresh := list.fresh
  distinct := list.distinct.sublist (filter_sublist.map Prod.fst)
  issued := fun element listed => list.issued element (mem_filter.mp listed).1

def pushBack (list : LinkedList Value) (value : Value) : LinkedList Value where
  elements := list.elements ++ [(list.fresh, value)]
  fresh := list.fresh + 1
  distinct := by
    rw [map_append, nodup_append]
    refine ⟨list.distinct, by simp, ?_⟩
    intro old listed new single same
    obtain ⟨element, mem, rfl⟩ := mem_map.mp listed
    have below := list.issued element mem
    simp only [map_cons, map_nil, mem_singleton] at single
    omega
  issued := forall_mem_append.mpr ⟨fun element old => Nat.lt_succ_of_lt (list.issued element old),
    forall_mem_singleton.mpr (Nat.lt_succ_self _)⟩

/-- The element moves behind all others; nothing happens when it is not in the list. -/
def moveToBack (list : LinkedList Value) (handle : Nat) : LinkedList Value where
  elements := without handle list.elements ++
    list.elements.filter fun element => element.1 = handle
  fresh := list.fresh
  distinct := by
    rw [map_append, nodup_append]
    refine ⟨list.distinct.sublist (filter_sublist.map Prod.fst),
      list.distinct.sublist (filter_sublist.map Prod.fst), ?_⟩
    intro first listed second moved same
    obtain ⟨one, oneListed, rfl⟩ := mem_map.mp listed
    obtain ⟨two, twoListed, rfl⟩ := mem_map.mp moved
    have apart := (mem_filter.mp oneListed).2
    have chosen := (mem_filter.mp twoListed).2
    simp only [ne_eq, decide_eq_true_eq] at apart chosen
    exact apart (same.trans chosen)
  issued := by
    intro element listed
    rcases mem_append.mp listed with kept | moved
    · exact list.issued element (mem_filter.mp kept).1
    · exact list.issued element (mem_filter.mp moved).1

variable {list : LinkedList Value} {element : Nat × Value}

theorem mem_remove {handle : Nat} :
    element ∈ (list.remove handle).elements ↔ element ∈ list.elements ∧ element.1 ≠ handle := by
  simp [remove, without]

theorem mem_pushBack {value : Value} :
    element ∈ (list.pushBack value).elements ↔
      element ∈ list.elements ∨ element = (list.fresh, value) := by
  simp [pushBack]

theorem mem_moveToBack {handle : Nat} :
    element ∈ (list.moveToBack handle).elements ↔ element ∈ list.elements := by
  simp only [moveToBack, without, mem_append, mem_filter, ne_eq, decide_eq_true_eq]
  constructor
  · rintro (kept | moved)
    · exact kept.1
    · exact moved.1
  · intro listed
    by_cases same : element.1 = handle
    · exact Or.inr ⟨listed, same⟩
    · exact Or.inl ⟨listed, same⟩

end LinkedList

end SparkRoute.Lib
