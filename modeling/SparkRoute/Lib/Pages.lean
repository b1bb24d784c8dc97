import Mathlib.Data.List.Nodup
import Mathlib.Order.Lattice

/-!
# Walking a sorted list page by page

A page holds `limit` items after a key.  The walk goes on after the key that `resume`
makes of the last item's key, which need not be that key.  It is complete when at the
end of every page the two keys part the list alike.
-/

namespace SparkRoute.Lib

open List Option

variable {Item Key : Type} [LinearOrder Key]

namespace Pages

def Ascending (key : Item → Key) (items : List Item) : Prop :=
  items.Pairwise fun first second => key first < key second

/-- The items after `bound`, all of them before the first page. -/
def remaining (key : Item → Key) (items : List Item) : Option Key → List Item
  | none => items
  | some bound => items.dropWhile fun item => !decide (bound < key item)

def walk (key : Item → Key) (resume : Key → Option Key) (limit : Nat) (items : List Item) :
    Nat → Option Key → Option (List Item)
  | 0, _ => none
  | fuel + 1, after =>
    let rest := remaining key items after
    if limit < rest.length then do
      let last ← (rest.take limit).getLast?
      let next ← resume (key last)
      (walk key resume limit items fuel (some next)).map (rest.take limit ++ ·)
    else some rest

/-- `last` ends a page that is followed by another. -/
def Boundary (limit : Nat) (items : List Item) (last : Item) : Prop :=
  ∃ front back, items = front ++ last :: back ∧ back ≠ [] ∧ limit ∣ front.length + 1

def Resumes (key : Item → Key) (resume : Key → Option Key) (items : List Item)
    (last : Item) : Prop :=
  ∃ next, resume (key last) = some next ∧
    ∀ item ∈ items, next < key item ↔ key last < key item

/-! ### Suffixes of an ascending list -/

variable {key : Item → Key} {items : List Item}

theorem remaining_eq_filter (ascending : Ascending key items) (bound : Key) :
    remaining key items (some bound) = items.filter fun item => bound < key item := by
  induction items with
  | nil => rfl
  | cons first rest ih =>
    obtain ⟨least, restAscending⟩ := pairwise_cons.mp ascending
    have restAfter := ih restAscending
    by_cases above : bound < key first
    · have every : ∀ item ∈ first :: rest, decide (bound < key item) = true := by
        intro item mem
        rcases mem_cons.mp mem with same | later
        · rw [same]
          exact decide_eq_true above
        · exact decide_eq_true (lt_trans above (least item later))
      rw [filter_eq_self.mpr every]
      simp [remaining, above]
    · simpa [remaining, above] using restAfter

variable {back : List Item} {last : Item} {front : List Item}

theorem ascending_split (ascending : Ascending key (front ++ last :: back)) :
    (∀ item ∈ front, key item < key last) ∧ ∀ item ∈ back, key last < key item := by
  obtain ⟨_, backAscending, across⟩ := pairwise_append.mp ascending
  refine ⟨?_, (pairwise_cons.mp backAscending).1⟩
  intro item mem
  exact across item mem last mem_cons_self

theorem filter_after (ascending : Ascending key (front ++ last :: back)) :
    (front ++ last :: back).filter (fun item => key last < key item) = back := by
  obtain ⟨below, above⟩ := ascending_split ascending
  have dropped : front.filter (fun item => key last < key item) = [] := by
    rw [filter_eq_nil_iff]
    intro item mem
    simpa using le_of_lt (below item mem)
  have kept : back.filter (fun item => key last < key item) = back := by
    rw [filter_eq_self]
    intro item mem
    exact decide_eq_true (above item mem)
  rw [filter_append, dropped, nil_append, filter_cons, kept]
  simp

/-- Two suffixes of an ascending list that start with the same item are equal. -/
theorem suffix_unique {left right : List Item} {first : Item} (ascending : Ascending key items)
    (suffixLeft : first :: left <:+ items) (suffixRight : first :: right <:+ items) :
    left = right := by
  obtain ⟨frontLeft, partedLeft⟩ := suffixLeft
  obtain ⟨frontRight, partedRight⟩ := suffixRight
  have afterLeft := filter_after (partedLeft.symm ▸ ascending)
  have afterRight := filter_after (partedRight.symm ▸ ascending)
  rw [partedLeft] at afterLeft
  rw [partedRight] at afterRight
  exact afterLeft.symm.trans afterRight

theorem remaining_suffix (key : Item → Key) (items : List Item) (after : Option Key) :
    remaining key items after <:+ items := by
  cases after with
  | none => exact suffix_refl items
  | some bound => exact dropWhile_suffix _

theorem resumes_iff (ascending : Ascending key (front ++ last :: back)) (next : Key) :
    (∀ item ∈ front ++ last :: back, next < key item ↔ key last < key item) ↔
      remaining key (front ++ last :: back) (some next) = back := by
  rw [remaining_eq_filter ascending]
  constructor
  · intro alike
    refine Eq.trans (filter_congr ?_) (filter_after ascending)
    intro item mem
    exact decide_eq_decide.mpr (alike item mem)
  · intro same item mem
    have alike : item ∈ (front ++ last :: back).filter (fun item => next < key item) ↔
        item ∈ (front ++ last :: back).filter (fun item => key last < key item) := by
      rw [same, filter_after ascending]
    simp only [mem_filter, mem, true_and, decide_eq_true_eq] at alike
    exact alike

/-! ### The walk -/

theorem boundary_append {limit : Nat} {page back : List Item} {last : Item}
    (full : (page ++ [last]).length = limit) (more : back ≠ []) (item : Item) :
    Boundary limit ((page ++ [last]) ++ back) item ↔
      item = last ∨ Boundary limit back item := by
  constructor
  · rintro ⟨front, rest, parted, restMore, aligned⟩
    rcases append_eq_append_iff.mp parted with
      ⟨middle, frontParted, backParted⟩ | ⟨middle, pageParted, restParted⟩
    · refine Or.inr ⟨middle, rest, backParted, restMore, ?_⟩
      rw [frontParted, length_append, full, Nat.add_assoc] at aligned
      exact (Nat.dvd_add_right (Nat.dvd_refl limit)).mp aligned
    · cases middle with
      | nil =>
        rw [append_nil] at pageParted
        refine Or.inr ⟨[], rest, restParted.symm, restMore, ?_⟩
        rw [← pageParted, full] at aligned
        exact (Nat.dvd_add_right (Nat.dvd_refl limit)).mp aligned
      | cons first middle =>
        obtain ⟨rfl, rfl⟩ := List.cons.inj restParted
        have size := congrArg List.length pageParted
        rw [full, length_append, length_cons] at size
        have covers := Nat.le_of_dvd (Nat.succ_pos _) aligned
        have empty : middle = [] := by
          apply length_eq_zero_iff.mp
          omega
        rw [empty] at pageParted
        exact Or.inl (List.cons.inj (append_inj' pageParted rfl).2).1.symm
  · rintro (rfl | ⟨front, rest, parted, restMore, aligned⟩)
    · refine ⟨page, back, append_assoc _ _ _, more, ?_⟩
      rw [← full, length_append]
      exact Nat.dvd_refl _
    · refine ⟨(page ++ [last]) ++ front, rest, ?_, restMore, ?_⟩
      · rw [parted, append_assoc (page ++ [last])]
      · rw [length_append, full, Nat.add_assoc]
        exact Nat.dvd_add (Nat.dvd_refl limit) aligned

variable {limit : Nat}

theorem Boundary.mem (boundary : Boundary limit items last) : last ∈ items := by
  obtain ⟨front, back, parted, _⟩ := boundary
  rw [parted]
  exact mem_append_right _ mem_cons_self

theorem boundary_short (short : items.length ≤ limit) : ¬ Boundary limit items last := by
  rintro ⟨front, back, parted, more, aligned⟩
  have covers := Nat.le_of_dvd (Nat.succ_pos _) aligned
  have nonempty := length_pos_iff.mpr more
  rw [parted, length_append, length_cons] at short
  omega

variable {resume : Key → Option Key} {after : Option Key}

theorem walk_continues {page : List Item}
    (rest : remaining key items after = (page ++ [last]) ++ back)
    (full : (page ++ [last]).length = limit) (more : back ≠ []) (fuel : Nat) :
    walk key resume limit items (fuel + 1) after =
      (resume (key last)).bind fun next =>
        (walk key resume limit items fuel (some next)).map ((page ++ [last]) ++ ·) := by
  have longer : limit < ((page ++ [last]) ++ back).length := by
    rw [length_append, full]
    exact Nat.lt_add_of_pos_right (length_pos_iff.mpr more)
  have taken : ((page ++ [last]) ++ back).take limit = page ++ [last] := by
    rw [← full, take_left]
  simp only [walk, rest, taken]
  rw [if_pos longer, List.getLast?_concat]
  rfl

theorem walk_head {found : List Item} {fuel : Nat} (positive : 0 < limit)
    (walked : walk key resume limit items fuel after = some found) :
    found.head? = (remaining key items after).head? := by
  cases fuel with
  | zero => cases walked
  | succ fuel =>
    simp only [walk] at walked
    split at walked
    next longer =>
      simp only [bind_eq_bind, bind_eq_some_iff, map_eq_some_iff]
        at walked
      obtain ⟨last, _, next, _, more, _, joined⟩ := walked
      cases joined
      cases listed : remaining key items after with
      | nil =>
        rw [listed] at longer
        exact absurd longer (Nat.not_lt_zero _)
      | cons first rest =>
        obtain ⟨size, rfl⟩ := Nat.exists_eq_succ_of_ne_zero (Nat.pos_iff_ne_zero.mp positive)
        rfl
    next =>
      cases walked
      rfl

theorem remaining_of_walk {next : Key} {fuel : Nat} (positive : 0 < limit)
    (ascending : Ascending key items) (more : back ≠ []) (suffix : back <:+ items)
    (walked : walk key resume limit items fuel (some next) = some back) :
    remaining key items (some next) = back := by
  have head := walk_head positive walked
  have rest := remaining_suffix key items (some next)
  cases back with
  | nil => exact absurd rfl more
  | cons first back =>
    cases listed : remaining key items (some next) with
    | nil =>
      rw [listed] at head
      cases head
    | cons other tail =>
      rw [listed] at head rest
      cases head
      rw [suffix_unique ascending rest suffix]

theorem walk_page_iff {page : List Item}
    (rest : remaining key items after = (page ++ [last]) ++ back)
    (full : (page ++ [last]).length = limit) (more : back ≠ []) :
    (∃ fuel, walk key resume limit items fuel after = some ((page ++ [last]) ++ back)) ↔
      ∃ next, resume (key last) = some next ∧
        ∃ fuel, walk key resume limit items fuel (some next) = some back := by
  constructor
  · rintro ⟨fuel, walked⟩
    cases fuel with
    | zero => cases walked
    | succ fuel =>
      rw [walk_continues rest full more] at walked
      simp only [bind_eq_some_iff, map_eq_some_iff] at walked
      obtain ⟨next, resumed, found, walkedOn, joined⟩ := walked
      rw [append_cancel_left joined] at walkedOn
      exact ⟨next, resumed, fuel, walkedOn⟩
  · rintro ⟨next, resumed, fuel, walkedOn⟩
    refine ⟨fuel + 1, ?_⟩
    rw [walk_continues rest full more, resumed, bind_some, walkedOn]
    rfl

theorem page_split (positive : 0 < limit) {rest : List Item} (longer : limit < rest.length) :
    ∃ page last back, rest = (page ++ [last]) ++ back ∧
      (page ++ [last]).length = limit ∧ back ≠ [] := by
  have length : (rest.take limit).length = limit := by
    rw [length_take]
    omega
  rcases eq_nil_or_concat (rest.take limit) with empty | ⟨page, last, taken⟩
  · rw [empty] at length
    exact absurd length (Nat.ne_of_lt positive)
  · rw [concat_eq_append] at taken
    refine ⟨page, last, rest.drop limit, ?_, ?_, ?_⟩
    · rw [← taken, take_append_drop]
    · rw [← taken, length]
    · intro empty
      have nothing := drop_eq_nil_iff.mp empty
      omega

/-- From any point that the walk reaches: it returns the rest of the list exactly if it
goes on after the last item at the end of every page to come. -/
theorem walk_suffix_iff (positive : 0 < limit) (ascending : Ascending key items)
    (size : Nat) (rest : List Item) (measured : rest.length = size) (after : Option Key)
    (reached : remaining key items after = rest) :
    (∃ fuel, walk key resume limit items fuel after = some rest) ↔
      ∀ last, Boundary limit rest last → Resumes key resume items last := by
  induction size using Nat.strongRecOn generalizing rest after with
  | ind size ih =>
    by_cases short : rest.length ≤ limit
    · constructor
      · intro _ last boundary
        exact absurd boundary (boundary_short short)
      · intro _
        refine ⟨1, ?_⟩
        simp only [walk]
        rw [reached, if_neg (Nat.not_lt.mpr short)]
    · obtain ⟨page, last, back, rfl, full, more⟩ :=
        page_split positive (Nat.lt_of_not_le short)
      obtain ⟨done, parted⟩ := reached ▸ remaining_suffix key items after
      have whole : items = (done ++ page) ++ last :: back := by
        rw [← parted]
        simp
      have suffix : back <:+ items := ⟨done ++ (page ++ [last]), by rw [← parted]; simp⟩
      have shorter : back.length < size := by
        rw [← measured, length_append, full]
        omega
      have onward := fun next goesOn =>
        ih back.length shorter back rfl (some next) goesOn
      have resumesHere : ∀ next, (∀ item ∈ items, next < key item ↔ key last < key item) ↔
          remaining key items (some next) = back := by
        intro next
        rw [whole]
        exact resumes_iff (whole ▸ ascending) next
      rw [walk_page_iff reached full more]
      constructor
      · rintro ⟨next, resumed, walkedOn⟩ item boundary
        obtain ⟨fuel, walked⟩ := walkedOn
        have goesOn := remaining_of_walk positive ascending more suffix walked
        rcases (boundary_append full more item).mp boundary with rfl | later
        · exact ⟨next, resumed, (resumesHere next).mpr goesOn⟩
        · exact (onward next goesOn).mp ⟨fuel, walked⟩ item later
      · intro resumes
        obtain ⟨next, resumed, alike⟩ :=
          resumes last ((boundary_append full more last).mpr (Or.inl rfl))
        refine ⟨next, resumed, (onward next ((resumesHere next).mp alike)).mpr ?_⟩
        intro item later
        exact resumes item ((boundary_append full more item).mpr (Or.inr later))

end Pages

end SparkRoute.Lib
