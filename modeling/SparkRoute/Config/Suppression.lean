import SparkRoute.Config.Profiles

/-!
# Merged and suppressed parameters

The gateway lays request overrides over a body with a merge of its own.  A profile patch
merges parameters and then removes the members that its JSON pointers name.
-/

namespace SparkRoute.Config.Profiles

open Lib Lib.OrderedMap List

/-- The members of a decoded JSON object. -/
abbrev Members := List (String × Tree String Scalar)

def Parameters.members (values : Parameters) : Members :=
  values.entries.map fun entry => (entry.1, entry.2.1)

mutual

/-- `applyRequestOverrides` after the body is decoded. -/
def applyRequestOverrides (envelope : Members) : Members → Members
  | [] => envelope
  | (key, value) :: rest =>
    applyRequestOverrides
      (insertEntry key (overridden value (lookupEntry key envelope)) envelope) rest

def overridden : Tree String Scalar → Option (Tree String Scalar) → Tree String Scalar
  | .mapping nested, some (.mapping original) => .mapping (applyRequestOverrides original nested)
  | value, _ => value

end

/-! ### Pointers -/

/-- `strings.ReplaceAll` of the escape with this digit. -/
def replaceEscape (digit character : Char) : List Char → List Char
  | '~' :: next :: rest =>
    if next = digit then character :: replaceEscape digit character rest
    else '~' :: replaceEscape digit character (next :: rest)
  | first :: rest => first :: replaceEscape digit character rest
  | [] => []

def profileKey (token : List Char) : String :=
  String.ofList (replaceEscape '0' '~' (replaceEscape '1' '/' token))

/-- The source's `Split` after `TrimPrefix`: the empty pointer is read like `/`. -/
def pointerTokens (pointer : String) : List (List Char) :=
  ((dropPrefix? pointer.toList ['/']).getD pointer.toList).splitOn '/'

def removeProfileParameter : List (List Char) → Members → Members
  | [], values => values
  | [token], values => values.filter fun member => member.1 ≠ profileKey token
  | token :: path, values =>
    match lookupEntry (profileKey token) values with
    | some (.mapping nested) =>
      let left := removeProfileParameter path nested
      if left.isEmpty then values.filter fun member => member.1 ≠ profileKey token
      else insertEntry (profileKey token) (.mapping left) values
    | _ => values

def patchProfileParameters (values set : Parameters) (remove : List String) : Members :=
  remove.foldl (fun result pointer => removeProfileParameter (pointerTokens pointer) result)
    (mergeProfileParameters values set).members

/-- A token of a JSON pointer, decoded in one pass. -/
def decodeToken : List Char → List Char
  | '~' :: '1' :: rest => '/' :: decodeToken rest
  | '~' :: '0' :: rest => '~' :: decodeToken rest
  | first :: rest => first :: decodeToken rest
  | [] => []

def referencePath (pointer : String) : List String :=
  (pointerTokens pointer).map fun token => String.ofList (decodeToken token)

/-- An array index has no leading zero. -/
def arrayElement (token : String) (items : List (Tree String Scalar)) :
    Option (Tree String Scalar) :=
  match token.toList with
  | [] | '0' :: _ :: _ => none
  | digits =>
    if digits.all Char.isDigit then
      items[digits.foldl (fun index digit => 10 * index + (digit.toNat - '0'.toNat)) 0]?
    else none

theorem replaceEscape_cons {digit character first : Char} {rest : List Char}
    (plain : ∀ later, ¬(first = '~' ∧ rest = digit :: later)) :
    replaceEscape digit character (first :: rest) =
      first :: replaceEscape digit character rest := by
  match rest with
  | [] => rw [replaceEscape]; simp
  | next :: later =>
    by_cases tilde : first = '~'
    · subst tilde
      rw [replaceEscape, if_neg]
      rintro rfl
      exact plain later ⟨rfl, rfl⟩
    · rw [replaceEscape]
      exact fun _ _ same _ => tilde same

theorem profileKey_eq (token : List Char) :
    profileKey token = String.ofList (decodeToken token) := by
  unfold profileKey
  congr 1
  fun_induction decodeToken token with
  | case1 rest ih =>
    rw [replaceEscape, if_pos rfl, replaceEscape_cons (by simp), ih]
  | case2 rest ih =>
    have kept : replaceEscape '1' '/' ('~' :: '0' :: rest) =
        '~' :: '0' :: replaceEscape '1' '/' rest := by
      rw [replaceEscape_cons (by simp), replaceEscape_cons (by simp)]
    rw [kept, replaceEscape, if_pos rfl, ih]
  | case3 first rest notSlash notTilde ih =>
    rw [replaceEscape_cons (by rintro later ⟨rfl, rfl⟩; exact notSlash later rfl rfl),
      replaceEscape_cons, ih]
    -- the first pass leaves no new `~0` behind
    rintro later ⟨rfl, start⟩
    revert start
    fun_cases replaceEscape '1' '/' rest with
    | case1 | case2 => simp
    | case3 next rest =>
      rintro ⟨⟩
      exact notTilde _ rfl rfl
    | case4 => simp
  | case4 => rfl

/-! ### What a removal leaves -/

/-- What becomes of the member on the way of a removed path. -/
def pruned : List (List Char) → Tree String Scalar → Option (Tree String Scalar)
  | [], _ => none
  | next :: path, .mapping nested =>
    if (removeProfileParameter (next :: path) nested).isEmpty then none
    else some (.mapping (removeProfileParameter (next :: path) nested))
  | _, value => some value

theorem removeProfileParameter_lookup (token : List Char) (path : List (List Char))
    (values : Members) (key : String) :
    lookupEntry key (removeProfileParameter (token :: path) values) =
      if key = profileKey token then (lookupEntry key values).bind (pruned path)
      else lookupEntry key values := by
  cases path with
  | nil =>
    rw [removeProfileParameter, lookupEntry_filter]
    split
    next => cases lookupEntry key values <;> rfl
    next => rfl
  | cons next path =>
    by_cases same : key = profileKey token
    · subst same
      rw [removeProfileParameter.eq_3 _ _ _ (by simp), if_pos rfl]
      split
      next nested found =>
        rw [found, Option.bind_some, pruned]
        dsimp only
        split
        next => rw [lookupEntry_filter, if_pos rfl]
        next => rw [lookupEntry_insertEntry, if_pos rfl]
      next other =>
        cases found : lookupEntry (profileKey token) values with
        | none => rfl
        | some value =>
          cases value with
          | mapping nested => exact absurd found (other nested)
          | leaf | sequence => rfl
    · rw [removeProfileParameter.eq_3 _ _ _ (by simp), if_neg same]
      split
      next =>
        dsimp only
        split
        next => rw [lookupEntry_filter, if_neg same]
        next => rw [lookupEntry_insertEntry, if_neg same]
      next => rfl

variable {path : List (List Char)}

theorem removeProfileParameter_leafAt (named : path ≠ []) (values : Members) (place : List String) :
    Tree.leafAt place (.mapping (removeProfileParameter path values)) =
      if path.map profileKey <+: place then none else Tree.leafAt place (.mapping values) := by
  induction path generalizing values place with
  | nil => exact absurd rfl named
  | cons token path ih =>
    cases place with
    | nil => simp [Tree.leafAt]
    | cons key place =>
      simp only [Tree.leafAt, removeProfileParameter_lookup, map_cons,
        cons_prefix_cons, eq_comm (a := profileKey token)]
      by_cases same : key = profileKey token
      · simp only [same, true_and, if_true]
        cases lookupEntry (profileKey token) values with
        | none => exact (ite_self none).symm
        | some child =>
          match path, child with
          | [], _ => rfl
          | next :: path, .mapping nested =>
            rw [Option.bind_some, Option.bind_some, ← ih (cons_ne_nil _ _), pruned]
            split
            next gone =>
              rw [isEmpty_iff.mp gone]
              cases place <;> rfl
            next => rfl
          | next :: path, .leaf _ | next :: path, .sequence _ =>
            cases place with
            | nil => rfl
            | cons => exact (ite_self none).symm
      · simp only [same, false_and, if_false]

/-- What is not there, or has been removed, is not found. -/
theorem removeProfileParameter_none (named : path ≠ []) (values : Members) {place : List String}
    (absent : Tree.resolve (fun _ _ => none) place (.mapping values) = none ∨
      path.map profileKey <+: place) :
    Tree.resolve (fun _ _ => none) place (.mapping (removeProfileParameter path values)) =
      none := by
  induction path generalizing values place with
  | nil => exact absurd rfl named
  | cons token path ih =>
    cases place with
    | nil => simp [Tree.resolve] at absent
    | cons key place =>
      simp only [Tree.resolve, map_cons, cons_prefix_cons] at absent ⊢
      rw [removeProfileParameter_lookup]
      split
      next =>
        cases found : lookupEntry key values with
        | none => rfl
        | some child =>
          rw [found, Option.bind_some] at absent
          match path, child with
          | [], _ => rfl
          | next :: path, .mapping nested =>
            rw [Option.bind_some, pruned]
            split
            next => rfl
            next => exact ih (cons_ne_nil _ _) nested (absent.imp_right And.right)
          | next :: path, .leaf _ | next :: path, .sequence _ =>
            refine absent.elim id fun inside => ?_
            obtain ⟨rest, rfl⟩ := inside.2
            rfl
      next other => exact absent.resolve_right fun inside => other inside.1.symm

theorem removals_exact (remove : List String) (values : Members) :
    let result := remove.foldl (fun result pointer =>
      removeProfileParameter (pointerTokens pointer) result) values
    (∀ pointer ∈ remove,
        Tree.resolve (fun _ _ => none) (referencePath pointer) (.mapping result) = none) ∧
      ∀ place, Tree.leafAt place (.mapping result) =
        if ∃ pointer ∈ remove, referencePath pointer <+: place then none
        else Tree.leafAt place (.mapping values) := by
  have decoded (pointer : String) :
      referencePath pointer = (pointerTokens pointer).map profileKey :=
    map_congr_left fun token _ => (profileKey_eq token).symm
  induction remove generalizing values with
  | nil => simp
  | cons pointer remove ih =>
    have named : pointerTokens pointer ≠ [] := splitOn_ne_nil _ _
    obtain ⟨gone, leaves⟩ := ih (removeProfileParameter (pointerTokens pointer) values)
    refine ⟨forall_mem_cons.mpr ⟨?_, gone⟩, fun place => ?_⟩
    · have start := removeProfileParameter_none named values (.inr (prefix_refl _))
      rw [← decoded] at start
      exact foldlRecOn (motive := fun result =>
          Tree.resolve (fun _ _ => none) (referencePath pointer) (.mapping result) = none)
        remove _ start fun _ absent _ _ =>
          removeProfileParameter_none (splitOn_ne_nil _ _) _ (.inl absent)
    · rw [foldl_cons, leaves, removeProfileParameter_leafAt named, ← decoded]
      by_cases first : referencePath pointer <+: place <;> simp [first]

/-! ### Both merges -/

mutual

theorem applyRequestOverrides_eq (envelope : Members) :
    ∀ overrides, applyRequestOverrides envelope overrides = Tree.overlayMembers envelope overrides
  | [] => by simp only [applyRequestOverrides, Tree.overlayMembers]
  | (key, value) :: rest => by
    rw [applyRequestOverrides, Tree.overlayMembers, applyRequestOverrides_eq, overridden_eq]

theorem overridden_eq : ∀ value held, overridden value held = Tree.overlay held value
  | .mapping nested, some (.mapping original) => by
    rw [overridden, Tree.overlay, applyRequestOverrides_eq]
  | .leaf _, _ | .sequence _, _ => by simp only [overridden, Tree.overlay]
  | .mapping _, none | .mapping _, some (.leaf _) | .mapping _, some (.sequence _) => by
    simp only [overridden, Tree.overlay]

end

theorem suppression_exact (values set : Parameters) (remove : List String) :
    applyRequestOverrides values.members set.members =
        (mergeProfileParameters values set).members ∧
      (∀ pointer ∈ remove, Tree.resolve (fun _ _ => none) (referencePath pointer)
        (.mapping (patchProfileParameters values set remove)) = none) ∧
      ∀ place, Tree.leafAt place (.mapping (patchProfileParameters values set remove)) =
        if ∃ pointer ∈ remove, referencePath pointer <+: place then none
        else Tree.leafAt place (.mapping (mergeProfileParameters values set).members) := by
  refine ⟨?_, removals_exact remove _⟩
  rw [applyRequestOverrides_eq, Tree.overlayMembers_eq]
  exact (overlayEntries_map mergeValue Subtype.val fun _ _ => rfl).symm

/-- A pointer into an array still resolves after its removal. -/
theorem element_not_suppressed :
    Tree.resolve arrayElement (referencePath "/stop/0") (.mapping (patchProfileParameters
        (OrderedMap.empty.insert "stop"
          ⟨.sequence [.leaf (.text "end")], .sequence fun item listed => by
            cases mem_singleton.mp listed
            exact .leaf _⟩) .empty ["/stop/0"])) =
      some (.leaf (.text "end")) := by
  rfl

end SparkRoute.Config.Profiles
