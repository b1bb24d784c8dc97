import SparkRoute.Config.Accepted

/-!
# Compiled routing snapshots

A snapshot holds the maps that request planning reads.  A map is the list of
its insertions, the latest first, so that `List.lookup` finds the last one.
-/

namespace SparkRoute.Routing

open Config SparkRoute.Lib List

structure Snapshot where
  aliases : List (String × String)
  models : List (String × VirtualModel)
  deployments : List (String × Deployment)
  providers : List (String × Provider)

/-- The map that a loop of insertions builds. -/
def insertAll {Value : Type} (key : Value → String) (values : List Value) : List (String × Value) :=
  values.foldl (fun table value => (key value, value) :: table) []

theorem insertAll_eq {Value : Type} (key : Value → String) (values : List Value) :
    insertAll key values = (values.map fun value => (key value, value)).reverse := by
  simp [insertAll]

theorem lookup_insertAll {Value : Type} {key : Value → String} {values : List Value}
    {name : String} {value : Value} (found : (insertAll key values).lookup name = some value) :
    value ∈ values ∧ key value = name := by
  rw [insertAll_eq, lookup_eq_some_iff] at found
  obtain ⟨before, after, shape, _⟩ := found
  have mem : (name, value) ∈ (values.map fun value => (key value, value)).reverse := by
    rw [shape]
    simp
  simp only [mem_reverse, mem_map, Prod.mk.injEq] at mem
  obtain ⟨original, present, name, same⟩ := mem
  subst same
  exact ⟨present, name⟩

def modelAliases (models : List VirtualModel) : List (String × String) :=
  models.foldl
    (fun table model =>
      model.aliases.foldl (fun table alternative => (alternative, model.name) :: table)
        ((model.name, model.name) :: table))
    []

def compile (toLower : String → String) (authored : Document) : Except String Snapshot := do
  let resolved ← authored.resolveModelPolicies
  let document := resolved.resolveCapabilityPolicies .attempt
  document.validate toLower
  .ok
    { aliases := modelAliases document.virtualModels
      models := insertAll (fun model => model.name) document.virtualModels
      deployments := insertAll (fun deployment => deployment.name) document.deployments
      providers := insertAll (fun provider => provider.name) document.providers }

namespace Snapshot

/-- `none` is `ErrModelNotFound`.  A missing model reads as the zero value. -/
def resolveModel (snapshot : Snapshot) (requested : String) (allowInternal : Bool) :
    Option VirtualModel :=
  match snapshot.aliases.lookup requested with
  | none => none
  | some canonical =>
    let model := (snapshot.models.lookup canonical).getD { name := "", pools := [] }
    if model.visibility.effective = .internal ∧ !allowInternal then none else some model

/-- What compilation guarantees to request planning. -/
structure Compiled (snapshot : Snapshot) : Prop where
  routable : ∀ name model, snapshot.models.lookup name = some model → Routable model
  named : ∀ name deployment, snapshot.deployments.lookup name = some deployment →
    deployment.name = name

variable {snapshot : Snapshot}

theorem compiled_of_compile {toLower : String → String} {authored : Document}
    (accepted : compile toLower authored = .ok snapshot) : snapshot.Compiled := by
  unfold compile at accepted
  simp only [bind_eq_ok] at accepted
  obtain ⟨resolved, resolution, _, valid, equality⟩ := accepted
  cases equality
  constructor
  · intro name model found
    obtain ⟨mem, _⟩ := lookup_insertAll found
    exact routable_of_validate resolution valid model mem
  · intro name deployment found
    exact (lookup_insertAll found).2

theorem Compiled.resolved (compiled : snapshot.Compiled) {requested : String} {allowInternal : Bool}
    {model : VirtualModel} (visible : snapshot.resolveModel requested allowInternal = some model) :
    Routable model := by
  unfold resolveModel at visible
  split at visible
  next => cases visible
  next canonical _ =>
    simp only at visible
    split at visible
    next => cases visible
    next =>
      rw [Option.some.injEq] at visible
      subst visible
      cases found : snapshot.models.lookup canonical with
      | none => exact ⟨nodup_nil, forall_mem_nil _, le_refl 0⟩
      | some model => exact compiled.routable canonical model found

end Snapshot

end SparkRoute.Routing
