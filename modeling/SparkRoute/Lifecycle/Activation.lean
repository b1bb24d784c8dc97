import SparkRoute.Lib.Bytes
import SparkRoute.Lib.Run

/-!
# Activation ownership

`ActivationTable` is the in-process coordinator: one claim per key and a counter
of fencing tokens.  Each method is one critical section, and the clock reading it
uses was taken at some earlier moment, before the lock was free.
-/

namespace SparkRoute.Lifecycle

open Lib

inductive ActivationDisposition where
  | owner
  | observer
  deriving DecidableEq

structure ActivationClaim where
  key : GoString
  holder : GoString
  fencingToken : Int
  disposition : ActivationDisposition
  expiresAt : Int
  deriving DecidableEq

inductive ActivationFailure where
  | contextDone
  | invalidClaim
  | claimLost
  deriving DecidableEq

structure ActivationTable where
  claims : GoString → Option ActivationClaim := fun _ => none
  next : Int := 0

def sameActivationOwner (left right : ActivationClaim) : Bool :=
  left.key = right.key ∧ left.holder = right.holder ∧
    left.fencingToken = right.fencingToken ∧ right.disposition = .owner

namespace ActivationTable

variable (table : ActivationTable)

def newClaim (key holder : GoString) (ttl now : Int) :
    ActivationClaim where
  key := key
  holder := holder
  fencingToken := table.next + 1
  disposition := .owner
  expiresAt := now + ttl

def begin (done : Bool) (key holder : GoString) (ttl now : Int) :
    ActivationTable × Except ActivationFailure ActivationClaim :=
  if done then
    (table, .error .contextDone)
  else if key = [] ∨ holder = [] ∨ ttl ≤ 0 then
    (table, .error .invalidClaim)
  else
    match (table.claims key).filter fun existing => now < existing.expiresAt with
    | some existing =>
      if existing.holder = holder then
        (table, .ok { existing with disposition := .owner })
      else
        (table, .ok { existing with disposition := .observer })
    | none =>
      let claim := table.newClaim key holder ttl now
      ({ claims := Function.update table.claims key (some claim)
         next := table.next + 1 }, .ok claim)

/-- The current claim, when `claim` is it and it has not expired. -/
def current (claim : ActivationClaim) (now : Int) :
    Option ActivationClaim :=
  (table.claims claim.key).filter fun existing =>
    sameActivationOwner existing claim && now < existing.expiresAt

def renew (done : Bool) (claim : ActivationClaim) (ttl now : Int) :
    ActivationTable × Except ActivationFailure ActivationClaim :=
  if done then
    (table, .error .contextDone)
  else if ttl ≤ 0 then
    (table, .error .invalidClaim)
  else
    match table.current claim now with
    | none => (table, .error .claimLost)
    | some existing =>
      let renewed := { existing with expiresAt := now + ttl, disposition := .owner }
      ({ table with claims := Function.update table.claims claim.key (some renewed) }, .ok renewed)

def complete (done : Bool) (claim : ActivationClaim) (now : Int) :
    ActivationTable × Except ActivationFailure Unit :=
  if done then
    (table, .error .contextDone)
  else
    match table.current claim now with
    | none => (table, .error .claimLost)
    | some _ =>
      ({ table with claims := Function.update table.claims claim.key none }, .ok ())

theorem current_eq_some {table : ActivationTable} {claim existing : ActivationClaim}
    {now : Int} (found : table.current claim now = some existing) :
    table.claims claim.key = some existing ∧ existing.key = claim.key ∧
      existing.holder = claim.holder ∧ existing.fencingToken = claim.fencingToken ∧
      claim.disposition = .owner ∧ now < existing.expiresAt := by
  unfold current sameActivationOwner at found
  simp only [Option.filter_eq_some_iff, Bool.and_eq_true, decide_eq_true_eq] at found
  tauto

end ActivationTable

/-! ### Runs -/

/-- What the holders have been told: a grant lasts until its latest expiry or its
completion, whichever comes first. -/
structure Grant where
  key : GoString
  holder : GoString
  fencingToken : Int
  expiresAt : Int
  completed : Bool

namespace Grant

def of (claim : ActivationClaim) : Grant where
  key := claim.key
  holder := claim.holder
  fencingToken := claim.fencingToken
  expiresAt := claim.expiresAt
  completed := false

/-- The holder may act as the owner at `instant`. -/
def Valid (grant : Grant) (instant : Int) : Prop :=
  grant.completed = false ∧ instant < grant.expiresAt

end Grant

inductive ActivationCall where
  | begin (key holder : GoString) (ttl : Int)
  | renew (claim : ActivationClaim) (ttl : Int)
  | complete (claim : ActivationClaim)

/-- `elapsed` is the time since the previous critical section and `lag` the age
of the clock reading that the call uses, so the clock never runs backwards. -/
structure TimedCall where
  elapsed : Nat
  lag : Nat
  done : Bool
  call : ActivationCall

structure ActivationSystem where
  table : ActivationTable := {}
  clock : Int := 0
  grants : List Grant := []

namespace ActivationSystem

/-- An owner disposition is a new grant unless its token was granted before. -/
def recordOwner (grants : List Grant) (claim : ActivationClaim) : List Grant :=
  if claim.disposition ≠ .owner then grants
  else if grants.any fun grant => grant.fencingToken = claim.fencingToken then grants
  else grants ++ [Grant.of claim]

def amend (grants : List Grant) (token : Int) (change : Grant → Grant) : List Grant :=
  grants.map fun grant => if grant.fencingToken = token then change grant else grant

def recordRenewal (grants : List Grant) (claim : ActivationClaim) : List Grant :=
  amend grants claim.fencingToken fun grant => { grant with expiresAt := claim.expiresAt }

def recordCompletion (grants : List Grant) (claim : ActivationClaim) : List Grant :=
  amend grants claim.fencingToken fun grant => { grant with completed := true }

def step (system : ActivationSystem) (timed : TimedCall) : ActivationSystem :=
  let clock := system.clock + timed.elapsed
  let now := clock - timed.lag
  match timed.call with
  | .begin key holder ttl =>
    let (table, outcome) := system.table.begin timed.done key holder ttl now
    { table := table
      clock := clock
      grants := match outcome with
        | .ok claim => recordOwner system.grants claim
        | .error _ => system.grants }
  | .renew claim ttl =>
    let (table, outcome) := system.table.renew timed.done claim ttl now
    { table := table
      clock := clock
      grants := match outcome with
        | .ok renewed => recordRenewal system.grants renewed
        | .error _ => system.grants }
  | .complete claim =>
    let (table, outcome) := system.table.complete timed.done claim now
    { table := table
      clock := clock
      grants := match outcome with
        | .ok () => recordCompletion system.grants claim
        | .error _ => system.grants }

end ActivationSystem

end SparkRoute.Lifecycle
