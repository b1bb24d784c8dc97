import Mathlib.Data.List.Nodup
import SparkRoute.Lifecycle.Activation

/-!
# Activation ownership is exclusive and fenced

The table never forgets a grant that is still valid, so at every instant the
valid grants of a key are at most the one claim in the table.
-/

namespace SparkRoute.Lifecycle

open Lib List Function ActivationTable

namespace ActivationSystem

structure Fenced (system : ActivationSystem) : Prop where
  ordered : system.grants.Pairwise fun earlier later =>
    earlier.fencingToken < later.fencingToken
  bounded : ∀ grant ∈ system.grants, grant.fencingToken ≤ system.table.next
  backed : ∀ key claim, system.table.claims key = some claim →
    claim.key = key ∧ Grant.of claim ∈ system.grants
  held : ∀ grant ∈ system.grants, grant.Valid system.clock →
    ∃ claim, system.table.claims grant.key = some claim ∧
      claim.fencingToken = grant.fencingToken
  newest : ∀ grant ∈ system.grants, ∀ claim,
    system.table.claims grant.key = some claim → grant.fencingToken ≤ claim.fencingToken

theorem Fenced.initially : Fenced {} := by
  constructor <;> simp

variable {system : ActivationSystem} {key holder : GoString} {ttl now : Int}

section

variable (fenced : Fenced system)

include fenced

theorem Fenced.unique {first second : Grant}
    (firstMember : first ∈ system.grants) (secondMember : second ∈ system.grants)
    (same : first.fencingToken = second.fencingToken) : first = second := by
  have tokens : (system.grants.map Grant.fencingToken).Nodup :=
    pairwise_map.mpr (fenced.ordered.imp fun less => Int.ne_of_lt less)
  exact inj_on_of_nodup_map tokens firstMember secondMember same

theorem Fenced.wait (elapsed : Nat) : Fenced { system with clock := system.clock + elapsed } := by
  refine ⟨fenced.ordered, fenced.bounded, fenced.backed, ?_, fenced.newest⟩
  intro grant mem valid
  apply fenced.held grant mem
  obtain ⟨uncompleted, unexpired⟩ := valid
  refine ⟨uncompleted, ?_⟩
  change system.clock + elapsed < grant.expiresAt at unexpired
  omega

/-- A valid grant of a key is the grant of the claim in the table. -/
theorem Fenced.held_eq {grant : Grant} (mem : grant ∈ system.grants)
    (valid : grant.Valid system.clock) :
    ∃ claim, system.table.claims grant.key = some claim ∧ grant = Grant.of claim := by
  obtain ⟨claim, found, token⟩ := fenced.held grant mem valid
  obtain ⟨_, present⟩ := fenced.backed grant.key claim found
  exact ⟨claim, found, fenced.unique mem present token.symm⟩

theorem Fenced.create (past : now ≤ system.clock)
    (free : (system.table.claims key).filter (fun existing => decide (now < existing.expiresAt)) =
      none) :
    Fenced
      { table :=
          { claims := Function.update system.table.claims key
              (some (system.table.newClaim key holder ttl now))
            next := system.table.next + 1 }
        clock := system.clock
        grants := system.grants ++ [Grant.of (system.table.newClaim key holder ttl now)] } := by
  have expired : ∀ grant ∈ system.grants, grant.key = key → ¬ grant.Valid system.clock := by
    intro grant mem sameKey valid
    obtain ⟨claim, found, same⟩ := fenced.held_eq mem valid
    rw [sameKey] at found
    have unexpired : system.clock < claim.expiresAt := by
      have inTime := valid.2
      rw [same] at inTime
      exact inTime
    rw [found, Option.filter_some, if_pos (by simp; omega)] at free
    cases free
  constructor
  · apply pairwise_append.mpr
    refine ⟨fenced.ordered, pairwise_singleton _ _, ?_⟩
    intro earlier mem later added
    rw [mem_singleton.mp added]
    have bounded := fenced.bounded earlier mem
    change earlier.fencingToken < system.table.next + 1
    omega
  · intro grant mem
    change grant.fencingToken ≤ system.table.next + 1
    rcases mem_append.mp mem with earlier | added
    · have bounded := fenced.bounded grant earlier
      omega
    · rw [mem_singleton.mp added]
      exact Int.le_refl _
  · intro other claim found
    dsimp only at found
    by_cases sameKey : other = key
    · subst sameKey
      rw [update_self, Option.some.injEq] at found
      subst found
      exact ⟨rfl, mem_append_right _ (mem_singleton.mpr rfl)⟩
    · rw [update_of_ne sameKey] at found
      obtain ⟨claimKey, present⟩ := fenced.backed other claim found
      exact ⟨claimKey, mem_append_left _ present⟩
  · intro grant mem valid
    rcases mem_append.mp mem with earlier | added
    · have otherKey : grant.key ≠ key := fun sameKey =>
        expired grant earlier sameKey valid
      dsimp only
      rw [update_of_ne otherKey]
      exact fenced.held grant earlier valid
    · rw [mem_singleton.mp added]
      exact ⟨_, update_self _ _ _, rfl⟩
  · intro grant mem claim found
    dsimp only at found
    rcases mem_append.mp mem with earlier | added
    · by_cases sameKey : grant.key = key
      · rw [sameKey, update_self, Option.some.injEq] at found
        subst found
        have bounded := fenced.bounded grant earlier
        change grant.fencingToken ≤ system.table.next + 1
        omega
      · rw [update_of_ne sameKey] at found
        exact fenced.newest grant earlier claim found
    · rw [mem_singleton.mp added] at found ⊢
      change Function.update system.table.claims key _ key = some claim at found
      rw [update_self, Option.some.injEq] at found
      rw [← found]
      exact Int.le_refl _

variable {existing : ActivationClaim}

theorem Fenced.amend (found : system.table.claims key = some existing)
    {replacement : Option ActivationClaim} {change : Grant → Grant}
    (sameKey : ∀ grant, (change grant).key = grant.key)
    (sameToken : ∀ grant, (change grant).fencingToken = grant.fencingToken)
    (replaced : ∀ claim, replacement = some claim →
      claim.key = key ∧ claim.fencingToken = existing.fencingToken ∧
        change (Grant.of existing) = Grant.of claim)
    (dropped : replacement = none → (change (Grant.of existing)).completed = true) :
    Fenced
      { table :=
          { system.table with claims := Function.update system.table.claims key replacement }
        clock := system.clock
        grants := ActivationSystem.amend system.grants existing.fencingToken change } := by
  obtain ⟨existingKey, existingMember⟩ := fenced.backed key existing found
  have only : ∀ grant ∈ system.grants, grant.fencingToken = existing.fencingToken →
      grant = Grant.of existing := fun grant mem token =>
    fenced.unique mem existingMember token
  have origin : ∀ grant ∈ ActivationSystem.amend system.grants existing.fencingToken change,
      (grant ∈ system.grants ∧ grant.fencingToken ≠ existing.fencingToken) ∨
        grant = change (Grant.of existing) := by
    intro grant mem
    obtain ⟨former, formerMember, image⟩ := mem_map.mp mem
    by_cases token : former.fencingToken = existing.fencingToken
    · rw [if_pos token, only former formerMember token] at image
      exact Or.inr image.symm
    · rw [if_neg token] at image
      subst image
      exact Or.inl ⟨formerMember, token⟩
  have existingNext := fenced.bounded _ existingMember
  constructor
  · apply List.Pairwise.map _ _ fenced.ordered
    intro earlier later less
    split <;> split <;> simpa only [sameToken] using less
  · intro grant mem
    rcases origin grant mem with ⟨former, _⟩ | changed
    · exact fenced.bounded grant former
    · rw [changed, sameToken]
      exact existingNext
  · intro other claim present
    dsimp only at present
    by_cases same : other = key
    · rw [same, update_self] at present
      obtain ⟨claimKey, token, image⟩ := replaced claim present
      refine ⟨claimKey.trans same.symm, ?_⟩
      apply mem_map.mpr
      refine ⟨Grant.of existing, existingMember, ?_⟩
      rw [if_pos (by rfl), image]
    · rw [update_of_ne same] at present
      obtain ⟨claimKey, claimMember⟩ := fenced.backed other claim present
      refine ⟨claimKey, mem_map.mpr ⟨Grant.of claim, claimMember, ?_⟩⟩
      apply if_neg
      intro token
      have equal := congrArg Grant.key (only _ claimMember token)
      exact same (claimKey.symm.trans (equal.trans existingKey))
  · intro grant mem valid
    rcases origin grant mem with ⟨former, token⟩ | changed
    · obtain ⟨claim, present, sameClaim⟩ := fenced.held grant former valid
      refine ⟨claim, ?_, sameClaim⟩
      dsimp only
      rw [update_of_ne]
      · exact present
      · intro same
        rw [same, found, Option.some.injEq] at present
        exact token (sameClaim.symm.trans (congrArg _ present.symm))
    · subst changed
      have keyOf : (change (Grant.of existing)).key = key := (sameKey _).trans existingKey
      cases outcome : replacement with
      | none =>
        exact absurd (dropped outcome) (by simp [valid.1])
      | some claim =>
        obtain ⟨_, token, _⟩ := replaced claim outcome
        refine ⟨claim, ?_, token.trans (sameToken (Grant.of existing)).symm⟩
        dsimp only
        rw [keyOf, update_self]
  · intro grant mem claim present
    dsimp only at present
    have formerly : ∃ former ∈ system.grants,
        former.key = grant.key ∧ former.fencingToken = grant.fencingToken := by
      rcases origin grant mem with ⟨former, _⟩ | changed
      · exact ⟨grant, former, rfl, rfl⟩
      · exact ⟨_, existingMember, by rw [changed, sameKey], by rw [changed, sameToken]⟩
    obtain ⟨former, formerMember, formerKey, formerToken⟩ := formerly
    rw [← formerKey] at present
    rw [← formerToken]
    by_cases same : former.key = key
    · rw [same, update_self] at present
      obtain ⟨_, token, _⟩ := replaced claim present
      rw [token]
      exact fenced.newest former formerMember existing (by rw [same, found])
    · rw [update_of_ne same] at present
      exact fenced.newest former formerMember claim present

theorem Fenced.owner_recorded (found : system.table.claims key = some existing)
    (disposition : ActivationDisposition) :
    recordOwner system.grants { existing with disposition := disposition } =
      system.grants := by
  obtain ⟨_, mem⟩ := fenced.backed key existing found
  have granted : (system.grants.any fun grant =>
      decide (grant.fencingToken = existing.fencingToken)) = true := by
    rw [any_eq_true]
    exact ⟨Grant.of existing, mem, decide_eq_true rfl⟩
  unfold recordOwner
  rw [granted, if_pos rfl, ite_self]

theorem Fenced.creation_recorded (key holder : GoString) (ttl now : Int) :
    recordOwner system.grants (system.table.newClaim key holder ttl now) =
      system.grants ++ [Grant.of (system.table.newClaim key holder ttl now)] := by
  have unused : ¬ (system.grants.any fun grant =>
      decide (grant.fencingToken = system.table.next + 1)) = true := by
    rw [any_eq_true]
    rintro ⟨grant, mem, token⟩
    have bounded := fenced.bounded grant mem
    rw [decide_eq_true_eq] at token
    omega
  unfold recordOwner
  exact if_neg unused

theorem Fenced.begun (done : Bool) (key holder : GoString) (ttl : Int) (past : now ≤ system.clock) :
    Fenced
      { table := (system.table.begin done key holder ttl now).1
        clock := system.clock
        grants := match (system.table.begin done key holder ttl now).2 with
          | .ok claim => recordOwner system.grants claim
          | .error _ => system.grants } := by
  fun_cases ActivationTable.begin system.table done key holder ttl now with
  | case3 _ _ existing current | case4 _ _ existing current =>
    obtain ⟨found, _⟩ := Option.filter_eq_some_iff.mp current
    dsimp only
    rw [fenced.owner_recorded found]
    exact fenced
  | case5 _ _ current claim =>
    dsimp only [claim]
    rw [fenced.creation_recorded]
    exact fenced.create past current
  | _ => exact fenced

theorem Fenced.renewed (done : Bool) (claim : ActivationClaim) (ttl now : Int) :
    Fenced
      { table := (system.table.renew done claim ttl now).1
        clock := system.clock
        grants := match (system.table.renew done claim ttl now).2 with
          | .ok renewed => recordRenewal system.grants renewed
          | .error _ => system.grants } := by
  fun_cases ActivationTable.renew system.table done claim ttl now with
  | case4 _ _ existing current =>
    obtain ⟨found, sameKey, _⟩ := current_eq_some current
    apply fenced.amend found
    · exact fun _ => rfl
    · exact fun _ => rfl
    · intro renewed equal
      rw [Option.some.injEq] at equal
      subst equal
      exact ⟨sameKey, rfl, rfl⟩
    · intro absent
      cases absent
  | _ => exact fenced

theorem Fenced.completed (done : Bool) (claim : ActivationClaim) (now : Int) :
    Fenced
      { table := (system.table.complete done claim now).1
        clock := system.clock
        grants := match (system.table.complete done claim now).2 with
          | .ok () => recordCompletion system.grants claim
          | .error _ => system.grants } := by
  fun_cases ActivationTable.complete system.table done claim now with
  | case3 _ existing current =>
    obtain ⟨found, _, _, sameToken, _⟩ := current_eq_some current
    dsimp only [recordCompletion]
    rw [← sameToken]
    apply fenced.amend found
    · exact fun _ => rfl
    · exact fun _ => rfl
    · intro renewed present
      cases present
    · intro _
      rfl
  | _ => exact fenced

theorem Fenced.step (timed : TimedCall) : Fenced (system.step timed) := by
  have waited := fenced.wait timed.elapsed
  obtain ⟨elapsed, lag, done, call⟩ := timed
  cases call with
  | begin key holder ttl =>
    exact waited.begun done key holder ttl (Int.sub_le_self _ (Int.natCast_nonneg lag))
  | renew claim ttl => exact waited.renewed done claim ttl _
  | complete claim => exact waited.completed done claim _

end

def run (calls : List TimedCall) : ActivationSystem :=
  Lib.run ActivationSystem.step {} calls

theorem run_fenced (calls : List TimedCall) : Fenced (run calls) :=
  run_invariant Fenced.initially (fun _ timed fenced => fenced.step timed) calls

theorem run_concat (calls : List TimedCall) (timed : TimedCall) :
    run (calls ++ [timed]) = (run calls).step timed :=
  Lib.run_concat _ _ _ _

def reading (system : ActivationSystem) (elapsed lag : Nat) : Int :=
  system.clock + elapsed - lag

/-- A later grant of the key has been made. -/
def Superseded (system : ActivationSystem) (claim : ActivationClaim) : Prop :=
  ∃ grant ∈ system.grants, grant.key = claim.key ∧ claim.fencingToken < grant.fencingToken

theorem Fenced.exclusive (fenced : Fenced system) {instant : Int} (reached : system.clock ≤ instant)
    {first second : Grant} (firstMember : first ∈ system.grants)
    (secondMember : second ∈ system.grants) (sameKey : first.key = second.key)
    (firstValid : first.Valid instant) (secondValid : second.Valid instant) : first = second := by
  obtain ⟨firstClaim, firstFound, firstIs⟩ := fenced.held_eq firstMember
    ⟨firstValid.1, Int.lt_of_le_of_lt reached firstValid.2⟩
  obtain ⟨secondClaim, secondFound, secondIs⟩ := fenced.held_eq secondMember
    ⟨secondValid.1, Int.lt_of_le_of_lt reached secondValid.2⟩
  rw [sameKey, secondFound, Option.some.injEq] at firstFound
  rw [firstIs, secondIs, firstFound]

variable {claim : ActivationClaim}

theorem Fenced.superseded_current (fenced : Fenced system)
    (superseded : system.Superseded claim) (now : Int) : system.table.current claim now = none := by
  obtain ⟨grant, mem, sameKey, later⟩ := superseded
  cases current : system.table.current claim now with
  | none => rfl
  | some existing =>
    obtain ⟨found, _, _, sameToken, _⟩ := current_eq_some current
    rw [← sameKey] at found
    have newest := fenced.newest grant mem existing found
    omega

variable {done : Bool}

/-- An owner answer is either a fresh grant, above every earlier token, or the
grant that the same holder already has. -/
theorem Fenced.owner_answer (fenced : Fenced system)
    (answered : (system.table.begin done key holder ttl now).2 = .ok claim)
    (owner : claim.disposition = .owner) :
    claim.key = key ∧ claim.holder = holder ∧
      (Grant.of claim ∈ system.grants ∨
        ∀ grant ∈ system.grants, grant.fencingToken < claim.fencingToken) := by
  revert answered
  fun_cases ActivationTable.begin system.table done key holder ttl now with
  | case3 _ _ existing current sameHolder =>
    rintro ⟨⟩
    obtain ⟨found, _⟩ := Option.filter_eq_some_iff.mp current
    obtain ⟨existingKey, mem⟩ := fenced.backed key existing found
    exact ⟨existingKey, sameHolder, Or.inl mem⟩
  | case5 =>
    intro answered
    rw [← Except.ok.inj answered]
    refine ⟨rfl, rfl, Or.inr ?_⟩
    intro grant mem
    exact Int.lt_add_one_iff.mpr (fenced.bounded grant mem)
  | case4 =>
    rintro ⟨⟩
    cases owner
  | _ => exact nofun

variable {table : ActivationTable} {renewed : ActivationClaim}

theorem renew_answer (answered : (table.renew done claim ttl now).2 = .ok renewed) :
    ∃ existing, table.current claim now = some existing ∧
      renewed = { existing with expiresAt := now + ttl, disposition := .owner } := by
  revert answered
  fun_cases ActivationTable.renew table done claim ttl now with
  | case4 _ _ existing current =>
    exact fun answered => ⟨existing, current, (Except.ok.inj answered).symm⟩
  | _ => exact nofun

theorem complete_answer (answered : (table.complete done claim now).2 = .ok ()) :
    ∃ existing, table.current claim now = some existing := by
  revert answered
  fun_cases ActivationTable.complete table done claim now with
  | case3 _ existing current => exact fun _ => ⟨existing, current⟩
  | _ => exact nofun

theorem Fenced.owner_granted (fenced : Fenced system) {elapsed lag : Nat}
    (answered : (system.table.begin done key holder ttl (system.reading elapsed lag)).2 = .ok claim)
    (owner : claim.disposition = .owner) :
    Grant.of claim ∈ (system.step ⟨elapsed, lag, done, .begin key holder ttl⟩).grants := by
  have recorded : (system.step ⟨elapsed, lag, done, .begin key holder ttl⟩).grants =
      recordOwner system.grants claim := by
    unfold reading at answered
    dsimp only [ActivationSystem.step]
    rw [answered]
  obtain ⟨_, _, known | fresh⟩ := fenced.owner_answer answered owner
  · rw [recorded]
    unfold recordOwner
    split
    · exact known
    · split
      · exact known
      · exact mem_append_left _ known
  · rw [recorded]
    unfold recordOwner
    rw [if_neg (not_not.mpr owner), if_neg]
    · exact mem_append_right _ (mem_singleton.mpr rfl)
    · rw [any_eq_true]
      rintro ⟨grant, mem, token⟩
      have below := fresh grant mem
      rw [decide_eq_true_eq] at token
      omega

theorem Fenced.renewal_granted (fenced : Fenced system) {elapsed lag : Nat}
    (answered : (system.table.renew done claim ttl (system.reading elapsed lag)).2 = .ok renewed) :
    Grant.of renewed ∈ (system.step ⟨elapsed, lag, done, .renew claim ttl⟩).grants := by
  have recorded : (system.step ⟨elapsed, lag, done, .renew claim ttl⟩).grants =
      recordRenewal system.grants renewed := by
    unfold reading at answered
    dsimp only [ActivationSystem.step]
    rw [answered]
  obtain ⟨existing, current, equal⟩ := renew_answer answered
  obtain ⟨found, _⟩ := current_eq_some current
  obtain ⟨_, mem⟩ := fenced.backed _ _ found
  rw [recorded]
  apply mem_map.mpr
  refine ⟨Grant.of existing, mem, ?_⟩
  subst equal
  exact if_pos rfl

/-- Ownership over every interleaving.  A grant is what a holder was told by an
owner answer of `begin` or by `renew`; it is valid until its latest expiry or its
completion. -/
theorem activation_exclusive_and_fenced (calls : List TimedCall) :
    (∀ instant, (run calls).clock ≤ instant →
      ∀ first ∈ (run calls).grants, ∀ second ∈ (run calls).grants,
        first.key = second.key → first.Valid instant → second.Valid instant →
          first = second) ∧
    (run calls).grants.Pairwise (fun earlier later =>
      earlier.fencingToken < later.fencingToken) ∧
    (∀ elapsed lag done key holder ttl claim, ((run calls).table.begin done key holder ttl
        ((run calls).reading elapsed lag)).2 = .ok claim →
      claim.disposition = .owner →
        claim.key = key ∧ claim.holder = holder ∧
        Grant.of claim ∈ (run (calls ++ [⟨elapsed, lag, done, .begin key holder ttl⟩])).grants ∧
        (Grant.of claim ∈ (run calls).grants ∨
          ∀ grant ∈ (run calls).grants, grant.fencingToken < claim.fencingToken)) ∧
    (∀ elapsed lag done claim ttl renewed, ((run calls).table.renew done claim ttl
        ((run calls).reading elapsed lag)).2 = .ok renewed →
        Grant.of renewed ∈ (run (calls ++ [⟨elapsed, lag, done, .renew claim ttl⟩])).grants ∧
        ∃ existing, (run calls).table.claims claim.key = some existing ∧
          existing.key = claim.key ∧ existing.holder = claim.holder ∧
          existing.fencingToken = claim.fencingToken ∧ claim.disposition = .owner ∧
          (run calls).reading elapsed lag < existing.expiresAt) ∧
    (∀ elapsed lag done claim,
      ((run calls).table.complete done claim ((run calls).reading elapsed lag)).2 = .ok () →
        ∃ existing, (run calls).table.claims claim.key = some existing ∧
          existing.key = claim.key ∧ existing.holder = claim.holder ∧
          existing.fencingToken = claim.fencingToken ∧ claim.disposition = .owner ∧
          (run calls).reading elapsed lag < existing.expiresAt) ∧
    (∀ claim, (run calls).Superseded claim → ∀ done ttl now,
      (run calls).table.renew done claim ttl now =
        ((run calls).table, .error
          (if done then .contextDone else if ttl ≤ 0 then .invalidClaim else .claimLost)) ∧
      (run calls).table.complete done claim now =
        ((run calls).table, .error (if done then .contextDone else .claimLost))) := by
  have fenced := run_fenced calls
  refine ⟨?_, fenced.ordered, ?_, ?_, ?_, ?_⟩
  · intro instant reached first firstMember second secondMember sameKey
    exact fenced.exclusive reached firstMember secondMember sameKey
  · intro elapsed lag done key holder ttl claim answered owner
    obtain ⟨sameKey, sameHolder, known⟩ := fenced.owner_answer answered owner
    refine ⟨sameKey, sameHolder, ?_, known⟩
    rw [run_concat]
    exact fenced.owner_granted answered owner
  · intro elapsed lag done claim ttl renewed answered
    obtain ⟨existing, current, _⟩ := renew_answer answered
    refine ⟨?_, existing, current_eq_some current⟩
    rw [run_concat]
    exact fenced.renewal_granted answered
  · intro elapsed lag done claim answered
    obtain ⟨existing, current⟩ := complete_answer answered
    exact ⟨existing, current_eq_some current⟩
  · intro claim superseded done ttl now
    unfold ActivationTable.renew ActivationTable.complete
    rw [fenced.superseded_current superseded now]
    constructor
    · split
      · rfl
      · split <;> rfl
    · split <;> rfl

/-- A superseded holder that renews for no time at all is told that its request is
invalid, not that its claim is lost. -/
theorem superseded_renewal_for_no_time :
    let calls : List TimedCall :=
      [⟨0, 0, false, .begin (ascii "1:cr") (ascii "first") 1⟩,
        ⟨1, 0, false, .begin (ascii "1:cr") (ascii "second") 5⟩]
    let claim : ActivationClaim := ⟨ascii "1:cr", ascii "first", 1, .owner, 1⟩
    (ActivationTable.begin {} false (ascii "1:cr") (ascii "first") 1 0).2 = .ok claim ∧
      (run calls).Superseded claim ∧
      ((run calls).table.renew false claim 0 1).2 = .error .invalidClaim := by
  refine ⟨rfl, ⟨⟨ascii "1:cr", ascii "second", 2, 6, false⟩, ?_, rfl, by decide⟩, rfl⟩
  exact mem_cons_of_mem _ (mem_singleton.mpr rfl)

end ActivationSystem

end SparkRoute.Lifecycle
