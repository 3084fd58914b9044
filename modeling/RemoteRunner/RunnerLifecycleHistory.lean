/-
Lease decisions read off the history alone.  Which runners hold a lease after a
run is settled by the starting scenario and by what every operation was
answered: the last word on a runner is a grant, or the end of the credential it
was granted.
-/
import RemoteRunner.RunnerLifecycleLeases

namespace RemoteRunner

namespace RunnerLifecycle

/-- An operation with what it was answered. -/
abbrev LifecycleEntry : Type :=
  Operation × Except RunnerLifecycleError RunnerCredentialGrant

/-- Registered under this credential, which is valid. -/
def LeasedUnder (simulator : RunnerLifecycleSimulator) (runnerId credentialRef : String) :
    Prop :=
  ∃ runner, simulator.runners.get? runnerId = some runner ∧ runner.state = .registered ∧
    runner.credentialRef = some credentialRef ∧
    simulator.HasValidCredential credentialRef

theorem eligible_iff_leasedUnder {simulator : RunnerLifecycleSimulator}
    {runnerId : String} :
    Eligible simulator runnerId ↔
      ∃ credentialRef, LeasedUnder simulator runnerId credentialRef := by
  constructor
  · rintro ⟨runner, credentialRef, h⟩
    exact ⟨credentialRef, runner, h⟩
  · rintro ⟨credentialRef, runner, h⟩
    exact ⟨runner, credentialRef, h⟩

/-- A rotation left the credential: it was answered neither with a missing
runner nor with a mismatch. -/
def LeavesCredential (credentialRef : String) (entry : LifecycleEntry) : Prop :=
  ∃ runnerId nextRef, entry.1 = .rotateCredential runnerId credentialRef nextRef ∧
    entry.2 ≠ .error .runnerNotFound ∧
    entry.2 ≠ .error .runnerCredentialRotationMismatch

/-- The entry grants the runner a credential, or leaves the one it has. -/
def EndsLease (runnerId credentialRef : String) (entry : LifecycleEntry) : Prop :=
  (∃ granted, entry.2 = .ok { runnerId, credentialRef := granted }) ∨
    LeavesCredential credentialRef entry

/-! ### One operation -/

/-- With its current credential on record, a rotation gets as far as
deactivating it exactly when the answer names neither runner nor mismatch. -/
theorem mayRotate_iff_answer {simulator : RunnerLifecycleSimulator}
    {runnerId currentRef nextRef : String} {current : RunnerCredentialFixture}
    (hcurrent : simulator.credentials.get? currentRef = some current) :
    (∃ runner, MayRotate simulator runnerId currentRef runner current) ↔
      (step simulator (.rotateCredential runnerId currentRef nextRef)).1 ≠
          .error .runnerNotFound ∧
        (step simulator (.rotateCredential runnerId currentRef nextRef)).1 ≠
          .error .runnerCredentialRotationMismatch := by
  simp only [step, rotateCredential, runOn_get_bind]
  rcases hrunner : simulator.runners.get? runnerId with _ | runner
  · apply iff_of_false
    · rintro ⟨runner, hmay⟩
      simp [hmay.runner_found] at hrunner
    · rw [okOr_none, runOn_attempt_error_bind]
      simp
  rw [okOr_some, runOn_attempt_ok_bind]
  by_cases hholds : runner.credentialRef ≠ some currentRef
  · rw [rejectIf_pos hholds, runOn_attempt_error_bind]
    apply iff_of_false
    · rintro ⟨other, hmay⟩
      obtain rfl := Option.some.inj (hmay.runner_found.symm.trans hrunner)
      exact hholds hmay.holds
    · simp
  rw [rejectIf_neg hholds, runOn_attempt_ok_bind, hcurrent, okOr_some,
    runOn_attempt_ok_bind, runOn_modify_bind, runOn_get_bind]
  apply iff_of_true ⟨runner, hrunner, not_not.mp hholds, hcurrent⟩
  -- what is left fails only over the next credential
  rcases hnext : (afterDeactivation simulator currentRef current).credentials.get?
      nextRef with _ | next
  · simp only [afterDeactivation] at hnext
    rw [hnext, okOr_none, runOn_attempt_error_bind]
    simp
  simp only [afterDeactivation] at hnext
  rw [hnext, okOr_some, runOn_attempt_ok_bind]
  rcases hvalid : validateCredential next simulator.nowTick with error | _
  · rw [runOn_attempt_error_bind]
    simp only [validateCredential, bind_eq_error_iff, rejectIf_eq_error_iff] at hvalid
    rcases hvalid with ⟨_, rfl⟩ | ⟨_, _, _, rfl⟩ <;> simp
  · rw [runOn_attempt_ok_bind, runOn_modify_bind]
    simp [runOn]

/-- The answer of an operation says which credential it deactivated: the one it
left, and none when it left none that is valid. -/
theorem step_leaves (simulator : RunnerLifecycleSimulator) (operation : Operation) :
    (∃ currentRef current, (step simulator operation).2.credentials =
          (afterDeactivation simulator currentRef current).credentials ∧
        ∀ credentialRef,
          LeavesCredential credentialRef (operation, (step simulator operation).1) ↔
            credentialRef = currentRef) ∨
      (step simulator operation).2.credentials = simulator.credentials ∧
        ∀ credentialRef, simulator.HasValidCredential credentialRef →
          ¬LeavesCredential credentialRef (operation, (step simulator operation).1) := by
  have hrotation : ∀ {runnerId currentRef nextRef runner current},
      Rotates simulator operation runnerId currentRef nextRef runner current →
        ∀ credentialRef,
          LeavesCredential credentialRef (operation, (step simulator operation).1) ↔
            credentialRef = currentRef := by
    rintro runnerId currentRef nextRef runner current ⟨rfl, hmay⟩ credentialRef
    constructor
    · rintro ⟨_, _, heq, _⟩
      exact (Operation.rotateCredential.inj heq).2.1.symm
    · rintro rfl
      exact ⟨runnerId, nextRef, rfl,
        (mayRotate_iff_answer hmay.current_found).mp ⟨runner, hmay⟩⟩
  rcases step_cases simulator operation with
    ⟨_, _, _, _, ⟨rfl, _⟩, hstep⟩ | ⟨_, currentRef, _, _, current, hrotates, _, hstep⟩ |
    ⟨_, currentRef, _, _, current, _, hrotates, _, hstep⟩ | ⟨_, hstep, _, hnot⟩
  · refine Or.inr ⟨congrArg (fun result => result.2.credentials) hstep, ?_⟩
    rintro _ _ ⟨_, _, heq, _⟩
    cases heq
  · exact Or.inl ⟨currentRef, current, congrArg (fun result => result.2.credentials) hstep,
      hrotation hrotates⟩
  · exact Or.inl ⟨currentRef, current, congrArg (fun result => result.2.credentials) hstep,
      hrotation hrotates⟩
  · refine Or.inr ⟨congrArg (fun result => result.2.credentials) hstep, ?_⟩
    rintro credentialRef ⟨current, hcurrent, _⟩ ⟨runnerId, nextRef, heq, hleaves⟩
    obtain rfl : operation = .rotateCredential runnerId credentialRef nextRef := heq
    obtain ⟨runner, hmay⟩ := (mayRotate_iff_answer hcurrent).mpr hleaves
    exact hnot runnerId credentialRef nextRef runner current ⟨rfl, hmay⟩

/-- A grant settles its runner's lease. -/
theorem leasedUnder_of_grant {simulator : RunnerLifecycleSimulator}
    {operation : Operation} {runnerId granted credentialRef : String}
    (h : (step simulator operation).1 = .ok { runnerId, credentialRef := granted }) :
    LeasedUnder (step simulator operation).2 runnerId credentialRef ↔
      granted = credentialRef := by
  obtain ⟨hrunner, ⟨runner, hfound, hholds⟩, heligible⟩ := RunnerLifecycle.granted h
  obtain rfl : runnerId = operation.runnerId := hrunner
  obtain ⟨other, otherRef, hfound', hstate, hholds', hvalid⟩ := heligible
  obtain rfl := Option.some.inj (hfound.symm.trans hfound')
  obtain rfl := Option.some.inj (hholds.symm.trans hholds')
  constructor
  · rintro ⟨third, hfound'', _, hholds'', _⟩
    obtain rfl := Option.some.inj (hfound.symm.trans hfound'')
    exact Option.some.inj (hholds.symm.trans hholds'')
  · rintro rfl
    exact ⟨runner, hfound, hstate, hholds, hvalid⟩

/-- A runner is leased under a credential after an operation when the operation
granted it, or it was before and the operation did not end it. -/
theorem leasedUnder_step (runnerId credentialRef : String)
    (simulator : RunnerLifecycleSimulator) (operation : Operation) :
    LeasedUnder (step simulator operation).2 runnerId credentialRef ↔
      (step simulator operation).1 = .ok { runnerId, credentialRef } ∨
        LeasedUnder simulator runnerId credentialRef ∧
          ¬EndsLease runnerId credentialRef (operation, (step simulator operation).1) := by
  by_cases hgrant : ∃ granted,
      (step simulator operation).1 = .ok { runnerId, credentialRef := granted }
  · obtain ⟨granted, hgranted⟩ := hgrant
    rw [leasedUnder_of_grant hgranted, hgranted, Except.ok.injEq,
      RunnerCredentialGrant.mk.injEq]
    simp [EndsLease]
  -- the runner's own record stays, so only its credential can go
  have hanswer : ∀ granted,
      (step simulator operation).1 ≠ .ok { runnerId, credentialRef := granted } :=
    fun granted h => hgrant ⟨granted, h⟩
  have hrunner : (step simulator operation).2.runners.get? runnerId =
      simulator.runners.get? runnerId := by
    rcases step_runner simulator operation runnerId with ⟨_, granted, h, _⟩ | hsame
    · exact absurd h (hanswer _)
    · exact hsame
  have hends : EndsLease runnerId credentialRef (operation, (step simulator operation).1) ↔
      LeavesCredential credentialRef (operation, (step simulator operation).1) := by
    simp [EndsLease, hanswer]
  rw [hends]
  simp only [hanswer, false_or, LeasedUnder, hrunner]
  have hvalid : (step simulator operation).2.HasValidCredential credentialRef ↔
      simulator.HasValidCredential credentialRef ∧
        ¬LeavesCredential credentialRef (operation, (step simulator operation).1) := by
    have htick := step_nowTick simulator operation
    rcases step_leaves simulator operation with
      ⟨currentRef, current, hcredentials, hleaves⟩ | ⟨hcredentials, hleaves⟩
    · rw [hleaves, and_comm, RunnerLifecycleSimulator.HasValidCredential, hcredentials,
        htick]
      exact hasValidCredential_afterDeactivation simulator currentRef credentialRef current
    · rw [RunnerLifecycleSimulator.HasValidCredential, hcredentials, htick]
      exact ⟨fun h => ⟨h, hleaves credentialRef h⟩, And.left⟩
  rw [hvalid]
  constructor
  · rintro ⟨runner, hfound, hstate, hholds, hvalid, hkept⟩
    exact ⟨⟨runner, hfound, hstate, hholds, hvalid⟩, hkept⟩
  · rintro ⟨⟨runner, hfound, hstate, hholds, hvalid⟩, hkept⟩
    exact ⟨runner, hfound, hstate, hholds, hvalid, hkept⟩

/-! ### Whole runs -/

/-- After any run, a lease is accepted exactly when the runner was leased under
some credential from the start and nothing ended it since, or some operation
granted it a credential and nothing ended that since. -/
theorem leases_by_history (scenario : RunnerLifecycleScenario)
    (operations : List Operation) (attempt : LeaseAttemptFixture) :
    (evaluateLease (stateAfter scenario operations) attempt).accepted = true ↔
      ∃ credentialRef,
        (LeasedUnder (.fromScenario scenario) attempt.runnerId credentialRef ∧
          ∀ entry ∈ trace step (.fromScenario scenario) operations,
            ¬EndsLease attempt.runnerId credentialRef entry) ∨
        ∃ before entry after,
          trace step (.fromScenario scenario) operations = before ++ entry :: after ∧
          entry.2 = .ok { runnerId := attempt.runnerId, credentialRef } ∧
          ∀ later ∈ after, ¬EndsLease attempt.runnerId credentialRef later := by
  rw [accepted_iff_eligible, eligible_iff_leasedUnder]
  apply exists_congr
  intro credentialRef
  exact finalState_iff_since step
    (fun simulator => LeasedUnder simulator attempt.runnerId credentialRef)
    (fun entry => entry.2 = .ok { runnerId := attempt.runnerId, credentialRef })
    (EndsLease attempt.runnerId credentialRef)
    (leasedUnder_step attempt.runnerId credentialRef) (.fromScenario scenario) operations

end RunnerLifecycle

end RemoteRunner
