/-
Grants against lease decisions: a granted runner is eligible under exactly the
granted credential, and nothing but a grant makes a runner eligible.
-/
import RemoteRunner.RunnerLifecycleRuns

namespace RemoteRunner

namespace RunnerLifecycle

/-- The runner an operation is about. -/
def Operation.runnerId : Operation → String
  | .registerRunner _ runnerId _ => runnerId
  | .rotateCredential runnerId _ _ => runnerId

/-- Registered and holding a valid credential. -/
def Eligible (simulator : RunnerLifecycleSimulator) (runnerId : String) : Prop :=
  ∃ runner credentialRef, simulator.runners.get? runnerId = some runner ∧
    runner.state = .registered ∧ runner.credentialRef = some credentialRef ∧
    simulator.HasValidCredential credentialRef

theorem RunnerLifecycleState.rejectionReason_eq_none_iff
    {state : RunnerLifecycleState} :
    state.rejectionReason = none ↔ state = .registered := by
  cases state <;> simp [rejectionReason]

theorem credentialRejectionReason_eq_none_iff {simulator : RunnerLifecycleSimulator}
    {credentialRef : String} :
    credentialRejectionReason simulator credentialRef = none ↔
      simulator.HasValidCredential credentialRef := by
  rw [credentialRejectionReason, RunnerLifecycleSimulator.HasValidCredential]
  rcases simulator.credentials.get? credentialRef with _ | credential
  · simp
  · simp only [Option.some.injEq, exists_eq_left']
    have hvalid_iff : validateCredential credential simulator.nowTick = .ok () ↔
        credential.Valid simulator.nowTick := validateCredential_eq_ok_iff
    rw [← hvalid_iff]
    split
    · rename_i hvalid
      exact iff_of_true rfl hvalid
    · rename_i hinvalid
      refine iff_of_false ?_ hinvalid
      split <;> simp

/-- A lease is accepted exactly for an eligible runner. -/
theorem accepted_iff_eligible {simulator : RunnerLifecycleSimulator}
    {attempt : LeaseAttemptFixture} :
    (evaluateLease simulator attempt).accepted = true ↔
      Eligible simulator attempt.runnerId := by
  constructor
  · intro haccepted
    simp only [evaluateLease, leaseRejectionReason, Option.isNone_iff_eq_none] at haccepted
    rcases hrunner : simulator.runners.get? attempt.runnerId with _ | runner
    · simp [hrunner] at haccepted
    rcases hstate : runner.state.rejectionReason with _ | reason
    · rcases hholds : runner.credentialRef with _ | credentialRef
      · simp [hrunner, hstate, hholds] at haccepted
      · simp only [hrunner, hstate, hholds] at haccepted
        exact ⟨runner, credentialRef, hrunner,
          RunnerLifecycleState.rejectionReason_eq_none_iff.mp hstate, hholds,
          credentialRejectionReason_eq_none_iff.mp haccepted⟩
    · simp [hrunner, hstate] at haccepted
  · intro heligible
    obtain ⟨runner, credentialRef, hrunner, hstate, hholds, hvalid⟩ := heligible
    exact lease_accepted hrunner hstate hholds hvalid

/-- The decision reads one runner record and the credential it holds. -/
theorem evaluateLease_congr (first second : RunnerLifecycleSimulator)
    {attempt : LeaseAttemptFixture} (htick : first.nowTick = second.nowTick)
    (hrunner : first.runners.get? attempt.runnerId =
      second.runners.get? attempt.runnerId)
    (hcredential : ∀ credentialRef, first.Holds attempt.runnerId credentialRef →
      first.credentials.get? credentialRef = second.credentials.get? credentialRef) :
    evaluateLease first attempt = evaluateLease second attempt := by
  have hreason : leaseRejectionReason first attempt.runnerId =
      leaseRejectionReason second attempt.runnerId := by
    rw [leaseRejectionReason, leaseRejectionReason, ← hrunner]
    rcases hfound : first.runners.get? attempt.runnerId with _ | runner
    · rfl
    rcases hstate : runner.state.rejectionReason with _ | reason
    · rcases hholds : runner.credentialRef with _ | credentialRef
      · simp only [hstate, hholds]
      · have hsame := hcredential credentialRef ⟨runner, hfound, hholds⟩
        simp only [hstate, hholds, credentialRejectionReason, hsame, htick]
    · simp only [hstate]
  rw [evaluateLease, evaluateLease, hreason]

/-- What is valid after an operation was valid before it. -/
theorem hasValidCredential_of_step {simulator : RunnerLifecycleSimulator}
    {operation : Operation} {credentialRef : String}
    (h : (step simulator operation).2.HasValidCredential credentialRef) :
    simulator.HasValidCredential credentialRef := by
  obtain ⟨credential, hfound, hvalid⟩ := h
  rw [step_nowTick] at hvalid
  rcases step_credentials simulator operation with ⟨otherRef, other, hstep⟩ | hstep
  · have hafter : (afterDeactivation simulator otherRef other).HasValidCredential
        credentialRef := ⟨credential, by rw [← hstep, hfound], hvalid⟩
    exact ((hasValidCredential_afterDeactivation simulator otherRef credentialRef
      other).mp hafter).2
  · exact ⟨credential, by rw [← hstep, hfound], hvalid⟩

/-- A grant is what the runner holds afterwards, and makes it eligible. -/
theorem granted {simulator : RunnerLifecycleSimulator} {operation : Operation}
    {grant : RunnerCredentialGrant} (h : (step simulator operation).1 = .ok grant) :
    grant.runnerId = operation.runnerId ∧
      (step simulator operation).2.Holds operation.runnerId grant.credentialRef ∧
      Eligible (step simulator operation).2 operation.runnerId := by
  rcases step_cases simulator operation with
    ⟨tokenId, runnerId, credentialRef, token, ⟨rfl, hcan⟩, hstep⟩ |
    ⟨runnerId, currentRef, nextRef, runner, current, ⟨rfl, hmay⟩, husable, hstep⟩ |
    ⟨_, _, _, _, _, _, _, _, hstep⟩ | ⟨_, hstep, _, _⟩
  · rw [hstep] at h ⊢
    obtain rfl := Except.ok.inj h
    have hrunner : (afterRegistration simulator tokenId runnerId credentialRef
        token).runners.get? runnerId = some
          { runnerId, state := .registered, registrationTokenId := some tokenId,
            credentialRef := some credentialRef } := by
      simp [afterRegistration]
    exact ⟨rfl, ⟨_, hrunner, rfl⟩, _, _, hrunner, rfl, rfl, hcan.credential_valid⟩
  · rw [hstep] at h ⊢
    obtain rfl := Except.ok.inj h
    have hrunner : (afterRotation simulator runnerId currentRef nextRef runner
        current).runners.get? runnerId = some
          { runner with state := .registered, credentialRef := some nextRef } := by
      simp [afterRotation]
    have hvalid : (afterRotation simulator runnerId currentRef nextRef runner
        current).HasValidCredential nextRef :=
      (hasValidCredential_afterDeactivation simulator currentRef nextRef current).mpr
        husable
    exact ⟨rfl, ⟨_, hrunner, rfl⟩, _, _, hrunner, rfl, rfl, hvalid⟩
  · rw [hstep] at h
    cases h
  · rw [hstep] at h
    cases h

/-- An operation touches its own runner only, and no runner when it fails. -/
theorem runner_of_step (simulator : RunnerLifecycleSimulator) (operation : Operation)
    {runnerId : String}
    (h : runnerId ≠ operation.runnerId ∨
      ∃ error, (step simulator operation).1 = .error error) :
    (step simulator operation).2.runners.get? runnerId =
      simulator.runners.get? runnerId := by
  rcases step_runner simulator operation runnerId with ⟨_, _, hgrant, _⟩ | hsame
  · rcases h with hne | ⟨error, herror⟩
    · exact absurd (granted hgrant).1 hne
    · rw [hgrant] at herror
      cases herror
  · exact hsame

/-- No operation makes a runner eligible but by granting it a credential. -/
theorem eligible_of_step {simulator : RunnerLifecycleSimulator} {operation : Operation}
    {runnerId : String}
    (h : runnerId ≠ operation.runnerId ∨
      ∃ error, (step simulator operation).1 = .error error)
    (heligible : Eligible (step simulator operation).2 runnerId) :
    Eligible simulator runnerId := by
  obtain ⟨runner, credentialRef, hrunner, hstate, hholds, hvalid⟩ := heligible
  rw [runner_of_step simulator operation h] at hrunner
  exact ⟨runner, credentialRef, hrunner, hstate, hholds, hasValidCredential_of_step hvalid⟩

/-- A registration changes the decision on no other runner. -/
theorem lease_of_registration (simulator : RunnerLifecycleSimulator)
    (tokenId runnerId credentialRef : String) {attempt : LeaseAttemptFixture}
    (hne : attempt.runnerId ≠ runnerId) :
    evaluateLease (step simulator
        (.registerRunner tokenId runnerId credentialRef)).2 attempt =
      evaluateLease simulator attempt := by
  have hrunner := runner_of_step simulator
    (.registerRunner tokenId runnerId credentialRef) (Or.inl hne)
  rw [step] at hrunner ⊢
  rcases registerRunner_cases simulator tokenId runnerId credentialRef with
    ⟨_, _, hrun⟩ | ⟨_, hrun, _⟩
  · rw [hrun] at hrunner ⊢
    exact evaluateLease_congr _ _ rfl hrunner fun _ _ => rfl
  · rw [hrun]

/-- A rotation changes the decision on no other runner that does not hold the
credential it leaves. -/
theorem lease_of_rotation (simulator : RunnerLifecycleSimulator)
    (runnerId currentRef nextRef : String) {attempt : LeaseAttemptFixture}
    (hne : attempt.runnerId ≠ runnerId)
    (hholds : ¬simulator.Holds attempt.runnerId currentRef) :
    evaluateLease (step simulator
        (.rotateCredential runnerId currentRef nextRef)).2 attempt =
      evaluateLease simulator attempt := by
  have hrunner := runner_of_step simulator
    (.rotateCredential runnerId currentRef nextRef) (Or.inl hne)
  have hcredential : ∀ (current : RunnerCredentialFixture) (credentialRef : String),
      simulator.Holds attempt.runnerId credentialRef →
      simulator.credentials.get? credentialRef =
        (afterDeactivation simulator currentRef current).credentials.get?
          credentialRef := by
    intro current credentialRef hheld
    have hother : credentialRef ≠ currentRef := by
      rintro rfl
      exact hholds hheld
    simp [afterDeactivation, hother]
  rw [step] at hrunner ⊢
  rcases rotateCredential_cases simulator runnerId currentRef nextRef with
    ⟨_, current, _, _, _, hrun⟩ | ⟨_, current, _, _, _, hrun⟩ | ⟨_, hrun, _⟩
  · rw [hrun] at hrunner ⊢
    symm
    exact evaluateLease_congr _ _ rfl hrunner.symm (hcredential current)
  · rw [hrun] at hrunner ⊢
    symm
    exact evaluateLease_congr _ _ rfl hrunner.symm (hcredential current)
  · rw [hrun]

/-- From every reachable state: a granted runner holds the granted credential
and gets its lease; a registration leaves every other decision alone, and so
does a rotation but for holders of the credential it leaves, who can only lose
their lease; and a failure makes no runner eligible. -/
theorem grants_and_leases_agree (scenario : RunnerLifecycleScenario)
    (operations : List Operation) (operation : Operation) :
    (∀ grant,
      (step (stateAfter scenario operations) operation).1 = .ok grant →
        grant.runnerId = operation.runnerId ∧
        (step (stateAfter scenario operations) operation).2.Holds operation.runnerId
          grant.credentialRef ∧
        ∀ attempt : LeaseAttemptFixture, attempt.runnerId = operation.runnerId →
          (evaluateLease (step (stateAfter scenario operations) operation).2
            attempt).accepted = true) ∧
      (∀ attempt : LeaseAttemptFixture, attempt.runnerId ≠ operation.runnerId →
        (∀ tokenId runnerId credentialRef,
          operation = .registerRunner tokenId runnerId credentialRef →
            evaluateLease (step (stateAfter scenario operations) operation).2 attempt =
              evaluateLease (stateAfter scenario operations) attempt) ∧
        ∀ runnerId currentRef nextRef,
          operation = .rotateCredential runnerId currentRef nextRef →
          evaluateLease (step (stateAfter scenario operations) operation).2 attempt ≠
              evaluateLease (stateAfter scenario operations) attempt →
            (stateAfter scenario operations).Holds attempt.runnerId currentRef ∧
            ((evaluateLease (step (stateAfter scenario operations) operation).2
                attempt).accepted = true →
              (evaluateLease (stateAfter scenario operations) attempt).accepted =
                true)) ∧
      ∀ error, (step (stateAfter scenario operations) operation).1 = .error error →
        ∀ attempt : LeaseAttemptFixture,
          (evaluateLease (step (stateAfter scenario operations) operation).2
              attempt).accepted = true →
            (evaluateLease (stateAfter scenario operations) attempt).accepted = true := by
  refine ⟨?_, ?_, ?_⟩
  · intro grant hgrant
    obtain ⟨hrunner, hholds, heligible⟩ := granted hgrant
    refine ⟨hrunner, hholds, ?_⟩
    intro attempt hattempt
    rw [accepted_iff_eligible, hattempt]
    exact heligible
  · intro attempt hne
    constructor
    · rintro tokenId runnerId credentialRef rfl
      exact lease_of_registration _ tokenId runnerId credentialRef hne
    · rintro runnerId currentRef nextRef rfl hchanged
      constructor
      · by_contra hholds
        exact hchanged (lease_of_rotation _ runnerId currentRef nextRef hne hholds)
      · rw [accepted_iff_eligible, accepted_iff_eligible]
        exact eligible_of_step (Or.inl hne)
  · intro error herror attempt
    rw [accepted_iff_eligible, accepted_iff_eligible]
    exact eligible_of_step (Or.inr ⟨error, herror⟩)

end RunnerLifecycle

end RemoteRunner
