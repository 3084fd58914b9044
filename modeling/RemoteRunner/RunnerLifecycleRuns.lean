/-
Runs of lifecycle operations: what failures leave behind, how long operator
holds last, and that a credential rotated away stays revoked.
-/
import RemoteRunner.RunnerLifecycleSteps
import RemoteRunner.StepRun

namespace RemoteRunner

namespace RunnerLifecycle

inductive Operation where
  | registerRunner (tokenId runnerId credentialRef : String)
  | rotateCredential (runnerId currentCredentialRef nextCredentialRef : String)
deriving DecidableEq

/-- One operation against the tables: its result and the tables it leaves. -/
def step (simulator : RunnerLifecycleSimulator) (operation : Operation) :
    Except RunnerLifecycleError RunnerCredentialGrant × RunnerLifecycleSimulator :=
  match operation with
  | .registerRunner tokenId runnerId credentialRef =>
      runOn (registerRunner tokenId runnerId credentialRef) simulator
  | .rotateCredential runnerId currentCredentialRef nextCredentialRef =>
      runOn (rotateCredential runnerId currentCredentialRef nextCredentialRef)
        simulator

/-- The tables a scenario has after some operations. -/
def stateAfter (scenario : RunnerLifecycleScenario) (operations : List Operation) :
    RunnerLifecycleSimulator :=
  finalState step (.fromScenario scenario) operations

theorem stateAfter_take_succ {scenario : RunnerLifecycleScenario}
    {operations : List Operation} {position : Nat} {operation : Operation}
    (h : operations[position]? = some operation) :
    stateAfter scenario (operations.take (position + 1)) =
      (step (stateAfter scenario (operations.take position)) operation).2 :=
  finalState_take_succ step h

/-- The operation is a registration that can succeed. -/
def Registers (simulator : RunnerLifecycleSimulator) (operation : Operation)
    (tokenId runnerId credentialRef : String) (token : RegistrationTokenFixture) :
    Prop :=
  operation = .registerRunner tokenId runnerId credentialRef ∧
    CanRegister simulator tokenId credentialRef token

/-- The operation is a rotation that gets as far as deactivating the current
credential. -/
def Rotates (simulator : RunnerLifecycleSimulator) (operation : Operation)
    (runnerId currentCredentialRef nextCredentialRef : String)
    (runner : RunnerFixture) (current : RunnerCredentialFixture) : Prop :=
  operation = .rotateCredential runnerId currentCredentialRef nextCredentialRef ∧
    MayRotate simulator runnerId currentCredentialRef runner current

/-- The next credential of a rotation is another one, and valid. -/
def NextUsable (simulator : RunnerLifecycleSimulator)
    (currentCredentialRef nextCredentialRef : String) : Prop :=
  nextCredentialRef ≠ currentCredentialRef ∧
    simulator.HasValidCredential nextCredentialRef

/-- All an operation can do. -/
theorem step_cases (simulator : RunnerLifecycleSimulator) (operation : Operation) :
    (∃ tokenId runnerId credentialRef token,
        Registers simulator operation tokenId runnerId credentialRef token ∧
        step simulator operation = (.ok { runnerId, credentialRef },
          afterRegistration simulator tokenId runnerId credentialRef token)) ∨
      (∃ runnerId currentRef nextRef runner current,
        Rotates simulator operation runnerId currentRef nextRef runner current ∧
        NextUsable simulator currentRef nextRef ∧
        step simulator operation = (.ok { runnerId, credentialRef := nextRef },
          afterRotation simulator runnerId currentRef nextRef runner current)) ∨
      (∃ runnerId currentRef nextRef runner current error,
        Rotates simulator operation runnerId currentRef nextRef runner current ∧
        ¬NextUsable simulator currentRef nextRef ∧
        step simulator operation = (.error error,
          afterDeactivation simulator currentRef current)) ∨
      ∃ error, step simulator operation = (.error error, simulator) ∧
        (∀ tokenId runnerId credentialRef token,
          ¬Registers simulator operation tokenId runnerId credentialRef token) ∧
        ∀ runnerId currentRef nextRef runner current,
          ¬Rotates simulator operation runnerId currentRef nextRef runner current := by
  rcases operation with ⟨tokenId, runnerId, credentialRef⟩ |
    ⟨runnerId, currentRef, nextRef⟩
  · rcases registerRunner_cases simulator tokenId runnerId credentialRef with
      ⟨token, hcan, hrun⟩ | ⟨error, hrun, hcannot⟩
    · exact Or.inl ⟨tokenId, runnerId, credentialRef, token, ⟨rfl, hcan⟩, hrun⟩
    · refine Or.inr (Or.inr (Or.inr ⟨error, hrun, ?_, ?_⟩))
      · rintro _ _ _ token ⟨heq, hcan⟩
        obtain ⟨rfl, rfl, rfl⟩ := Operation.registerRunner.inj heq
        exact hcannot token hcan
      · rintro _ _ _ _ _ ⟨heq, _⟩
        cases heq
  · rcases rotateCredential_cases simulator runnerId currentRef nextRef with
      ⟨runner, current, hmay, hne, hvalid, hrun⟩ |
      ⟨runner, current, error, hmay, hnot, hrun⟩ | ⟨error, hrun, hcannot⟩
    · exact Or.inr (Or.inl ⟨runnerId, currentRef, nextRef, runner, current,
        ⟨rfl, hmay⟩, ⟨hne, hvalid⟩, hrun⟩)
    · exact Or.inr (Or.inr (Or.inl ⟨runnerId, currentRef, nextRef, runner, current,
        error, ⟨rfl, hmay⟩, hnot, hrun⟩))
    · refine Or.inr (Or.inr (Or.inr ⟨error, hrun, ?_, ?_⟩))
      · rintro _ _ _ _ ⟨heq, _⟩
        cases heq
      · rintro _ _ _ runner current ⟨heq, hmay⟩
        obtain ⟨rfl, rfl, rfl⟩ := Operation.rotateCredential.inj heq
        exact hcannot runner current hmay

/-! ### One table at a time -/

theorem step_nowTick (simulator : RunnerLifecycleSimulator) (operation : Operation) :
    (step simulator operation).2.nowTick = simulator.nowTick := by
  rcases step_cases simulator operation with
    ⟨_, _, _, _, _, hstep⟩ | ⟨_, _, _, _, _, _, _, hstep⟩ |
    ⟨_, _, _, _, _, _, _, _, hstep⟩ | ⟨_, hstep, _, _⟩ <;>
    rw [hstep] <;> rfl

/-- Only a registration touches the tokens. -/
theorem step_tokens (simulator : RunnerLifecycleSimulator) (operation : Operation) :
    (∃ tokenId runnerId credentialRef token,
        Registers simulator operation tokenId runnerId credentialRef token ∧
        (step simulator operation).2 =
          afterRegistration simulator tokenId runnerId credentialRef token) ∨
      (step simulator operation).2.registrationTokens = simulator.registrationTokens := by
  rcases step_cases simulator operation with
    ⟨tokenId, runnerId, credentialRef, token, hregisters, hstep⟩ |
    ⟨_, _, _, _, _, _, _, hstep⟩ | ⟨_, _, _, _, _, _, _, _, hstep⟩ | ⟨_, hstep, _, _⟩
  · exact Or.inl ⟨tokenId, runnerId, credentialRef, token, hregisters,
      congrArg Prod.snd hstep⟩
  · exact Or.inr (congrArg (fun result => result.2.registrationTokens) hstep)
  · exact Or.inr (congrArg (fun result => result.2.registrationTokens) hstep)
  · exact Or.inr (congrArg (fun result => result.2.registrationTokens) hstep)

/-- An operation deactivates a credential or leaves them all as they are. -/
theorem step_credentials (simulator : RunnerLifecycleSimulator) (operation : Operation) :
    (∃ credentialRef credential, (step simulator operation).2.credentials =
        (afterDeactivation simulator credentialRef credential).credentials) ∨
      (step simulator operation).2.credentials = simulator.credentials := by
  rcases step_cases simulator operation with
    ⟨_, _, _, _, _, hstep⟩ | ⟨_, currentRef, _, _, current, _, _, hstep⟩ |
    ⟨_, currentRef, _, _, current, _, _, _, hstep⟩ | ⟨_, hstep, _, _⟩
  · exact Or.inr (congrArg (fun result => result.2.credentials) hstep)
  · exact Or.inl ⟨currentRef, current,
      congrArg (fun result => result.2.credentials) hstep⟩
  · exact Or.inl ⟨currentRef, current,
      congrArg (fun result => result.2.credentials) hstep⟩
  · exact Or.inr (congrArg (fun result => result.2.credentials) hstep)

/-- A runner record changes only with a grant, to what was granted. -/
theorem step_runner (simulator : RunnerLifecycleSimulator) (operation : Operation)
    (runnerId : String) :
    (∃ runner credentialRef,
        (step simulator operation).1 = .ok { runnerId, credentialRef } ∧
        (step simulator operation).2.runners.get? runnerId = some runner ∧
        runner.credentialRef = some credentialRef) ∨
      (step simulator operation).2.runners.get? runnerId =
        simulator.runners.get? runnerId := by
  rcases step_cases simulator operation with
    ⟨_, otherId, _, _, _, hstep⟩ | ⟨otherId, _, _, _, _, _, _, hstep⟩ |
    ⟨_, _, _, _, _, _, _, _, hstep⟩ | ⟨_, hstep, _, _⟩
  · rw [hstep]
    by_cases hsame : runnerId = otherId
    · subst hsame
      exact Or.inl ⟨_, _, rfl, by simp [afterRegistration]; rfl, rfl⟩
    · exact Or.inr (by simp [afterRegistration, hsame])
  · rw [hstep]
    by_cases hsame : runnerId = otherId
    · subst hsame
      exact Or.inl ⟨_, _, rfl, by simp [afterRotation]; rfl, rfl⟩
    · exact Or.inr (by simp [afterRotation, hsame])
  · rw [hstep]
    exact Or.inr rfl
  · rw [hstep]
    exact Or.inr rfl

/-! ### Failures -/

/-- A rotation that deactivates an active credential and then finds no usable
next one. -/
def HalfRotation (simulator : RunnerLifecycleSimulator) (operation : Operation) :
    Prop :=
  ∃ runnerId currentRef nextRef runner current,
    Rotates simulator operation runnerId currentRef nextRef runner current ∧
      current.active = true ∧ ¬NextUsable simulator currentRef nextRef

theorem afterDeactivation_eq_self_iff {simulator : RunnerLifecycleSimulator}
    {credentialRef : String} {credential : RunnerCredentialFixture}
    (h : simulator.credentials.get? credentialRef = some credential) :
    afterDeactivation simulator credentialRef credential = simulator ↔
      credential.active = false := by
  constructor
  · intro hsame
    have hget := congrArg (fun tables => tables.credentials.get? credentialRef) hsame
    simp only [afterDeactivation, OrderedMap.get?_insert, ↓reduceIte, h,
      Option.some.injEq] at hget
    exact (congrArg RunnerCredentialFixture.active hget).symm
  · intro hinactive
    have hcredential : { credential with active := false } = credential := by
      rw [← hinactive]
    rw [afterDeactivation, hcredential, OrderedMap.insert_get?_self h]

/-- A failure changes nothing exactly when it is no half rotation. -/
theorem failed_step_eq_iff (simulator : RunnerLifecycleSimulator)
    (operation : Operation) :
    ((∃ error, (step simulator operation).1 = .error error) →
        (step simulator operation).2 = simulator) ↔
      ¬HalfRotation simulator operation := by
  rcases step_cases simulator operation with
    ⟨_, _, _, _, ⟨rfl, _⟩, hstep⟩ |
    ⟨_, currentRef, nextRef, _, _, ⟨rfl, _⟩, husable, hstep⟩ |
    ⟨_, currentRef, nextRef, runner, current, error, hrotates, hunusable, hstep⟩ |
    ⟨error, hstep, _, hnot⟩
  · rw [hstep]
    apply iff_of_true (by simp)
    intro hhalf
    obtain ⟨_, _, _, _, _, ⟨heq, _⟩, _⟩ := hhalf
    cases heq
  · rw [hstep]
    apply iff_of_true (by simp)
    intro hhalf
    obtain ⟨_, _, _, _, _, ⟨heq, _⟩, _, hunusable⟩ := hhalf
    obtain ⟨_, rfl, rfl⟩ := Operation.rotateCredential.inj heq
    exact hunusable husable
  · rw [hstep]
    have hsame := afterDeactivation_eq_self_iff hrotates.2.current_found
    constructor
    · intro hunchanged hhalf
      obtain ⟨_, _, _, _, current', ⟨heq, hmay⟩, hactive, _⟩ := hhalf
      obtain ⟨_, hcurrent, _⟩ := Operation.rotateCredential.inj
        (hrotates.1.symm.trans heq)
      subst hcurrent
      obtain rfl := Option.some.inj
        (hmay.current_found.symm.trans hrotates.2.current_found)
      rw [hsame.mp (hunchanged ⟨error, rfl⟩)] at hactive
      cases hactive
    · intro hnot _
      apply hsame.mpr
      rcases hactive : current.active with _ | _
      · rfl
      · exact absurd ⟨_, _, _, _, _, hrotates, hactive, hunusable⟩ hnot
  · rw [hstep]
    apply iff_of_true (fun _ => rfl)
    intro hhalf
    obtain ⟨_, _, _, _, _, hrotates, _⟩ := hhalf
    exact hnot _ _ _ _ _ hrotates

/-- In every state a scenario can reach, a failing operation changes nothing
exactly when it is no half rotation; and so throughout a run. -/
theorem failed_operation_unchanged_iff (scenario : RunnerLifecycleScenario)
    (operations : List Operation) :
    (∀ operation,
      ((∃ error, (step (stateAfter scenario operations) operation).1 = .error error) →
        (step (stateAfter scenario operations) operation).2 =
          stateAfter scenario operations) ↔
        ¬HalfRotation (stateAfter scenario operations) operation) ∧
      ((∀ (position : Nat) (operation : Operation),
          operations[position]? = some operation →
          (∃ error, (step (stateAfter scenario (operations.take position))
            operation).1 = .error error) →
          stateAfter scenario (operations.take (position + 1)) =
            stateAfter scenario (operations.take position)) ↔
        ∀ (position : Nat) (operation : Operation),
          operations[position]? = some operation →
          ¬HalfRotation (stateAfter scenario (operations.take position)) operation) := by
  refine ⟨fun operation => failed_step_eq_iff _ operation, ?_⟩
  refine forall_congr' fun position => forall_congr' fun operation =>
    forall_congr' fun hoperation => ?_
  rw [← failed_step_eq_iff, stateAfter_take_succ hoperation]

/-- A registered runner and its credential. -/
def smallScenario (state : RunnerLifecycleState) : RunnerLifecycleScenario where
  nowTick := 10
  registrationTokens := []
  credentials := [
    { credentialRef := "credential-ref-active", expiresAtTick := 20, active := true,
      rotatedFrom := none },
    { credentialRef := "credential-ref-rotated", expiresAtTick := 30, active := true,
      rotatedFrom := some "credential-ref-active" }]
  runners := [
    { runnerId := "runner", state, registrationTokenId := none,
      credentialRef := some "credential-ref-active" }]

/-- A rotation to a credential that is not on record fails and leaves the
runner without a usable one. -/
theorem failed_rotation_deactivates :
    (step (stateAfter (smallScenario .registered) [])
        (.rotateCredential "runner" "credential-ref-active" "missing")).1 =
        .error .runnerCredentialNotFound ∧
      (step (stateAfter (smallScenario .registered) [])
        (.rotateCredential "runner" "credential-ref-active" "missing")).2 ≠
        stateAfter (smallScenario .registered) [] := by
  decide

/-! ### Holds -/

/-- The states an operator holds a runner in. -/
def RunnerLifecycleState.Held (state : RunnerLifecycleState) : Prop :=
  state = .disabled ∨ state = .draining ∨ state = .quarantined

/-- The runner is on record in a held state. -/
def RunnerHeld (simulator : RunnerLifecycleSimulator) (runnerId : String) : Prop :=
  ∃ runner, simulator.runners.get? runnerId = some runner ∧ runner.state.Held

/-- The operation registers a held runner anew or rotates its credential, and
nothing stops it. -/
def LiftsHold (simulator : RunnerLifecycleSimulator) (operation : Operation) : Prop :=
  ∃ runnerId, RunnerHeld simulator runnerId ∧
    ((∃ tokenId credentialRef token,
        Registers simulator operation tokenId runnerId credentialRef token) ∨
      ∃ currentRef nextRef runner current,
        Rotates simulator operation runnerId currentRef nextRef runner current ∧
          NextUsable simulator currentRef nextRef)

theorem RunnerHeld.lease_rejected {simulator : RunnerLifecycleSimulator}
    {attempt : LeaseAttemptFixture} (h : RunnerHeld simulator attempt.runnerId) :
    (evaluateLease simulator attempt).accepted = false := by
  obtain ⟨runner, hrunner, hheld⟩ := h
  rcases hheld with hstate | hstate | hstate <;>
    simp [evaluateLease, leaseRejectionReason, hrunner, hstate,
      RunnerLifecycleState.rejectionReason]

/-- A registered runner with a valid credential gets its lease. -/
theorem lease_accepted {simulator : RunnerLifecycleSimulator}
    {attempt : LeaseAttemptFixture} {runner : RunnerFixture} {credentialRef : String}
    (hrunner : simulator.runners.get? attempt.runnerId = some runner)
    (hstate : runner.state = .registered)
    (hholds : runner.credentialRef = some credentialRef)
    (hvalid : simulator.HasValidCredential credentialRef) :
    (evaluateLease simulator attempt).accepted = true := by
  obtain ⟨credential, hfound, hgood⟩ := hvalid
  have hok : validateCredential credential simulator.nowTick = .ok () :=
    validateCredential_eq_ok_iff.mpr hgood
  simp [evaluateLease, leaseRejectionReason, credentialRejectionReason, hrunner,
    hstate, hholds, hfound, hok, RunnerLifecycleState.rejectionReason]

/-- A hold outlives every operation that does not lift one. -/
theorem RunnerHeld.step {simulator : RunnerLifecycleSimulator} {operation : Operation}
    {runnerId : String} (h : RunnerHeld simulator runnerId)
    (hlift : ¬LiftsHold simulator operation) :
    RunnerHeld (step simulator operation).2 runnerId := by
  obtain ⟨runner, hrunner, hheld⟩ := h
  rcases step_cases simulator operation with
    ⟨tokenId, otherId, credentialRef, token, hregisters, hstep⟩ |
    ⟨otherId, currentRef, nextRef, other, current, hrotates, husable, hstep⟩ |
    ⟨_, _, _, _, _, _, _, _, hstep⟩ | ⟨_, hstep, _, _⟩
  · have hne : runnerId ≠ otherId := by
      rintro rfl
      exact hlift ⟨runnerId, ⟨runner, hrunner, hheld⟩,
        Or.inl ⟨tokenId, credentialRef, token, hregisters⟩⟩
    rw [hstep]
    exact ⟨runner, by simp [afterRegistration, hne, hrunner], hheld⟩
  · have hne : runnerId ≠ otherId := by
      rintro rfl
      exact hlift ⟨runnerId, ⟨runner, hrunner, hheld⟩,
        Or.inr ⟨currentRef, nextRef, other, current, hrotates, husable⟩⟩
    rw [hstep]
    exact ⟨runner, by simp [afterRotation, hne, hrunner], hheld⟩
  · rw [hstep]
    exact ⟨runner, hrunner, hheld⟩
  · rw [hstep]
    exact ⟨runner, hrunner, hheld⟩

/-- Right after a hold is lifted the runner gets its lease. -/
theorem LiftsHold.lease_accepted {simulator : RunnerLifecycleSimulator}
    {operation : Operation} (h : LiftsHold simulator operation) :
    ∃ runnerId, RunnerHeld simulator runnerId ∧
      ∀ attempt : LeaseAttemptFixture, attempt.runnerId = runnerId →
        (evaluateLease (RunnerLifecycle.step simulator operation).2 attempt).accepted =
          true := by
  obtain ⟨runnerId, hheld, hop⟩ := h
  refine ⟨runnerId, hheld, ?_⟩
  rintro attempt rfl
  rcases step_cases simulator operation with
    ⟨tokenId, otherId, credentialRef, token, ⟨hregister, hcan⟩, hstep⟩ |
    ⟨otherId, currentRef, nextRef, other, current, ⟨hrotate, _⟩, husable, hstep⟩ |
    ⟨_, _, _, _, _, _, ⟨hrotate, _⟩, hunusable, hstep⟩ | ⟨_, hstep, hnot, hnot'⟩
  · have hsame : otherId = attempt.runnerId := by
      rcases hop with ⟨_, _, _, heq, _⟩ | ⟨_, _, _, _, ⟨heq, _⟩, _⟩
      · exact (Operation.registerRunner.inj (hregister.symm.trans heq)).2.1
      · cases hregister.symm.trans heq
    subst hsame
    rw [hstep]
    exact RunnerLifecycle.lease_accepted (by simp [afterRegistration]; rfl) rfl rfl
      hcan.credential_valid
  · have hsame : otherId = attempt.runnerId := by
      rcases hop with ⟨_, _, _, heq, _⟩ | ⟨_, _, _, _, ⟨heq, _⟩, _⟩
      · cases hrotate.symm.trans heq
      · exact (Operation.rotateCredential.inj (hrotate.symm.trans heq)).1
    subst hsame
    rw [hstep]
    exact RunnerLifecycle.lease_accepted (by simp [afterRotation]; rfl) rfl rfl
      ((hasValidCredential_afterDeactivation simulator currentRef nextRef current).mpr
        husable)
  · rcases hop with ⟨_, _, _, heq, _⟩ | ⟨_, _, _, _, ⟨heq, _⟩, husable⟩
    · cases hrotate.symm.trans heq
    · obtain ⟨_, rfl, rfl⟩ := Operation.rotateCredential.inj (hrotate.symm.trans heq)
      exact absurd husable hunusable
  · rcases hop with ⟨_, _, _, hregisters⟩ | ⟨_, _, _, _, hrotates, _⟩
    · exact absurd hregisters (hnot _ _ _ _)
    · exact absurd hrotates (hnot' _ _ _ _ _)

/-- A hold outlives a run that lifts none. -/
theorem RunnerHeld.stateAfter {scenario : RunnerLifecycleScenario}
    {operations : List Operation} {runnerId : String}
    (hlift : ∀ (position : Nat) (operation : Operation),
      operations[position]? = some operation →
        ¬LiftsHold (stateAfter scenario (operations.take position)) operation)
    {start : Nat}
    (hheld : RunnerHeld (RunnerLifecycle.stateAfter scenario (operations.take start))
      runnerId) (count : Nat) :
    RunnerHeld (RunnerLifecycle.stateAfter scenario
      (operations.take (start + count))) runnerId := by
  induction count with
  | zero => exact hheld
  | succ count ih =>
      rcases hoperation : operations[start + count]? with _ | operation
      · have hlength := List.getElem?_eq_none_iff.mp hoperation
        have htake : operations.take (start + (count + 1)) =
            operations.take (start + count) := by
          rw [List.take_of_length_le hlength, List.take_of_length_le (by omega)]
        rw [htake]
        exact ih
      · rw [← Nat.add_assoc, stateAfter_take_succ hoperation]
        exact ih.step (hlift _ _ hoperation)

/-- The credential is on record as inactive and this runner does not hold it. -/
structure Revoked (simulator : RunnerLifecycleSimulator)
    (runnerId credentialRef : String) : Prop where
  inactive : ∃ credential, simulator.credentials.get? credentialRef = some credential ∧
    credential.active = false
  not_held : ¬simulator.Holds runnerId credentialRef

theorem not_hasValidCredential_of_inactive {simulator : RunnerLifecycleSimulator}
    {credentialRef : String}
    (h : ∃ credential, simulator.credentials.get? credentialRef = some credential ∧
      credential.active = false) : ¬simulator.HasValidCredential credentialRef := by
  obtain ⟨credential, hfound, hinactive⟩ := h
  intro hvalid
  obtain ⟨credential', hfound', hactive, _⟩ := hvalid
  obtain rfl := Option.some.inj (hfound.symm.trans hfound')
  rw [hinactive] at hactive
  cases hactive

/-- Only a valid credential is granted. -/
theorem granted_valid {simulator : RunnerLifecycleSimulator} {operation : Operation}
    {grant : RunnerCredentialGrant} (h : (step simulator operation).1 = .ok grant) :
    simulator.HasValidCredential grant.credentialRef := by
  rcases step_cases simulator operation with
    ⟨_, _, _, _, hregisters, hstep⟩ | ⟨_, _, _, _, _, _, husable, hstep⟩ |
    ⟨_, _, _, _, _, _, _, _, hstep⟩ | ⟨_, hstep, _, _⟩
  · rw [hstep] at h
    obtain rfl := Except.ok.inj h
    exact hregisters.2.credential_valid
  · rw [hstep] at h
    obtain rfl := Except.ok.inj h
    exact husable.2
  · rw [hstep] at h
    cases h
  · rw [hstep] at h
    cases h

/-- An inactive credential stays on record as inactive. -/
theorem inactive_step {simulator : RunnerLifecycleSimulator} {operation : Operation}
    {credentialRef : String}
    (h : ∃ credential, simulator.credentials.get? credentialRef = some credential ∧
      credential.active = false) :
    ∃ credential, (step simulator operation).2.credentials.get? credentialRef =
      some credential ∧ credential.active = false := by
  obtain ⟨credential, hfound, hinactive⟩ := h
  rcases step_credentials simulator operation with ⟨otherRef, other, hstep⟩ | hstep
  · rw [hstep]
    by_cases hsame : credentialRef = otherRef
    · exact ⟨_, by simp [afterDeactivation, hsame]; rfl, rfl⟩
    · exact ⟨credential, by simp [afterDeactivation, hsame, hfound], hinactive⟩
  · rw [hstep]
    exact ⟨credential, hfound, hinactive⟩

/-- A runner holds after an operation what it was granted or held before. -/
theorem holds_step {simulator : RunnerLifecycleSimulator} {operation : Operation}
    {runnerId credentialRef : String}
    (h : (step simulator operation).2.Holds runnerId credentialRef) :
    simulator.Holds runnerId credentialRef ∨
      simulator.HasValidCredential credentialRef := by
  obtain ⟨runner, hrunner, hholds⟩ := h
  rcases step_runner simulator operation runnerId with
    ⟨granted, grantedRef, hgrant, hgranted, hnow⟩ | hsame
  · obtain rfl := Option.some.inj (hrunner.symm.trans hgranted)
    obtain rfl := Option.some.inj (hholds.symm.trans hnow)
    exact Or.inr (granted_valid hgrant)
  · rw [hsame] at hrunner
    exact Or.inl ⟨runner, hrunner, hholds⟩

theorem Revoked.step {simulator : RunnerLifecycleSimulator}
    {runnerId credentialRef : String} (h : Revoked simulator runnerId credentialRef)
    (operation : Operation) :
    Revoked (RunnerLifecycle.step simulator operation).2 runnerId credentialRef where
  inactive := inactive_step h.inactive
  not_held := by
    intro hholds
    rcases holds_step hholds with hbefore | hvalid
    · exact h.not_held hbefore
    · exact not_hasValidCredential_of_inactive h.inactive hvalid

theorem Revoked.finalState {simulator : RunnerLifecycleSimulator}
    {runnerId credentialRef : String} (h : Revoked simulator runnerId credentialRef)
    (operations : List Operation) :
    Revoked (RemoteRunner.finalState RunnerLifecycle.step simulator operations)
      runnerId credentialRef :=
  finalState_invariant RunnerLifecycle.step
    (fun state => Revoked state runnerId credentialRef)
    (fun _ operation hrevoked => hrevoked.step operation) h operations

/-- No rotation away from a revoked credential succeeds. -/
theorem Revoked.rotation_fails {simulator : RunnerLifecycleSimulator}
    {runnerId credentialRef : String} (h : Revoked simulator runnerId credentialRef)
    (nextRef : String) :
    ∃ error, (RunnerLifecycle.step simulator
      (.rotateCredential runnerId credentialRef nextRef)).1 = .error error := by
  rcases rotateCredential_cases simulator runnerId credentialRef nextRef with
    ⟨runner, _, hmay, _⟩ | ⟨runner, _, _, hmay, _⟩ | ⟨error, hrun, _⟩
  · exact absurd ⟨runner, hmay.runner_found, hmay.holds⟩ h.not_held
  · exact absurd ⟨runner, hmay.runner_found, hmay.holds⟩ h.not_held
  · exact ⟨error, congrArg Prod.fst hrun⟩

/-- A successful rotation revokes the credential it leaves. -/
theorem revoked_of_rotation {simulator : RunnerLifecycleSimulator}
    {runnerId currentRef nextRef : String} {grant : RunnerCredentialGrant}
    (h : (step simulator (.rotateCredential runnerId currentRef nextRef)).1 =
      .ok grant) :
    nextRef ≠ currentRef ∧
      Revoked (step simulator (.rotateCredential runnerId currentRef nextRef)).2
        runnerId currentRef := by
  rw [step] at h ⊢
  rcases rotateCredential_cases simulator runnerId currentRef nextRef with
    ⟨runner, current, _, hne, _, hrun⟩ | ⟨_, _, _, _, _, hrun⟩ | ⟨_, hrun, _⟩
  · rw [hrun]
    refine ⟨hne, ⟨_, by simp [afterRotation, afterDeactivation]; rfl, rfl⟩, ?_⟩
    intro hholds
    obtain ⟨holder, hholder, hholds⟩ := hholds
    simp only [afterRotation, OrderedMap.get?_insert, ↓reduceIte,
      Option.some.injEq] at hholder
    rw [← hholder] at hholds
    exact hne (Option.some.inj hholds)
  · rw [hrun] at h
    cases h
  · rw [hrun] at h
    cases h

/-- Whoever holds an inactive credential gets no lease. -/
theorem lease_rejected_of_inactive {simulator : RunnerLifecycleSimulator}
    {credentialRef : String}
    (hinactive : ∃ credential,
      simulator.credentials.get? credentialRef = some credential ∧
        credential.active = false)
    {attempt : LeaseAttemptFixture}
    (hholds : simulator.Holds attempt.runnerId credentialRef) :
    (evaluateLease simulator attempt).accepted = false := by
  obtain ⟨runner, hrunner, hholds⟩ := hholds
  obtain ⟨credential, hfound, hinactive⟩ := hinactive
  rcases hreason : runner.state.rejectionReason with _ | reason
  · have hinvalid : validateCredential credential simulator.nowTick ≠ .ok () := by
      intro hok
      have hvalid := validateCredential_eq_ok_iff.mp hok
      rw [hvalid.1] at hinactive
      cases hinactive
    by_cases hexpired : credential.expiresAtTick ≤ simulator.nowTick <;>
      simp [evaluateLease, leaseRejectionReason, credentialRejectionReason, hrunner,
        hreason, hholds, hfound, hinvalid, hexpired]
  · simp [evaluateLease, leaseRejectionReason, hrunner, hreason]

/-- What a revoked credential can no longer do. -/
structure RevokedForGood (simulator : RunnerLifecycleSimulator)
    (runnerId credentialRef : String) : Prop where
  inactive : ∃ credential, simulator.credentials.get? credentialRef = some credential ∧
    credential.active = false
  never_granted : ∀ operation grant,
    (step simulator operation).1 = .ok grant → grant.credentialRef ≠ credentialRef
  no_lease : ∀ attempt : LeaseAttemptFixture,
    simulator.Holds attempt.runnerId credentialRef →
      (evaluateLease simulator attempt).accepted = false
  no_rotation : ∀ nextRef, ∃ error, (step simulator
    (.rotateCredential runnerId credentialRef nextRef)).1 = .error error

theorem Revoked.forGood {simulator : RunnerLifecycleSimulator}
    {runnerId credentialRef : String} (h : Revoked simulator runnerId credentialRef) :
    RevokedForGood simulator runnerId credentialRef where
  inactive := h.inactive
  never_granted := by
    rintro operation grant hgrant rfl
    exact not_hasValidCredential_of_inactive h.inactive (granted_valid hgrant)
  no_lease _ hholds := lease_rejected_of_inactive h.inactive hholds
  no_rotation := h.rotation_fails

/-- The credential a rotation left is revoked in every later state. -/
theorem revoked_after_rotation {scenario : RunnerLifecycleScenario}
    {before : List Operation} {runnerId currentRef nextRef : String}
    {grant : RunnerCredentialGrant}
    (h : (step (stateAfter scenario before)
      (.rotateCredential runnerId currentRef nextRef)).1 = .ok grant)
    (later : List Operation) :
    Revoked (stateAfter scenario (before ++
      .rotateCredential runnerId currentRef nextRef :: later)) runnerId currentRef := by
  rw [stateAfter, finalState_append, finalState_cons]
  exact (revoked_of_rotation h).2.finalState later

theorem step_of_trace {scenario : RunnerLifecycleScenario}
    {operations : List Operation} {position : Nat} {operation : Operation}
    {answer : Except RunnerLifecycleError RunnerCredentialGrant}
    (h : (trace step (.fromScenario scenario) operations)[position]? =
      some (operation, answer)) :
    operations[position]? = some operation ∧
      (step (stateAfter scenario (operations.take position)) operation).1 = answer := by
  rw [trace_getElem?, Option.map_eq_some_iff] at h
  obtain ⟨found, hfound, heq⟩ := h
  obtain ⟨rfl, hanswer⟩ := Prod.mk.inj heq
  exact ⟨hfound, hanswer⟩

/-- A credential that was rotated away stays inactive, is never granted again,
supports no lease and is not rotated away by that runner again, in whatever
state follows; so no run rotates a runner away from it twice. -/
theorem rotated_credential_revoked (scenario : RunnerLifecycleScenario)
    (before : List Operation) {runnerId currentRef nextRef : String}
    {grant : RunnerCredentialGrant}
    (h : (step (stateAfter scenario before)
      (.rotateCredential runnerId currentRef nextRef)).1 = .ok grant) :
    nextRef ≠ currentRef ∧
      (∀ later, RevokedForGood (stateAfter scenario (before ++
        .rotateCredential runnerId currentRef nextRef :: later)) runnerId currentRef) ∧
      ∀ (operations : List Operation) (first second : Nat) (target target' : String)
        (granted granted' : RunnerCredentialGrant), first < second →
        (trace step (.fromScenario scenario) operations)[first]? =
          some (.rotateCredential runnerId currentRef target, .ok granted) →
        (trace step (.fromScenario scenario) operations)[second]? ≠
          some (.rotateCredential runnerId currentRef target', .ok granted') := by
  refine ⟨(revoked_of_rotation h).1,
    fun later => (revoked_after_rotation h later).forGood, ?_⟩
  intro operations first second target target' granted granted' hlt hfirst hsecond
  obtain ⟨hoperation, hgranted⟩ := step_of_trace hfirst
  obtain ⟨_, hgranted'⟩ := step_of_trace hsecond
  rw [take_eq_append_cons hoperation hlt] at hgranted'
  obtain ⟨error, herror⟩ := (revoked_after_rotation hgranted _).rotation_fails target'
  rw [hgranted'] at herror
  cases herror

theorem rotated_credential_revoked_small :
    "credential-ref-rotated" ≠ "credential-ref-active" ∧
      (∀ later, RevokedForGood (stateAfter (smallScenario .registered) ([] ++
        .rotateCredential "runner" "credential-ref-active" "credential-ref-rotated" ::
          later)) "runner" "credential-ref-active") ∧
      ∀ (operations : List Operation) (first second : Nat) (target target' : String)
        (granted granted' : RunnerCredentialGrant), first < second →
        (trace step (.fromScenario (smallScenario .registered)) operations)[first]? =
          some (.rotateCredential "runner" "credential-ref-active" target,
            .ok granted) →
        (trace step (.fromScenario (smallScenario .registered)) operations)[second]? ≠
          some (.rotateCredential "runner" "credential-ref-active" target',
            .ok granted') := by
  have hrotates : (step (stateAfter (smallScenario .registered) [])
      (.rotateCredential "runner" "credential-ref-active"
        "credential-ref-rotated")).1 =
      .ok { runnerId := "runner", credentialRef := "credential-ref-rotated" } := by
    decide
  exact rotated_credential_revoked (smallScenario .registered) [] hrotates

end RunnerLifecycle

end RemoteRunner
