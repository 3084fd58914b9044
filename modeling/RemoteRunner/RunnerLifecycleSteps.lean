/-
What one lifecycle operation can do: the condition under which it succeeds, the
tables it leaves, and the tables a failure leaves.
-/
import RemoteRunner.RunnerLifecycle

namespace RemoteRunner

namespace RunnerLifecycle

variable {simulator : RunnerLifecycleSimulator}

/-- Active and not expired. -/
def RunnerCredentialFixture.Valid (credential : RunnerCredentialFixture)
    (nowTick : UInt64) : Prop :=
  credential.active = true ∧ nowTick < credential.expiresAtTick

theorem validateCredential_eq_ok_iff {credential : RunnerCredentialFixture}
    {nowTick : UInt64} {value : Unit} :
    validateCredential credential nowTick = .ok value ↔ credential.Valid nowTick := by
  rw [validateCredential, bind_eq_ok_iff]
  simp only [rejectIf_eq_ok_iff, RunnerCredentialFixture.Valid, exists_const,
    Bool.not_eq_false, UInt64.not_le]

/-- A credential of the table that is active and not expired. -/
def RunnerLifecycleSimulator.HasValidCredential (simulator : RunnerLifecycleSimulator)
    (credentialRef : String) : Prop :=
  ∃ credential, simulator.credentials.get? credentialRef = some credential ∧
    credential.Valid simulator.nowTick

/-- Looking a credential up and validating it goes on exactly when the table
has it and it is valid. -/
theorem lookupValidated_cases {α : Type} (simulator : RunnerLifecycleSimulator)
    (credentialRef : String) (next : Lifecycle α) :
    (simulator.HasValidCredential credentialRef ∧
        runOn (do
          let credential ← attempt
            (okOr (simulator.credentials.get? credentialRef) .runnerCredentialNotFound)
          attempt (validateCredential credential simulator.nowTick)
          next) simulator = runOn next simulator) ∨
      ∃ error, ¬simulator.HasValidCredential credentialRef ∧
        runOn (do
          let credential ← attempt
            (okOr (simulator.credentials.get? credentialRef) .runnerCredentialNotFound)
          attempt (validateCredential credential simulator.nowTick)
          next) simulator = (.error error, simulator) := by
  rcases hfound : simulator.credentials.get? credentialRef with _ | credential
  · refine Or.inr ⟨_, ?_, rfl⟩
    intro hvalid
    obtain ⟨credential, hcredential, _⟩ := hvalid
    simp [hcredential] at hfound
  rw [okOr_some, runOn_attempt_ok_bind]
  rcases hvalid : validateCredential credential simulator.nowTick with error | value
  · refine Or.inr ⟨error, ?_, rfl⟩
    intro hvalid
    obtain ⟨credential', hcredential, hgood⟩ := hvalid
    obtain rfl := Option.some.inj (hcredential.symm.trans hfound)
    have hok : validateCredential credential' simulator.nowTick = .ok () :=
      validateCredential_eq_ok_iff.mpr hgood
    simp [hok] at hvalid
  · exact Or.inl ⟨⟨credential, hfound, validateCredential_eq_ok_iff.mp hvalid⟩, rfl⟩

/-- The runner is on record with this credential. -/
def RunnerLifecycleSimulator.Holds (simulator : RunnerLifecycleSimulator)
    (runnerId credentialRef : String) : Prop :=
  ∃ runner, simulator.runners.get? runnerId = some runner ∧
    runner.credentialRef = some credentialRef

/-- What a registration needs. -/
structure CanRegister (simulator : RunnerLifecycleSimulator)
    (tokenId credentialRef : String) (token : RegistrationTokenFixture) : Prop where
  token_found : simulator.registrationTokens.get? tokenId = some token
  unexpired : simulator.nowTick < token.expiresAtTick
  unused : token.usedByRunnerId = none
  credential_valid : simulator.HasValidCredential credentialRef

/-- What a rotation needs before it touches anything. -/
structure MayRotate (simulator : RunnerLifecycleSimulator)
    (runnerId currentCredentialRef : String) (runner : RunnerFixture)
    (current : RunnerCredentialFixture) : Prop where
  runner_found : simulator.runners.get? runnerId = some runner
  holds : runner.credentialRef = some currentCredentialRef
  current_found : simulator.credentials.get? currentCredentialRef = some current

/-- The tables after a registration. -/
def afterRegistration (simulator : RunnerLifecycleSimulator)
    (tokenId runnerId credentialRef : String) (token : RegistrationTokenFixture) :
    RunnerLifecycleSimulator :=
  { simulator with
    registrationTokens := simulator.registrationTokens.insert tokenId
      { token with usedByRunnerId := some runnerId }
    runners := simulator.runners.insert runnerId {
      runnerId
      state := .registered
      registrationTokenId := some tokenId
      credentialRef := some credentialRef } }

/-- The tables with one credential deactivated. -/
def afterDeactivation (simulator : RunnerLifecycleSimulator)
    (credentialRef : String) (credential : RunnerCredentialFixture) :
    RunnerLifecycleSimulator :=
  { simulator with
    credentials := simulator.credentials.insert credentialRef
      { credential with active := false } }

/-- The tables after a rotation. -/
def afterRotation (simulator : RunnerLifecycleSimulator)
    (runnerId currentCredentialRef nextCredentialRef : String)
    (runner : RunnerFixture) (current : RunnerCredentialFixture) :
    RunnerLifecycleSimulator :=
  { afterDeactivation simulator currentCredentialRef current with
    runners := simulator.runners.insert runnerId { runner with
      state := .registered
      credentialRef := some nextCredentialRef } }

/-- A registration succeeds on a usable token and a valid credential, and
otherwise changes nothing. -/
theorem registerRunner_cases (simulator : RunnerLifecycleSimulator)
    (tokenId runnerId credentialRef : String) :
    (∃ token, CanRegister simulator tokenId credentialRef token ∧
        runOn (registerRunner tokenId runnerId credentialRef) simulator =
          (.ok { runnerId, credentialRef },
            afterRegistration simulator tokenId runnerId credentialRef token)) ∨
      ∃ error,
        runOn (registerRunner tokenId runnerId credentialRef) simulator =
          (.error error, simulator) ∧
        ∀ token, ¬CanRegister simulator tokenId credentialRef token := by
  simp only [registerRunner, runOn_get_bind]
  rcases htoken : simulator.registrationTokens.get? tokenId with _ | token
  · refine Or.inr ⟨_, rfl, ?_⟩
    intro token h
    simp [h.token_found] at htoken
  have hsame : ∀ other, CanRegister simulator tokenId credentialRef other →
      other = token := by
    intro other h
    exact Option.some.inj (h.token_found.symm.trans htoken)
  simp only [okOr_some, runOn_attempt_ok_bind]
  by_cases hexpired : token.expiresAtTick ≤ simulator.nowTick
  · rw [rejectIf_pos hexpired, runOn_attempt_error_bind]
    refine Or.inr ⟨_, rfl, ?_⟩
    intro other h
    obtain rfl := hsame other h
    exact UInt64.not_le.mpr h.unexpired hexpired
  rw [rejectIf_neg hexpired, runOn_attempt_ok_bind]
  by_cases hused : token.usedByRunnerId.isSome = true
  · rw [rejectIf_pos hused, runOn_attempt_error_bind]
    refine Or.inr ⟨_, rfl, ?_⟩
    intro other h
    obtain rfl := hsame other h
    simp [h.unused] at hused
  rw [rejectIf_neg hused, runOn_attempt_ok_bind]
  rcases lookupValidated_cases simulator credentialRef _ with
    ⟨hvalid, hrun⟩ | ⟨error, hinvalid, hrun⟩
  · refine Or.inl ⟨token, ?_, hrun⟩
    exact
      { token_found := htoken
        unexpired := UInt64.not_le.mp hexpired
        unused := by simpa using hused
        credential_valid := hvalid }
  · refine Or.inr ⟨error, hrun, ?_⟩
    intro other h
    exact hinvalid h.credential_valid

/-- Deactivation leaves the other valid credentials. -/
theorem hasValidCredential_afterDeactivation (simulator : RunnerLifecycleSimulator)
    (credentialRef nextCredentialRef : String) (credential : RunnerCredentialFixture) :
    (afterDeactivation simulator credentialRef credential).HasValidCredential
        nextCredentialRef ↔
      nextCredentialRef ≠ credentialRef ∧
        simulator.HasValidCredential nextCredentialRef := by
  by_cases hsame : nextCredentialRef = credentialRef
  · simp [RunnerLifecycleSimulator.HasValidCredential, afterDeactivation,
      RunnerCredentialFixture.Valid, hsame]
  · simp [RunnerLifecycleSimulator.HasValidCredential, afterDeactivation, hsame]

/-- A rotation that may start deactivates the current credential; it succeeds
when the next one is another, valid one, and otherwise stops there. -/
theorem rotateCredential_cases (simulator : RunnerLifecycleSimulator)
    (runnerId currentCredentialRef nextCredentialRef : String) :
    (∃ runner current,
        MayRotate simulator runnerId currentCredentialRef runner current ∧
        nextCredentialRef ≠ currentCredentialRef ∧
        simulator.HasValidCredential nextCredentialRef ∧
        runOn (rotateCredential runnerId currentCredentialRef nextCredentialRef)
            simulator =
          (.ok { runnerId, credentialRef := nextCredentialRef },
            afterRotation simulator runnerId currentCredentialRef
              nextCredentialRef runner current)) ∨
      (∃ runner current error,
        MayRotate simulator runnerId currentCredentialRef runner current ∧
        ¬(nextCredentialRef ≠ currentCredentialRef ∧
          simulator.HasValidCredential nextCredentialRef) ∧
        runOn (rotateCredential runnerId currentCredentialRef nextCredentialRef)
            simulator =
          (.error error, afterDeactivation simulator currentCredentialRef current)) ∨
      ∃ error,
        runOn (rotateCredential runnerId currentCredentialRef nextCredentialRef)
            simulator = (.error error, simulator) ∧
        ∀ runner current,
          ¬MayRotate simulator runnerId currentCredentialRef runner current := by
  simp only [rotateCredential, runOn_get_bind]
  rcases hrunner : simulator.runners.get? runnerId with _ | runner
  · refine Or.inr (Or.inr ⟨_, rfl, ?_⟩)
    intro runner current h
    simp [h.runner_found] at hrunner
  rw [okOr_some, runOn_attempt_ok_bind]
  by_cases hholds : runner.credentialRef ≠ some currentCredentialRef
  · rw [rejectIf_pos hholds, runOn_attempt_error_bind]
    refine Or.inr (Or.inr ⟨_, rfl, ?_⟩)
    intro other current h
    obtain rfl := Option.some.inj (h.runner_found.symm.trans hrunner)
    exact hholds h.holds
  rw [rejectIf_neg hholds, runOn_attempt_ok_bind]
  rcases hcurrent : simulator.credentials.get? currentCredentialRef with _ | current
  · refine Or.inr (Or.inr ⟨_, rfl, ?_⟩)
    intro other current h
    simp [h.current_found] at hcurrent
  have hmay : MayRotate simulator runnerId currentCredentialRef runner current :=
    ⟨hrunner, not_not.mp hholds, hcurrent⟩
  rw [okOr_some, runOn_attempt_ok_bind, runOn_modify_bind, runOn_get_bind]
  have hvalid_iff := hasValidCredential_afterDeactivation simulator
    currentCredentialRef nextCredentialRef current
  rcases lookupValidated_cases
      (afterDeactivation simulator currentCredentialRef current)
      nextCredentialRef _ with ⟨hvalid, hrun⟩ | ⟨error, hinvalid, hrun⟩
  · obtain ⟨hne, hnext⟩ := hvalid_iff.mp hvalid
    exact Or.inl ⟨runner, current, hmay, hne, hnext, hrun⟩
  · exact Or.inr (Or.inl ⟨runner, current, error, hmay,
      fun h => hinvalid (hvalid_iff.mpr h), hrun⟩)

end RunnerLifecycle

end RemoteRunner
