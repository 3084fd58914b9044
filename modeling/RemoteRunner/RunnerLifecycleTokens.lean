/-
Registration tokens over runs of lifecycle operations: a token is used once,
stays with the runner that used it, and every runner registered in a run names
a token it used.
-/
import RemoteRunner.RunnerLifecycleRuns

namespace RemoteRunner

namespace RunnerLifecycle

/-- The token is on record as used by this runner. -/
def TokenUsedBy (simulator : RunnerLifecycleSimulator) (tokenId runnerId : String) :
    Prop :=
  ∃ token, simulator.registrationTokens.get? tokenId = some token ∧
    token.usedByRunnerId = some runnerId

/-- The token is on record, unused and not expired. -/
def TokenUsable (simulator : RunnerLifecycleSimulator) (tokenId : String) : Prop :=
  ∃ token, simulator.registrationTokens.get? tokenId = some token ∧
    simulator.nowTick < token.expiresAtTick ∧ token.usedByRunnerId = none

/-- The runner is on record under a token it used. -/
def Provenance (simulator : RunnerLifecycleSimulator) (runnerId : String) : Prop :=
  ∃ runner tokenId, simulator.runners.get? runnerId = some runner ∧
    runner.registrationTokenId = some tokenId ∧
    TokenUsedBy simulator tokenId runnerId

theorem TokenUsedBy.not_usable {simulator : RunnerLifecycleSimulator}
    {tokenId runnerId : String} (h : TokenUsedBy simulator tokenId runnerId) :
    ¬TokenUsable simulator tokenId := by
  obtain ⟨token, hfound, hused⟩ := h
  intro husable
  obtain ⟨token', hfound', _, hunused⟩ := husable
  obtain rfl := Option.some.inj (hfound.symm.trans hfound')
  rw [hused] at hunused
  cases hunused

theorem CanRegister.usable {simulator : RunnerLifecycleSimulator}
    {tokenId credentialRef : String} {token : RegistrationTokenFixture}
    (h : CanRegister simulator tokenId credentialRef token) :
    TokenUsable simulator tokenId :=
  ⟨token, h.token_found, h.unexpired, h.unused⟩

/-- A registration that succeeds had a usable token and leaves it used. -/
theorem registered_of_ok {simulator : RunnerLifecycleSimulator}
    {tokenId runnerId credentialRef : String} {grant : RunnerCredentialGrant}
    (h : (step simulator (.registerRunner tokenId runnerId credentialRef)).1 =
      .ok grant) :
    grant = { runnerId, credentialRef } ∧
      ∃ token, CanRegister simulator tokenId credentialRef token ∧
        (step simulator (.registerRunner tokenId runnerId credentialRef)).2 =
          afterRegistration simulator tokenId runnerId credentialRef token := by
  rw [step] at h ⊢
  rcases registerRunner_cases simulator tokenId runnerId credentialRef with
    ⟨token, hcan, hrun⟩ | ⟨error, hrun, _⟩
  · rw [hrun] at h ⊢
    exact ⟨(Except.ok.inj h).symm, token, hcan, rfl⟩
  · rw [hrun] at h
    cases h

theorem tokenUsedBy_afterRegistration (simulator : RunnerLifecycleSimulator)
    (tokenId runnerId credentialRef : String) (token : RegistrationTokenFixture) :
    TokenUsedBy (afterRegistration simulator tokenId runnerId credentialRef token)
      tokenId runnerId :=
  ⟨{ token with usedByRunnerId := some runnerId }, by simp [afterRegistration], rfl⟩

/-- A used token stays with its runner. -/
theorem TokenUsedBy.step {simulator : RunnerLifecycleSimulator}
    {tokenId runnerId : String} (h : TokenUsedBy simulator tokenId runnerId)
    (operation : Operation) :
    TokenUsedBy (RunnerLifecycle.step simulator operation).2 tokenId runnerId := by
  rcases step_tokens simulator operation with
    ⟨otherToken, _, _, token, hregisters, hstep⟩ | hstep
  · have hne : tokenId ≠ otherToken := by
      rintro rfl
      exact h.not_usable hregisters.2.usable
    obtain ⟨used, hfound, hused⟩ := h
    rw [hstep]
    exact ⟨used, by simp [afterRegistration, hne, hfound], hused⟩
  · obtain ⟨used, hfound, hused⟩ := h
    exact ⟨used, by rw [hstep, hfound], hused⟩

/-- A runner with provenance keeps it through every operation. -/
theorem Provenance.step {simulator : RunnerLifecycleSimulator} {runnerId : String}
    (h : Provenance simulator runnerId) (operation : Operation) :
    Provenance (RunnerLifecycle.step simulator operation).2 runnerId := by
  obtain ⟨runner, tokenId, hrunner, hnames, hused⟩ := h
  have hkept := hused.step operation
  rcases step_cases simulator operation with
    ⟨otherToken, otherId, otherRef, token, _, hstep⟩ |
    ⟨otherId, _, otherRef, other, _, hrotates, _, hstep⟩ |
    ⟨_, _, _, _, _, _, _, _, hstep⟩ | ⟨_, hstep, _, _⟩
  · rw [hstep] at hkept ⊢
    by_cases hsame : runnerId = otherId
    · subst hsame
      refine ⟨_, otherToken, by simp [afterRegistration]; rfl, rfl, ?_⟩
      exact tokenUsedBy_afterRegistration simulator otherToken runnerId otherRef token
    · exact ⟨runner, tokenId, by simp [afterRegistration, hsame, hrunner], hnames, hkept⟩
  · rw [hstep] at hkept ⊢
    by_cases hsame : runnerId = otherId
    · subst hsame
      obtain rfl := Option.some.inj (hrunner.symm.trans hrotates.2.runner_found)
      exact ⟨{ runner with state := .registered, credentialRef := some otherRef },
        tokenId, by simp [afterRotation], hnames, hkept⟩
    · exact ⟨runner, tokenId, by simp [afterRotation, hsame, hrunner], hnames, hkept⟩
  · rw [hstep] at hkept ⊢
    exact ⟨runner, tokenId, hrunner, hnames, hkept⟩
  · rw [hstep] at hkept ⊢
    exact ⟨runner, tokenId, hrunner, hnames, hkept⟩

/-- What is usable after an operation was usable before it. -/
theorem tokenUsable_of_step {simulator : RunnerLifecycleSimulator}
    {operation : Operation} {tokenId : String}
    (h : TokenUsable (step simulator operation).2 tokenId) :
    TokenUsable simulator tokenId := by
  rcases step_tokens simulator operation with
    ⟨otherToken, otherId, otherRef, token, _, hstep⟩ | hstep
  · rw [hstep] at h
    by_cases hsame : tokenId = otherToken
    · subst hsame
      exact absurd h (tokenUsedBy_afterRegistration simulator tokenId otherId otherRef
        token).not_usable
    · obtain ⟨usable, hfound, hunexpired, hunused⟩ := h
      simp only [afterRegistration, OrderedMap.get?_insert, hsame, ↓reduceIte] at hfound
      exact ⟨usable, hfound, hunexpired, hunused⟩
  · obtain ⟨usable, hfound, hunexpired, hunused⟩ := h
    rw [step_nowTick] at hunexpired
    rw [hstep] at hfound
    exact ⟨usable, hfound, hunexpired, hunused⟩

/-! ### Runs -/

/-- A token usable somewhere in a run was usable in the scenario. -/
theorem tokenUsable_of_stateAfter {scenario : RunnerLifecycleScenario}
    {operations : List Operation} {tokenId : String}
    (h : TokenUsable (stateAfter scenario operations) tokenId) :
    TokenUsable (.fromScenario scenario) tokenId := by
  by_contra hunusable
  exact finalState_invariant step (fun state => ¬TokenUsable state tokenId)
    (fun _ _ hnot husable => hnot (tokenUsable_of_step husable)) hunusable operations h

/-- The state after a registration of the run that succeeded. -/
theorem registered_of_trace {scenario : RunnerLifecycleScenario}
    {operations : List Operation} {position : Nat}
    {tokenId runnerId credentialRef : String} {grant : RunnerCredentialGrant}
    (h : (trace step (.fromScenario scenario) operations)[position]? =
      some (.registerRunner tokenId runnerId credentialRef, .ok grant)) :
    ∃ token,
      CanRegister (stateAfter scenario (operations.take position)) tokenId credentialRef
        token ∧
      stateAfter scenario (operations.take (position + 1)) =
        afterRegistration (stateAfter scenario (operations.take position)) tokenId
          runnerId credentialRef token := by
  obtain ⟨hoperation, hgranted⟩ := step_of_trace h
  obtain ⟨_, token, hcan, hafter⟩ := registered_of_ok hgranted
  exact ⟨token, hcan, (stateAfter_take_succ hoperation).trans hafter⟩

/-- In every run a token is used by at most one successful registration, and
by none unless the scenario has it unused and unexpired; a used token stays
with its runner; and a runner the run registered names a token it used, in
every later state. -/
theorem registration_tokens_single_use (scenario : RunnerLifecycleScenario)
    (operations : List Operation) :
    (∀ (position : Nat) (tokenId runnerId credentialRef : String)
        (grant : RunnerCredentialGrant),
      (trace step (.fromScenario scenario) operations)[position]? =
          some (.registerRunner tokenId runnerId credentialRef, .ok grant) →
        TokenUsable (.fromScenario scenario) tokenId ∧
        (∀ (second : Nat) (runnerId' credentialRef' : String)
            (grant' : RunnerCredentialGrant), position ≠ second →
          (trace step (.fromScenario scenario) operations)[second]? ≠
            some (.registerRunner tokenId runnerId' credentialRef', .ok grant')) ∧
        ∀ later, position < later →
          Provenance (stateAfter scenario (operations.take later)) runnerId) ∧
      ∀ (earlier later : Nat) (tokenId runnerId : String), earlier ≤ later →
        TokenUsedBy (stateAfter scenario (operations.take earlier)) tokenId runnerId →
        TokenUsedBy (stateAfter scenario (operations.take later)) tokenId runnerId := by
  have hkept : ∀ (earlier later : Nat) (tokenId runnerId : String), earlier ≤ later →
      TokenUsedBy (stateAfter scenario (operations.take earlier)) tokenId runnerId →
      TokenUsedBy (stateAfter scenario (operations.take later)) tokenId runnerId :=
    fun _ _ tokenId runnerId hle hused =>
      finalState_take_invariant step (fun state => TokenUsedBy state tokenId runnerId)
        (fun _ operation h => h.step operation) hle hused
  have honce : ∀ (first second : Nat) (tokenId runnerId runnerId' credentialRef
      credentialRef' : String) (grant grant' : RunnerCredentialGrant), first < second →
      (trace step (.fromScenario scenario) operations)[first]? =
        some (.registerRunner tokenId runnerId credentialRef, .ok grant) →
      (trace step (.fromScenario scenario) operations)[second]? ≠
        some (.registerRunner tokenId runnerId' credentialRef', .ok grant') := by
    intro first second tokenId runnerId _ credentialRef _ _ _ hlt hfirst hsecond
    obtain ⟨token, _, hafter⟩ := registered_of_trace hfirst
    obtain ⟨_, hcan, _⟩ := registered_of_trace hsecond
    have hused := tokenUsedBy_afterRegistration
      (stateAfter scenario (operations.take first)) tokenId runnerId credentialRef token
    rw [← hafter] at hused
    exact (hkept _ _ _ _ hlt hused).not_usable hcan.usable
  refine ⟨?_, hkept⟩
  intro position tokenId runnerId credentialRef grant hentry
  obtain ⟨token, hcan, hafter⟩ := registered_of_trace hentry
  refine ⟨tokenUsable_of_stateAfter hcan.usable, ?_, ?_⟩
  · intro second runnerId' credentialRef' grant' hne hsecond
    rcases Nat.lt_or_gt_of_ne hne with hlt | hgt
    · exact honce _ _ _ _ _ _ _ _ _ hlt hentry hsecond
    · exact honce _ _ _ _ _ _ _ _ _ hgt hsecond hentry
  · intro later hlt
    have hprovenance : Provenance (stateAfter scenario (operations.take (position + 1)))
        runnerId := by
      rw [hafter]
      exact ⟨_, tokenId, by simp [afterRegistration]; rfl, rfl,
        tokenUsedBy_afterRegistration _ tokenId runnerId credentialRef token⟩
    exact finalState_take_invariant step (fun state => Provenance state runnerId)
      (fun _ operation h => h.step operation) hlt hprovenance

end RunnerLifecycle

end RemoteRunner
