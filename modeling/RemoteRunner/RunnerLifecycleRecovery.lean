/-
Which runners can still be brought to a lease.  Nothing an operation leaves
behind opens a way that was closed before it, so a runner that no single
operation brings to a lease is not brought to one by any run.
-/
import RemoteRunner.RunnerLifecycleLeases
import RemoteRunner.RunnerLifecycleTokens

namespace RemoteRunner

namespace RunnerLifecycle

/-- A usable token is left, and a valid credential to register under. -/
def CanEnrol (simulator : RunnerLifecycleSimulator) : Prop :=
  (∃ tokenId, TokenUsable simulator tokenId) ∧
    ∃ credentialRef, simulator.HasValidCredential credentialRef

/-- The credential has a record, active or not. -/
def RunnerLifecycleSimulator.HasCredential (simulator : RunnerLifecycleSimulator)
    (credentialRef : String) : Prop :=
  ∃ credential, simulator.credentials.get? credentialRef = some credential

/-- The runner's credential has a record, and another credential is valid. -/
def CanReplace (simulator : RunnerLifecycleSimulator) (runnerId : String) : Prop :=
  ∃ currentRef nextRef, simulator.Holds runnerId currentRef ∧
    simulator.HasCredential currentRef ∧ nextRef ≠ currentRef ∧
    simulator.HasValidCredential nextRef

/-- The runner has its lease, or there is a way to it. -/
def Recoverable (simulator : RunnerLifecycleSimulator) (runnerId : String) : Prop :=
  Eligible simulator runnerId ∨ CanEnrol simulator ∨ CanReplace simulator runnerId

/-! ### No operation opens a way -/

/-- A grant went one of the ways. -/
theorem way_of_grant {simulator : RunnerLifecycleSimulator} {operation : Operation}
    {runnerId credentialRef : String}
    (h : (step simulator operation).1 = .ok { runnerId, credentialRef }) :
    CanEnrol simulator ∨ CanReplace simulator runnerId := by
  rcases step_cases simulator operation with
    ⟨tokenId, otherId, otherRef, token, ⟨_, hcan⟩, _⟩ |
    ⟨otherId, currentRef, nextRef, runner, current, ⟨_, hmay⟩, ⟨hne, hvalid⟩, hstep⟩ |
    ⟨_, _, _, _, _, _, _, _, hstep⟩ | ⟨_, hstep, _, _⟩
  · exact Or.inl ⟨⟨tokenId, hcan.usable⟩, otherRef, hcan.credential_valid⟩
  · rw [hstep] at h
    obtain ⟨rfl, rfl⟩ := RunnerCredentialGrant.mk.inj (Except.ok.inj h)
    exact Or.inr ⟨currentRef, nextRef, ⟨runner, hmay.runner_found, hmay.holds⟩,
      ⟨current, hmay.current_found⟩, hne, hvalid⟩
  · rw [hstep] at h
    cases h
  · rw [hstep] at h
    cases h

/-- No credential gets a record. -/
theorem hasCredential_of_step {simulator : RunnerLifecycleSimulator}
    {operation : Operation} {credentialRef : String}
    (h : (step simulator operation).2.HasCredential credentialRef) :
    simulator.HasCredential credentialRef := by
  obtain ⟨credential, hfound⟩ := h
  have hclosed : ∀ {currentRef : String} {current : RunnerCredentialFixture},
      simulator.credentials.get? currentRef = some current →
      (afterDeactivation simulator currentRef current).credentials.get? credentialRef =
        some credential →
      simulator.HasCredential credentialRef := by
    intro currentRef current hcurrent hafter
    by_cases hsame : credentialRef = currentRef
    · exact ⟨current, hsame ▸ hcurrent⟩
    · simp only [afterDeactivation, OrderedMap.get?_insert, hsame, ↓reduceIte] at hafter
      exact ⟨credential, hafter⟩
  rcases step_cases simulator operation with
    ⟨_, _, _, _, _, hstep⟩ | ⟨_, _, _, _, _, ⟨_, hmay⟩, _, hstep⟩ |
    ⟨_, _, _, _, _, _, ⟨_, hmay⟩, _, hstep⟩ | ⟨_, hstep, _, _⟩
  · rw [hstep] at hfound
    exact ⟨credential, hfound⟩
  · rw [hstep] at hfound
    exact hclosed hmay.current_found hfound
  · rw [hstep] at hfound
    exact hclosed hmay.current_found hfound
  · rw [hstep] at hfound
    exact ⟨credential, hfound⟩

/-- A way that is open after an operation was open before it. -/
theorem recoverable_of_step {simulator : RunnerLifecycleSimulator}
    {operation : Operation} {runnerId : String}
    (h : Recoverable (step simulator operation).2 runnerId) :
    Recoverable simulator runnerId := by
  rcases step_runner simulator operation runnerId with ⟨_, _, hgrant, _⟩ | hsame
  · exact Or.inr (way_of_grant hgrant)
  -- the runner's own record stayed
  rcases h with ⟨runner, credentialRef, hrunner, hstate, hholds, hvalid⟩ |
    ⟨⟨tokenId, husable⟩, credentialRef, hvalid⟩ |
    ⟨currentRef, nextRef, ⟨runner, hrunner, hholds⟩, hrecord, hne, hvalid⟩
  · rw [hsame] at hrunner
    exact Or.inl ⟨runner, credentialRef, hrunner, hstate, hholds,
      hasValidCredential_of_step hvalid⟩
  · exact Or.inr (Or.inl ⟨⟨tokenId, tokenUsable_of_step husable⟩, credentialRef,
      hasValidCredential_of_step hvalid⟩)
  · rw [hsame] at hrunner
    exact Or.inr (Or.inr ⟨currentRef, nextRef, ⟨runner, hrunner, hholds⟩,
      hasCredential_of_step hrecord, hne, hasValidCredential_of_step hvalid⟩)

theorem recoverable_of_finalState {simulator : RunnerLifecycleSimulator}
    {operations : List Operation} {runnerId : String}
    (h : Recoverable (finalState step simulator operations) runnerId) :
    Recoverable simulator runnerId := by
  by_contra hlost
  exact finalState_invariant step (fun state => ¬Recoverable state runnerId)
    (fun _ _ hlost hafter => hlost (recoverable_of_step hafter)) hlost operations h

/-! ### Every way is one operation long -/

theorem CanEnrol.grants {simulator : RunnerLifecycleSimulator} (h : CanEnrol simulator)
    (runnerId : String) :
    ∃ operation : Operation, operation.runnerId = runnerId ∧
      ∃ grant, (step simulator operation).1 = .ok grant := by
  obtain ⟨⟨tokenId, token, hfound, hunexpired, hunused⟩, credentialRef, hvalid⟩ := h
  refine ⟨.registerRunner tokenId runnerId credentialRef, rfl, ?_⟩
  rcases registerRunner_cases simulator tokenId runnerId credentialRef with
    ⟨_, _, hrun⟩ | ⟨_, _, hcannot⟩
  · exact ⟨_, congrArg Prod.fst hrun⟩
  · exact absurd ⟨hfound, hunexpired, hunused, hvalid⟩ (hcannot token)

theorem CanReplace.grants {simulator : RunnerLifecycleSimulator} {runnerId : String}
    (h : CanReplace simulator runnerId) :
    ∃ operation : Operation, operation.runnerId = runnerId ∧
      ∃ grant, (step simulator operation).1 = .ok grant := by
  obtain ⟨currentRef, nextRef, ⟨runner, hrunner, hholds⟩, ⟨current, hcurrent⟩, hne,
    hvalid⟩ := h
  refine ⟨.rotateCredential runnerId currentRef nextRef, rfl, ?_⟩
  rcases rotateCredential_cases simulator runnerId currentRef nextRef with
    ⟨_, _, _, _, _, hrun⟩ | ⟨_, _, _, _, hunusable, _⟩ | ⟨_, _, hcannot⟩
  · exact ⟨_, congrArg Prod.fst hrun⟩
  · exact absurd ⟨hne, hvalid⟩ hunusable
  · exact absurd ⟨hrunner, hholds, hcurrent⟩ (hcannot runner current)

theorem Recoverable.one_operation {simulator : RunnerLifecycleSimulator}
    {runnerId : String} (h : Recoverable simulator runnerId) :
    ∃ operations : List Operation, operations.length ≤ 1 ∧
      Eligible (finalState step simulator operations) runnerId := by
  have hway : ∀ operation : Operation, operation.runnerId = runnerId →
      (∃ grant, (step simulator operation).1 = .ok grant) →
      ∃ operations : List Operation, operations.length ≤ 1 ∧
        Eligible (finalState step simulator operations) runnerId := by
    rintro operation rfl ⟨grant, hgrant⟩
    exact ⟨[operation], le_rfl, (granted hgrant).2.2⟩
  rcases h with heligible | henrol | hreplace
  · exact ⟨[], Nat.zero_le 1, heligible⟩
  · obtain ⟨operation, hrunner, hgrant⟩ := henrol.grants runnerId
    exact hway operation hrunner hgrant
  · obtain ⟨operation, hrunner, hgrant⟩ := hreplace.grants
    exact hway operation hrunner hgrant

/-- After any run, some further run leads to a lease exactly when the runner has
it or one of the two ways is open; and then one more operation is enough. -/
theorem recoverable_iff (scenario : RunnerLifecycleScenario)
    (operations : List Operation) (attempt : LeaseAttemptFixture) :
    ((∃ further, (evaluateLease (stateAfter scenario (operations ++ further))
        attempt).accepted = true) ↔
      Recoverable (stateAfter scenario operations) attempt.runnerId) ∧
    (Recoverable (stateAfter scenario operations) attempt.runnerId →
      ∃ further : List Operation, further.length ≤ 1 ∧
        (evaluateLease (stateAfter scenario (operations ++ further))
          attempt).accepted = true) := by
  have hone : Recoverable (stateAfter scenario operations) attempt.runnerId →
      ∃ further : List Operation, further.length ≤ 1 ∧
        (evaluateLease (stateAfter scenario (operations ++ further))
          attempt).accepted = true := by
    intro hrecoverable
    obtain ⟨further, hlength, heligible⟩ := hrecoverable.one_operation
    refine ⟨further, hlength, accepted_iff_eligible.mpr ?_⟩
    rw [stateAfter, finalState_append]
    exact heligible
  refine ⟨⟨?_, ?_⟩, hone⟩
  · rintro ⟨further, haccepted⟩
    rw [accepted_iff_eligible, stateAfter, finalState_append] at haccepted
    exact recoverable_of_finalState (Or.inl haccepted)
  · intro hrecoverable
    obtain ⟨further, _, haccepted⟩ := hone hrecoverable
    exact ⟨further, haccepted⟩

end RunnerLifecycle

end RemoteRunner
