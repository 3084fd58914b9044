/-
How many grants a scenario affords.  A registration spends a token, and a
rotation spends the credential it leaves or gives a stranded runner a valid one;
nothing an operation does gives any of this back.
-/
import RemoteRunner.RunnerLifecycleRuns

namespace RemoteRunner

namespace RunnerLifecycle

def RegistrationTokenFixture.usable (token : RegistrationTokenFixture)
    (nowTick : UInt64) : Bool :=
  decide (nowTick < token.expiresAtTick) && token.usedByRunnerId.isNone

instance (credential : RunnerCredentialFixture) (nowTick : UInt64) :
    Decidable (credential.Valid nowTick) := inferInstanceAs (Decidable (_ ∧ _))

instance (simulator : RunnerLifecycleSimulator) (credentialRef : String) :
    Decidable (simulator.HasValidCredential credentialRef) :=
  decidable_of_iff ((simulator.credentials.get? credentialRef).any
      fun credential => decide (credential.Valid simulator.nowTick)) (by
    simp [RunnerLifecycleSimulator.HasValidCredential, Option.any_eq_true])

/-- The runner has a credential that is no longer valid. -/
def stranded (simulator : RunnerLifecycleSimulator) (runner : RunnerFixture) : Bool :=
  runner.credentialRef.any fun credentialRef =>
    !decide (simulator.HasValidCredential credentialRef)

namespace RunnerLifecycleSimulator

variable (simulator : RunnerLifecycleSimulator)

def tokensLeft : Nat :=
  simulator.registrationTokens.count (RegistrationTokenFixture.usable · simulator.nowTick)

def credentialsLeft : Nat :=
  simulator.credentials.count fun credential =>
    decide (credential.Valid simulator.nowTick)

def strandedRunners : Nat := simulator.runners.count (stranded simulator)

/-- The runners there can ever be: a new one needs a token. -/
def runnersAtMost : Nat := simulator.runners.count (fun _ => true) + simulator.tokensLeft

/-- A credential that goes may strand every runner. -/
def grantsLeft : Nat :=
  simulator.tokensLeft + simulator.credentialsLeft * (simulator.runnersAtMost + 1) +
    simulator.strandedRunners

theorem strandedRunners_le :
    simulator.strandedRunners ≤ simulator.runners.count fun _ => true :=
  OrderedMap.count_le_count _ fun _ _ => rfl

end RunnerLifecycleSimulator

/-! ### What one operation spends -/

theorem stranded_congr {first second : RunnerLifecycleSimulator}
    (h : ∀ credentialRef,
      first.HasValidCredential credentialRef ↔ second.HasValidCredential credentialRef) :
    stranded first = stranded second := by
  funext runner
  simp only [stranded, h]

theorem stranded_eq {simulator : RunnerLifecycleSimulator} {runner : RunnerFixture}
    {credentialRef : String} (h : runner.credentialRef = some credentialRef) :
    stranded simulator runner = !decide (simulator.HasValidCredential credentialRef) := by
  rw [stranded, h, Option.any_some]

theorem hasValidCredential_iff {simulator : RunnerLifecycleSimulator}
    {credentialRef : String} {credential : RunnerCredentialFixture}
    (h : simulator.credentials.get? credentialRef = some credential) :
    simulator.HasValidCredential credentialRef ↔ credential.Valid simulator.nowTick := by
  simp [RunnerLifecycleSimulator.HasValidCredential, h]

/-- A registration spends its token. -/
theorem grantsLeft_afterRegistration {simulator : RunnerLifecycleSimulator}
    {tokenId credentialRef : String} (runnerId : String) {token : RegistrationTokenFixture}
    (hcan : CanRegister simulator tokenId credentialRef token) :
    (afterRegistration simulator tokenId runnerId credentialRef token).grantsLeft + 1 ≤
      simulator.grantsLeft := by
  have htokens : (afterRegistration simulator tokenId runnerId credentialRef
      token).tokensLeft + 1 = simulator.tokensLeft := by
    have hcount := OrderedMap.count_insert simulator.registrationTokens
      (RegistrationTokenFixture.usable · simulator.nowTick) tokenId
      { token with usedByRunnerId := some runnerId }
    have husable : token.usable simulator.nowTick = true := by
      simp [RegistrationTokenFixture.usable, hcan.unexpired, hcan.unused]
    have hused : ({ token with usedByRunnerId := some runnerId } :
        RegistrationTokenFixture).usable simulator.nowTick = false := by
      simp [RegistrationTokenFixture.usable]
    rw [hcan.token_found, Option.elim_some, husable, hused] at hcount
    exact hcount
  have hrunners : (afterRegistration simulator tokenId runnerId credentialRef
      token).runners.count (fun _ => true) ≤ simulator.runners.count (fun _ => true) + 1 := by
    have hcount := OrderedMap.count_insert simulator.runners (fun _ => true) runnerId
      { runnerId, state := .registered, registrationTokenId := some tokenId,
        credentialRef := some credentialRef }
    exact Nat.le.intro hcount
  have hstranded : (afterRegistration simulator tokenId runnerId credentialRef
      token).strandedRunners ≤ simulator.strandedRunners := by
    have hcount := OrderedMap.count_insert simulator.runners (stranded simulator) runnerId
      { runnerId, state := .registered, registrationTokenId := some tokenId,
        credentialRef := some credentialRef }
    rw [stranded_eq rfl, decide_eq_true hcan.credential_valid] at hcount
    exact Nat.le.intro hcount
  have hatMost : (afterRegistration simulator tokenId runnerId credentialRef
      token).runnersAtMost ≤ simulator.runnersAtMost := by
    rw [RunnerLifecycleSimulator.runnersAtMost, RunnerLifecycleSimulator.runnersAtMost]
    omega
  have hcredentials := Nat.mul_le_mul_left simulator.credentialsLeft
    (Nat.add_le_add_right hatMost 1)
  rw [RunnerLifecycleSimulator.grantsLeft, RunnerLifecycleSimulator.grantsLeft]
  change _ + simulator.credentialsLeft * _ + _ + 1 ≤ _
  omega

/-- A credential that is closed leaves the budget when it was valid, and strands at
most every runner. -/
theorem credentialsLeft_afterDeactivation {simulator : RunnerLifecycleSimulator}
    {credentialRef : String} {credential : RunnerCredentialFixture}
    (hfound : simulator.credentials.get? credentialRef = some credential) :
    (afterDeactivation simulator credentialRef credential).credentialsLeft +
        (decide (simulator.HasValidCredential credentialRef)).toNat =
      simulator.credentialsLeft := by
  have hcount := OrderedMap.count_insert simulator.credentials
    (fun credential => decide (credential.Valid simulator.nowTick)) credentialRef
    { credential with active := false }
  have hclosed : decide (({ credential with active := false } :
      RunnerCredentialFixture).Valid simulator.nowTick) = false := by
    simp [RunnerCredentialFixture.Valid]
  rw [hfound, Option.elim_some, hclosed] at hcount
  rw [decide_eq_decide.mpr (hasValidCredential_iff hfound)]
  exact hcount

theorem stranded_afterDeactivation {simulator : RunnerLifecycleSimulator}
    {credentialRef : String} (h : ¬simulator.HasValidCredential credentialRef)
    (credential : RunnerCredentialFixture) :
    stranded (afterDeactivation simulator credentialRef credential) =
      stranded simulator := by
  apply stranded_congr
  intro otherRef
  rw [hasValidCredential_afterDeactivation, and_iff_right_iff_imp]
  rintro hvalid rfl
  exact h hvalid

/-- A credential less pays for every runner it may strand, and for a grant. -/
theorem grantsLeft_of_credential_spent {first second : RunnerLifecycleSimulator}
    (htokens : second.tokensLeft = first.tokensLeft)
    (hrunners : second.runners.count (fun _ => true) =
      first.runners.count fun _ => true)
    (hspent : second.credentialsLeft + 1 = first.credentialsLeft) :
    second.grantsLeft + 1 ≤ first.grantsLeft := by
  have hle := second.strandedRunners_le
  have hatMost : second.runnersAtMost = first.runnersAtMost := by
    rw [RunnerLifecycleSimulator.runnersAtMost, hrunners, htokens]
    rfl
  have hbound : first.runners.count (fun _ => true) ≤ first.runnersAtMost :=
    Nat.le_add_right _ _
  rw [RunnerLifecycleSimulator.grantsLeft, RunnerLifecycleSimulator.grantsLeft, hatMost,
    htokens, ← hspent, Nat.add_one_mul]
  omega

theorem grantsLeft_afterDeactivation {simulator : RunnerLifecycleSimulator}
    {credentialRef : String} {credential : RunnerCredentialFixture}
    (hfound : simulator.credentials.get? credentialRef = some credential) :
    (afterDeactivation simulator credentialRef credential).grantsLeft ≤
      simulator.grantsLeft := by
  have hcredentials := credentialsLeft_afterDeactivation hfound
  by_cases hvalid : simulator.HasValidCredential credentialRef
  · rw [decide_eq_true hvalid] at hcredentials
    exact Nat.le_of_succ_le (grantsLeft_of_credential_spent rfl rfl hcredentials)
  · rw [decide_eq_false hvalid] at hcredentials
    have hsame : stranded (afterDeactivation simulator credentialRef credential) =
        stranded simulator := stranded_afterDeactivation hvalid credential
    have hstranded : (afterDeactivation simulator credentialRef
        credential).strandedRunners = simulator.strandedRunners :=
      congrArg simulator.runners.count hsame
    rw [RunnerLifecycleSimulator.grantsLeft, RunnerLifecycleSimulator.grantsLeft,
      hstranded, ← hcredentials]
    exact le_rfl

/-- A rotation spends the credential it leaves, or frees a stranded runner. -/
theorem grantsLeft_afterRotation {simulator : RunnerLifecycleSimulator}
    {runnerId currentRef nextRef : String} {runner : RunnerFixture}
    {current : RunnerCredentialFixture}
    (hmay : MayRotate simulator runnerId currentRef runner current)
    (husable : NextUsable simulator currentRef nextRef) :
    (afterRotation simulator runnerId currentRef nextRef runner current).grantsLeft + 1 ≤
      simulator.grantsLeft := by
  let after := afterRotation simulator runnerId currentRef nextRef runner current
  let rotated := { runner with state := .registered, credentialRef := some nextRef }
  have hcredentials := credentialsLeft_afterDeactivation hmay.current_found
  have hrunners : after.runners.count (fun _ => true) =
      simulator.runners.count fun _ => true := by
    have hcount := OrderedMap.count_insert simulator.runners (fun _ => true) runnerId rotated
    rw [hmay.runner_found] at hcount
    exact Nat.add_right_cancel hcount
  by_cases hvalid : simulator.HasValidCredential currentRef
  · rw [decide_eq_true hvalid] at hcredentials
    exact grantsLeft_of_credential_spent rfl hrunners hcredentials
  · rw [decide_eq_false hvalid] at hcredentials
    have hsame : stranded after = stranded simulator :=
      stranded_afterDeactivation hvalid current
    have hstranded : after.strandedRunners + 1 = simulator.strandedRunners := by
      have hcount := OrderedMap.count_insert simulator.runners (stranded simulator) runnerId
        rotated
      rw [hmay.runner_found, Option.elim_some, stranded_eq hmay.holds,
        decide_eq_false hvalid, stranded_eq rfl, decide_eq_true husable.2] at hcount
      rw [RunnerLifecycleSimulator.strandedRunners, hsame]
      exact hcount
    have hatMost : after.runnersAtMost = simulator.runnersAtMost := by
      rw [RunnerLifecycleSimulator.runnersAtMost, hrunners]
      rfl
    change after.grantsLeft + 1 ≤ _
    rw [RunnerLifecycleSimulator.grantsLeft, RunnerLifecycleSimulator.grantsLeft, hatMost,
      ← hstranded, ← hcredentials]
    exact le_rfl

/-- An operation that grants something spends some of the budget, and none adds to
it. -/
theorem grantsLeft_step (simulator : RunnerLifecycleSimulator) (operation : Operation) :
    (step simulator operation).2.grantsLeft + (step simulator operation).1.isOk.toNat ≤
      simulator.grantsLeft := by
  rcases step_cases simulator operation with
    ⟨tokenId, runnerId, credentialRef, token, ⟨_, hcan⟩, hstep⟩ |
    ⟨runnerId, currentRef, nextRef, runner, current, ⟨_, hmay⟩, husable, hstep⟩ |
    ⟨runnerId, currentRef, nextRef, runner, current, error, ⟨_, hmay⟩, _, hstep⟩ |
    ⟨error, hstep, _, _⟩
  · rw [hstep]
    exact grantsLeft_afterRegistration runnerId hcan
  · rw [hstep]
    exact grantsLeft_afterRotation hmay husable
  · rw [hstep]
    exact grantsLeft_afterDeactivation hmay.current_found
  · rw [hstep]
    exact le_rfl

/-- Of any run, however long, no more operations are granted than the tables it
starts from afford: the usable tokens, for each valid credential all runners there
can ever be and one more, and the runners that are stranded. -/
theorem grants_bounded (simulator : RunnerLifecycleSimulator)
    (operations : List Operation) :
    (trace step simulator operations).countP (fun entry => entry.2.isOk) +
        (finalState step simulator operations).grantsLeft ≤ simulator.grantsLeft :=
  countP_trace_le step RunnerLifecycleSimulator.grantsLeft (fun entry => entry.2.isOk)
    grantsLeft_step simulator operations

end RunnerLifecycle

end RemoteRunner
