/-
Operations of several clients.  An operation reads and writes a few entries of
the tables; operations that stay off each other's entries commute, so clients
cannot observe how their requests are interleaved.
-/
import RemoteRunner.Interleaving
import RemoteRunner.RunnerLifecycleRuns

namespace RemoteRunner

namespace RunnerLifecycle

/-- The credential with its record closed. -/
def RunnerCredentialFixture.deactivated (credential : RunnerCredentialFixture) :
    RunnerCredentialFixture :=
  { credential with active := false }

/-- The entries an operation writes. -/
structure Effect where
  token : Option (String × RegistrationTokenFixture) := none
  credential : Option (String × RunnerCredentialFixture) := none
  runner : Option (String × RunnerFixture) := none

def Effect.apply (effect : Effect) (simulator : RunnerLifecycleSimulator) :
    RunnerLifecycleSimulator :=
  { simulator with
    registrationTokens := simulator.registrationTokens.put effect.token
    credentials := simulator.credentials.put effect.credential
    runners := simulator.runners.put effect.runner }

/-- The states agree on what the operation reads; of the credential it rotates
away it does not read whether it is active. -/
def AgreeOn (first second : RunnerLifecycleSimulator) : Operation → Prop
  | .registerRunner tokenId _ credentialRef =>
      second.nowTick = first.nowTick ∧
        second.registrationTokens.get? tokenId = first.registrationTokens.get? tokenId ∧
        second.credentials.get? credentialRef = first.credentials.get? credentialRef
  | .rotateCredential runnerId currentRef nextRef =>
      second.nowTick = first.nowTick ∧
        second.runners.get? runnerId = first.runners.get? runnerId ∧
        (second.credentials.get? currentRef).map (·.deactivated) =
          (first.credentials.get? currentRef).map (·.deactivated) ∧
        second.credentials.get? nextRef = first.credentials.get? nextRef

theorem agreeOn_refl (simulator : RunnerLifecycleSimulator) (operation : Operation) :
    AgreeOn simulator simulator operation := by
  cases operation <;> simp [AgreeOn]

/-- What the operation may write: its token, its runner, and the credential it
rotates away, closed. -/
def Effect.WrittenBy (effect : Effect) (simulator : RunnerLifecycleSimulator) :
    Operation → Prop
  | .registerRunner tokenId runnerId _ =>
      (∀ entry ∈ effect.token, entry.1 = tokenId) ∧ effect.credential = none ∧
        ∀ entry ∈ effect.runner, entry.1 = runnerId
  | .rotateCredential runnerId currentRef _ =>
      effect.token = none ∧
        (∀ entry ∈ effect.credential, entry.1 = currentRef ∧
          (simulator.credentials.get? currentRef).map (·.deactivated) = some entry.2) ∧
        ∀ entry ∈ effect.runner, entry.1 = runnerId

/-- The operation answers and writes the same in every state that agrees with
this one on what it reads. -/
def Local (simulator : RunnerLifecycleSimulator) (operation : Operation) : Prop :=
  ∃ answer, ∃ effect : Effect, effect.WrittenBy simulator operation ∧
    ∀ other, AgreeOn simulator other operation →
      step other operation = (answer, effect.apply other)

/-- A refusal that agreeing states share is local. -/
theorem local_of_refused {simulator : RunnerLifecycleSimulator} {operation : Operation}
    (error : RunnerLifecycleError)
    (h : ∀ other, AgreeOn simulator other operation →
      step other operation = (.error error, other)) : Local simulator operation := by
  refine ⟨.error error, {}, ?_, h⟩
  cases operation <;> simp [Effect.WrittenBy]

theorem registerRunner_local (simulator : RunnerLifecycleSimulator)
    (tokenId runnerId credentialRef : String) :
    Local simulator (.registerRunner tokenId runnerId credentialRef) := by
  rcases htoken : simulator.registrationTokens.get? tokenId with _ | token
  · apply local_of_refused .registrationTokenNotFound
    rintro other ⟨_, hsame, _⟩
    rw [htoken] at hsame
    simp only [step, registerRunner, runOn_get_bind, hsame]
    rfl
  by_cases hexpired : token.expiresAtTick ≤ simulator.nowTick
  · apply local_of_refused .registrationTokenExpired
    rintro other ⟨hnow, hsame, _⟩
    rw [htoken] at hsame
    simp only [step, registerRunner, runOn_get_bind, hsame, hnow, okOr_some,
      runOn_attempt_ok_bind, rejectIf_pos hexpired, runOn_attempt_error_bind]
  by_cases hused : token.usedByRunnerId.isSome = true
  · apply local_of_refused .registrationTokenAlreadyUsed
    rintro other ⟨hnow, hsame, _⟩
    rw [htoken] at hsame
    simp only [step, registerRunner, runOn_get_bind, hsame, hnow, okOr_some,
      runOn_attempt_ok_bind, rejectIf_neg hexpired, rejectIf_pos hused,
      runOn_attempt_error_bind]
  rcases hcredential : simulator.credentials.get? credentialRef with _ | credential
  · apply local_of_refused .runnerCredentialNotFound
    rintro other ⟨hnow, hsame, hsame'⟩
    rw [htoken] at hsame
    rw [hcredential] at hsame'
    simp only [step, registerRunner, runOn_get_bind, hsame, hsame', hnow, okOr_some,
      runOn_attempt_ok_bind, rejectIf_neg hexpired, rejectIf_neg hused, okOr_none,
      runOn_attempt_error_bind]
  rcases hvalid : validateCredential credential simulator.nowTick with error | value
  · apply local_of_refused error
    rintro other ⟨hnow, hsame, hsame'⟩
    rw [htoken] at hsame
    rw [hcredential] at hsame'
    simp only [step, registerRunner, runOn_get_bind, hsame, hsame', hnow, okOr_some,
      runOn_attempt_ok_bind, rejectIf_neg hexpired, rejectIf_neg hused, hvalid,
      runOn_attempt_error_bind]
  · refine ⟨.ok { runnerId, credentialRef },
      { token := some (tokenId, { token with usedByRunnerId := some runnerId })
        runner := some (runnerId, {
          runnerId
          state := .registered
          registrationTokenId := some tokenId
          credentialRef := some credentialRef }) },
      by simp [Effect.WrittenBy], ?_⟩
    rintro other ⟨hnow, hsame, hsame'⟩
    rw [htoken] at hsame
    rw [hcredential] at hsame'
    simp only [step, registerRunner, runOn_get_bind, hsame, hsame', hnow, okOr_some,
      runOn_attempt_ok_bind, rejectIf_neg hexpired, rejectIf_neg hused, hvalid]
    rfl

/-- The credential a rotation finds after closing the current one. -/
theorem get?_insert_deactivated {first second : RunnerLifecycleSimulator}
    {currentRef nextRef : String} {current current' : RunnerCredentialFixture}
    (hcurrent : current'.deactivated = current.deactivated)
    (hnext : second.credentials.get? nextRef = first.credentials.get? nextRef) :
    (second.credentials.insert currentRef current'.deactivated).get? nextRef =
      (first.credentials.insert currentRef current.deactivated).get? nextRef := by
  rw [OrderedMap.get?_insert, OrderedMap.get?_insert, hcurrent, hnext]

theorem rotateCredential_local (simulator : RunnerLifecycleSimulator)
    (runnerId currentRef nextRef : String) :
    Local simulator (.rotateCredential runnerId currentRef nextRef) := by
  rcases hrunner : simulator.runners.get? runnerId with _ | runner
  · apply local_of_refused .runnerNotFound
    rintro other ⟨_, hsame, _⟩
    rw [hrunner] at hsame
    simp only [step, rotateCredential, runOn_get_bind, hsame]
    rfl
  by_cases hholds : runner.credentialRef ≠ some currentRef
  · apply local_of_refused .runnerCredentialRotationMismatch
    rintro other ⟨_, hsame, _⟩
    rw [hrunner] at hsame
    simp only [step, rotateCredential, runOn_get_bind, hsame, okOr_some,
      runOn_attempt_ok_bind, rejectIf_pos hholds, runOn_attempt_error_bind]
  rcases hcurrent : simulator.credentials.get? currentRef with _ | current
  · apply local_of_refused .runnerCredentialNotFound
    rintro other ⟨_, hsame, hclosed, _⟩
    rw [hrunner] at hsame
    rw [hcurrent, Option.map_none, Option.map_eq_none_iff] at hclosed
    simp only [step, rotateCredential, runOn_get_bind, hsame, hclosed, okOr_some,
      runOn_attempt_ok_bind, rejectIf_neg hholds, okOr_none, runOn_attempt_error_bind]
  -- from here on the current credential is closed, whatever the next one is
  let found := (simulator.credentials.insert currentRef current.deactivated).get? nextRef
  have hrun : ∀ other, AgreeOn simulator other
      (.rotateCredential runnerId currentRef nextRef) →
      step other (.rotateCredential runnerId currentRef nextRef) = runOn (do
        let next ← attempt (okOr found .runnerCredentialNotFound)
        attempt (validateCredential next simulator.nowTick)
        modify fun simulator => { simulator with
          runners := simulator.runners.insert runnerId { runner with
            state := .registered
            credentialRef := some nextRef } }
        return { runnerId, credentialRef := nextRef })
        (Effect.apply { credential := some (currentRef, current.deactivated) } other) := by
    rintro other ⟨hnow, hsame, hclosed, hnext⟩
    rw [hrunner] at hsame
    rw [hcurrent, Option.map_some, Option.map_eq_some_iff] at hclosed
    obtain ⟨current', hfound, hdeactivated⟩ := hclosed
    have hlookup : (other.credentials.insert currentRef
        current'.deactivated).get? nextRef = found :=
      get?_insert_deactivated hdeactivated hnext
    simp only [step, rotateCredential, runOn_get_bind, hsame, hfound, okOr_some,
      runOn_attempt_ok_bind, rejectIf_neg hholds, runOn_modify_bind, ← hlookup, ← hnow,
      Effect.apply, ← hdeactivated]
    rfl
  have hwritten : ∀ runner : Option (String × RunnerFixture),
      (∀ entry ∈ runner, entry.1 = runnerId) →
      Effect.WrittenBy { credential := some (currentRef, current.deactivated), runner }
        simulator (.rotateCredential runnerId currentRef nextRef) := by
    intro runner hentry
    refine ⟨rfl, ?_, hentry⟩
    intro entry hentry
    obtain rfl := Option.some.inj hentry
    exact ⟨rfl, by rw [hcurrent]; rfl⟩
  rcases hfound : found with _ | next
  · refine ⟨.error .runnerCredentialNotFound, _, hwritten none (by simp), ?_⟩
    intro other hagree
    rw [hrun other hagree, hfound]
    rfl
  rcases hvalid : validateCredential next simulator.nowTick with error | value
  · refine ⟨.error error, _, hwritten none (by simp), ?_⟩
    intro other hagree
    rw [hrun other hagree, hfound, okOr_some, runOn_attempt_ok_bind, hvalid]
    rfl
  · refine ⟨.ok { runnerId, credentialRef := nextRef }, _,
      hwritten (some (runnerId, { runner with
        state := .registered
        credentialRef := some nextRef })) (by simp), ?_⟩
    intro other hagree
    rw [hrun other hagree, hfound, okOr_some, runOn_attempt_ok_bind, hvalid]
    rfl

theorem step_local (simulator : RunnerLifecycleSimulator) (operation : Operation) :
    Local simulator operation := by
  cases operation with
  | registerRunner tokenId runnerId credentialRef =>
      exact registerRunner_local simulator tokenId runnerId credentialRef
  | rotateCredential runnerId currentRef nextRef =>
      exact rotateCredential_local simulator runnerId currentRef nextRef

/-! ### Independent operations -/

/-- The operations stay off each other's entries: they use different tokens and
runners, and neither is granted the credential the other rotates away. -/
def Independent : Operation → Operation → Prop
  | .registerRunner tokenId runnerId _, .registerRunner tokenId' runnerId' _ =>
      tokenId ≠ tokenId' ∧ runnerId ≠ runnerId'
  | .registerRunner _ runnerId credentialRef, .rotateCredential runnerId' currentRef _ =>
      runnerId ≠ runnerId' ∧ credentialRef ≠ currentRef
  | .rotateCredential runnerId currentRef _, .registerRunner _ runnerId' credentialRef =>
      runnerId ≠ runnerId' ∧ credentialRef ≠ currentRef
  | .rotateCredential runnerId currentRef nextRef,
      .rotateCredential runnerId' currentRef' nextRef' =>
      runnerId ≠ runnerId' ∧ nextRef ≠ currentRef' ∧ nextRef' ≠ currentRef

instance : (first second : Operation) → Decidable (Independent first second)
  | .registerRunner _ _ _, .registerRunner _ _ _
  | .registerRunner _ _ _, .rotateCredential _ _ _
  | .rotateCredential _ _ _, .registerRunner _ _ _
  | .rotateCredential _ _ _, .rotateCredential _ _ _ =>
      inferInstanceAs (Decidable (_ ∧ _))

theorem Independent.symm {first second : Operation} (h : Independent first second) :
    Independent second first := by
  cases first <;> cases second <;> simp only [Independent] at h ⊢ <;> tauto

/-- What one operation writes does not change what an independent one reads. -/
theorem Independent.agreeOn {first second : Operation}
    (h : Independent first second) {simulator : RunnerLifecycleSimulator}
    {effect : Effect} (hwritten : effect.WrittenBy simulator first) :
    AgreeOn simulator (effect.apply simulator) second := by
  cases first with
  | registerRunner tokenId runnerId credentialRef =>
      obtain ⟨htoken, hcredential, hrunner⟩ := hwritten
      have hcredentials : (effect.apply simulator).credentials = simulator.credentials := by
        rw [Effect.apply, hcredential]
        rfl
      cases second with
      | registerRunner tokenId' runnerId' credentialRef' =>
          refine ⟨rfl, OrderedMap.get?_put_of_ne ?_, by rw [hcredentials]⟩
          intro entry hentry
          rw [htoken entry hentry]
          exact h.1
      | rotateCredential runnerId' currentRef nextRef =>
          refine ⟨rfl, OrderedMap.get?_put_of_ne ?_, by rw [hcredentials],
            by rw [hcredentials]⟩
          intro entry hentry
          rw [hrunner entry hentry]
          exact h.1
  | rotateCredential runnerId currentRef nextRef =>
      obtain ⟨htoken, hcredential, hrunner⟩ := hwritten
      -- a credential is untouched unless it is the one rotated away
      have hother : ∀ credentialRef, credentialRef ≠ currentRef →
          (effect.apply simulator).credentials.get? credentialRef =
            simulator.credentials.get? credentialRef := by
        intro credentialRef hne
        apply OrderedMap.get?_put_of_ne
        intro entry hentry
        rw [(hcredential entry hentry).1]
        exact hne.symm
      cases second with
      | registerRunner tokenId' runnerId' credentialRef' =>
          exact ⟨rfl, by rw [Effect.apply, htoken]; rfl, hother _ h.2⟩
      | rotateCredential runnerId' currentRef' nextRef' =>
          refine ⟨rfl, OrderedMap.get?_put_of_ne ?_, ?_, hother _ h.2.2⟩
          · intro entry hentry
            rw [hrunner entry hentry]
            exact h.1
          · by_cases hshared : currentRef' = currentRef
            · subst hshared
              rcases hclosed : effect.credential with _ | entry
              · rw [Effect.apply, hclosed]
                rfl
              · obtain ⟨hkey, hvalue⟩ := hcredential entry hclosed
                obtain ⟨current, _, hentry⟩ := Option.map_eq_some_iff.mp hvalue
                have hstays : entry.2.deactivated = entry.2 := by
                  rw [← hentry]
                  rfl
                rw [hvalue, Effect.apply, hclosed]
                change ((simulator.credentials.insert entry.1 entry.2).get?
                  currentRef').map _ = some entry.2
                rw [OrderedMap.get?_insert, if_pos hkey.symm, Option.map_some, hstays]
            · rw [hother _ hshared]

/-- Independent operations write different tokens and runners; a credential both
rotate away they close alike. -/
theorem Independent.apply_comm {first second : Operation} (h : Independent first second)
    {simulator : RunnerLifecycleSimulator} {effect effect' : Effect}
    (hwritten : effect.WrittenBy simulator first)
    (hwritten' : effect'.WrittenBy simulator second) :
    effect'.apply (effect.apply simulator) = effect.apply (effect'.apply simulator) := by
  have htokens : ∀ one ∈ effect.token, ∀ other ∈ effect'.token,
      one.1 = other.1 → one.2 = other.2 := by
    intro one hone other hother hkey
    cases first <;> cases second
    · rw [hwritten.1 one hone, hwritten'.1 other hother] at hkey
      exact absurd hkey h.1
    · simp [hwritten'.1] at hother
    · simp [hwritten.1] at hone
    · simp [hwritten.1] at hone
  have hcredentials : ∀ one ∈ effect.credential, ∀ other ∈ effect'.credential,
      one.1 = other.1 → one.2 = other.2 := by
    intro one hone other hother hkey
    cases first <;> cases second
    · simp [hwritten.2.1] at hone
    · simp [hwritten.2.1] at hone
    · simp [hwritten'.2.1] at hother
    · obtain ⟨hcurrent, hvalue⟩ := hwritten.2.1 one hone
      obtain ⟨hcurrent', hvalue'⟩ := hwritten'.2.1 other hother
      rw [← hcurrent, hkey, hcurrent', hvalue'] at hvalue
      exact (Option.some.inj hvalue).symm
  have hrunners : ∀ one ∈ effect.runner, ∀ other ∈ effect'.runner,
      one.1 = other.1 → one.2 = other.2 := by
    intro one hone other hother hkey
    cases first <;> cases second <;>
      rw [hwritten.2.2 one hone, hwritten'.2.2 other hother] at hkey
    · exact absurd hkey h.2
    · exact absurd hkey h.1
    · exact absurd hkey h.1
    · exact absurd hkey h.1
  simp only [Effect.apply, OrderedMap.put_comm _ htokens,
    OrderedMap.put_comm _ hcredentials, OrderedMap.put_comm _ hrunners]

theorem Independent.commutes {first second : Operation} (h : Independent first second) :
    Commutes step first second := by
  have hsecond : ∀ {first second : Operation}, Independent first second →
      ∀ simulator, (step (step simulator first).2 second).1 = (step simulator second).1 := by
    intro first second h simulator
    obtain ⟨answer, effect, hwritten, hrun⟩ := step_local simulator first
    obtain ⟨answer', effect', _, hrun'⟩ := step_local simulator second
    rw [hrun simulator (agreeOn_refl _ _), hrun' simulator (agreeOn_refl _ _),
      hrun' _ (h.agreeOn hwritten)]
  refine ⟨hsecond h.symm, hsecond h, fun simulator => ?_⟩
  obtain ⟨answer, effect, hwritten, hrun⟩ := step_local simulator first
  obtain ⟨answer', effect', hwritten', hrun'⟩ := step_local simulator second
  rw [hrun simulator (agreeOn_refl _ _), hrun' simulator (agreeOn_refl _ _),
    hrun' _ (h.agreeOn hwritten), hrun _ (h.symm.agreeOn hwritten')]
  exact h.apply_comm hwritten hwritten'

/-! ### Clients -/

/-- One request of a client. -/
def clientStep {Client : Type} (simulator : RunnerLifecycleSimulator)
    (request : Client × Operation) :
    Except RunnerLifecycleError RunnerCredentialGrant × RunnerLifecycleSimulator :=
  step simulator request.2

/-- Clients whose operations are independent of each other do not notice each
other: each is answered as if it were alone, and every interleaving of the same
requests gives every client the same answers and ends in the same tables. -/
theorem clients_isolated {Client : Type} [DecidableEq Client]
    (scenario : RunnerLifecycleScenario) (requests : List (Client × Operation))
    (hindependent : ∀ first ∈ requests, ∀ second ∈ requests,
      first.1 ≠ second.1 → Independent first.2 second.2) :
    (∀ owner, ownEntries Prod.fst owner
        (trace clientStep (.fromScenario scenario) requests) =
      trace clientStep (.fromScenario scenario) (ownInputs Prod.fst owner requests)) ∧
      ∀ other : List (Client × Operation),
        (∀ owner, ownInputs Prod.fst owner requests = ownInputs Prod.fst owner other) →
          (∀ owner, ownEntries Prod.fst owner
              (trace clientStep (.fromScenario scenario) other) =
            ownEntries Prod.fst owner
              (trace clientStep (.fromScenario scenario) requests)) ∧
          finalState clientStep (.fromScenario scenario) requests =
            finalState clientStep (.fromScenario scenario) other := by
  have hcommute : ClientsCommute Prod.fst clientStep requests := by
    intro first hfirst second hsecond hne
    have h := (hindependent first hfirst second hsecond hne).commutes
    exact ⟨h.answer_first, h.answer_second, h.state_eq⟩
  refine ⟨ownEntries_trace hcommute _, fun other hsame => ?_⟩
  exact ⟨ownEntries_interleaving hcommute hsame _,
    finalState_interleaving hcommute hsame _⟩

/-- A rotation and the registration of another runner under the next
credential. -/
def smallRequests : List (String × Operation) :=
  [("operator", .rotateCredential "runner" "credential-ref-active"
      "credential-ref-rotated"),
    ("installer", .registerRunner "reg-token" "runner-new" "credential-ref-rotated")]

theorem clients_isolated_small :
    (∀ owner, ownEntries Prod.fst owner
        (trace clientStep (.fromScenario (smallScenario .registered)) smallRequests) =
      trace clientStep (.fromScenario (smallScenario .registered))
        (ownInputs Prod.fst owner smallRequests)) ∧
      ∀ other : List (String × Operation),
        (∀ owner, ownInputs Prod.fst owner smallRequests =
            ownInputs Prod.fst owner other) →
          (∀ owner, ownEntries Prod.fst owner
              (trace clientStep (.fromScenario (smallScenario .registered)) other) =
            ownEntries Prod.fst owner
              (trace clientStep (.fromScenario (smallScenario .registered))
                smallRequests)) ∧
          finalState clientStep (.fromScenario (smallScenario .registered))
              smallRequests =
            finalState clientStep (.fromScenario (smallScenario .registered)) other :=
  clients_isolated (smallScenario .registered) smallRequests (by decide)

end RunnerLifecycle

end RemoteRunner
