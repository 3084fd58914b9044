/-
Runs of verification calls over one replay cache.  The runner is a once gate
on replay keys: what it accepts, what it reports as a replay, and what its
refusals leave behind follow from that.
-/
import RemoteRunner.DispatchSigning
import RemoteRunner.JoinedText
import RemoteRunner.OnceGate

namespace RemoteRunner

namespace DispatchAuth

open Protocol

variable {SigningKey VerifyingKey : Type}

/-- The gate a run of verification calls implements. -/
def replayGate (env : Externals SigningKey VerifyingKey) :
    OnceGate (VerifyCall VerifyingKey) String DispatchVerificationError where
  check := checkCall env
  key call := replayKey call.payload
  replayed := .replayDetected
  check_ne_replayed := checkCall_ne_replayDetected env

/-- One call against the in-memory cache is one decision of the gate. -/
theorem verifyStep_eq_decideOne (env : Externals SigningKey VerifyingKey)
    (seen : Finset String) (call : VerifyCall VerifyingKey) :
    verifyStep env (⟨seen⟩ : InMemoryDispatchReplayCache) call =
      (((replayGate env).decideOne seen call).1,
        ⟨((replayGate env).decideOne seen call).2⟩) := by
  rcases hcheck : checkCall env call with error | value
  · rw [verifyStep_of_check_error hcheck, OnceGate.decideOne]
    simp only [replayGate, hcheck]
  · rw [verifyStep_of_admissible (checkCall_eq_ok_iff.mp hcheck),
      OnceGate.decideOne]
    simp only [replayGate, hcheck, DispatchReplayCache.hasSeen,
      DispatchReplayCache.record, decide_eq_true_eq]
    by_cases hseen : replayKey call.payload ∈ seen
    · simp only [hseen, ↓reduceIte]
    · simp only [hseen, ↓reduceIte]

/-- A run answers as the gate does. -/
theorem trace_verifyStep_from (env : Externals SigningKey VerifyingKey)
    (cache : InMemoryDispatchReplayCache) (calls : List (VerifyCall VerifyingKey)) :
    trace (verifyStep env) cache calls = trace (replayGate env).decideOne cache.seen calls :=
  (trace_simulates (replayGate env).decideOne InMemoryDispatchReplayCache.mk
    (verifyStep_eq_decideOne env) cache.seen calls).1

theorem trace_verifyStep (env : Externals SigningKey VerifyingKey)
    (calls : List (VerifyCall VerifyingKey)) :
    trace (verifyStep env) (default : InMemoryDispatchReplayCache) calls =
      trace (replayGate env).decideOne ∅ calls :=
  trace_verifyStep_from env default calls

/-! ### At most once -/

/-- The dispatch identity of a call. -/
def VerifyCall.identity (call : VerifyCall VerifyingKey) :
    String × String × String :=
  (call.payload.runnerId, call.payload.jobId, call.payload.idempotencyKey)

/-- The identities of the accepted calls of a run, in order. -/
def acceptedIdentities
    (entries : List (VerifyCall VerifyingKey × Except DispatchVerificationError Unit)) :
    List (String × String × String) :=
  (entries.filter fun entry => entry.2.isOk).map fun entry => entry.1.identity

/-- The replay key of an identity. -/
def identityKey (identity : String × String × String) : String :=
  identity.1 ++ ":" ++ identity.2.1 ++ ":" ++ identity.2.2

theorem replayKey_eq_identityKey (call : VerifyCall VerifyingKey) :
    replayKey call.payload = identityKey call.identity := rfl

/-- No identity is accepted twice in a run. -/
theorem acceptedIdentities_nodup (env : Externals SigningKey VerifyingKey)
    (calls : List (VerifyCall VerifyingKey)) :
    (acceptedIdentities (trace (verifyStep env)
      (default : InMemoryDispatchReplayCache) calls)).Nodup := by
  have hkeys := ((replayGate env).acceptedKeys_fresh ∅ calls).1
  rw [← trace_verifyStep] at hkeys
  apply List.Nodup.of_map identityKey
  rw [acceptedIdentities, List.map_map]
  exact hkeys

/-! ### Refusals leave no trace -/

/-- Deleting refused calls changes neither the other answers nor the cache. -/
theorem refused_calls_deletable {Cache : Type} [DispatchReplayCache Cache]
    (env : Externals SigningKey VerifyingKey) (cache : Cache)
    (calls : List (VerifyCall VerifyingKey)) (drop : Nat → Bool)
    (hdrop : ∀ position entry,
      (trace (verifyStep env) cache calls)[position]? = some entry →
        drop position = true → ∃ error, entry.2 = .error error) :
    trace (verifyStep env) cache (deleteAt drop calls) =
        deleteAt drop (trace (verifyStep env) cache calls) ∧
      finalState (verifyStep env) cache (deleteAt drop calls) =
        finalState (verifyStep env) cache calls := by
  have hquiet : ∀ (cache : Cache) (call : VerifyCall VerifyingKey),
      (∃ error, (verifyStep env cache call).1 = .error error) →
        (verifyStep env cache call).2 = cache := by
    intro cache call herror
    obtain ⟨error, herror⟩ := herror
    exact verifyStep_error_cache herror
  exact trace_deleteAt (verifyStep env) (fun answer => ∃ error, answer = .error error)
    hquiet cache calls drop hdrop

/-- An unsigned instruction presented to a runner. -/
def unsignedCall (expectedRunnerId : String) : VerifyCall UInt8 where
  instruction := {
    dispatch := echoDispatch "local-dev-runner" "job_fixture_echo_001"
      "idem_fixture_echo_001"
    signature := unsignedSignature fixtureContext }
  registry := fixtureRegistry
  nowUnixSeconds := 1800000000
  expectedRunnerId

theorem refused_calls_deletable_fixture :
    trace (verifyStep (standIn fun _ _ => true))
        (default : InMemoryDispatchReplayCache)
        (deleteAt (fun position => position == 0)
          [unsignedCall "other-runner", unsignedCall "local-dev-runner"]) =
      deleteAt (fun position => position == 0)
        (trace (verifyStep (standIn fun _ _ => true))
          (default : InMemoryDispatchReplayCache)
          [unsignedCall "other-runner", unsignedCall "local-dev-runner"]) ∧
      finalState (verifyStep (standIn fun _ _ => true))
          (default : InMemoryDispatchReplayCache)
          (deleteAt (fun position => position == 0)
            [unsignedCall "other-runner", unsignedCall "local-dev-runner"]) =
        finalState (verifyStep (standIn fun _ _ => true))
          (default : InMemoryDispatchReplayCache)
          [unsignedCall "other-runner", unsignedCall "local-dev-runner"] := by
  apply refused_calls_deletable
  intro position entry hentry hposition
  obtain rfl : position = 0 := by simpa using hposition
  obtain rfl := Option.some.inj hentry
  exact ⟨.scopeMismatch, rfl⟩

/-! ### False replays -/

/-- Text moves across a separator of the replay key: one runner id is the
other extended by text that starts the other's job id and idempotency key, or
the runner ids agree and this happens between job id and idempotency key. -/
def SeparatorShift (first second : JobDispatch) : Prop :=
  (∃ moved, second.runnerId = joinText ':' first.runnerId moved ∧
      joinText ':' first.jobId first.idempotencyKey =
        joinText ':' moved (joinText ':' second.jobId second.idempotencyKey)) ∨
    (first.runnerId = second.runnerId ∧
      ∃ moved, second.jobId = joinText ':' first.jobId moved ∧
        first.idempotencyKey = joinText ':' moved second.idempotencyKey)

/-- The dispatches have the same identity. -/
def SameIdentity (first second : JobDispatch) : Prop :=
  first.runnerId = second.runnerId ∧ first.jobId = second.jobId ∧
    first.idempotencyKey = second.idempotencyKey

theorem replayKey_eq_joinText (dispatch : JobDispatch) :
    replayKey dispatch = joinText ':' dispatch.runnerId
      (joinText ':' dispatch.jobId dispatch.idempotencyKey) := by
  rw [← String.toList_inj]
  simp [replayKey, joinText]

/-- Replay keys agree when the identities do or a separator shifts. -/
theorem replayKey_eq_iff {first second : JobDispatch} :
    replayKey first = replayKey second ↔
      SameIdentity first second ∨ SeparatorShift first second ∨
        SeparatorShift second first := by
  rw [replayKey_eq_joinText, replayKey_eq_joinText, joinText_eq_joinText_iff,
    joinText_eq_joinText_iff]
  simp only [SameIdentity, SeparatorShift]
  constructor
  · intro hmoves
    rcases hmoves with ⟨hrunner, ⟨hjob, hkey⟩ | hmoved | hmoved⟩ | hmoved | hmoved
    · exact Or.inl ⟨hrunner, hjob, hkey⟩
    · exact Or.inr (Or.inl (Or.inr ⟨hrunner, hmoved⟩))
    · exact Or.inr (Or.inr (Or.inr ⟨hrunner.symm, hmoved⟩))
    · exact Or.inr (Or.inl (Or.inl hmoved))
    · exact Or.inr (Or.inr (Or.inl hmoved))
  · intro hmoves
    rcases hmoves with ⟨hrunner, hjob, hkey⟩ | (hmoved | ⟨hrunner, hmoved⟩) |
      (hmoved | ⟨hrunner, hmoved⟩)
    · exact Or.inl ⟨hrunner, Or.inl ⟨hjob, hkey⟩⟩
    · exact Or.inr (Or.inl hmoved)
    · exact Or.inl ⟨hrunner, Or.inr (Or.inl hmoved)⟩
    · exact Or.inr (Or.inr hmoved)
    · exact Or.inl ⟨hrunner.symm, Or.inr (Or.inr hmoved)⟩

/-- A shift moves text, so the identities differ. -/
theorem SeparatorShift.not_sameIdentity {first second : JobDispatch}
    (h : SeparatorShift first second) :
    ¬SameIdentity first second ∧ ¬SameIdentity second first := by
  rcases h with ⟨moved, hrunner, _⟩ | ⟨_, moved, hjob, _⟩
  · refine ⟨fun hsame => ?_, fun hsame => ?_⟩
    · exact ne_joinText_self (hsame.1.trans hrunner)
    · exact ne_joinText_self (hsame.1.symm.trans hrunner)
  · refine ⟨fun hsame => ?_, fun hsame => ?_⟩
    · exact ne_joinText_self (hsame.2.1.trans hjob)
    · exact ne_joinText_self (hsame.2.1.symm.trans hjob)

theorem identity_eq_iff {first second : VerifyCall VerifyingKey} :
    first.identity = second.identity ↔
      SameIdentity first.payload second.payload := by
  simp only [VerifyCall.identity, Prod.mk.injEq, SameIdentity]

theorem sameIdentity_of_replayKey_iff {first second : JobDispatch} :
    (replayKey first = replayKey second → SameIdentity first second) ↔
      ¬SeparatorShift first second ∧ ¬SeparatorShift second first := by
  rw [replayKey_eq_iff]
  constructor
  · intro h
    constructor
    · intro hshift
      exact hshift.not_sameIdentity.1 (h (Or.inr (Or.inl hshift)))
    · intro hshift
      exact hshift.not_sameIdentity.2 (h (Or.inr (Or.inr hshift)))
  · rintro ⟨hfirst, hsecond⟩ (hsame | hshift | hshift)
    · exact hsame
    · exact absurd hshift hfirst
    · exact absurd hshift hsecond

/-- Two admissible calls with one replay key: the second is a replay. -/
theorem trace_same_key {env : Externals SigningKey VerifyingKey}
    {first second : VerifyCall VerifyingKey} (hfirst : Admissible env first)
    (hsecond : Admissible env second)
    (hkey : replayKey first.payload = replayKey second.payload) :
    (trace (verifyStep env) (default : InMemoryDispatchReplayCache)
      [first, second]).map Prod.snd = [.ok (), .error .replayDetected] := by
  have hcache : verifyStep env (default : InMemoryDispatchReplayCache) first =
      (.ok (), ⟨insert (replayKey first.payload) ∅⟩) := by
    rw [verifyStep_of_admissible hfirst]
    rfl
  simp only [trace, hcache, verifyStep_of_admissible hsecond, List.map_cons,
    List.map_nil, DispatchReplayCache.hasSeen, ← hkey]
  simp

end DispatchAuth

end RemoteRunner
