/-
Verification runs seen one replay key at a time, and over any replay cache.
What a call is answered depends on the calls before it that carry its key and
on nothing else, neither the other keys nor the cache's own data structure.
-/
import RemoteRunner.DispatchRuns
import RemoteRunner.GateMemory

namespace RemoteRunner

namespace DispatchAuth

variable {SigningKey VerifyingKey : Type}

/-- The replay key a call presents. -/
def VerifyCall.replayKey (call : VerifyCall VerifyingKey) : String :=
  DispatchAuth.replayKey call.payload

/-- One call against the in-memory cache. -/
abbrev inMemoryStep (env : Externals SigningKey VerifyingKey) :
    InMemoryDispatchReplayCache → VerifyCall VerifyingKey →
      Except DispatchVerificationError Unit × InMemoryDispatchReplayCache :=
  verifyStep env

/-- Calls with different replay keys do not see each other. -/
theorem verifyStep_commutes (env : Externals SigningKey VerifyingKey)
    {first second : VerifyCall VerifyingKey} (h : first.replayKey ≠ second.replayKey) :
    Commutes (inMemoryStep env) first second := by
  have hgate := (replayGate env).commutes_of_key_ne h
  constructor
  · rintro ⟨seen⟩
    simp only [inMemoryStep, verifyStep_eq_decideOne]
    exact hgate.answer_first seen
  · rintro ⟨seen⟩
    simp only [inMemoryStep, verifyStep_eq_decideOne]
    exact hgate.answer_second seen
  · rintro ⟨seen⟩
    simp only [inMemoryStep, verifyStep_eq_decideOne]
    rw [hgate.state_eq seen]

/-- A replay cache as a memory of keys. -/
def cacheMemory (Cache : Type) [DispatchReplayCache Cache] : KeyMemory Cache String where
  hasSeen := DispatchReplayCache.hasSeen
  record := DispatchReplayCache.record

/-- One call against a cache is one decision of the gate over it. -/
theorem verifyStep_eq_decideIn {Cache : Type} [DispatchReplayCache Cache]
    (env : Externals SigningKey VerifyingKey) (cache : Cache)
    (call : VerifyCall VerifyingKey) :
    verifyStep env cache call =
      (replayGate env).decideIn (cacheMemory Cache) cache call := by
  rcases hcheck : checkCall env call with error | value
  · rw [verifyStep_of_check_error hcheck, OnceGate.decideIn]
    simp only [replayGate, hcheck]
  · rw [verifyStep_of_admissible (checkCall_eq_ok_iff.mp hcheck), OnceGate.decideIn]
    simp only [replayGate, hcheck, cacheMemory]
    rfl

/-- The in-memory cache keeps every key and invents none. -/
theorem inMemoryCache_contract :
    (cacheMemory InMemoryDispatchReplayCache).Keeps ∧
      (cacheMemory InMemoryDispatchReplayCache).InventsNothing := by
  refine ⟨⟨?_, ?_⟩, ?_⟩
  · intro cache key
    simp [cacheMemory, DispatchReplayCache.hasSeen, DispatchReplayCache.record]
  · intro cache key other h
    simp only [cacheMemory, DispatchReplayCache.hasSeen, DispatchReplayCache.record,
      decide_eq_true_eq] at h ⊢
    exact Finset.mem_insert_of_mem h
  · intro cache key other h
    simpa [cacheMemory, DispatchReplayCache.hasSeen, DispatchReplayCache.record] using h

/-- The answer to a call after the calls before it, with no cache at all: a call
that passes the checks is a replay when one before it passed them with its key. -/
def verdictAfter (env : Externals SigningKey VerifyingKey)
    (earlier : List (VerifyCall VerifyingKey)) (call : VerifyCall VerifyingKey) :
    Except DispatchVerificationError Unit := do
  checkCall env call
  rejectIf (∃ first ∈ earlier, (checkCall env first).isOk ∧
    first.replayKey = call.replayKey) .replayDetected

theorem isOk_iff {E : Type*} {answer : Except E Unit} :
    answer.isOk = true ↔ answer = .ok () := by
  cases answer <;> simp [Except.isOk, Except.toBool]

theorem decideOne_answer (env : Externals SigningKey VerifyingKey) (seen : Finset String)
    (call : VerifyCall VerifyingKey) :
    ((replayGate env).decideOne seen call).1 = (do
      checkCall env call
      rejectIf (call.replayKey ∈ seen) .replayDetected) := by
  change _ = (replayGate env).check call >>= fun _ =>
    rejectIf ((replayGate env).key call ∈ seen) (replayGate env).replayed
  rw [OnceGate.decideOne]
  cases (replayGate env).check call with
  | error error => rfl
  | ok _ =>
      by_cases hmem : (replayGate env).key call ∈ seen
      · rw [rejectIf_pos hmem]
        simp only [hmem, ↓reduceIte]
        rfl
      · rw [rejectIf_neg hmem]
        simp only [hmem, ↓reduceIte]
        rfl

/-- The gate answers by the verdict. -/
theorem decideOne_eq_verdictAfter (env : Externals SigningKey VerifyingKey)
    (earlier : List (VerifyCall VerifyingKey)) (call : VerifyCall VerifyingKey) :
    ((replayGate env).decideOne (finalState (replayGate env).decideOne ∅ earlier) call).1 =
      verdictAfter env earlier call := by
  have hseen : call.replayKey ∈ finalState (replayGate env).decideOne ∅ earlier ↔
      ∃ first ∈ earlier, (checkCall env first).isOk ∧ first.replayKey = call.replayKey := by
    rw [OnceGate.mem_finalState_iff_admitted]
    simp only [Finset.notMem_empty, false_or, isOk_iff]
    rfl
  rw [decideOne_answer, verdictAfter]
  simp only [hseen]

/-- What the verifier is promised of a run over one cache. -/
structure VerdictsOf {Cache : Type} [DispatchReplayCache Cache]
    (env : Externals SigningKey VerifyingKey) (start : Cache)
    (calls : List (VerifyCall VerifyingKey)) : Prop where
  accepted_once : (cacheMemory Cache).Keeps →
    ∀ (earlier later : Nat) (first second : VerifyCall VerifyingKey), earlier < later →
      (trace (verifyStep env) start calls)[earlier]? = some (first, .ok ()) →
      (trace (verifyStep env) start calls)[later]? = some (second, .ok ()) →
        first.replayKey ≠ second.replayKey
  replayed_after_accepted : (cacheMemory Cache).InventsNothing →
    (∀ key, DispatchReplayCache.hasSeen start key = false) →
    ∀ (position : Nat) (call : VerifyCall VerifyingKey),
      (trace (verifyStep env) start calls)[position]? =
        some (call, .error .replayDetected) →
        ∃ (earlier : Nat) (first : VerifyCall VerifyingKey), earlier < position ∧
          (trace (verifyStep env) start calls)[earlier]? = some (first, .ok ()) ∧
            first.replayKey = call.replayKey
  by_history : (cacheMemory Cache).Keeps → (cacheMemory Cache).InventsNothing →
    (∀ key, DispatchReplayCache.hasSeen start key = false) →
    ∀ position : Nat, (trace (verifyStep env) start calls)[position]? =
      calls[position]?.map fun call =>
        (call, verdictAfter env (calls.take position) call)

/-- A cache that keeps its keys lets no key through twice, one that invents none
reports no false replay, and one that does both answers by history alone. -/
theorem replay_cache_contract {Cache : Type} [DispatchReplayCache Cache]
    (env : Externals SigningKey VerifyingKey) (start : Cache)
    (calls : List (VerifyCall VerifyingKey)) : VerdictsOf env start calls := by
  have hstep : (verifyStep env : Cache → VerifyCall VerifyingKey → _) =
      (replayGate env).decideIn (cacheMemory Cache) := by
    funext cache call
    exact verifyStep_eq_decideIn env cache call
  constructor
  · intro hkeeps earlier later first second hlt hfirst hsecond
    rw [hstep] at hfirst hsecond
    exact OnceGate.accepted_once hkeeps hlt hfirst hsecond
  · intro hinvents hstart position call hreplayed
    rw [hstep] at hreplayed ⊢
    exact OnceGate.replayed_after_accepted hinvents hstart hreplayed
  · intro hkeeps hinvents hstart position
    have hempty : ∀ key, (cacheMemory Cache).hasSeen start key = true ↔
        key ∈ (∅ : Finset String) := by
      intro key
      change DispatchReplayCache.hasSeen start key = true ↔ _
      simp [hstart key]
    rw [hstep, OnceGate.trace_decideIn hkeeps hinvents hempty, trace_getElem?]
    simp only [decideOne_eq_verdictAfter]

end DispatchAuth

end RemoteRunner
