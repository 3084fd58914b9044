/-
Verdicts over time.  Every check either ignores the clock or only gets
stricter, so the first verdict on an instruction is the last favourable one;
and the validity window is checked at its end only.
-/
import RemoteRunner.DispatchRuns

namespace RemoteRunner

namespace DispatchAuth

open Protocol

variable {SigningKey VerifyingKey : Type} {env : Externals SigningKey VerifyingKey}

/-! ### Finality -/

/-- One instruction presented to a runner at some time. -/
def presented (registry : DispatchKeyRegistry VerifyingKey) (expectedRunnerId : String)
    (presentation : SignedDispatchInstruction × UInt64) : VerifyCall VerifyingKey where
  instruction := presentation.1
  registry
  nowUnixSeconds := presentation.2
  expectedRunnerId

/-- A key that serves later serves now. -/
theorem DispatchKeyStatus.Rejects.mono {status : DispatchKeyStatus}
    {nowUnixSeconds laterUnixSeconds signedAtUnixSeconds : UInt64}
    (hle : nowUnixSeconds ≤ laterUnixSeconds)
    (h : status.Rejects nowUnixSeconds signedAtUnixSeconds) :
    status.Rejects laterUnixSeconds signedAtUnixSeconds := by
  rcases status with _ | ⟨retiredAt, verifyUntil, allowedClockSkew⟩
  · exact h
  · rcases h with hlate | hsigned
    · exact Or.inl (UInt64.lt_of_lt_of_le hlate hle)
    · exact Or.inr hsigned

/-- What is admissible later is admissible now. -/
theorem Admissible.earlier {registry : DispatchKeyRegistry VerifyingKey}
    {expectedRunnerId : String} {instruction : SignedDispatchInstruction}
    {nowUnixSeconds laterUnixSeconds : UInt64}
    (hle : nowUnixSeconds ≤ laterUnixSeconds)
    (h : Admissible env
      (presented registry expectedRunnerId (instruction, laterUnixSeconds))) :
    Admissible env (presented registry expectedRunnerId (instruction, nowUnixSeconds)) := by
  obtain ⟨key, signature, text, hverifies⟩ := h.signed
  have hready : SignatureReady env
      (presented registry expectedRunnerId (instruction, nowUnixSeconds)) key signature
      text :=
    { registered := hverifies.registered
      inUse := mt (DispatchKeyStatus.Rejects.mono hle) hverifies.inUse
      decoded := hverifies.decoded
      printed := hverifies.printed }
  exact
    { protocol := h.protocol
      required := h.required
      scope := h.scope
      algorithm := h.algorithm
      unexpired := UInt64.lt_of_le_of_lt hle h.unexpired
      signed := ⟨key, signature, text, hready, hverifies.verified⟩ }

/-- Times of a run whose clock never goes back. -/
theorem time_le_of_pairwise {presentations : List (SignedDispatchInstruction × UInt64)}
    (hclock : (presentations.map Prod.snd).Pairwise (· ≤ ·)) {first second : Nat}
    (hlt : first < second) {earlier later : SignedDispatchInstruction × UInt64}
    (hfirst : presentations[first]? = some earlier)
    (hsecond : presentations[second]? = some later) : earlier.2 ≤ later.2 := by
  obtain ⟨hfirstLength, rfl⟩ := List.getElem?_eq_some_iff.mp hfirst
  obtain ⟨hsecondLength, rfl⟩ := List.getElem?_eq_some_iff.mp hsecond
  have htimes := List.pairwise_iff_getElem.mp hclock first second (by simpa using hfirstLength)
    (by simpa using hsecondLength) hlt
  simpa using htimes

/-- No presentation of an instruction after its first is accepted. -/
theorem presented_again_refused (env : Externals SigningKey VerifyingKey)
    (registry : DispatchKeyRegistry VerifyingKey) (expectedRunnerId : String)
    (cache : InMemoryDispatchReplayCache)
    {presentations : List (SignedDispatchInstruction × UInt64)}
    (hclock : (presentations.map Prod.snd).Pairwise (· ≤ ·)) {first second : Nat}
    (hlt : first < second) {instruction : SignedDispatchInstruction}
    {nowUnixSeconds laterUnixSeconds : UInt64}
    (hfirst : presentations[first]? = some (instruction, nowUnixSeconds))
    (hsecond : presentations[second]? = some (instruction, laterUnixSeconds)) :
    ∃ error, (trace (verifyStep env) cache
        (presentations.map (presented registry expectedRunnerId)))[second]? =
      some (presented registry expectedRunnerId (instruction, laterUnixSeconds),
        .error error) := by
  have hle : nowUnixSeconds ≤ laterUnixSeconds :=
    time_le_of_pairwise hclock hlt hfirst hsecond
  have hcheck : (replayGate env).check (presented registry expectedRunnerId
        (instruction, laterUnixSeconds)) = .ok () →
      (replayGate env).check (presented registry expectedRunnerId
        (instruction, nowUnixSeconds)) = .ok () := by
    intro hok
    exact checkCall_eq_ok_iff.mpr (Admissible.earlier hle (checkCall_eq_ok_iff.mp hok))
  have hkey : (replayGate env).key (presented registry expectedRunnerId
        (instruction, nowUnixSeconds)) =
      (replayGate env).key (presented registry expectedRunnerId
        (instruction, laterUnixSeconds)) := rfl
  rw [trace_verifyStep_from]
  exact (replayGate env).later_refused cache.seen hlt (by simp [hfirst])
    (by simp [hsecond]) hkey hcheck

/-- The answers of a run over presentations to one runner. -/
def presentationTrace (env : Externals SigningKey VerifyingKey)
    (registry : DispatchKeyRegistry VerifyingKey) (expectedRunnerId : String)
    (cache : InMemoryDispatchReplayCache)
    (presentations : List (SignedDispatchInstruction × UInt64)) :
    List (VerifyCall VerifyingKey × Except DispatchVerificationError Unit) :=
  trace (verifyStep env) cache (presentations.map (presented registry expectedRunnerId))

theorem presentation_of_answer {registry : DispatchKeyRegistry VerifyingKey}
    {expectedRunnerId : String} {cache : InMemoryDispatchReplayCache}
    {presentations : List (SignedDispatchInstruction × UInt64)} {position : Nat}
    {presentation : SignedDispatchInstruction × UInt64}
    {answer : Except DispatchVerificationError Unit}
    (h : (presentationTrace env registry expectedRunnerId cache
      presentations)[position]? =
        some (presented registry expectedRunnerId presentation, answer)) :
    presentations[position]? = some presentation := by
  rw [presentationTrace, trace_getElem?, List.getElem?_map] at h
  obtain ⟨call, hcall, hpair⟩ := Option.map_eq_some_iff.mp h
  obtain ⟨found, hfound, rfl⟩ := Option.map_eq_some_iff.mp hcall
  have hsame := (Prod.mk.inj hpair).1
  simp only [presented, VerifyCall.mk.injEq, true_and, and_true] at hsame
  rw [hfound]
  exact congrArg some (Prod.ext hsame.1 hsame.2)

/-- What a run says of one instruction: it is accepted at its first
presentation or never, and rejected for good once it is rejected. -/
structure VerdictFinal (env : Externals SigningKey VerifyingKey)
    (registry : DispatchKeyRegistry VerifyingKey) (expectedRunnerId : String)
    (cache : InMemoryDispatchReplayCache)
    (presentations : List (SignedDispatchInstruction × UInt64))
    (instruction : SignedDispatchInstruction) : Prop where
  accepted_first : ∀ (accepted other : Nat) (acceptedAt otherAt : UInt64),
    (presentationTrace env registry expectedRunnerId cache presentations)[accepted]? =
        some (presented registry expectedRunnerId (instruction, acceptedAt), .ok ()) →
    presentations[other]? = some (instruction, otherAt) → other ≠ accepted →
      accepted < other ∧ ∃ error,
        (presentationTrace env registry expectedRunnerId cache presentations)[other]? =
          some (presented registry expectedRunnerId (instruction, otherAt), .error error)
  rejected_for_good : ∀ (rejected later : Nat) (rejectedAt laterAt : UInt64)
      (reason : DispatchVerificationError), rejected < later →
    (presentationTrace env registry expectedRunnerId cache presentations)[rejected]? =
        some (presented registry expectedRunnerId (instruction, rejectedAt),
          .error reason) →
    presentations[later]? = some (instruction, laterAt) →
      ∃ error,
        (presentationTrace env registry expectedRunnerId cache presentations)[later]? =
          some (presented registry expectedRunnerId (instruction, laterAt), .error error)

/-- With one registry, one runner id and a clock that never goes back, every
verdict is final, no matter when the instruction was signed. -/
theorem verdict_final (env : Externals SigningKey VerifyingKey)
    (registry : DispatchKeyRegistry VerifyingKey) (expectedRunnerId : String)
    (cache : InMemoryDispatchReplayCache)
    {presentations : List (SignedDispatchInstruction × UInt64)}
    (hclock : (presentations.map Prod.snd).Pairwise (· ≤ ·))
    (instruction : SignedDispatchInstruction) :
    VerdictFinal env registry expectedRunnerId cache presentations instruction where
  accepted_first := by
    intro accepted other acceptedAt otherAt haccepted hother hne
    have hfound := presentation_of_answer haccepted
    rcases Nat.lt_or_gt_of_ne hne with hlt | hgt
    · obtain ⟨error, herror⟩ := presented_again_refused env registry expectedRunnerId
        cache hclock hlt hother hfound
      rw [presentationTrace, herror] at haccepted
      simp at haccepted
    · exact ⟨hgt, presented_again_refused env registry expectedRunnerId cache hclock hgt
        hfound hother⟩
  rejected_for_good := by
    intro rejected later rejectedAt laterAt reason hlt hrejected hlater
    exact presented_again_refused env registry expectedRunnerId cache hclock hlt
      (presentation_of_answer hrejected) hlater

theorem verdict_final_fixture :
    VerdictFinal (standIn fun _ _ => true) fixtureRegistry "local-dev-runner" default
      [((unsignedCall "local-dev-runner").instruction, 1800000000),
        ((unsignedCall "local-dev-runner").instruction, 1800000000),
        ((unsignedCall "local-dev-runner").instruction, 1800000060)]
      (unsignedCall "local-dev-runner").instruction :=
  verdict_final _ _ _ _ (by decide) _

/-! ### The validity window -/

/-- The instruction is presented inside its validity window. -/
def InsideWindow (call : VerifyCall VerifyingKey) : Prop :=
  call.instruction.signature.signedAtUnixSeconds ≤ call.nowUnixSeconds ∧
    call.nowUnixSeconds < call.instruction.signature.expiresAtUnixSeconds

/-- No expired instruction is accepted; one signed after the runner's clock is
refused exactly when another check refuses it. -/
theorem accepted_inside_window_iff {Cache : Type} [DispatchReplayCache Cache]
    (env : Externals SigningKey VerifyingKey) (cache : Cache)
    (call : VerifyCall VerifyingKey) :
    ((verifyStep env cache call).1 = .ok () →
        call.nowUnixSeconds < call.instruction.signature.expiresAtUnixSeconds) ∧
      (((verifyStep env cache call).1 = .ok () → InsideWindow call) ↔
        (call.instruction.signature.signedAtUnixSeconds ≤ call.nowUnixSeconds ∨
          ¬Admissible env call ∨
          DispatchReplayCache.hasSeen cache (replayKey call.payload) = true)) := by
  have hunexpired : (verifyStep env cache call).1 = .ok () →
      call.nowUnixSeconds < call.instruction.signature.expiresAtUnixSeconds :=
    fun haccepted => (verifyStep_ok_iff.mp haccepted).1.unexpired
  refine ⟨hunexpired, ?_⟩
  constructor
  · intro hinside
    by_cases hadmissible : Admissible env call
    · rcases hseen : DispatchReplayCache.hasSeen cache (replayKey call.payload) with _ | _
      · exact Or.inl (hinside (verifyStep_ok_iff.mpr ⟨hadmissible, hseen⟩)).1
      · exact Or.inr (Or.inr rfl)
    · exact Or.inr (Or.inl hadmissible)
  · intro hcondition haccepted
    obtain ⟨hadmissible, hnew⟩ := verifyStep_ok_iff.mp haccepted
    rcases hcondition with hsigned | hnot | hseen
    · exact ⟨hsigned, hunexpired haccepted⟩
    · exact absurd hadmissible hnot
    · rw [hnew] at hseen
      cases hseen

/-- Signed a minute after the runner's clock. -/
def futureContext : DispatchSigningContext where
  keyId := activeKey.keyId
  signedAtUnixSeconds := 1800000060
  expiresAtUnixSeconds := 1800000120

/-- Signed after its own expiry. -/
def emptyContext : DispatchSigningContext where
  keyId := activeKey.keyId
  signedAtUnixSeconds := 1800000180
  expiresAtUnixSeconds := 1800000120

/-- The bundled dispatch, signed with the context, is accepted before the time
it claims to be signed at. -/
def AcceptedEarly (context : DispatchSigningContext) : Prop :=
  ∃ instruction,
    signDispatchInstruction (standIn fun _ _ => true) fixtureSignCall.dispatch 7
        context = .ok instruction ∧
      1800000000 < instruction.signature.signedAtUnixSeconds ∧
      (verifyStep (standIn fun _ _ => true) (default : InMemoryDispatchReplayCache)
        ⟨instruction, fixtureRegistry, 1800000000, "local-dev-runner"⟩).1 = .ok ()

theorem acceptedEarly_of_active {context : DispatchSigningContext}
    (hkeyId : context.keyId = fixtureContext.keyId)
    (hsigned : 1800000000 < context.signedAtUnixSeconds)
    (hunexpired : 1800000000 < context.expiresAtUnixSeconds) : AcceptedEarly context := by
  have hjson := standIn_parsesPrinted fun _ _ => true
  obtain ⟨instruction, hsign⟩ := signDispatchInstruction_succeeds hjson
    (by decide : HasRequiredFields fixtureSignCall.dispatch.payload) 7 context
  have hkey : fixtureRegistry.get context.keyId = some activeKey := by
    rw [hkeyId]
    exact fixtureRegistry_activeKey
  have hadmissible := Admissible.of_sign (standIn_decodesEncoded _) hsign (by decide)
    hunexpired hkey not_false (fun _ _ => standIn_verifiesSigned 7 _)
  refine ⟨instruction, hsign, ?_, ?_⟩
  · obtain ⟨_, _, _, rfl⟩ := signDispatchInstruction_eq_ok_iff.mp hsign
    exact hsigned
  · exact verifyStep_ok_iff.mpr ⟨hadmissible, rfl⟩

/-- An instruction that is not yet valid, and one that never is, are accepted. -/
theorem accepted_before_signed : AcceptedEarly futureContext ∧ AcceptedEarly emptyContext := by
  constructor
  · apply acceptedEarly_of_active
    · rfl
    · decide
    · decide
  · apply acceptedEarly_of_active
    · rfl
    · decide
    · decide

end DispatchAuth

end RemoteRunner
