/-
Sign, send, verify: a signed instruction survives the wire in any member order
and is accepted once.
-/
import RemoteRunner.DispatchAssumptions

namespace RemoteRunner

namespace DispatchAuth

open Protocol

variable {SigningKey VerifyingKey : Type} {env : Externals SigningKey VerifyingKey}

/-- The instruction a signing call returns for its canonical payload. -/
def signedInstruction (env : Externals SigningKey VerifyingKey)
    (dispatch : ProtocolEnvelope JobDispatch) (signingKey : SigningKey)
    (context : DispatchSigningContext) (canonicalPayload : String) :
    SignedDispatchInstruction where
  dispatch
  signature := { unsignedSignature context with
    signatureBase64 := env.base64Encode
      (env.sign signingKey canonicalPayload.toByteArray).bytes }

theorem signDispatchInstruction_eq_ok_iff
    {dispatch : ProtocolEnvelope JobDispatch} {signingKey : SigningKey}
    {context : DispatchSigningContext} {instruction : SignedDispatchInstruction} :
    signDispatchInstruction env dispatch signingKey context = .ok instruction ↔
      HasRequiredFields dispatch.payload ∧
        ∃ canonicalPayload,
          canonicalSigningPayload env dispatch (unsignedSignature context) =
              .ok canonicalPayload ∧
            signedInstruction env dispatch signingKey context canonicalPayload =
              instruction := by
  simp only [signDispatchInstruction, bind_eq_ok_iff,
    validateRequiredDispatchFields_eq_ok_iff, exists_const]
  constructor
  · intro hsigned
    obtain ⟨hrequired, text, htext, hinstruction⟩ := hsigned
    exact ⟨hrequired, text, htext, Except.ok.inj hinstruction⟩
  · intro hsigned
    obtain ⟨hrequired, text, htext, hinstruction⟩ := hsigned
    exact ⟨hrequired, text, htext, congrArg Except.ok hinstruction⟩

/-- A printer that prints everything signs every dispatch with its required
fields. -/
theorem signDispatchInstruction_succeeds (hjson : ParsesPrinted env)
    {dispatch : ProtocolEnvelope JobDispatch}
    (hrequired : HasRequiredFields dispatch.payload) (signingKey : SigningKey)
    (context : DispatchSigningContext) :
    ∃ instruction,
      signDispatchInstruction env dispatch signingKey context = .ok instruction := by
  obtain ⟨text, hprint, _⟩ := hjson (sortJsonValue (signingDocument
    (dispatchCodec.encode dispatch) (unsignedSignature context)))
  refine ⟨signedInstruction env dispatch signingKey context text, ?_⟩
  rw [signDispatchInstruction_eq_ok_iff]
  refine ⟨hrequired, text, ?_, rfl⟩
  rw [canonicalSigningPayload, sortedText, hprint]

/-- A signed instruction passes every check before the cache when its key
accepts it. -/
theorem Admissible.of_sign {dispatch : ProtocolEnvelope JobDispatch}
    {signingKey : SigningKey} {context : DispatchSigningContext}
    {instruction : SignedDispatchInstruction}
    {registry : DispatchKeyRegistry VerifyingKey} {nowUnixSeconds : UInt64}
    {key : DispatchVerificationKey VerifyingKey}
    (hbase64 : DecodesEncoded env)
    (hsign : signDispatchInstruction env dispatch signingKey context =
      .ok instruction)
    (hprotocol : dispatch.protocolVersion ∈ SUPPORTED_PROTOCOL_VERSIONS)
    (hunexpired : nowUnixSeconds < context.expiresAtUnixSeconds)
    (hkey : registry.get context.keyId = some key)
    (hinUse : ¬key.status.Rejects nowUnixSeconds context.signedAtUnixSeconds)
    (hverify : ∀ text,
      canonicalSigningPayload env dispatch (unsignedSignature context) = .ok text →
        env.verify key.verifyingKey text.toByteArray
          (env.sign signingKey text.toByteArray) = true) :
    Admissible env ⟨instruction, registry, nowUnixSeconds,
      dispatch.payload.runnerId⟩ := by
  obtain ⟨hrequired, text, hprinted, rfl⟩ :=
    signDispatchInstruction_eq_ok_iff.mp hsign
  have hsignature : SignatureVerifies env
      ⟨signedInstruction env dispatch signingKey context text, registry,
        nowUnixSeconds, dispatch.payload.runnerId⟩ key
      (env.sign signingKey text.toByteArray) text :=
    { registered := hkey
      inUse := hinUse
      decoded := hbase64 _
      printed := hprinted
      verified := hverify text hprinted }
  exact
    { protocol := hprotocol
      required := hrequired
      scope := rfl
      algorithm := rfl
      unexpired := hunexpired
      signed := ⟨key, _, text, hsignature⟩ }

/-- A registered key is active, or retired and still in its verification
window for a signature made before its retirement plus skew. -/
def DispatchKeyStatus.Accepts (status : DispatchKeyStatus)
    (nowUnixSeconds signedAtUnixSeconds : UInt64) : Prop :=
  match status with
  | .active => True
  | .retired retiredAt verifyUntil allowedClockSkew =>
      nowUnixSeconds ≤ verifyUntil ∧
        signedAtUnixSeconds.toNat ≤ retiredAt.toNat + allowedClockSkew.toNat

theorem toNat_saturatingAdd (x y : UInt64) :
    (saturatingAdd x y).toNat = min (x.toNat + y.toNat) (2 ^ 64 - 1) := by
  unfold saturatingAdd
  split
  · rename_i hlt
    rw [UInt64.toNat_add]
    omega
  · have hmax : (0xffffffffffffffff : UInt64).toNat = 2 ^ 64 - 1 := rfl
    omega

theorem DispatchKeyStatus.rejects_iff {status : DispatchKeyStatus}
    {nowUnixSeconds signedAtUnixSeconds : UInt64} :
    status.Rejects nowUnixSeconds signedAtUnixSeconds ↔
      ¬status.Accepts nowUnixSeconds signedAtUnixSeconds := by
  rcases status with _ | ⟨retiredAt, verifyUntil, allowedClockSkew⟩
  · simp [Rejects, Accepts]
  · have hsigned := signedAtUnixSeconds.toNat_lt
    simp only [Rejects, Accepts, gt_iff_lt, UInt64.lt_iff_toNat_lt,
      UInt64.le_iff_toNat_le, toNat_saturatingAdd]
    omega

/-- A signed instruction printed in any member order reads back as it was
signed. -/
theorem reads_back_reordered (hjson : ParsesPrinted env)
    (instruction : SignedDispatchInstruction) {document : Json}
    (h : Json.Reorder (SignedDispatchInstruction.codec.encode instruction) document) :
    ∃ text, env.jsonToString document = some text ∧
      (env.jsonFromStr text).bind SignedDispatchInstruction.codec.decode =
        some instruction := by
  obtain ⟨text, hprint, hparse⟩ := hjson document
  refine ⟨text, hprint, ?_⟩
  rw [hparse]
  exact SignedDispatchInstruction.codec.decode_reorder h

/-- An admissible call with a new replay key is accepted, and refused as a
replay right after. -/
theorem accepted_once {call : VerifyCall VerifyingKey} (h : Admissible env call)
    {cache : InMemoryDispatchReplayCache} (hnew : replayKey call.payload ∉ cache.seen) :
    ∃ cache', verifyStep env cache call = (.ok (), cache') ∧
      verifyStep env cache' call = (.error .replayDetected, cache') := by
  refine ⟨⟨insert (replayKey call.payload) cache.seen⟩, ?_, ?_⟩
  · rw [verifyStep_of_admissible h]
    simp [DispatchReplayCache.hasSeen, DispatchReplayCache.record, hnew]
  · rw [verifyStep_of_admissible h]
    simp [DispatchReplayCache.hasSeen]

/-- Signing succeeds, the wire keeps the instruction whatever the member
order, and the runner accepts it exactly once. -/
theorem sign_send_verify (hverify : VerifiesSigned env)
    (hbase64 : DecodesEncoded env) (hjson : ParsesPrinted env)
    {dispatch : ProtocolEnvelope JobDispatch}
    (hprotocol : dispatch.protocolVersion ∈ SUPPORTED_PROTOCOL_VERSIONS)
    (hrequired : HasRequiredFields dispatch.payload)
    {signingKey : SigningKey} {context : DispatchSigningContext}
    {nowUnixSeconds : UInt64}
    (hunexpired : nowUnixSeconds < context.expiresAtUnixSeconds)
    {registry : DispatchKeyRegistry VerifyingKey}
    {key : DispatchVerificationKey VerifyingKey}
    (hkey : registry.get context.keyId = some key)
    (hmatch : key.verifyingKey = env.verifyingKey signingKey)
    (haccepts : key.status.Accepts nowUnixSeconds context.signedAtUnixSeconds) :
    ∃ instruction,
      signDispatchInstruction env dispatch signingKey context = .ok instruction ∧
      (∀ document,
        Json.Reorder (SignedDispatchInstruction.codec.encode instruction) document →
          ∃ text, env.jsonToString document = some text ∧
            (env.jsonFromStr text).bind SignedDispatchInstruction.codec.decode =
              some instruction) ∧
      ∀ cache : InMemoryDispatchReplayCache,
        replayKey dispatch.payload ∉ cache.seen →
          ∃ cache',
            verifyStep env cache ⟨instruction, registry, nowUnixSeconds,
                dispatch.payload.runnerId⟩ = (.ok (), cache') ∧
              verifyStep env cache' ⟨instruction, registry, nowUnixSeconds,
                dispatch.payload.runnerId⟩ = (.error .replayDetected, cache') := by
  obtain ⟨instruction, hsign⟩ :=
    signDispatchInstruction_succeeds hjson hrequired signingKey context
  have hinUse : ¬key.status.Rejects nowUnixSeconds context.signedAtUnixSeconds := by
    rw [DispatchKeyStatus.rejects_iff]
    exact not_not_intro haccepts
  have hadmissible := Admissible.of_sign hbase64 hsign hprotocol hunexpired hkey
    hinUse (fun text _ => by rw [hmatch]; exact hverify signingKey _)
  have hdispatch : instruction.dispatch = dispatch := by
    obtain ⟨_, _, _, rfl⟩ := signDispatchInstruction_eq_ok_iff.mp hsign
    rfl
  refine ⟨instruction, hsign, fun document => reads_back_reordered hjson instruction, ?_⟩
  intro cache hnew
  apply accepted_once hadmissible
  rw [VerifyCall.payload, hdispatch]
  exact hnew

theorem sign_send_verify_fixture :
    ∃ instruction,
      signDispatchInstruction (standIn fun _ _ => true)
          (echoDispatch "local-dev-runner" "job_fixture_echo_001"
            "idem_fixture_echo_001") 7 fixtureContext = .ok instruction ∧
      (∀ document,
        Json.Reorder (SignedDispatchInstruction.codec.encode instruction) document →
          ∃ text, (standIn fun _ _ => true).jsonToString document = some text ∧
            ((standIn fun _ _ => true).jsonFromStr text).bind
              SignedDispatchInstruction.codec.decode = some instruction) ∧
      ∀ cache : InMemoryDispatchReplayCache,
        replayKey (echoDispatch "local-dev-runner" "job_fixture_echo_001"
            "idem_fixture_echo_001").payload ∉ cache.seen →
          ∃ cache',
            verifyStep (standIn fun _ _ => true) cache
                ⟨instruction, fixtureRegistry, 1800000000, "local-dev-runner"⟩ =
                (.ok (), cache') ∧
              verifyStep (standIn fun _ _ => true) cache'
                ⟨instruction, fixtureRegistry, 1800000000, "local-dev-runner"⟩ =
                (.error .replayDetected, cache') :=
  sign_send_verify standIn_verifiesSigned (standIn_decodesEncoded _)
    (standIn_parsesPrinted _) (by decide) (by decide) (by decide)
    fixtureRegistry_activeKey rfl trivial

end DispatchAuth

end RemoteRunner
