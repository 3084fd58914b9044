/-
What is assumed of Ed25519, base64 and JSON text, and stand-ins that meet the
assumptions together.
-/
import RemoteRunner.Base64
import RemoteRunner.CompactText
import RemoteRunner.DispatchChecks

namespace RemoteRunner

namespace DispatchAuth

open Protocol

variable {SigningKey VerifyingKey : Type}

/-! ### Assumptions -/

/-- Verification accepts what the matching key signed. -/
def VerifiesSigned (env : Externals SigningKey VerifyingKey) : Prop :=
  ∀ signingKey message,
    env.verify (env.verifyingKey signingKey) message
      (env.sign signingKey message) = true

/-- Base64 decoding inverts encoding. -/
def DecodesEncoded (env : Externals SigningKey VerifyingKey) : Prop :=
  ∀ bytes, env.base64Decode (env.base64Encode bytes) = some bytes

/-- Every document prints as a text that parses as the document. -/
def ParsesPrinted (env : Externals SigningKey VerifyingKey) : Prop :=
  ∀ document, ∃ text, env.jsonToString document = some text ∧
    env.jsonFromStr text = some document

/-- Every document prints. -/
def PrintsEvery (env : Externals SigningKey VerifyingKey) : Prop :=
  ∀ document, ∃ text, env.jsonToString document = some text

/-- Distinct documents print as distinct texts. -/
def PrintsDistinct (env : Externals SigningKey VerifyingKey) : Prop :=
  ∀ first second text, env.jsonToString first = some text →
    env.jsonToString second = some text → first = second

/-- The arguments of one `signDispatchInstruction` call. -/
structure SignCall (SigningKey : Type) where
  dispatch : ProtocolEnvelope JobDispatch
  signingKey : SigningKey
  context : DispatchSigningContext

/-- The call produced a signature over exactly this message. -/
def SignCall.Signs (env : Externals SigningKey VerifyingKey)
    (call : SignCall SigningKey) (message : ByteArray) : Prop :=
  ∃ instruction text,
    signDispatchInstruction env call.dispatch call.signingKey call.context =
        .ok instruction ∧
      canonicalSigningPayload env call.dispatch
          (unsignedSignature call.context) = .ok text ∧
        text.toByteArray = message

/-- A signature verifies only over a message that a call of the signing log
signed with the matching key. -/
def Unforgeable (env : Externals SigningKey VerifyingKey)
    (signingLog : Set (SignCall SigningKey)) : Prop :=
  ∀ verifyingKey message signature,
    env.verify verifyingKey message signature = true →
      ∃ call ∈ signingLog, env.verifyingKey call.signingKey = verifyingKey ∧
        call.Signs env message

theorem ParsesPrinted.printsEvery {env : Externals SigningKey VerifyingKey}
    (h : ParsesPrinted env) : PrintsEvery env := by
  intro document
  obtain ⟨text, hprint, _⟩ := h document
  exact ⟨text, hprint⟩

/-- Texts that parse back are distinct. -/
theorem ParsesPrinted.printsDistinct {env : Externals SigningKey VerifyingKey}
    (h : ParsesPrinted env) : PrintsDistinct env := by
  intro first second text hfirst hsecond
  obtain ⟨text', hprint, hparse⟩ := h first
  obtain ⟨text'', hprint', hparse'⟩ := h second
  obtain rfl := Option.some.inj (hprint.symm.trans hfirst)
  obtain rfl := Option.some.inj (hprint'.symm.trans hsecond)
  exact Option.some.inj (hparse.symm.trans hparse')

/-! ### Stand-ins -/

/-- Compact JSON text and base64, with keys of one byte whose signature
repeats the key and verifies over the messages on record. -/
def standIn (onRecord : UInt8 → ByteArray → Bool) : Externals UInt8 UInt8 where
  verifyingKey key := key
  sign key _ := ⟨List.replicate 64 key, by simp⟩
  verify key message signature :=
    decide (signature.bytes = List.replicate 64 key) && onRecord key message
  base64Encode := Base64.encode
  base64Decode := Base64.decode
  jsonToString document := some (CompactText.print CompactText.decimalNumberText document)
  jsonFromStr := CompactText.parse CompactText.decimalNumberText

theorem standIn_verifiesSigned : VerifiesSigned (standIn fun _ _ => true) := by
  intro signingKey message
  simp [standIn]

theorem standIn_decodesEncoded (onRecord : UInt8 → ByteArray → Bool) :
    DecodesEncoded (standIn onRecord) :=
  Base64.decode_encode

theorem standIn_parsesPrinted (onRecord : UInt8 → ByteArray → Bool) :
    ParsesPrinted (standIn onRecord) := by
  intro document
  exact ⟨_, rfl, CompactText.parse_print _ document⟩

def sameBytes (first second : ByteArray) : Bool :=
  decide (first.data = second.data)

theorem sameBytes_iff {first second : ByteArray} :
    sameBytes first second = true ↔ first = second := by
  rw [sameBytes, decide_eq_true_eq]
  exact ByteArray.ext_iff.symm

/-- The messages one signing call puts on record. -/
def SignCall.record (call : SignCall UInt8) (key : UInt8) (message : ByteArray) :
    Bool :=
  decide (call.signingKey = key) &&
    match signDispatchInstruction (standIn fun _ _ => true) call.dispatch
        call.signingKey call.context,
      canonicalSigningPayload (standIn fun _ _ => true) call.dispatch
        (unsignedSignature call.context) with
    | .ok _, .ok text => sameBytes text.toByteArray message
    | _, _ => false

/-- Recording one call's messages leaves nothing to forge. -/
theorem standIn_unforgeable (call : SignCall UInt8) :
    Unforgeable (standIn call.record) {call} := by
  intro verifyingKey message signature hverify
  have hrecord : call.record verifyingKey message = true := by
    have hboth := hverify
    simp only [standIn, Bool.and_eq_true] at hboth
    exact hboth.2
  rw [SignCall.record, Bool.and_eq_true, decide_eq_true_eq] at hrecord
  obtain ⟨rfl, hmessage⟩ := hrecord
  refine ⟨call, Set.mem_singleton call, rfl, ?_⟩
  split at hmessage
  · rename_i instruction text hsign hprinted
    exact ⟨instruction, text, hsign, hprinted, sameBytes_iff.mp hmessage⟩
  · simp at hmessage

/-- What the recorded call signed verifies. -/
theorem SignCall.verifies_of_signs {call : SignCall UInt8}
    {instruction : SignedDispatchInstruction} {text : String}
    (hsign : signDispatchInstruction (standIn call.record) call.dispatch
      call.signingKey call.context = .ok instruction)
    (hprinted : canonicalSigningPayload (standIn call.record) call.dispatch
      (unsignedSignature call.context) = .ok text) :
    (standIn call.record).verify call.signingKey text.toByteArray
      ((standIn call.record).sign call.signingKey text.toByteArray) = true := by
  have hsign' : signDispatchInstruction (standIn fun _ _ => true) call.dispatch
      call.signingKey call.context = .ok instruction := hsign
  have hprinted' : canonicalSigningPayload (standIn fun _ _ => true) call.dispatch
      (unsignedSignature call.context) = .ok text := hprinted
  have hrecord : call.record call.signingKey text.toByteArray = true := by
    simp [record, hsign', hprinted', sameBytes_iff]
  simp only [standIn, decide_true, Bool.true_and]
  exact hrecord

/-- An echo job under the identifiers given. -/
def echoDispatch (runnerId jobId idempotencyKey : String) :
    ProtocolEnvelope JobDispatch where
  protocolVersion := PROTOCOL_VERSION
  messageType := "job.dispatch"
  payload := {
    leaseId := "lease_fixture_001"
    jobId
    runnerId
    correlationId := "corr_fixture_echo_001"
    idempotencyKey
    adapter := .echo
    input := Value.ofJson (.object [("echo", .string "hello from fixture")])
    timeoutSeconds := 60
    policy := {
      policyVersion := "policy_fixture_v1"
      workingGroupId := "wg-dev"
      allowedCapabilities := ["echo"]
      riskyActions := ["write_job_workspace"]
      workspace := {
        workspaceId := "workspace_fixture_001"
        rootStrategy := "temporary_isolated"
        allowedEnv := ["PATH", "TMPDIR"]
        scopedCredentialRef := some "runner-scoped-credential-ref"
        artifactPathAllowlist := ["stdout.txt"] }
      network := { mode := "deny_all", allowedTargets := [] } }
    signedInstruction := none }

def activeKey : DispatchVerificationKey UInt8 where
  keyId := "fixture-ed25519-active-2026-06"
  verifyingKey := 7
  status := .active

/-- A key retired two minutes before the signature, with too little skew. -/
def retiredKey : DispatchVerificationKey UInt8 where
  keyId := "fixture-ed25519-previous-2026-05"
  verifyingKey := 11
  status := .retired 1799999880 1800000600 30

def fixtureRegistry : DispatchKeyRegistry UInt8 :=
  DispatchKeyRegistry.new [activeKey, retiredKey]

def fixtureContext : DispatchSigningContext where
  keyId := activeKey.keyId
  signedAtUnixSeconds := 1799999990
  expiresAtUnixSeconds := 1800000120

def fixtureSignCall : SignCall UInt8 where
  dispatch := echoDispatch "local-dev-runner" "job_fixture_echo_001"
    "idem_fixture_echo_001"
  signingKey := 7
  context := fixtureContext

theorem fixtureRegistry_activeKey :
    fixtureRegistry.get fixtureContext.keyId = some activeKey := by
  rw [fixtureRegistry, DispatchKeyRegistry.new, DispatchKeyRegistry.get]
  rfl

end DispatchAuth

end RemoteRunner
