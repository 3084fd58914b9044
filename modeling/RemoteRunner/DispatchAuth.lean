/-
Signed dispatch instructions: signing, verification against a key registry and
a replay cache, and the canonical payload both sides sign.  Ed25519, base64 and
JSON text come from outside the repository and are parameters.
-/
import Mathlib.Data.Finset.Insert
import RemoteRunner.EarlyReturn
import RemoteRunner.Protocol
import RemoteRunner.TextTrim

namespace RemoteRunner

namespace DispatchAuth

open Protocol

def DISPATCH_SIGNATURE_ALGORITHM : String := "ed25519"

/-- The 64 bytes of an Ed25519 signature. -/
structure Signature where
  bytes : List UInt8
  length_eq : bytes.length = 64
deriving DecidableEq

/-- The third-party functions this module calls. -/
structure Externals (SigningKey VerifyingKey : Type) where
  verifyingKey : SigningKey → VerifyingKey
  sign : SigningKey → ByteArray → Signature
  verify : VerifyingKey → ByteArray → Signature → Bool
  base64Encode : List UInt8 → String
  base64Decode : String → Option (List UInt8)
  jsonToString : Json → Option String
  jsonFromStr : String → Option Json

structure DispatchSignature where
  keyId : String
  algorithm : String
  signedAtUnixSeconds : UInt64
  expiresAtUnixSeconds : UInt64
  signatureBase64 : String
deriving DecidableEq

structure SignedDispatchInstruction where
  dispatch : ProtocolEnvelope JobDispatch
  signature : DispatchSignature
deriving DecidableEq

structure DispatchSigningContext where
  keyId : String
  signedAtUnixSeconds : UInt64
  expiresAtUnixSeconds : UInt64
deriving DecidableEq

inductive DispatchKeyStatus where
  | active
  | retired (retiredAtUnixSeconds verifyUntilUnixSeconds
      allowedClockSkewSeconds : UInt64)
deriving DecidableEq

variable {SigningKey VerifyingKey : Type}

structure DispatchVerificationKey (VerifyingKey : Type) where
  keyId : String
  verifyingKey : VerifyingKey
  status : DispatchKeyStatus

structure DispatchKeyRegistry (VerifyingKey : Type) where
  keys : OrderedMap String (DispatchVerificationKey VerifyingKey)

def DispatchKeyRegistry.new (keys : List (DispatchVerificationKey VerifyingKey)) :
    DispatchKeyRegistry VerifyingKey :=
  ⟨OrderedMap.ofEntries (keys.map fun key => (key.keyId, key))⟩

def DispatchKeyRegistry.get (registry : DispatchKeyRegistry VerifyingKey)
    (keyId : String) : Option (DispatchVerificationKey VerifyingKey) :=
  registry.keys.get? keyId

inductive DispatchVerificationError where
  | missingRequiredField (field : String)
  | unsupportedProtocol
  | unsupportedAlgorithm
  | unknownKey
  | expired
  | keyRetired
  | invalidSignature
  | replayDetected
  | scopeMismatch
  | malformedSignature
deriving DecidableEq

/-- The text every error displays. -/
def DispatchVerificationError.message : DispatchVerificationError → String
  | .missingRequiredField _ => "dispatch_signature_missing_required_field"
  | .unsupportedProtocol => "dispatch_signature_unsupported_protocol"
  | .unsupportedAlgorithm => "dispatch_signature_unsupported_algorithm"
  | .unknownKey => "dispatch_signature_unknown_key"
  | .expired => "dispatch_signature_expired"
  | .keyRetired => "dispatch_signature_key_retired"
  | .invalidSignature => "dispatch_signature_invalid"
  | .replayDetected => "dispatch_replay_detected"
  | .scopeMismatch => "dispatch_scope_mismatch"
  | .malformedSignature => "dispatch_signature_malformed"

class DispatchReplayCache (Cache : Type) where
  hasSeen : Cache → String → Bool
  record : Cache → String → Cache

structure InMemoryDispatchReplayCache where
  seen : Finset String := ∅
deriving DecidableEq

instance : Inhabited InMemoryDispatchReplayCache := ⟨{}⟩

instance : DispatchReplayCache InMemoryDispatchReplayCache where
  hasSeen cache replayKey := decide (replayKey ∈ cache.seen)
  record cache replayKey := ⟨insert replayKey cache.seen⟩

def sortJsonValue (value : Json) : Json := value.sorted

/-- The document whose sorted text is signed: the dispatch and the signature
metadata without the signature itself. -/
def signingDocument (dispatch : Json) (signature : DispatchSignature) : Json :=
  .object [
    ("dispatch", dispatch),
    ("signature", .object [
      ("algorithm", .string signature.algorithm),
      ("expires_at_unix_seconds", .number (.posInt signature.expiresAtUnixSeconds)),
      ("key_id", .string signature.keyId),
      ("signed_at_unix_seconds", .number (.posInt signature.signedAtUnixSeconds))])]

/-- The wire form of a dispatch envelope. -/
def dispatchCodec : Codec (ProtocolEnvelope JobDispatch) :=
  ProtocolEnvelope.codec JobDispatch.codec

def DispatchSignature.codec : Codec DispatchSignature :=
  (WireRecord.cons (.required "key_id" .string) <|
    .cons (.required "algorithm" .string) <|
    .cons (.required "signed_at_unix_seconds" .u64) <|
    .cons (.required "expires_at_unix_seconds" .u64) <|
    .cons (.required "signature_base64" .string) .nil).toCodec.iso
    (fun (keyId, algorithm, signedAtUnixSeconds, expiresAtUnixSeconds,
        signatureBase64, _) =>
      { keyId, algorithm, signedAtUnixSeconds, expiresAtUnixSeconds,
        signatureBase64 })
    (fun signature => (signature.keyId, signature.algorithm,
      signature.signedAtUnixSeconds, signature.expiresAtUnixSeconds,
      signature.signatureBase64, ()))
    (fun _ => rfl) (fun _ => rfl)

/-- The wire form of a signed instruction. -/
def SignedDispatchInstruction.codec : Codec SignedDispatchInstruction :=
  (WireRecord.cons (.required "dispatch" dispatchCodec) <|
    .cons (.required "signature" DispatchSignature.codec) .nil).toCodec.iso
    (fun (dispatch, signature, _) => { dispatch, signature })
    (fun instruction => (instruction.dispatch, instruction.signature, ()))
    (fun _ => rfl) (fun _ => rfl)

/-- Sort a document and print it. -/
def sortedText (env : Externals SigningKey VerifyingKey) (document : Json) :
    Except DispatchVerificationError String :=
  match env.jsonToString (sortJsonValue document) with
  | some text => .ok text
  | none => .error .malformedSignature

def canonicalSigningPayload (env : Externals SigningKey VerifyingKey)
    (dispatch : ProtocolEnvelope JobDispatch) (signature : DispatchSignature) :
    Except DispatchVerificationError String :=
  sortedText env (signingDocument (dispatchCodec.encode dispatch) signature)

/-- The required fields in the order they are checked. -/
def requiredDispatchFields (dispatch : JobDispatch) : List (String × String) :=
  [("lease_id", dispatch.leaseId),
    ("job_id", dispatch.jobId),
    ("runner_id", dispatch.runnerId),
    ("correlation_id", dispatch.correlationId),
    ("idempotency_key", dispatch.idempotencyKey),
    ("policy_version", dispatch.policy.policyVersion),
    ("working_group_id", dispatch.policy.workingGroupId),
    ("workspace_id", dispatch.policy.workspace.workspaceId)]

def validateRequiredDispatchFields (dispatch : JobDispatch) :
    Except DispatchVerificationError Unit :=
  match (requiredDispatchFields dispatch).find? fun field => trim field.2 = "" with
  | some field => .error (.missingRequiredField field.1)
  | none => .ok ()

def replayKey (dispatch : JobDispatch) : String :=
  dispatch.runnerId ++ ":" ++ dispatch.jobId ++ ":" ++ dispatch.idempotencyKey

/-- The metadata that is signed, before the signature is filled in. -/
def unsignedSignature (context : DispatchSigningContext) : DispatchSignature where
  keyId := context.keyId
  algorithm := DISPATCH_SIGNATURE_ALGORITHM
  signedAtUnixSeconds := context.signedAtUnixSeconds
  expiresAtUnixSeconds := context.expiresAtUnixSeconds
  signatureBase64 := ""

def signDispatchInstruction (env : Externals SigningKey VerifyingKey)
    (dispatch : ProtocolEnvelope JobDispatch) (signingKey : SigningKey)
    (context : DispatchSigningContext) :
    Except DispatchVerificationError SignedDispatchInstruction := do
  validateRequiredDispatchFields dispatch.payload
  let signature := unsignedSignature context
  let canonicalPayload ← canonicalSigningPayload env dispatch signature
  let signed := env.sign signingKey canonicalPayload.toByteArray
  return {
    dispatch
    signature := { signature with
      signatureBase64 := env.base64Encode signed.bytes } }

/-- `u64::saturating_add`. -/
def saturatingAdd (x y : UInt64) : UInt64 :=
  if x.toNat + y.toNat < 2 ^ 64 then x + y else 0xffffffffffffffff

/-- A retired key refuses late presentations and signatures made after its
retirement. -/
def DispatchKeyStatus.Rejects (status : DispatchKeyStatus)
    (nowUnixSeconds signedAtUnixSeconds : UInt64) : Prop :=
  match status with
  | .active => False
  | .retired retiredAt verifyUntil allowedClockSkew =>
      nowUnixSeconds > verifyUntil ∨
        signedAtUnixSeconds > saturatingAdd retiredAt allowedClockSkew

instance (status : DispatchKeyStatus) (nowUnixSeconds signedAtUnixSeconds : UInt64) :
    Decidable (status.Rejects nowUnixSeconds signedAtUnixSeconds) :=
  match status with
  | .active => inferInstanceAs (Decidable False)
  | .retired _ _ _ => inferInstanceAs (Decidable (_ ∨ _))

def signatureFromBytes (bytes : List UInt8) : Option Signature :=
  if h : bytes.length = 64 then some ⟨bytes, h⟩ else none

section Verify

variable {Cache : Type}

def verifyDispatchInstruction [DispatchReplayCache Cache]
    (env : Externals SigningKey VerifyingKey)
    (instruction : SignedDispatchInstruction)
    (registry : DispatchKeyRegistry VerifyingKey) (nowUnixSeconds : UInt64)
    (expectedRunnerId : String) :
    ExceptT DispatchVerificationError (StateM Cache) Unit := do
  attempt ((validateProtocolVersion instruction.dispatch.protocolVersion).mapError
    fun _ => .unsupportedProtocol)
  attempt (validateRequiredDispatchFields instruction.dispatch.payload)
  attempt (rejectIf (instruction.dispatch.payload.runnerId ≠ expectedRunnerId)
    .scopeMismatch)
  attempt (rejectIf (instruction.signature.algorithm ≠ DISPATCH_SIGNATURE_ALGORITHM)
    .unsupportedAlgorithm)
  attempt (rejectIf (instruction.signature.expiresAtUnixSeconds ≤ nowUnixSeconds)
    .expired)
  let key ← attempt (okOr (registry.get instruction.signature.keyId) .unknownKey)
  attempt (rejectIf (key.status.Rejects nowUnixSeconds
    instruction.signature.signedAtUnixSeconds) .keyRetired)
  let signatureBytes ← attempt
    (okOr (env.base64Decode instruction.signature.signatureBase64) .malformedSignature)
  let signature ← attempt (okOr (signatureFromBytes signatureBytes) .malformedSignature)
  let canonicalPayload ← attempt
    (canonicalSigningPayload env instruction.dispatch instruction.signature)
  attempt (rejectIf
    (env.verify key.verifyingKey canonicalPayload.toByteArray signature = false)
    .invalidSignature)
  let replayKey := replayKey instruction.dispatch.payload
  let cache ← get
  attempt (rejectIf (DispatchReplayCache.hasSeen cache replayKey = true)
    .replayDetected)
  set (DispatchReplayCache.record cache replayKey)

/-- The checks of `verifyDispatchInstruction` before it consults the cache. -/
def checkDispatchInstruction (env : Externals SigningKey VerifyingKey)
    (instruction : SignedDispatchInstruction)
    (registry : DispatchKeyRegistry VerifyingKey) (nowUnixSeconds : UInt64)
    (expectedRunnerId : String) : Except DispatchVerificationError Unit := do
  (validateProtocolVersion instruction.dispatch.protocolVersion).mapError
    fun _ => .unsupportedProtocol
  validateRequiredDispatchFields instruction.dispatch.payload
  rejectIf (instruction.dispatch.payload.runnerId ≠ expectedRunnerId) .scopeMismatch
  rejectIf (instruction.signature.algorithm ≠ DISPATCH_SIGNATURE_ALGORITHM)
    .unsupportedAlgorithm
  rejectIf (instruction.signature.expiresAtUnixSeconds ≤ nowUnixSeconds) .expired
  let key ← okOr (registry.get instruction.signature.keyId) .unknownKey
  rejectIf (key.status.Rejects nowUnixSeconds
    instruction.signature.signedAtUnixSeconds) .keyRetired
  let signatureBytes ←
    okOr (env.base64Decode instruction.signature.signatureBase64) .malformedSignature
  let signature ← okOr (signatureFromBytes signatureBytes) .malformedSignature
  let canonicalPayload ←
    canonicalSigningPayload env instruction.dispatch instruction.signature
  rejectIf (env.verify key.verifyingKey canonicalPayload.toByteArray signature = false)
    .invalidSignature

/-- Verification is the cache-free checks followed by the cache lookup. -/
theorem verifyDispatchInstruction_eq [DispatchReplayCache Cache]
    (env : Externals SigningKey VerifyingKey)
    (instruction : SignedDispatchInstruction)
    (registry : DispatchKeyRegistry VerifyingKey) (nowUnixSeconds : UInt64)
    (expectedRunnerId : String) :
    (verifyDispatchInstruction env instruction registry nowUnixSeconds
        expectedRunnerId : ExceptT _ (StateM Cache) Unit) =
      (do
        attempt (checkDispatchInstruction env instruction registry
          nowUnixSeconds expectedRunnerId)
        let cache ← get
        attempt (rejectIf (DispatchReplayCache.hasSeen cache
          (replayKey instruction.dispatch.payload) = true) .replayDetected)
        set (DispatchReplayCache.record cache
          (replayKey instruction.dispatch.payload))) := by
  simp only [verifyDispatchInstruction, checkDispatchInstruction, attempt_bind,
    bind_assoc]

theorem verifyDispatchInstruction_run [DispatchReplayCache Cache]
    (env : Externals SigningKey VerifyingKey)
    (instruction : SignedDispatchInstruction)
    (registry : DispatchKeyRegistry VerifyingKey) (nowUnixSeconds : UInt64)
    (expectedRunnerId : String) (cache : Cache) :
    (verifyDispatchInstruction env instruction registry nowUnixSeconds
        expectedRunnerId).run.run cache =
      match checkDispatchInstruction env instruction registry nowUnixSeconds
          expectedRunnerId with
      | .error error => (.error error, cache)
      | .ok () =>
          if DispatchReplayCache.hasSeen cache (replayKey instruction.dispatch.payload)
          then (.error .replayDetected, cache)
          else (.ok (), DispatchReplayCache.record cache
            (replayKey instruction.dispatch.payload)) := by
  rw [verifyDispatchInstruction_eq]
  change runOn _ cache = _
  rcases checkDispatchInstruction env instruction registry nowUnixSeconds
      expectedRunnerId with error | value
  · rw [runOn_attempt_error_bind]
  · rw [runOn_attempt_ok_bind, runOn_get_bind]
    by_cases hseen : DispatchReplayCache.hasSeen cache
        (replayKey instruction.dispatch.payload) = true
    · rw [rejectIf_pos hseen, runOn_attempt_error_bind]
      simp only [hseen, ↓reduceIte]
    · rw [rejectIf_neg hseen, runOn_attempt_ok_bind, runOn_set]
      simp only [hseen, Bool.false_eq_true, ↓reduceIte]

end Verify

end DispatchAuth

end RemoteRunner
