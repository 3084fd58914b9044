/-
What an instruction must satisfy before verification consults the replay
cache, and what verification answers in terms of it.
-/
import RemoteRunner.DispatchAuth

namespace RemoteRunner

namespace DispatchAuth

open Protocol

variable {SigningKey VerifyingKey : Type}

/-- The arguments of one `verifyDispatchInstruction` call. -/
structure VerifyCall (VerifyingKey : Type) where
  instruction : SignedDispatchInstruction
  registry : DispatchKeyRegistry VerifyingKey
  nowUnixSeconds : UInt64
  expectedRunnerId : String

/-- The dispatch a call presents. -/
def VerifyCall.payload (call : VerifyCall VerifyingKey) : JobDispatch :=
  call.instruction.dispatch.payload

/-- The required fields are there and not blank. -/
def HasRequiredFields (dispatch : JobDispatch) : Prop :=
  ∀ field ∈ requiredDispatchFields dispatch, trim field.2 ≠ ""

instance (dispatch : JobDispatch) : Decidable (HasRequiredFields dispatch) :=
  inferInstanceAs (Decidable (∀ field ∈ requiredDispatchFields dispatch, _))

theorem validateRequiredDispatchFields_eq_ok_iff {dispatch : JobDispatch}
    {value : Unit} :
    validateRequiredDispatchFields dispatch = .ok value ↔
      HasRequiredFields dispatch := by
  rw [validateRequiredDispatchFields, HasRequiredFields]
  rcases hfind : (requiredDispatchFields dispatch).find?
      (fun field => trim field.2 = "") with _ | field
  · rw [hfind]
    exact iff_of_true rfl (by simpa using hfind)
  · rw [hfind]
    have hmem := List.mem_of_find?_eq_some hfind
    have hblank : trim field.2 = "" := by simpa using List.find?_some hfind
    constructor
    · intro h
      cases h
    · intro h
      exact absurd hblank (h field hmem)

/-- The error names the first blank field. -/
theorem validateRequiredDispatchFields_error {dispatch : JobDispatch}
    {error : DispatchVerificationError}
    (h : validateRequiredDispatchFields dispatch = .error error) :
    ∃ field ∈ requiredDispatchFields dispatch,
      trim field.2 = "" ∧ error = .missingRequiredField field.1 := by
  rw [validateRequiredDispatchFields] at h
  rcases hfind : (requiredDispatchFields dispatch).find?
      (fun field => trim field.2 = "") with _ | field
  · rw [hfind] at h
    cases h
  · rw [hfind] at h
    exact ⟨field, List.mem_of_find?_eq_some hfind,
      by simpa using List.find?_some hfind, (Except.error.inj h).symm⟩

theorem validateProtocolVersion_eq_ok_iff {version : String} {value : Unit} :
    validateProtocolVersion version = .ok value ↔
      version ∈ SUPPORTED_PROTOCOL_VERSIONS := by
  rw [validateProtocolVersion]
  split
  · rename_i h
    exact iff_of_true rfl h
  · rename_i h
    exact iff_of_false (by simp) h

/-- The signature of a call has come as far as being verified: a registered
key still in use, a well-formed signature, a canonical payload. -/
structure SignatureReady (env : Externals SigningKey VerifyingKey)
    (call : VerifyCall VerifyingKey) (key : DispatchVerificationKey VerifyingKey)
    (signature : Signature) (canonicalPayload : String) : Prop where
  registered : call.registry.get call.instruction.signature.keyId = some key
  inUse : ¬key.status.Rejects call.nowUnixSeconds
    call.instruction.signature.signedAtUnixSeconds
  decoded : env.base64Decode call.instruction.signature.signatureBase64 =
    some signature.bytes
  printed : canonicalSigningPayload env call.instruction.dispatch
    call.instruction.signature = .ok canonicalPayload

/-- The signature verifies over the canonical payload. -/
structure SignatureVerifies (env : Externals SigningKey VerifyingKey)
    (call : VerifyCall VerifyingKey) (key : DispatchVerificationKey VerifyingKey)
    (signature : Signature) (canonicalPayload : String) : Prop
    extends SignatureReady env call key signature canonicalPayload where
  verified : env.verify key.verifyingKey canonicalPayload.toByteArray signature = true

/-- The checks a call passes before its key is looked up. -/
structure InScope (call : VerifyCall VerifyingKey) : Prop where
  protocol : call.instruction.dispatch.protocolVersion ∈ SUPPORTED_PROTOCOL_VERSIONS
  required : HasRequiredFields call.payload
  scope : call.payload.runnerId = call.expectedRunnerId
  algorithm : call.instruction.signature.algorithm = DISPATCH_SIGNATURE_ALGORITHM
  unexpired : call.nowUnixSeconds < call.instruction.signature.expiresAtUnixSeconds

/-- A call that gets as far as the replay cache. -/
structure Admissible (env : Externals SigningKey VerifyingKey)
    (call : VerifyCall VerifyingKey) : Prop extends InScope call where
  signed : ∃ key signature canonicalPayload,
    SignatureVerifies env call key signature canonicalPayload

/-- The cache-free checks of a call. -/
def checkCall (env : Externals SigningKey VerifyingKey)
    (call : VerifyCall VerifyingKey) : Except DispatchVerificationError Unit :=
  checkDispatchInstruction env call.instruction call.registry
    call.nowUnixSeconds call.expectedRunnerId

theorem signatureFromBytes_eq_some_iff {bytes : List UInt8} {signature : Signature} :
    signatureFromBytes bytes = some signature ↔ bytes = signature.bytes := by
  rw [signatureFromBytes]
  split
  · obtain ⟨bytes', _⟩ := signature
    simp
  · rename_i hlength
    apply iff_of_false (by simp)
    rintro rfl
    exact hlength signature.length_eq

theorem checkCall_eq_ok_iff {env : Externals SigningKey VerifyingKey}
    {call : VerifyCall VerifyingKey} {value : Unit} :
    checkCall env call = .ok value ↔ Admissible env call := by
  simp only [checkCall, checkDispatchInstruction, bind_eq_ok_iff,
    mapError_eq_ok_iff, validateProtocolVersion_eq_ok_iff,
    validateRequiredDispatchFields_eq_ok_iff, rejectIf_eq_ok_iff,
    okOr_eq_ok_iff, signatureFromBytes_eq_some_iff, exists_const,
    Decidable.not_not]
  constructor
  · intro hpasses
    obtain ⟨hprotocol, hrequired, hscope, halgorithm, hexpiry, key, hkey, hstatus,
      bytes, hbytes, signature, rfl, payload, hpayload, hverify⟩ := hpasses
    exact ⟨⟨hprotocol, hrequired, hscope, halgorithm, by simpa using hexpiry⟩,
      key, signature, payload, ⟨hkey, hstatus, hbytes, hpayload⟩,
      by simpa using hverify⟩
  · intro hadmissible
    obtain ⟨⟨hprotocol, hrequired, hscope, halgorithm, hexpiry⟩, key, signature,
      payload, ⟨hkey, hstatus, hbytes, hpayload⟩, hverify⟩ := hadmissible
    exact ⟨hprotocol, hrequired, hscope, halgorithm, by simpa using hexpiry,
      key, hkey, hstatus, signature.bytes, hbytes, signature, rfl, payload, hpayload,
      by simpa using hverify⟩

section Step

variable {Cache : Type} [DispatchReplayCache Cache]

/-- One call against a cache: its answer and the cache it leaves. -/
def verifyStep (env : Externals SigningKey VerifyingKey) (cache : Cache)
    (call : VerifyCall VerifyingKey) :
    Except DispatchVerificationError Unit × Cache :=
  (verifyDispatchInstruction env call.instruction call.registry
    call.nowUnixSeconds call.expectedRunnerId).run.run cache

variable {env : Externals SigningKey VerifyingKey} {cache : Cache}
  {call : VerifyCall VerifyingKey}

theorem verifyStep_of_check_error {error : DispatchVerificationError}
    (h : checkCall env call = .error error) :
    verifyStep env cache call = (.error error, cache) := by
  rw [verifyStep, verifyDispatchInstruction_run]
  rw [checkCall] at h
  rw [h]

theorem verifyStep_of_admissible (h : Admissible env call) :
    verifyStep env cache call =
      if DispatchReplayCache.hasSeen cache (replayKey call.payload)
      then (.error .replayDetected, cache)
      else (.ok (), DispatchReplayCache.record cache (replayKey call.payload)) := by
  have hcheck : checkCall env call = .ok () := checkCall_eq_ok_iff.mpr h
  rw [verifyStep, verifyDispatchInstruction_run]
  rw [checkCall] at hcheck
  rw [hcheck]
  rfl

/-- A call is accepted exactly when it is admissible and its replay key is
new to the cache. -/
theorem verifyStep_ok_iff :
    (verifyStep env cache call).1 = .ok () ↔
      Admissible env call ∧
        DispatchReplayCache.hasSeen cache (replayKey call.payload) = false := by
  rcases hcheck : checkCall env call with error | value
  · have hnot : ¬Admissible env call := by
      intro h
      have hok : checkCall env call = .ok () := checkCall_eq_ok_iff.mpr h
      rw [hok] at hcheck
      cases hcheck
    rw [verifyStep_of_check_error hcheck]
    exact iff_of_false (by simp) fun h => hnot h.1
  · have hadmissible := checkCall_eq_ok_iff.mp hcheck
    rw [verifyStep_of_admissible hadmissible]
    by_cases hseen : DispatchReplayCache.hasSeen cache (replayKey call.payload) = true
    · simp [hseen]
    · simp [hseen, hadmissible]

/-- A refused call leaves the cache as it was. -/
theorem verifyStep_error_cache {error : DispatchVerificationError}
    (h : (verifyStep env cache call).1 = .error error) :
    (verifyStep env cache call).2 = cache := by
  rcases hcheck : checkCall env call with error' | value
  · rw [verifyStep_of_check_error hcheck]
  · rw [verifyStep_of_admissible (checkCall_eq_ok_iff.mp hcheck)] at h ⊢
    split at h
    · rename_i hseen
      rw [if_pos hseen]
    · cases h

end Step

theorem canonicalSigningPayload_error {env : Externals SigningKey VerifyingKey}
    {dispatch : ProtocolEnvelope JobDispatch} {signature : DispatchSignature}
    {error : DispatchVerificationError}
    (h : canonicalSigningPayload env dispatch signature = .error error) :
    error = .malformedSignature := by
  rw [canonicalSigningPayload, sortedText] at h
  split at h
  · cases h
  · exact (Except.error.inj h).symm

/-- A refused dispatch or payload is not refused for its signature or as a
replay. -/
theorem checked_fields_ne_error (env : Externals SigningKey VerifyingKey)
    (dispatch : ProtocolEnvelope JobDispatch) (signature : DispatchSignature)
    (error : DispatchVerificationError) (hmalformed : error ≠ .malformedSignature)
    (hfield : ∀ field, error ≠ .missingRequiredField field) :
    validateRequiredDispatchFields dispatch.payload ≠ .error error ∧
      canonicalSigningPayload env dispatch signature ≠ .error error := by
  constructor
  · intro h
    obtain ⟨field, _, _, rfl⟩ := validateRequiredDispatchFields_error h
    exact hfield field.1 rfl
  · intro h
    exact hmalformed (canonicalSigningPayload_error h)

/-- The cache-free checks never report a replay. -/
theorem checkCall_ne_replayDetected (env : Externals SigningKey VerifyingKey)
    (call : VerifyCall VerifyingKey) :
    checkCall env call ≠ .error .replayDetected := by
  obtain ⟨hrequired, hprinted⟩ := checked_fields_ne_error env
    call.instruction.dispatch call.instruction.signature .replayDetected
    (by simp) (by simp)
  intro h
  simp only [checkCall, checkDispatchInstruction, bind_eq_error_iff,
    mapError_eq_error_iff, rejectIf_eq_error_iff, okOr_eq_error_iff,
    hrequired, hprinted, reduceCtorEq, and_false, exists_false, or_false] at h

/-- A signature is reported invalid exactly when it does not verify over the
canonical payload, every check before that having passed. -/
theorem checkCall_invalidSignature_iff {env : Externals SigningKey VerifyingKey}
    {call : VerifyCall VerifyingKey} :
    checkCall env call = .error .invalidSignature ↔
      InScope call ∧ ∃ key signature text,
        SignatureReady env call key signature text ∧
          env.verify key.verifyingKey text.toByteArray signature = false := by
  obtain ⟨hrequired, hprinted⟩ := checked_fields_ne_error env
    call.instruction.dispatch call.instruction.signature .invalidSignature
    (by simp) (by simp)
  simp only [checkCall, checkDispatchInstruction, bind_eq_error_iff,
    mapError_eq_error_iff, mapError_eq_ok_iff, validateProtocolVersion_eq_ok_iff,
    validateRequiredDispatchFields_eq_ok_iff, rejectIf_eq_error_iff,
    rejectIf_eq_ok_iff, okOr_eq_error_iff, okOr_eq_ok_iff,
    signatureFromBytes_eq_some_iff, hrequired, hprinted, reduceCtorEq, and_false,
    exists_false, false_or, and_true, exists_const, Decidable.not_not]
  constructor
  · intro hpasses
    obtain ⟨hprotocol, hfields, hscope, halgorithm, hexpiry, key, hkey, hstatus, _,
      hbytes, signature, rfl, text, htext, hverify⟩ := hpasses
    exact ⟨⟨hprotocol, hfields, hscope, halgorithm, by simpa using hexpiry⟩,
      key, signature, text, ⟨hkey, hstatus, hbytes, htext⟩, hverify⟩
  · intro hrefused
    obtain ⟨⟨hprotocol, hfields, hscope, halgorithm, hexpiry⟩, key, signature, text,
      ⟨hkey, hstatus, hbytes, htext⟩, hverify⟩ := hrefused
    exact ⟨hprotocol, hfields, hscope, halgorithm, by simpa using hexpiry, key, hkey,
      hstatus, _, hbytes, signature, rfl, text, htext, hverify⟩

end DispatchAuth

end RemoteRunner
