/-
Redacted documents of messages.  A message whose JSON was redacted still reads,
and what it reads as is written without secrets.
-/
import RemoteRunner.RedactedSurfaces
import RemoteRunner.RunnerWire
import RemoteRunner.SafeDocuments
import RemoteRunner.WireTexts

namespace RemoteRunner

open Protocol Runner JobIsolation Diagnostics WireField WireRecord

namespace JobIsolation

theorem redactedText_eq_self {text : String} (h : ¬ContainsSecret text) :
    redactedText text = text := by
  rw [containsSecret_iff] at h
  rw [redactedText, RunShape.redact_of_not_occurs h, String.ofList_toList]

theorem redactedText_again (text : String) :
    redactedText (redactedText text) = redactedText text :=
  redactedText_eq_self (not_containsSecret_redactedText text)

end JobIsolation

/-! ### What redaction does to each record -/

namespace Protocol

instance : AdapterKind.codec.MapsStrings redactedText :=
  Codec.enumeration_mapsStrings fun kind =>
    redactedText_eq_self (by cases kind <;> decide)

instance : RunnerHealth.codec.MapsStrings redactedText :=
  Codec.enumeration_mapsStrings fun health =>
    redactedText_eq_self (by cases health <;> decide)

instance : ErrorCategory.codec.MapsStrings redactedText :=
  Codec.enumeration_mapsStrings fun category =>
    redactedText_eq_self (by cases category <;> decide)

instance : JobLifecyclePhase.codec.MapsStrings redactedText :=
  Codec.enumeration_mapsStrings fun phase =>
    redactedText_eq_self (by cases phase <;> decide)

instance : UsageAttemptStatus.codec.MapsStrings redactedText :=
  Codec.enumeration_mapsStrings fun status =>
    redactedText_eq_self (by cases status <;> decide)

instance : RegistrationRequest.codec.MapsStrings redactedText := by
  have hid :
      (optional "runner_id" .string Codec.string_decode_null).MapsStrings redactedText :=
    optional_mapsStrings _ _ _
  unfold RegistrationRequest.codec
  infer_instance

instance : Heartbeat.codec.MapsStrings redactedText := by
  have hcategory : (optional "last_error_category" ErrorCategory.codec
      ErrorCategory.codec_decode_null).MapsStrings redactedText :=
    optional_mapsStrings _ _ _
  unfold Heartbeat.codec
  infer_instance

instance : AdapterExecutionMetadata.codec.MapsStrings redactedText := by
  unfold AdapterExecutionMetadata.codec
  infer_instance

instance : JobLeaseAcceptance.codec.MapsStrings redactedText := by
  have hreason :
      (optional "reason" .string Codec.string_decode_null).MapsStrings redactedText :=
    optional_mapsStrings _ _ _
  unfold JobLeaseAcceptance.codec
  infer_instance

instance : CancellationRequest.codec.MapsStrings redactedText := by
  unfold CancellationRequest.codec
  infer_instance

instance : ProgressUpdate.codec.MapsStrings redactedText := by
  unfold ProgressUpdate.codec
  infer_instance

instance : LogChunk.codec.MapsStrings redactedText := by
  unfold LogChunk.codec
  infer_instance

instance : ArtifactDescriptor.codec.MapsStrings redactedText := by
  unfold ArtifactDescriptor.codec
  infer_instance

instance : ArtifactManifest.codec.MapsStrings redactedText := by
  unfold ArtifactManifest.codec
  infer_instance

instance : RunnerError.codec.MapsStrings redactedText := by
  have hjob :
      (optional "job_id" .string Codec.string_decode_null).MapsStrings redactedText :=
    optional_mapsStrings _ _ _
  unfold RunnerError.codec
  infer_instance

instance : NetworkPolicy.codec.MapsStrings redactedText := by
  unfold NetworkPolicy.codec
  infer_instance

instance : WorkspacePolicy.codec.MapsStrings redactedText := by
  have hcredential : (optional "scoped_credential_ref" .string
      Codec.string_decode_null).MapsStrings redactedText :=
    optional_mapsStrings _ _ _
  unfold WorkspacePolicy.codec
  infer_instance

instance : PolicySnapshot.codec.MapsStrings redactedText := by
  unfold PolicySnapshot.codec
  infer_instance

instance : SignedDispatchInstruction.codec.MapsStrings redactedText := by
  unfold SignedDispatchInstruction.codec
  infer_instance

instance : JobDispatch.codec.MapsStrings redactedText := by
  have hinstruction : (skippedIfNone "signed_instruction"
      SignedDispatchInstruction.codec rfl).MapsStrings redactedText :=
    skippedIfNone_mapsStrings _ _ _
  unfold JobDispatch.codec
  infer_instance

instance {T : Type} {payload : Codec T} [payload.MapsStrings redactedText] :
    (ProtocolEnvelope.codec payload).MapsStrings redactedText := by
  unfold ProtocolEnvelope.codec
  infer_instance

theorem UuidText.codec_decode_null (uuid : UuidText) : uuid.codec.decode .null = none :=
  rfl

theorem exitCode_decode_null : Codec.i32.decode .null = none := rfl

/-- No text of a UUID contains a secret-shaped substring. -/
def UuidText.Clean (uuid : UuidText) : Prop :=
  ∀ text normal, uuid.normalise text = some normal → ¬ContainsSecret text

theorem UuidText.codec_mapsStrings {uuid : UuidText} (h : uuid.Clean) :
    uuid.codec.MapsStrings redactedText :=
  Codec.normalised_mapsStrings fun text normal hnormal =>
    redactedText_eq_self (h text normal hnormal)

theorem UsageReport.codec_mapsStrings {uuid : UuidText} (h : uuid.Clean) :
    (UsageReport.codec uuid).MapsStrings redactedText := by
  have huuid := UuidText.codec_mapsStrings h
  have hrequest : (optional "request_id" uuid.codec rfl).MapsStrings redactedText :=
    optional_mapsStrings _ _ _
  have hcorrelation :
      (optional "correlation_id" .string Codec.string_decode_null).MapsStrings redactedText :=
    optional_mapsStrings _ _ _
  have hcpu :
      (optional "cpu_time_ms" .u64 Codec.u64_decode_null).MapsStrings redactedText :=
    optional_mapsStrings _ _ _
  have hmemory :
      (optional "peak_memory_bytes" .u64 Codec.u64_decode_null).MapsStrings redactedText :=
    optional_mapsStrings _ _ _
  unfold UsageReport.codec
  infer_instance

theorem AdapterResult.codec_mapsStrings {uuid : UuidText} (h : uuid.Clean) :
    (AdapterResult.codec uuid).MapsStrings redactedText := by
  have husage := UsageReport.codec_mapsStrings h
  have hexit : (optional "exit_code" .i32 rfl).MapsStrings redactedText :=
    optional_mapsStrings _ _ _
  unfold AdapterResult.codec
  infer_instance

end Protocol

namespace Runner

instance : EndpointHealthStatus.codec.MapsStrings redactedText :=
  Codec.enumeration_mapsStrings fun status =>
    redactedText_eq_self (by cases status <;> decide)

instance : HighRiskCapability.codec.MapsStrings redactedText :=
  Codec.enumeration_mapsStrings fun capability =>
    redactedText_eq_self (by cases capability <;> decide)

instance : RuntimeCapabilityGate.codec.MapsStrings redactedText := by
  unfold RuntimeCapabilityGate.codec
  infer_instance

instance : LocalLlmEndpointCapability.codec.MapsStrings redactedText := by
  unfold LocalLlmEndpointCapability.codec
  infer_instance

instance : ExternalAgentAdapterCapability.codec.MapsStrings redactedText := by
  unfold ExternalAgentAdapterCapability.codec
  infer_instance

instance : AllowlistedCommandAdapterCapability.codec.MapsStrings redactedText := by
  unfold AllowlistedCommandAdapterCapability.codec
  infer_instance

instance : RunnerCapabilities.codec.MapsStrings redactedText := by
  unfold RunnerCapabilities.codec
  infer_instance

end Runner

/-! ### The member names of each record -/

namespace Protocol

instance : AdapterKind.codec.HasMemberNames :=
  inferInstanceAs (Codec.enumeration _ _ _ _).HasMemberNames

instance : RunnerHealth.codec.HasMemberNames :=
  inferInstanceAs (Codec.enumeration _ _ _ _).HasMemberNames

instance : ErrorCategory.codec.HasMemberNames :=
  inferInstanceAs (Codec.enumeration _ _ _ _).HasMemberNames

instance : JobLifecyclePhase.codec.HasMemberNames :=
  inferInstanceAs (Codec.enumeration _ _ _ _).HasMemberNames

instance : UsageAttemptStatus.codec.HasMemberNames :=
  inferInstanceAs (Codec.enumeration _ _ _ _).HasMemberNames

instance : RegistrationRequest.codec.HasMemberNames :=
  letI := optionalMemberNames "runner_id" .string Codec.string_decode_null
  inferInstanceAs (Codec.iso _ _ _ _ _).HasMemberNames

instance : Heartbeat.codec.HasMemberNames :=
  letI := optionalMemberNames "last_error_category" ErrorCategory.codec
    ErrorCategory.codec_decode_null
  inferInstanceAs (Codec.iso _ _ _ _ _).HasMemberNames

instance : AdapterExecutionMetadata.codec.HasMemberNames :=
  inferInstanceAs (Codec.iso _ _ _ _ _).HasMemberNames

instance : JobLeaseAcceptance.codec.HasMemberNames :=
  letI := optionalMemberNames "reason" .string Codec.string_decode_null
  inferInstanceAs (Codec.iso _ _ _ _ _).HasMemberNames

instance : CancellationRequest.codec.HasMemberNames :=
  inferInstanceAs (Codec.iso _ _ _ _ _).HasMemberNames

instance : ProgressUpdate.codec.HasMemberNames :=
  inferInstanceAs (Codec.iso _ _ _ _ _).HasMemberNames

instance : LogChunk.codec.HasMemberNames :=
  inferInstanceAs (Codec.iso _ _ _ _ _).HasMemberNames

instance : ArtifactDescriptor.codec.HasMemberNames :=
  inferInstanceAs (Codec.iso _ _ _ _ _).HasMemberNames

instance : ArtifactManifest.codec.HasMemberNames :=
  inferInstanceAs (Codec.iso _ _ _ _ _).HasMemberNames

instance : RunnerError.codec.HasMemberNames :=
  letI := optionalMemberNames "job_id" .string Codec.string_decode_null
  inferInstanceAs (Codec.iso _ _ _ _ _).HasMemberNames

instance : NetworkPolicy.codec.HasMemberNames :=
  inferInstanceAs (Codec.iso _ _ _ _ _).HasMemberNames

instance : WorkspacePolicy.codec.HasMemberNames :=
  letI := optionalMemberNames "scoped_credential_ref" .string Codec.string_decode_null
  inferInstanceAs (Codec.iso _ _ _ _ _).HasMemberNames

instance : PolicySnapshot.codec.HasMemberNames :=
  inferInstanceAs (Codec.iso _ _ _ _ _).HasMemberNames

instance : SignedDispatchInstruction.codec.HasMemberNames :=
  inferInstanceAs (Codec.iso _ _ _ _ _).HasMemberNames

instance {uuid : UuidText} : uuid.codec.HasMemberNames :=
  inferInstanceAs (Codec.normalised _ _).HasMemberNames

instance {uuid : UuidText} : (UsageReport.codec uuid).HasMemberNames :=
  letI := optionalMemberNames "request_id" uuid.codec uuid.codec_decode_null
  letI := optionalMemberNames "correlation_id" .string Codec.string_decode_null
  letI := optionalMemberNames "cpu_time_ms" .u64 Codec.u64_decode_null
  letI := optionalMemberNames "peak_memory_bytes" .u64 Codec.u64_decode_null
  inferInstanceAs (Codec.iso _ _ _ _ _).HasMemberNames

instance {uuid : UuidText} : (AdapterResult.codec uuid).HasMemberNames :=
  letI := optionalMemberNames "exit_code" .i32 exitCode_decode_null
  inferInstanceAs (Codec.iso _ _ _ _ _).HasMemberNames

end Protocol

namespace Runner

instance : EndpointHealthStatus.codec.HasMemberNames :=
  inferInstanceAs (Codec.enumeration _ _ _ _).HasMemberNames

instance : HighRiskCapability.codec.HasMemberNames :=
  inferInstanceAs (Codec.enumeration _ _ _ _).HasMemberNames

instance : RuntimeCapabilityGate.codec.HasMemberNames :=
  inferInstanceAs (Codec.iso _ _ _ _ _).HasMemberNames

instance : LocalLlmEndpointCapability.codec.HasMemberNames :=
  inferInstanceAs (Codec.iso _ _ _ _ _).HasMemberNames

instance : ExternalAgentAdapterCapability.codec.HasMemberNames :=
  inferInstanceAs (Codec.iso _ _ _ _ _).HasMemberNames

instance : AllowlistedCommandAdapterCapability.codec.HasMemberNames :=
  inferInstanceAs (Codec.iso _ _ _ _ _).HasMemberNames

instance : RunnerCapabilities.codec.HasMemberNames :=
  inferInstanceAs (Codec.iso _ _ _ _ _).HasMemberNames

end Runner

/-- The names of the fields are short or can be looked through. -/
theorem Diagnostics.clean_of_short_or_clean {names : List String}
    (h : (names.all fun name =>
      decide (name.utf8ByteSize < MIN_SECRET_ALNUM_CHARS) ||
        decide (¬ContainsSecret name)) = true) : Clean names := by
  intro name hname
  have hor := List.all_eq_true.mp h name hname
  rw [Bool.or_eq_true, decide_eq_true_iff, decide_eq_true_iff] at hor
  rcases hor with hshort | hclean
  · exact not_containsSecret_of_short hshort
  · exact hclean

/-- All member names a codec writes are clean when those of its fields are. -/
theorem Codec.memberNames_clean {T : Type} {codec : Codec T} [codec.HasMemberNames]
    (h : Clean codec.memberNames) (record : T) :
    Clean (codec.encode record).memberNames := by
  intro name hname
  exact h name (codec.mem_memberNames record name hname)

namespace Protocol

theorem JobDispatch.encode_eq (dispatch : JobDispatch) :
    JobDispatch.codec.encode dispatch = .object ([
      ("lease_id", .string dispatch.leaseId),
      ("job_id", .string dispatch.jobId),
      ("runner_id", .string dispatch.runnerId),
      ("correlation_id", .string dispatch.correlationId),
      ("idempotency_key", .string dispatch.idempotencyKey),
      ("adapter", AdapterKind.codec.encode dispatch.adapter),
      ("input", dispatch.input.toJson),
      ("timeout_seconds", Codec.u64.encode dispatch.timeoutSeconds),
      ("policy", PolicySnapshot.codec.encode dispatch.policy)] ++
      dispatch.signedInstruction.toList.map fun instruction =>
        ("signed_instruction", SignedDispatchInstruction.codec.encode instruction)) := by
  obtain ⟨leaseId, jobId, runnerId, correlationId, idempotencyKey, adapter, input,
    timeoutSeconds, policy, _ | instruction⟩ := dispatch <;> rfl

/-- Only the input of a dispatch brings member names of its own. -/
theorem JobDispatch.memberNames_clean_iff (dispatch : JobDispatch) :
    Clean (JobDispatch.codec.encode dispatch).memberNames ↔
      Clean dispatch.input.toJson.memberNames := by
  have hnames : Clean ["lease_id", "job_id", "runner_id", "correlation_id",
      "idempotency_key", "adapter", "input", "timeout_seconds", "policy",
      "signed_instruction"] := clean_of_short_or_clean (by decide +kernel)
  have hadapter : (AdapterKind.codec.encode dispatch.adapter).memberNames = [] :=
    Json.memberNames_string _
  have htimeout : (Codec.u64.encode dispatch.timeoutSeconds).memberNames = [] :=
    Json.memberNames_number _
  have hpolicy : Clean (PolicySnapshot.codec.encode dispatch.policy).memberNames :=
    Codec.memberNames_clean (clean_of_short_or_clean (by decide +kernel)) dispatch.policy
  have hinstruction : ∀ instruction,
      Clean (SignedDispatchInstruction.codec.encode instruction).memberNames :=
    Codec.memberNames_clean (clean_of_short_or_clean (by decide +kernel))
  simp only [clean_cons_iff] at hnames
  simp [encode_eq, clean_append_iff, clean_cons_iff, clean_flatMap_iff, hnames, hadapter,
    htimeout, hpolicy, hinstruction]

theorem ProtocolEnvelope.memberNames_clean_iff {T : Type} {payload : Codec T}
    (envelope : ProtocolEnvelope T) :
    Clean ((ProtocolEnvelope.codec payload).encode envelope).memberNames ↔
      Clean (payload.encode envelope.payload).memberNames := by
  have hnames : Clean ["protocol_version", "message_type", "payload"] :=
    clean_of_short_or_clean (by decide +kernel)
  simp only [clean_cons_iff] at hnames
  change Clean (Json.object [("protocol_version", .string envelope.protocolVersion),
    ("message_type", .string envelope.messageType),
    ("payload", payload.encode envelope.payload)]).memberNames ↔ _
  simp [clean_cons_iff, hnames]

end Protocol

/-! ### Reading redacted messages -/

namespace JobIsolation

open Json

/-- A document that reads as a record still does once redacted.  What it then
reads as depends on the record only: it is written as the redacted document of the
record, and without a secret when the record is safely named. -/
def ReadsRedacted {T : Type} (codec : Codec T) (toJson : T → Json)
    (SafelyNamed : T → Prop) : Prop :=
  ∀ document record, codec.decode document = some record →
    ∃ redactedDocument redacted,
      redactJsonValue document = some redactedDocument ∧
        redactJsonValue redactedDocument = some redactedDocument ∧
        codec.decode redactedDocument = some redacted ∧
        redactJsonValue (toJson record) = some (toJson redacted) ∧
        (Clean (toJson redacted).texts ↔ SafelyNamed record)

theorem readsRedacted {T : Type} {codec : Codec T} [codec.MapsStrings redactedText] :
    ReadsRedacted codec codec.encode fun record => Clean (codec.encode record).memberNames := by
  obtain ⟨map, hmap⟩ := codec.exists_mapStrings redactedText
  intro document record h
  have hencode : redactJsonValue (codec.encode record) = some (codec.encode (map record)) := by
    rw [redactJsonValue_eq, hmap.encode_map]
    rfl
  have hagain : redactJsonValue (document.mapStrings redactedText) =
      some (document.mapStrings redactedText) := by
    rw [redactJsonValue_eq]
    exact congrArg some (mapStrings_again redactedText redactedText_again document)
  refine ⟨document.mapStrings redactedText, map record, redactJsonValue_eq document,
    hagain, hmap.decode_map document record h, hencode, ?_⟩
  rw [hmap.encode_map]
  exact forall_mem_texts_mapTexts_iff not_containsSecret_redactedText _

theorem ReadsRedacted.congr {T : Type} {codec : Codec T} {toJson : T → Json}
    {SafelyNamed Safe : T → Prop} (h : ReadsRedacted codec toJson SafelyNamed)
    (hsafe : ∀ record, SafelyNamed record ↔ Safe record) :
    ReadsRedacted codec toJson Safe := by
  intro document record hread
  obtain ⟨redactedDocument, redacted, hredact, hagain, hdecode, hencode, hiff⟩ :=
    h document record hread
  exact ⟨redactedDocument, redacted, hredact, hagain, hdecode, hencode,
    hiff.trans (hsafe record)⟩

theorem readsRedacted_of_clean {T : Type} {codec : Codec T} {toJson : T → Json}
    [codec.MapsStrings redactedText] [codec.HasMemberNames]
    (hwrites : Writes codec toJson) (hclean : Clean codec.memberNames) :
    ReadsRedacted codec toJson fun _ => True := by
  obtain rfl : codec.encode = toJson := funext hwrites
  exact readsRedacted.congr fun record =>
    iff_of_true (Codec.memberNames_clean hclean record) trivial

/-! ### The surfaces of the messages -/

theorem redactSecretShapedValues_eq_redactedText (raw : String) :
    ∃ redacted, redactSecretShapedValues raw = some (redactedText raw, redacted) :=
  ⟨_, redactSecretShapedValues_eq raw⟩

/-- Redacting the line first changes nothing but the flag. -/
theorem redactLogChunk_then_json {chunk redacted : LogChunk}
    (h : redactLogChunk chunk = some redacted) :
    redactJsonValue redacted.toJson =
      redactJsonValue { chunk with redacted := redacted.redacted }.toJson := by
  obtain ⟨flag, hline⟩ := redactSecretShapedValues_eq_redactedText chunk.line
  rw [redactLogChunk, hline] at h
  obtain rfl := Option.some.inj h
  simp [redactJsonValue_eq, LogChunk.toJson, redactedText_again, ofUInt64]

theorem redactArtifactDescriptor_then_json {descriptor redacted : ArtifactDescriptor}
    (h : redactArtifactDescriptor descriptor = some redacted) :
    redactJsonValue redacted.toJson = redactJsonValue descriptor.toJson := by
  obtain ⟨flag, hlabel⟩ := redactSecretShapedValues_eq_redactedText descriptor.pathLabel
  rw [redactArtifactDescriptor, hlabel] at h
  obtain rfl := Option.some.inj h
  simp [redactJsonValue_eq, ArtifactDescriptor.toJson, redactedText_again]

theorem redactRunnerError_then_json {error redacted : RunnerError}
    (h : redactRunnerError error = some redacted) :
    redactJsonValue (RunnerError.codec.encode redacted) =
      redactJsonValue (RunnerError.codec.encode error) := by
  obtain ⟨flag, hmessage⟩ := redactSecretShapedValues_eq_redactedText error.message
  rw [redactRunnerError, hmessage] at h
  obtain rfl := Option.some.inj h
  change redactJsonValue (.object [_, _, _, _, ("message", .string _)]) =
    redactJsonValue (.object [_, _, _, _, ("message", .string _)])
  simp [redactJsonValue_eq, redactedText_again]

/-- Every message reads after its JSON was redacted, as the record that is written
as its own redacted document, and it holds no secret then; a dispatch holds one
only in the member names of its input.  Redacting a log chunk, an artifact or an
error before its JSON adds nothing but the flag of the chunk. -/
structure MessagesRedacted (uuid : UuidText) : Prop where
  registration : ReadsRedacted RegistrationRequest.codec RegistrationRequest.toJson
    fun _ => True
  capabilities : ReadsRedacted RunnerCapabilities.codec RunnerCapabilities.toJson
    fun _ => True
  heartbeat : ReadsRedacted Heartbeat.codec Heartbeat.toJson fun _ => True
  lease : ReadsRedacted JobLeaseAcceptance.codec JobLeaseAcceptance.toJson fun _ => True
  progress : ReadsRedacted ProgressUpdate.codec ProgressUpdate.toJson fun _ => True
  log : ReadsRedacted LogChunk.codec LogChunk.toJson fun _ => True
  artifacts : ReadsRedacted ArtifactManifest.codec ArtifactManifest.toJson fun _ => True
  usage : ReadsRedacted (UsageReport.codec uuid) (fun usage => usage.1.toJson)
    fun _ => True
  result : ReadsRedacted (AdapterResult.codec uuid) (fun result => result.1.toJson)
    fun _ => True
  cancellation : ReadsRedacted CancellationRequest.codec CancellationRequest.codec.encode
    fun _ => True
  error : ReadsRedacted RunnerError.codec RunnerError.codec.encode fun _ => True
  dispatch : ReadsRedacted (ProtocolEnvelope.codec JobDispatch.codec)
    (ProtocolEnvelope.codec JobDispatch.codec).encode
    fun envelope => Clean envelope.payload.input.toJson.memberNames
  line_first : ∀ chunk redacted, redactLogChunk chunk = some redacted →
    redactJsonValue redacted.toJson =
      redactJsonValue { chunk with redacted := redacted.redacted }.toJson
  label_first : ∀ descriptor redacted, redactArtifactDescriptor descriptor = some redacted →
    redactJsonValue redacted.toJson = redactJsonValue descriptor.toJson
  message_first : ∀ error redacted, redactRunnerError error = some redacted →
    redactJsonValue (RunnerError.codec.encode redacted) =
      redactJsonValue (RunnerError.codec.encode error)

/-- UUIDs in the one form of their fixture. -/
def fixtureUuid : UuidText where
  normalise text :=
    if text = "00000000-0000-0000-0000-000000000001" then some text else none
  idempotent text normal h := by
    split at h
    · rename_i htext
      obtain rfl := Option.some.inj h
      exact if_pos htext
    · cases h

end JobIsolation

end RemoteRunner
