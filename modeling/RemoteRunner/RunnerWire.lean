/-
Reading the messages a runner sends: a codec for every record, which writes the
documents the runner writes and reads them back whatever the order of their
members and whatever members were added.
-/
import RemoteRunner.RunnerCapabilities
import RemoteRunner.WireScalars

namespace RemoteRunner

open WireField WireRecord

namespace Protocol

/-- `Uuid` as its texts: what reading a text in any accepted form and writing
the result gives. -/
structure UuidText where
  normalise : String → Option String
  idempotent : ∀ text normal, normalise text = some normal →
    normalise normal = some normal

/-- A UUID, held as the text it is written as. -/
abbrev UuidText.Id (uuid : UuidText) : Type :=
  { text : String // uuid.normalise text = some text }

def UuidText.codec (uuid : UuidText) : Codec uuid.Id :=
  .normalised uuid.normalise uuid.idempotent

def RunnerHealth.all : List RunnerHealth :=
  [.online, .degraded, .draining, .offline, .disabled, .quarantined]

def RunnerHealth.codec : Codec RunnerHealth :=
  .enumeration all name (fun health => by cases health <;> decide)
    (fun first second h => by
      cases first <;> cases second <;> first | rfl | exact absurd h (by decide))

def ErrorCategory.all : List ErrorCategory :=
  [.policyDenied, .capabilityMismatch, .workspaceSetup, .adapterFailed, .timeout,
    .cancelled, .artifactUpload, .usageReport, .internal]

def ErrorCategory.codec : Codec ErrorCategory :=
  .enumeration all name (fun category => by cases category <;> decide)
    (fun first second h => by
      cases first <;> cases second <;> first | rfl | exact absurd h (by decide))

theorem ErrorCategory.codec_decode_null : ErrorCategory.codec.decode .null = none := rfl

def JobLifecyclePhase.all : List JobLifecyclePhase :=
  [.queued, .leased, .preparing, .running, .finishing, .completed, .failed, .cancelled,
    .timedOut, .policyDenied]

def JobLifecyclePhase.codec : Codec JobLifecyclePhase :=
  .enumeration all name (fun phase => by cases phase <;> decide)
    (fun first second h => by
      cases first <;> cases second <;> first | rfl | exact absurd h (by decide))

def UsageAttemptStatus.all : List UsageAttemptStatus :=
  [.succeeded, .denied, .timeout, .cancelled, .failed]

def UsageAttemptStatus.codec : Codec UsageAttemptStatus :=
  .enumeration all name (fun status => by cases status <;> decide)
    (fun first second h => by
      cases first <;> cases second <;> first | rfl | exact absurd h (by decide))

def RegistrationRequest.codec : Codec RegistrationRequest :=
  (cons (optional "runner_id" .string Codec.string_decode_null) <|
    cons (required "display_name" .string) <|
    cons (required "requested_working_groups" (.vec .string)) <|
    cons (required "registration_token_env" .string) nil).toCodec.iso
    (fun (runnerId, displayName, requestedWorkingGroups, registrationTokenEnv, _) =>
      { runnerId, displayName, requestedWorkingGroups, registrationTokenEnv })
    (fun request => (request.runnerId, request.displayName,
      request.requestedWorkingGroups, request.registrationTokenEnv, ()))
    (fun _ => rfl) (fun _ => rfl)

def Heartbeat.codec : Codec Heartbeat :=
  (cons (required "runner_id" .string) <|
    cons (required "capability_inventory_version" .string) <|
    cons (required "daemon_version" .string) <|
    cons (required "health" RunnerHealth.codec) <|
    cons (required "active_job_ids" (.vec .string)) <|
    cons (required "available_concurrency" .u16) <|
    cons (required "clock_skew_ms" .i64) <|
    cons (required "resource_pressure" (.vec .string)) <|
    cons (optional "last_error_category" ErrorCategory.codec
      ErrorCategory.codec_decode_null) nil).toCodec.iso
    (fun (runnerId, capabilityInventoryVersion, daemonVersion, health, activeJobIds,
        availableConcurrency, clockSkewMs, resourcePressure, lastErrorCategory, _) =>
      { runnerId, capabilityInventoryVersion, daemonVersion, health, activeJobIds,
        availableConcurrency, clockSkewMs, resourcePressure, lastErrorCategory })
    (fun heartbeat => (heartbeat.runnerId, heartbeat.capabilityInventoryVersion,
      heartbeat.daemonVersion, heartbeat.health, heartbeat.activeJobIds,
      heartbeat.availableConcurrency, heartbeat.clockSkewMs, heartbeat.resourcePressure,
      heartbeat.lastErrorCategory, ()))
    (fun _ => rfl) (fun _ => rfl)

def AdapterExecutionMetadata.codec : Codec AdapterExecutionMetadata :=
  (cons (required "adapter_id" .string) <|
    cons (required "adapter_kind" AdapterKind.codec) <|
    cons (required "isolation_mode" .string) <|
    cons (required "network_mode" .string) <|
    cons (required "scoped_credential_refs" (.vec .string)) <|
    cons (required "audit_labels" (.vec .string)) nil).toCodec.iso
    (fun (adapterId, adapterKind, isolationMode, networkMode, scopedCredentialRefs,
        auditLabels, _) =>
      { adapterId, adapterKind, isolationMode, networkMode, scopedCredentialRefs,
        auditLabels })
    (fun metadata => (metadata.adapterId, metadata.adapterKind, metadata.isolationMode,
      metadata.networkMode, metadata.scopedCredentialRefs, metadata.auditLabels, ()))
    (fun _ => rfl) (fun _ => rfl)

def JobLeaseAcceptance.codec : Codec JobLeaseAcceptance :=
  (cons (required "lease_id" .string) <|
    cons (required "job_id" .string) <|
    cons (required "runner_id" .string) <|
    cons (required "accepted" .bool) <|
    cons (optional "reason" .string Codec.string_decode_null) nil).toCodec.iso
    (fun (leaseId, jobId, runnerId, accepted, reason, _) =>
      { leaseId, jobId, runnerId, accepted, reason })
    (fun acceptance => (acceptance.leaseId, acceptance.jobId, acceptance.runnerId,
      acceptance.accepted, acceptance.reason, ()))
    (fun _ => rfl) (fun _ => rfl)

structure CancellationRequest where
  leaseId : String
  jobId : String
  reason : String
deriving DecidableEq

def CancellationRequest.codec : Codec CancellationRequest :=
  (cons (required "lease_id" .string) <|
    cons (required "job_id" .string) <|
    cons (required "reason" .string) nil).toCodec.iso
    (fun (leaseId, jobId, reason, _) => { leaseId, jobId, reason })
    (fun request => (request.leaseId, request.jobId, request.reason, ()))
    (fun _ => rfl) (fun _ => rfl)

def ProgressUpdate.codec : Codec ProgressUpdate :=
  (cons (required "job_id" .string) <|
    cons (required "runner_id" .string) <|
    cons (required "sequence" .u64) <|
    cons (required "phase" .string) <|
    cons (required "percent" .u8) nil).toCodec.iso
    (fun (jobId, runnerId, sequence, phase, percent, _) =>
      { jobId, runnerId, sequence, phase, percent })
    (fun update => (update.jobId, update.runnerId, update.sequence, update.phase,
      update.percent, ()))
    (fun _ => rfl) (fun _ => rfl)

def LogChunk.codec : Codec LogChunk :=
  (cons (required "job_id" .string) <|
    cons (required "runner_id" .string) <|
    cons (required "sequence" .u64) <|
    cons (required "stream" .string) <|
    cons (required "redacted" .bool) <|
    cons (required "line" .string) nil).toCodec.iso
    (fun (jobId, runnerId, sequence, stream, redacted, line, _) =>
      { jobId, runnerId, sequence, stream, redacted, line })
    (fun chunk => (chunk.jobId, chunk.runnerId, chunk.sequence, chunk.stream,
      chunk.redacted, chunk.line, ()))
    (fun _ => rfl) (fun _ => rfl)

def ArtifactDescriptor.codec : Codec ArtifactDescriptor :=
  (cons (required "path_label" .string) <|
    cons (required "content_type" .string) <|
    cons (required "size_bytes" .u64) <|
    cons (required "checksum_sha256" .string) <|
    cons (required "retention_policy" .string) nil).toCodec.iso
    (fun (pathLabel, contentType, sizeBytes, checksumSha256, retentionPolicy, _) =>
      { pathLabel, contentType, sizeBytes, checksumSha256, retentionPolicy })
    (fun descriptor => (descriptor.pathLabel, descriptor.contentType,
      descriptor.sizeBytes, descriptor.checksumSha256, descriptor.retentionPolicy, ()))
    (fun _ => rfl) (fun _ => rfl)

def ArtifactManifest.codec : Codec ArtifactManifest :=
  (cons (required "job_id" .string) <|
    cons (required "runner_id" .string) <|
    cons (required "artifacts" (.vec ArtifactDescriptor.codec)) nil).toCodec.iso
    (fun (jobId, runnerId, artifacts, _) => { jobId, runnerId, artifacts })
    (fun manifest => (manifest.jobId, manifest.runnerId, manifest.artifacts, ()))
    (fun _ => rfl) (fun _ => rfl)

def RunnerError.codec : Codec RunnerError :=
  (cons (optional "job_id" .string Codec.string_decode_null) <|
    cons (required "runner_id" .string) <|
    cons (required "category" ErrorCategory.codec) <|
    cons (required "retryable" .bool) <|
    cons (required "message" .string) nil).toCodec.iso
    (fun (jobId, runnerId, category, retryable, message, _) =>
      { jobId, runnerId, category, retryable, message })
    (fun error => (error.jobId, error.runnerId, error.category, error.retryable,
      error.message, ()))
    (fun _ => rfl) (fun _ => rfl)

/-- The request of a usage report is named by a UUID. -/
def UsageReport.HasUuid (uuid : UuidText) (usage : UsageReport) : Prop :=
  ∀ requestId, usage.requestId = some requestId →
    uuid.normalise requestId = some requestId

/-- The request id of such a report, as the UUID it is. -/
def UsageReport.requestUuid {uuid : UuidText} (usage : UsageReport)
    (h : usage.HasUuid uuid) : Option uuid.Id :=
  usage.requestId.attach.map fun requestId => ⟨requestId.1, h requestId.1 requestId.2⟩

theorem UsageReport.requestUuid_map {uuid : UuidText} (usage : UsageReport)
    (h : usage.HasUuid uuid) :
    (usage.requestUuid h).map Subtype.val = usage.requestId := by
  simp [requestUuid]

def UsageReport.codec (uuid : UuidText) :
    Codec { usage : UsageReport // usage.HasUuid uuid } :=
  (cons (required "schema_version" .string) <|
    cons (required "job_id" .string) <|
    cons (required "runner_id" .string) <|
    cons (optional "request_id" uuid.codec rfl) <|
    cons (optional "correlation_id" .string Codec.string_decode_null) <|
    cons (required "status" UsageAttemptStatus.codec) <|
    cons (required "duration_ms" .u64) <|
    cons (optional "cpu_time_ms" .u64 Codec.u64_decode_null) <|
    cons (optional "peak_memory_bytes" .u64 Codec.u64_decode_null) <|
    cons (required "prompt_tokens" .u64) <|
    cons (required "completion_tokens" .u64) <|
    cons (required "estimated_cost_micro_usd" .u64) nil).toCodec.iso
    (fun (schemaVersion, jobId, runnerId, requestId, correlationId, status, durationMs,
        cpuTimeMs, peakMemoryBytes, promptTokens, completionTokens,
        estimatedCostMicroUsd, _) =>
      ⟨{ schemaVersion, jobId, runnerId, requestId := requestId.map Subtype.val,
         correlationId, status, durationMs, cpuTimeMs, peakMemoryBytes, promptTokens,
         completionTokens, estimatedCostMicroUsd },
        fun _ h => by
          obtain ⟨id, _, rfl⟩ := Option.map_eq_some_iff.mp h
          exact id.2⟩)
    (fun usage => (usage.1.schemaVersion, usage.1.jobId, usage.1.runnerId,
      usage.1.requestUuid usage.2, usage.1.correlationId, usage.1.status,
      usage.1.durationMs, usage.1.cpuTimeMs, usage.1.peakMemoryBytes,
      usage.1.promptTokens, usage.1.completionTokens, usage.1.estimatedCostMicroUsd, ()))
    (fun usage => Subtype.ext (by simp only [UsageReport.requestUuid_map]))
    (fun (_, _, _, requestId, _) => by
      cases requestId <;> rfl)

/-- The request of a result's usage report is named by a UUID. -/
def AdapterResult.HasUuid (uuid : UuidText) (result : AdapterResult) : Prop :=
  result.usage.HasUuid uuid

def AdapterResult.codec (uuid : UuidText) :
    Codec { result : AdapterResult // result.HasUuid uuid } :=
  (cons (required "job_id" .string) <|
    cons (required "runner_id" .string) <|
    cons (required "phase" JobLifecyclePhase.codec) <|
    cons (optional "exit_code" .i32 rfl) <|
    cons (required "usage" (UsageReport.codec uuid)) <|
    cons (required "artifacts" (.vec ArtifactDescriptor.codec)) <|
    cons (required "audit_metadata" AdapterExecutionMetadata.codec) nil).toCodec.iso
    (fun (jobId, runnerId, phase, exitCode, usage, artifacts, auditMetadata, _) =>
      ⟨{ jobId, runnerId, phase, exitCode, usage := usage.1, artifacts, auditMetadata },
        usage.2⟩)
    (fun result => (result.1.jobId, result.1.runnerId, result.1.phase, result.1.exitCode,
      ⟨result.1.usage, result.2⟩, result.1.artifacts, result.1.auditMetadata, ()))
    (fun _ => rfl) (fun _ => rfl)

end Protocol

namespace Runner

open Protocol

def EndpointHealthStatus.all : List EndpointHealthStatus :=
  [.healthy, .degraded, .unreachable, .unknown]

theorem EndpointHealthStatus.mem_all (status : EndpointHealthStatus) : status ∈ all := by
  cases status <;> decide

theorem EndpointHealthStatus.name_injective (first second : EndpointHealthStatus)
    (h : first.name = second.name) : first = second := by
  cases first <;> cases second <;> first | rfl | exact absurd h (by decide)

def EndpointHealthStatus.codec : Codec EndpointHealthStatus :=
  .enumeration all name mem_all name_injective

def HighRiskCapability.all : List HighRiskCapability :=
  [.localToolExecution, .localLlmExposure, .externalAgentRuntimeAdapter,
    .computerUseExecution]

def HighRiskCapability.codec : Codec HighRiskCapability :=
  .enumeration all name (fun capability => by cases capability <;> decide)
    (fun first second h => by
      cases first <;> cases second <;> first | rfl | exact absurd h (by decide))

def RuntimeCapabilityGate.codec : Codec RuntimeCapabilityGate :=
  (cons (required "capability" HighRiskCapability.codec) <|
    cons (required "feature_flag" .string) <|
    cons (required "enabled" .bool) <|
    cons (required "default_policy_effect" .string) nil).toCodec.iso
    (fun (capability, featureFlag, enabled, defaultPolicyEffect, _) =>
      { capability, featureFlag, enabled, defaultPolicyEffect })
    (fun gate => (gate.capability, gate.featureFlag, gate.enabled,
      gate.defaultPolicyEffect, ()))
    (fun _ => rfl) (fun _ => rfl)

def LocalLlmEndpointCapability.codec : Codec LocalLlmEndpointCapability :=
  (cons (required "id" .string) <|
    cons (required "provider" .string) <|
    cons (required "base_url" .string) <|
    cons (required "model_ids" (.vec .string)) <|
    cons (required "health_status" EndpointHealthStatus.codec) <|
    cons (required "usage_event_required" .bool) nil).toCodec.iso
    (fun (id, provider, baseUrl, modelIds, healthStatus, usageEventRequired, _) =>
      { id, provider, baseUrl, modelIds, healthStatus, usageEventRequired })
    (fun endpoint => (endpoint.id, endpoint.provider, endpoint.baseUrl,
      endpoint.modelIds, endpoint.healthStatus, endpoint.usageEventRequired, ()))
    (fun _ => rfl) (fun _ => rfl)

def ExternalAgentAdapterCapability.codec : Codec ExternalAgentAdapterCapability :=
  (cons (required "id" .string) <|
    cons (required "runtime" .string) <|
    cons (required "command_label" .string) <|
    cons (required "can_mutate_workspace" .bool) <|
    cons (required "supported_isolation_modes" (.vec .string)) <|
    cons (required "supported_network_modes" (.vec .string)) nil).toCodec.iso
    (fun (id, runtime, commandLabel, canMutateWorkspace, supportedIsolationModes,
        supportedNetworkModes, _) =>
      { id, runtime, commandLabel, canMutateWorkspace, supportedIsolationModes,
        supportedNetworkModes })
    (fun adapter => (adapter.id, adapter.runtime, adapter.commandLabel,
      adapter.canMutateWorkspace, adapter.supportedIsolationModes,
      adapter.supportedNetworkModes, ()))
    (fun _ => rfl) (fun _ => rfl)

def AllowlistedCommandAdapterCapability.codec :
    Codec AllowlistedCommandAdapterCapability :=
  (cons (required "id" .string) <|
    cons (required "command_label" .string) <|
    cons (required "allowed_args" (.vec .string)) <|
    cons (required "allowed_env" (.vec .string)) <|
    cons (required "can_spawn_process" .bool) nil).toCodec.iso
    (fun (id, commandLabel, allowedArgs, allowedEnv, canSpawnProcess, _) =>
      { id, commandLabel, allowedArgs, allowedEnv, canSpawnProcess })
    (fun adapter => (adapter.id, adapter.commandLabel, adapter.allowedArgs,
      adapter.allowedEnv, adapter.canSpawnProcess, ()))
    (fun _ => rfl) (fun _ => rfl)

def RunnerCapabilities.codec : Codec RunnerCapabilities :=
  (cons (required "protocol_version" .string) <|
    cons (required "os" .string) <|
    cons (required "architecture" .string) <|
    cons (required "runtimes" (.vec .string)) <|
    cons (required "local_tools" (.vec .string)) <|
    cons (required "mcp_host_modes" (.vec .string)) <|
    cons (required "local_llm_endpoints" (.vec LocalLlmEndpointCapability.codec)) <|
    cons (required "external_agent_adapters"
      (.vec ExternalAgentAdapterCapability.codec)) <|
    cons (required "allowlisted_command_adapters"
      (.vec AllowlistedCommandAdapterCapability.codec)) <|
    cons (required "network_zone" .string) <|
    cons (required "labels" (.vec .string)) <|
    cons (required "max_concurrency" .u16) <|
    cons (required "allowed_working_groups" (.vec .string)) <|
    cons (required "high_risk_capabilities"
      (.vec RuntimeCapabilityGate.codec)) nil).toCodec.iso
    (fun (protocolVersion, os, architecture, runtimes, localTools, mcpHostModes,
        localLlmEndpoints, externalAgentAdapters, allowlistedCommandAdapters,
        networkZone, labels, maxConcurrency, allowedWorkingGroups,
        highRiskCapabilities, _) =>
      { protocolVersion, os, architecture, runtimes, localTools, mcpHostModes,
        localLlmEndpoints, externalAgentAdapters, allowlistedCommandAdapters,
        networkZone, labels, maxConcurrency, allowedWorkingGroups,
        highRiskCapabilities })
    (fun capabilities => (capabilities.protocolVersion, capabilities.os,
      capabilities.architecture, capabilities.runtimes, capabilities.localTools,
      capabilities.mcpHostModes, capabilities.localLlmEndpoints,
      capabilities.externalAgentAdapters, capabilities.allowlistedCommandAdapters,
      capabilities.networkZone, capabilities.labels, capabilities.maxConcurrency,
      capabilities.allowedWorkingGroups, capabilities.highRiskCapabilities, ()))
    (fun _ => rfl) (fun _ => rfl)

end Runner

/-! ### The documents the runner writes -/

/-- The codec writes a record as the runner does. -/
def Writes {T : Type} (codec : Codec T) (toJson : T → Json) : Prop :=
  ∀ record, codec.encode record = toJson record

namespace Protocol

theorem signedNumber_ofInt64 (value : Int64) :
    .number (Codec.signedNumber value) = Json.ofInt64 value := by
  rw [Codec.signedNumber, Json.ofInt64]
  split <;> rfl

theorem RegistrationRequest.codec_writes :
    Writes RegistrationRequest.codec RegistrationRequest.toJson := fun _ => rfl

theorem Heartbeat.codec_writes : Writes Heartbeat.codec Heartbeat.toJson := by
  intro heartbeat
  rw [Heartbeat.toJson, ← signedNumber_ofInt64]
  rfl

theorem AdapterExecutionMetadata.codec_writes :
    Writes AdapterExecutionMetadata.codec AdapterExecutionMetadata.toJson := fun _ => rfl

theorem JobLeaseAcceptance.codec_writes :
    Writes JobLeaseAcceptance.codec JobLeaseAcceptance.toJson := fun _ => rfl

theorem ProgressUpdate.codec_writes :
    Writes ProgressUpdate.codec ProgressUpdate.toJson := fun _ => rfl

theorem LogChunk.codec_writes : Writes LogChunk.codec LogChunk.toJson := fun _ => rfl

theorem ArtifactManifest.codec_writes :
    Writes ArtifactManifest.codec ArtifactManifest.toJson := fun _ => rfl

theorem UsageReport.codec_writes (uuid : UuidText) :
    Writes (UsageReport.codec uuid) (fun usage => usage.1.toJson) := by
  rintro ⟨usage, h⟩
  have hrequest : (usage.requestUuid h).elim Json.null uuid.codec.encode =
      Json.ofOption .string usage.requestId := by
    rw [← usage.requestUuid_map h]
    cases usage.requestUuid h <;> rfl
  change _ = usage.toJson
  rw [UsageReport.toJson, ← hrequest]
  rfl

theorem AdapterResult.codec_writes (uuid : UuidText) :
    Writes (AdapterResult.codec uuid) (fun result => result.1.toJson) := by
  rintro ⟨result, h⟩
  have husage : (UsageReport.codec uuid).encode ⟨result.usage, h⟩ =
      result.usage.toJson := UsageReport.codec_writes uuid ⟨result.usage, h⟩
  change _ = result.toJson
  simp only [AdapterResult.toJson, ← signedNumber_ofInt64]
  rw [← husage]
  rfl

end Protocol

theorem Runner.RunnerCapabilities.codec_writes :
    Writes RunnerCapabilities.codec RunnerCapabilities.toJson := fun _ => rfl

/-! ### Reading them back -/

/-- A document whose known part is the written record in some member order reads
as the record, and records with one written form are one. -/
structure ReadsBack {T : Type} (codec : Codec T) (toJson : T → Json) : Prop where
  tolerant : ∀ record document, Json.Reorder (toJson record) (codec.prune document) →
    codec.decode document = some record
  injective : ∀ first second, (toJson first).sorted = (toJson second).sorted →
    first = second

theorem Writes.readsBack {T : Type} {codec : Codec T} {toJson : T → Json}
    (h : Writes codec toJson) : ReadsBack codec toJson where
  tolerant := by
    intro record document hreorder
    rw [← h record] at hreorder
    rw [← codec.decode_prune document]
    exact codec.decode_reorder hreorder
  injective := by
    intro first second hsorted
    rw [← h first, ← h second] at hsorted
    exact codec.encode_sorted_injective hsorted

open Protocol Runner

/-- Every record of the protocol but the dispatch reads back as it was written,
with members in any order and unknown members added at any depth, and no two
records are written alike. -/
structure MessagesReadBack (uuid : UuidText) : Prop where
  registration : ReadsBack RegistrationRequest.codec RegistrationRequest.toJson
  capabilities : ReadsBack RunnerCapabilities.codec RunnerCapabilities.toJson
  heartbeat : ReadsBack Heartbeat.codec Heartbeat.toJson
  lease : ReadsBack JobLeaseAcceptance.codec JobLeaseAcceptance.toJson
  progress : ReadsBack ProgressUpdate.codec ProgressUpdate.toJson
  log : ReadsBack LogChunk.codec LogChunk.toJson
  artifacts : ReadsBack ArtifactManifest.codec ArtifactManifest.toJson
  usage : ReadsBack (UsageReport.codec uuid) fun usage => usage.1.toJson
  result : ReadsBack (AdapterResult.codec uuid) fun result => result.1.toJson
  cancellation : ReadsBack CancellationRequest.codec CancellationRequest.codec.encode
  error : ReadsBack RunnerError.codec RunnerError.codec.encode

theorem runner_messages_read_back (uuid : UuidText) : MessagesReadBack uuid where
  registration := RegistrationRequest.codec_writes.readsBack
  capabilities := RunnerCapabilities.codec_writes.readsBack
  heartbeat := Heartbeat.codec_writes.readsBack
  lease := JobLeaseAcceptance.codec_writes.readsBack
  progress := ProgressUpdate.codec_writes.readsBack
  log := LogChunk.codec_writes.readsBack
  artifacts := ArtifactManifest.codec_writes.readsBack
  usage := (UsageReport.codec_writes uuid).readsBack
  result := (AdapterResult.codec_writes uuid).readsBack
  cancellation := Writes.readsBack fun _ => rfl
  error := Writes.readsBack fun _ => rfl

end RemoteRunner
