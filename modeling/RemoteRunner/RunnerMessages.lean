/-
The messages a runner sends and the documents they are written as.
-/
import RemoteRunner.Protocol

namespace RemoteRunner

namespace Json

/-- A signed number; only a negative one is written with a sign. -/
def ofInt64 (value : Int64) : Json :=
  if h : value < 0 then .number (.negInt value h) else .number (.posInt value.toUInt64)

def ofUInt64 (value : UInt64) : Json := .number (.posInt value)

def ofStrings (texts : List String) : Json := .array (texts.map .string)

/-- A value or null. -/
def ofOption {α : Type} (write : α → Json) (value : Option α) : Json :=
  value.elim .null write

end Json

namespace Protocol

def USAGE_SCHEMA_VERSION : String := "remote_usage_report.v1"

def ProtocolEnvelope.new {T : Type} (messageType : String) (payload : T) :
    ProtocolEnvelope T where
  protocolVersion := PROTOCOL_VERSION
  messageType
  payload

structure RegistrationRequest where
  runnerId : Option String
  displayName : String
  requestedWorkingGroups : List String
  registrationTokenEnv : String
deriving DecidableEq

inductive RunnerHealth where
  | online
  | degraded
  | draining
  | offline
  | disabled
  | quarantined
deriving DecidableEq

inductive ErrorCategory where
  | policyDenied
  | capabilityMismatch
  | workspaceSetup
  | adapterFailed
  | timeout
  | cancelled
  | artifactUpload
  | usageReport
  | internal
deriving DecidableEq

structure Heartbeat where
  runnerId : String
  capabilityInventoryVersion : String
  daemonVersion : String
  health : RunnerHealth
  activeJobIds : List String
  availableConcurrency : UInt16
  clockSkewMs : Int64
  resourcePressure : List String
  lastErrorCategory : Option ErrorCategory
deriving DecidableEq

inductive JobLifecyclePhase where
  | queued
  | leased
  | preparing
  | running
  | finishing
  | completed
  | failed
  | cancelled
  | timedOut
  | policyDenied
deriving DecidableEq

structure AdapterExecutionMetadata where
  adapterId : String
  adapterKind : AdapterKind
  isolationMode : String
  networkMode : String
  scopedCredentialRefs : List String
  auditLabels : List String
deriving DecidableEq

structure ProgressUpdate where
  jobId : String
  runnerId : String
  sequence : UInt64
  phase : String
  percent : UInt8
deriving DecidableEq

structure LogChunk where
  jobId : String
  runnerId : String
  sequence : UInt64
  stream : String
  redacted : Bool
  line : String
deriving DecidableEq

structure ArtifactDescriptor where
  pathLabel : String
  contentType : String
  sizeBytes : UInt64
  checksumSha256 : String
  retentionPolicy : String
deriving DecidableEq

structure ArtifactManifest where
  jobId : String
  runnerId : String
  artifacts : List ArtifactDescriptor
deriving DecidableEq

structure RunnerError where
  jobId : Option String
  runnerId : String
  category : ErrorCategory
  retryable : Bool
  message : String
deriving DecidableEq

inductive UsageAttemptStatus where
  | succeeded
  | denied
  | timeout
  | cancelled
  | failed
deriving DecidableEq

structure UsageReport where
  schemaVersion : String
  jobId : String
  runnerId : String
  requestId : Option String
  correlationId : Option String
  status : UsageAttemptStatus
  durationMs : UInt64
  cpuTimeMs : Option UInt64
  peakMemoryBytes : Option UInt64
  promptTokens : UInt64
  completionTokens : UInt64
  estimatedCostMicroUsd : UInt64
deriving DecidableEq

structure AdapterResult where
  jobId : String
  runnerId : String
  phase : JobLifecyclePhase
  exitCode : Option Int32
  usage : UsageReport
  artifacts : List ArtifactDescriptor
  auditMetadata : AdapterExecutionMetadata
deriving DecidableEq

/-! ### Written forms -/

def RunnerHealth.name : RunnerHealth → String
  | .online => "online"
  | .degraded => "degraded"
  | .draining => "draining"
  | .offline => "offline"
  | .disabled => "disabled"
  | .quarantined => "quarantined"

def ErrorCategory.name : ErrorCategory → String
  | .policyDenied => "policy_denied"
  | .capabilityMismatch => "capability_mismatch"
  | .workspaceSetup => "workspace_setup"
  | .adapterFailed => "adapter_failed"
  | .timeout => "timeout"
  | .cancelled => "cancelled"
  | .artifactUpload => "artifact_upload"
  | .usageReport => "usage_report"
  | .internal => "internal"

def JobLifecyclePhase.name : JobLifecyclePhase → String
  | .queued => "queued"
  | .leased => "leased"
  | .preparing => "preparing"
  | .running => "running"
  | .finishing => "finishing"
  | .completed => "completed"
  | .failed => "failed"
  | .cancelled => "cancelled"
  | .timedOut => "timed_out"
  | .policyDenied => "policy_denied"

def UsageAttemptStatus.name : UsageAttemptStatus → String
  | .succeeded => "succeeded"
  | .denied => "denied"
  | .timeout => "timeout"
  | .cancelled => "cancelled"
  | .failed => "failed"

open Json

def RegistrationRequest.toJson (request : RegistrationRequest) : Json :=
  .object [
    ("runner_id", ofOption .string request.runnerId),
    ("display_name", .string request.displayName),
    ("requested_working_groups", ofStrings request.requestedWorkingGroups),
    ("registration_token_env", .string request.registrationTokenEnv)]

def Heartbeat.toJson (heartbeat : Heartbeat) : Json :=
  .object [
    ("runner_id", .string heartbeat.runnerId),
    ("capability_inventory_version", .string heartbeat.capabilityInventoryVersion),
    ("daemon_version", .string heartbeat.daemonVersion),
    ("health", .string heartbeat.health.name),
    ("active_job_ids", ofStrings heartbeat.activeJobIds),
    ("available_concurrency", ofUInt64 heartbeat.availableConcurrency.toUInt64),
    ("clock_skew_ms", ofInt64 heartbeat.clockSkewMs),
    ("resource_pressure", ofStrings heartbeat.resourcePressure),
    ("last_error_category",
      ofOption (fun category => .string category.name) heartbeat.lastErrorCategory)]

def AdapterExecutionMetadata.toJson (metadata : AdapterExecutionMetadata) : Json :=
  .object [
    ("adapter_id", .string metadata.adapterId),
    ("adapter_kind", .string metadata.adapterKind.name),
    ("isolation_mode", .string metadata.isolationMode),
    ("network_mode", .string metadata.networkMode),
    ("scoped_credential_refs", ofStrings metadata.scopedCredentialRefs),
    ("audit_labels", ofStrings metadata.auditLabels)]

def JobLeaseAcceptance.toJson (acceptance : JobLeaseAcceptance) : Json :=
  .object [
    ("lease_id", .string acceptance.leaseId),
    ("job_id", .string acceptance.jobId),
    ("runner_id", .string acceptance.runnerId),
    ("accepted", .bool acceptance.accepted),
    ("reason", ofOption .string acceptance.reason)]

def ProgressUpdate.toJson (update : ProgressUpdate) : Json :=
  .object [
    ("job_id", .string update.jobId),
    ("runner_id", .string update.runnerId),
    ("sequence", ofUInt64 update.sequence),
    ("phase", .string update.phase),
    ("percent", ofUInt64 update.percent.toUInt64)]

def LogChunk.toJson (chunk : LogChunk) : Json :=
  .object [
    ("job_id", .string chunk.jobId),
    ("runner_id", .string chunk.runnerId),
    ("sequence", ofUInt64 chunk.sequence),
    ("stream", .string chunk.stream),
    ("redacted", .bool chunk.redacted),
    ("line", .string chunk.line)]

def ArtifactDescriptor.toJson (descriptor : ArtifactDescriptor) : Json :=
  .object [
    ("path_label", .string descriptor.pathLabel),
    ("content_type", .string descriptor.contentType),
    ("size_bytes", ofUInt64 descriptor.sizeBytes),
    ("checksum_sha256", .string descriptor.checksumSha256),
    ("retention_policy", .string descriptor.retentionPolicy)]

def ArtifactManifest.toJson (manifest : ArtifactManifest) : Json :=
  .object [
    ("job_id", .string manifest.jobId),
    ("runner_id", .string manifest.runnerId),
    ("artifacts", .array (manifest.artifacts.map ArtifactDescriptor.toJson))]

def UsageReport.toJson (usage : UsageReport) : Json :=
  .object [
    ("schema_version", .string usage.schemaVersion),
    ("job_id", .string usage.jobId),
    ("runner_id", .string usage.runnerId),
    ("request_id", ofOption .string usage.requestId),
    ("correlation_id", ofOption .string usage.correlationId),
    ("status", .string usage.status.name),
    ("duration_ms", ofUInt64 usage.durationMs),
    ("cpu_time_ms", ofOption ofUInt64 usage.cpuTimeMs),
    ("peak_memory_bytes", ofOption ofUInt64 usage.peakMemoryBytes),
    ("prompt_tokens", ofUInt64 usage.promptTokens),
    ("completion_tokens", ofUInt64 usage.completionTokens),
    ("estimated_cost_micro_usd", ofUInt64 usage.estimatedCostMicroUsd)]

def AdapterResult.toJson (result : AdapterResult) : Json :=
  .object [
    ("job_id", .string result.jobId),
    ("runner_id", .string result.runnerId),
    ("phase", .string result.phase.name),
    ("exit_code", ofOption (fun code => ofInt64 code.toInt64) result.exitCode),
    ("usage", result.usage.toJson),
    ("artifacts", .array (result.artifacts.map ArtifactDescriptor.toJson)),
    ("audit_metadata", result.auditMetadata.toJson)]

end Protocol

end RemoteRunner
