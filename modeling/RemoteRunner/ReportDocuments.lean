/-
The documents of the reports: no object of theirs names a member twice, and of
the diagnostics only the credential reference is a sensitive member.
-/
import RemoteRunner.Diagnostics

namespace RemoteRunner

open Protocol Runner Json

/-! ### Distinct names -/

namespace Json

theorem distinct_ofUInt64 (value : UInt64) : (ofUInt64 value).Distinct :=
  Distinct.number _

theorem distinct_ofInt64 (value : Int64) : (ofInt64 value).Distinct := by
  rw [ofInt64]
  split
  · exact Distinct.number _
  · exact Distinct.number _

theorem distinct_ofStrings (texts : List String) : (ofStrings texts).Distinct := by
  rw [ofStrings, distinct_array_iff, List.forall_mem_map]
  exact fun text _ => Distinct.string text

theorem distinct_ofOption {α : Type} {write : α → Json} (value : Option α)
    (h : ∀ inner, (write inner).Distinct) : (ofOption write value).Distinct := by
  rcases value with _ | inner
  · exact Distinct.null
  · exact h inner

theorem distinct_map {α : Type} {write : α → Json} (values : List α)
    (h : ∀ value, (write value).Distinct) :
    Distinct (.array (values.map write)) := by
  rw [distinct_array_iff, List.forall_mem_map]
  exact fun value _ => h value

end Json

namespace Protocol

theorem RegistrationRequest.distinct (request : RegistrationRequest) :
    request.toJson.Distinct := by
  simp [RegistrationRequest.toJson, distinct_object_iff, distinct_ofStrings,
    distinct_ofOption, Distinct.string]

theorem Heartbeat.distinct (heartbeat : Heartbeat) : heartbeat.toJson.Distinct := by
  simp [Heartbeat.toJson, distinct_object_iff, distinct_ofStrings, distinct_ofOption,
    distinct_ofUInt64, distinct_ofInt64, Distinct.string]

theorem AdapterExecutionMetadata.distinct (metadata : AdapterExecutionMetadata) :
    metadata.toJson.Distinct := by
  simp [AdapterExecutionMetadata.toJson, distinct_object_iff, distinct_ofStrings,
    Distinct.string]

theorem JobLeaseAcceptance.distinct (acceptance : JobLeaseAcceptance) :
    acceptance.toJson.Distinct := by
  simp [JobLeaseAcceptance.toJson, distinct_object_iff, distinct_ofOption,
    Distinct.string, Distinct.bool]

theorem ProgressUpdate.distinct (update : ProgressUpdate) : update.toJson.Distinct := by
  simp [ProgressUpdate.toJson, distinct_object_iff, distinct_ofUInt64, Distinct.string]

theorem LogChunk.distinct (chunk : LogChunk) : chunk.toJson.Distinct := by
  simp [LogChunk.toJson, distinct_object_iff, distinct_ofUInt64, Distinct.string,
    Distinct.bool]

theorem ArtifactDescriptor.distinct (descriptor : ArtifactDescriptor) :
    descriptor.toJson.Distinct := by
  simp [ArtifactDescriptor.toJson, distinct_object_iff, distinct_ofUInt64,
    Distinct.string]

theorem ArtifactManifest.distinct (manifest : ArtifactManifest) :
    manifest.toJson.Distinct := by
  simp [ArtifactManifest.toJson, distinct_object_iff, distinct_map,
    ArtifactDescriptor.distinct, Distinct.string]

theorem UsageReport.distinct (usage : UsageReport) : usage.toJson.Distinct := by
  simp [UsageReport.toJson, distinct_object_iff, distinct_ofOption, distinct_ofUInt64,
    Distinct.string]

theorem AdapterResult.distinct (result : AdapterResult) : result.toJson.Distinct := by
  simp [AdapterResult.toJson, distinct_object_iff, distinct_ofOption, distinct_ofInt64,
    distinct_map, ArtifactDescriptor.distinct, UsageReport.distinct,
    AdapterExecutionMetadata.distinct, Distinct.string]

end Protocol

namespace Runner

theorem RuntimeCapabilityGate.distinct (gate : RuntimeCapabilityGate) :
    gate.toJson.Distinct := by
  simp [RuntimeCapabilityGate.toJson, distinct_object_iff, Distinct.string, Distinct.bool]

theorem LocalLlmEndpointCapability.distinct (endpoint : LocalLlmEndpointCapability) :
    endpoint.toJson.Distinct := by
  simp [LocalLlmEndpointCapability.toJson, distinct_object_iff, distinct_ofStrings,
    Distinct.string, Distinct.bool]

theorem ExternalAgentAdapterCapability.distinct
    (adapter : ExternalAgentAdapterCapability) : adapter.toJson.Distinct := by
  simp [ExternalAgentAdapterCapability.toJson, distinct_object_iff, distinct_ofStrings,
    Distinct.string, Distinct.bool]

theorem AllowlistedCommandAdapterCapability.distinct
    (adapter : AllowlistedCommandAdapterCapability) : adapter.toJson.Distinct := by
  simp [AllowlistedCommandAdapterCapability.toJson, distinct_object_iff,
    distinct_ofStrings, Distinct.string, Distinct.bool]

theorem RunnerCapabilities.distinct (capabilities : RunnerCapabilities) :
    capabilities.toJson.Distinct := by
  simp [RunnerCapabilities.toJson, distinct_object_iff, distinct_ofStrings,
    distinct_ofUInt64, distinct_map, RuntimeCapabilityGate.distinct,
    LocalLlmEndpointCapability.distinct, ExternalAgentAdapterCapability.distinct,
    AllowlistedCommandAdapterCapability.distinct, Distinct.string]

end Runner

namespace Diagnostics

theorem LastValidInstruction.distinct (instruction : LastValidInstruction) :
    instruction.toJson.Distinct := by
  simp [LastValidInstruction.toJson, distinct_object_iff, Distinct.string]

theorem OperatorHeartbeatState.distinct (state : OperatorHeartbeatState) :
    state.toJson.Distinct := by
  simp [OperatorHeartbeatState.toJson, distinct_object_iff, distinct_ofStrings,
    distinct_ofOption, distinct_ofUInt64, Distinct.string]

theorem OperatorDiagnosticsSnapshot.distinct (snapshot : OperatorDiagnosticsSnapshot) :
    snapshot.toJson.Distinct := by
  simp [OperatorDiagnosticsSnapshot.toJson, distinct_object_iff, distinct_ofOption,
    LastValidInstruction.distinct, OperatorHeartbeatState.distinct,
    RunnerCapabilities.distinct, Distinct.string]

/-! ### Redaction by name -/

/-- The members of the diagnostics, apart from the credential reference. -/
def diagnosticsNames : List String :=
  ["schema_version", "protocol_version", "capability_inventory_version",
    "daemon_version", "runner_id", "control_plane_url", "registration_token_env_name",
    "last_valid_instruction", "heartbeat_state", "capability_inventory",
    "instruction_id", "message_type", "health", "active_job_ids",
    "available_concurrency", "resource_pressure", "last_error_category",
    "quarantine_reason", "os", "architecture", "runtimes", "local_tools",
    "mcp_host_modes", "local_llm_endpoints", "external_agent_adapters",
    "allowlisted_command_adapters", "network_zone", "labels", "max_concurrency",
    "allowed_working_groups", "high_risk_capabilities", "id", "provider", "base_url",
    "model_ids", "health_status", "usage_event_required", "runtime", "command_label",
    "can_mutate_workspace", "supported_isolation_modes", "supported_network_modes",
    "allowed_args", "allowed_env", "can_spawn_process", "capability", "feature_flag",
    "enabled", "default_policy_effect"]

theorem diagnosticsNames_not_sensitive :
    ∀ name ∈ diagnosticsNames, isSensitiveKey name = false := by
  decide +kernel

theorem redactSensitiveValues_ofUInt64 (value : UInt64) :
    redactSensitiveValues (ofUInt64 value) = ofUInt64 value :=
  redactSensitiveValues_number _

theorem redactSensitiveValues_map {α : Type} {write : α → Json} (values : List α)
    (h : ∀ value, redactSensitiveValues (write value) = write value) :
    redactSensitiveValues (.array (values.map write)) = .array (values.map write) := by
  rw [redactSensitiveValues_array, List.map_map]
  exact congrArg Json.array (List.map_congr_left fun value _ => h value)

theorem redactSensitiveValues_ofStrings (texts : List String) :
    redactSensitiveValues (ofStrings texts) = ofStrings texts :=
  redactSensitiveValues_map texts redactSensitiveValues_string

theorem redactSensitiveValues_ofOption {α : Type} {write : α → Json} (value : Option α)
    (h : ∀ inner, redactSensitiveValues (write inner) = write inner) :
    redactSensitiveValues (ofOption write value) = ofOption write value := by
  rcases value with _ | inner
  · exact redactSensitiveValues_null
  · exact h inner

/-- No member of the inventory is sensitive. -/
theorem redactSensitiveValues_capabilities (capabilities : RunnerCapabilities) :
    redactSensitiveValues capabilities.toJson = capabilities.toJson := by
  have hnames := diagnosticsNames_not_sensitive
  simp only [diagnosticsNames, List.forall_mem_cons] at hnames
  have hgate (gate : RuntimeCapabilityGate) :
      redactSensitiveValues gate.toJson = gate.toJson := by
    simp [RuntimeCapabilityGate.toJson, redactedMember, hnames]
  have hendpoint (endpoint : LocalLlmEndpointCapability) :
      redactSensitiveValues endpoint.toJson = endpoint.toJson := by
    simp [LocalLlmEndpointCapability.toJson, redactedMember, hnames,
      redactSensitiveValues_ofStrings]
  have hagent (adapter : ExternalAgentAdapterCapability) :
      redactSensitiveValues adapter.toJson = adapter.toJson := by
    simp [ExternalAgentAdapterCapability.toJson, redactedMember, hnames,
      redactSensitiveValues_ofStrings]
  have hcommand (adapter : AllowlistedCommandAdapterCapability) :
      redactSensitiveValues adapter.toJson = adapter.toJson := by
    simp [AllowlistedCommandAdapterCapability.toJson, redactedMember, hnames,
      redactSensitiveValues_ofStrings]
  simp [RunnerCapabilities.toJson, redactedMember, hnames, -redactSensitiveValues_array,
    redactSensitiveValues_ofStrings, redactSensitiveValues_ofUInt64,
    redactSensitiveValues_map, hgate, hendpoint, hagent, hcommand]

/-- The redaction replaces the credential reference, also a missing one, and
nothing else. -/
theorem redactSensitiveValues_snapshot (snapshot : OperatorDiagnosticsSnapshot) :
    redactSensitiveValues snapshot.toJson =
      { snapshot with credentialRef := some "[REDACTED:credential_ref]" }.toJson := by
  have hnames := diagnosticsNames_not_sensitive
  simp only [diagnosticsNames, List.forall_mem_cons] at hnames
  have hcredential : isSensitiveKey "credential_ref" = true := by decide +kernel
  have hshown : ofOption .string (some "[REDACTED:credential_ref]") =
      .string "[REDACTED:credential_ref]" := rfl
  have hinstruction (instruction : LastValidInstruction) :
      redactSensitiveValues instruction.toJson = instruction.toJson := by
    simp [LastValidInstruction.toJson, redactedMember, hnames]
  have hstate : redactSensitiveValues snapshot.heartbeatState.toJson =
      snapshot.heartbeatState.toJson := by
    simp [OperatorHeartbeatState.toJson, redactedMember, hnames,
      redactSensitiveValues_ofStrings, redactSensitiveValues_ofUInt64,
      redactSensitiveValues_ofOption]
  simp [OperatorDiagnosticsSnapshot.toJson, redactedMember, hnames, hcredential,
    redactSensitiveValues_ofOption, hinstruction, hstate,
    redactSensitiveValues_capabilities, hshown]

end Diagnostics

end RemoteRunner
