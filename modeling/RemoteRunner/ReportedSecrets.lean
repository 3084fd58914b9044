/-
Secret-shaped texts in what a runner reports: which texts of the configuration,
the diagnostics options and the dispatch reach the operator's diagnostics, the
events of a one-shot run and the evidence of an adapter run.
-/
import RemoteRunner.SafeDocuments

namespace RemoteRunner

open Protocol DispatchAuth Runner Job Daemon Json JobIsolation

/-! ### The texts that come in -/

namespace Runner

def LocalLlmEndpointConfig.texts (endpoint : LocalLlmEndpointConfig) : List String :=
  endpoint.id :: endpoint.provider :: endpoint.baseUrl :: endpoint.modelIds

def ExternalAgentAdapterConfig.texts (adapter : ExternalAgentAdapterConfig) :
    List String :=
  adapter.id :: adapter.runtime :: adapter.commandLabel ::
    (adapter.supportedIsolationModes ++ adapter.supportedNetworkModes)

def AllowlistedCommandAdapterConfig.texts (adapter : AllowlistedCommandAdapterConfig) :
    List String :=
  adapter.id :: adapter.commandLabel :: (adapter.allowedArgs ++ adapter.allowedEnv)

/-- The texts the capability inventory takes from the host and the
configuration. -/
def inventoryTexts (host : Host) (config : RemoteConfig) : List String :=
  let overrides := config.capabilityOverrides
  [host.os, host.architecture] ++ overrides.localTools ++ overrides.mcpHostModes ++
    overrides.localLlmEndpoints.flatMap LocalLlmEndpointConfig.texts ++
    overrides.externalAgentAdapters.flatMap ExternalAgentAdapterConfig.texts ++
    overrides.allowlistedCommandAdapters.flatMap AllowlistedCommandAdapterConfig.texts ++
    overrides.networkZone.toList ++ config.labels ++ config.allowedWorkingGroups

end Runner

namespace Diagnostics

def LastValidInstruction.texts (instruction : LastValidInstruction) : List String :=
  [instruction.instructionId, instruction.messageType, instruction.protocolVersion]

/-- The texts the diagnostics take over; of the credential reference they show
none. -/
def diagnosticsTexts (host : Host) (config : RemoteConfig) (options : DiagnosticsOptions) :
    List String :=
  config.runnerId.toList ++ [config.controlPlaneUrl, config.registrationTokenEnv] ++
    options.lastValidInstruction.toList.flatMap LastValidInstruction.texts ++
    options.quarantineReason.toList ++ inventoryTexts host config

/-- The texts the events of a one-shot run take over. -/
def runTexts (host : Host) (config : RemoteConfig) : List String :=
  inventoryTexts host config ++ config.runnerId.toList ++
    [config.registrationTokenEnv] ++ config.credentialPlaceholder.toList

/-- The texts the evidence of an adapter run takes over from its dispatch. -/
def evidenceTexts (dispatch : JobDispatch) : List String :=
  match dispatch.adapter with
  | .noop => [dispatch.jobId, dispatch.runnerId]
  | .echo => [dispatch.jobId, dispatch.runnerId] ++
      ((dispatch.input.toJson.get "echo").bind Json.asStr).toList
  | _ => []

/-! ### The inventory -/

theorem safe_gate {host : Host} {config : RemoteConfig} {gate : RuntimeCapabilityGate}
    (h : gate ∈ (RunnerCapabilities.discover host config).highRiskCapabilities) :
    Safe gate.toJson := by
  have hclean := vocabulary_clean
  simp only [vocabulary, diagnosticsNames, fixedTexts, clean_append_iff,
    clean_cons_iff] at hclean
  simp only [RunnerCapabilities.discover, List.mem_cons, List.not_mem_nil, or_false] at h
  rcases h with rfl | rfl | rfl | rfl <;>
    simp [RuntimeCapabilityGate.toJson, HighRiskCapability.name, safe_object_iff,
      safe_string_iff, safe_bool, hclean]

theorem safe_endpoint_iff (endpoint : LocalLlmEndpointConfig) :
    Safe (LocalLlmEndpointCapability.ofConfig endpoint).toJson ↔
      Clean endpoint.texts := by
  have hclean := vocabulary_clean
  simp only [vocabulary, diagnosticsNames, clean_append_iff, clean_cons_iff] at hclean
  have hhealth : ¬ContainsSecret endpoint.healthStatus.name := by
    cases endpoint.healthStatus <;> exact not_containsSecret_of_short (by decide)
  simp [LocalLlmEndpointCapability.toJson, LocalLlmEndpointCapability.ofConfig,
    LocalLlmEndpointConfig.texts, safe_object_iff, safe_string_iff, safe_ofStrings_iff,
    safe_bool, clean_cons_iff, hclean, hhealth]

theorem safe_agent_iff (adapter : ExternalAgentAdapterConfig) :
    Safe (ExternalAgentAdapterCapability.ofConfig adapter).toJson ↔
      Clean adapter.texts := by
  have hclean := vocabulary_clean
  simp only [vocabulary, diagnosticsNames, clean_append_iff, clean_cons_iff] at hclean
  simp [ExternalAgentAdapterCapability.toJson, ExternalAgentAdapterCapability.ofConfig,
    ExternalAgentAdapterConfig.texts, safe_object_iff, safe_string_iff,
    safe_ofStrings_iff, safe_bool, clean_cons_iff, clean_append_iff, hclean]

theorem safe_command_iff (adapter : AllowlistedCommandAdapterConfig) :
    Safe (AllowlistedCommandAdapterCapability.ofConfig adapter).toJson ↔
      Clean adapter.texts := by
  have hclean := vocabulary_clean
  simp only [vocabulary, diagnosticsNames, clean_append_iff, clean_cons_iff] at hclean
  simp [AllowlistedCommandAdapterCapability.toJson,
    AllowlistedCommandAdapterCapability.ofConfig, AllowlistedCommandAdapterConfig.texts,
    safe_object_iff, safe_string_iff, safe_ofStrings_iff, safe_bool, clean_cons_iff,
    clean_append_iff, hclean]

theorem runtimes_clean (host : Host) :
    Clean (discoverRuntimes host) := by
  intro runtime hruntime
  have hprobed := List.mem_of_mem_filter hruntime
  simp only [List.mem_cons, List.not_mem_nil, or_false] at hprobed
  rcases hprobed with rfl | rfl | rfl | rfl <;>
    exact not_containsSecret_of_short (by decide)

/-- The inventory is safe when the texts it takes over are. -/
theorem safe_inventory_iff (host : Host) (config : RemoteConfig) :
    Safe (RunnerCapabilities.discover host config).toJson ↔
      Clean (inventoryTexts host config) := by
  have hclean := vocabulary_clean
  simp only [vocabulary, diagnosticsNames, fixedTexts, clean_append_iff,
    clean_cons_iff] at hclean
  have hgates : ∀ gate ∈ (RunnerCapabilities.discover host config).highRiskCapabilities,
      Safe gate.toJson := fun gate => safe_gate
  have hendpoints : (∀ endpoint ∈
      (RunnerCapabilities.discover host config).localLlmEndpoints, Safe endpoint.toJson) ↔
        ∀ endpoint ∈ config.capabilityOverrides.localLlmEndpoints,
          Clean endpoint.texts := by
    rw [RunnerCapabilities.discover, List.forall_mem_map]
    simp only [safe_endpoint_iff]
  have hagents : (∀ adapter ∈
      (RunnerCapabilities.discover host config).externalAgentAdapters,
        Safe adapter.toJson) ↔
        ∀ adapter ∈ config.capabilityOverrides.externalAgentAdapters,
          Clean adapter.texts := by
    rw [RunnerCapabilities.discover, List.forall_mem_map]
    simp only [safe_agent_iff]
  have hcommands : (∀ adapter ∈
      (RunnerCapabilities.discover host config).allowlistedCommandAdapters,
        Safe adapter.toJson) ↔
        ∀ adapter ∈ config.capabilityOverrides.allowlistedCommandAdapters,
          Clean adapter.texts := by
    rw [RunnerCapabilities.discover, List.forall_mem_map]
    simp only [safe_command_iff]
  have hzone : ¬ContainsSecret (RunnerCapabilities.discover host config).networkZone ↔
      Clean config.capabilityOverrides.networkZone.toList := by
    rw [RunnerCapabilities.discover]
    rcases config.capabilityOverrides.networkZone with _ | zone
    · simp [Clean, hclean]
    · simp [Clean]
  simp only [RunnerCapabilities.toJson, safe_object_iff, List.forall_mem_cons,
    safe_string_iff, safe_ofStrings_iff, safe_ofUInt64, safe_map_iff,
    iff_true_intro hgates, hendpoints, hagents, hcommands, hzone]
  simp [RunnerCapabilities.discover, PROTOCOL_VERSION, inventoryTexts, hclean,
    runtimes_clean, clean_cons_iff, clean_append_iff, clean_flatMap_iff]

/-! ### The diagnostics -/

theorem clean_runnerName_iff (config : RemoteConfig) :
    ¬ContainsSecret (runnerName config) ↔ Clean config.runnerId.toList := by
  have hclean := vocabulary_clean
  simp only [vocabulary, fixedTexts, clean_append_iff, clean_cons_iff] at hclean
  rw [runnerName]
  rcases config.runnerId with _ | name
  · simp [Clean, hclean]
  · simp [Clean]

theorem operatorDiagnostics_toJson (host : Host) (config : RemoteConfig)
    (options : DiagnosticsOptions) :
    (operatorDiagnostics host config options).toJson =
      ({ operatorSnapshot host config options with
        credentialRef := some "[REDACTED:credential_ref]" }.toJson).sorted := by
  rw [← redactSensitiveValues_snapshot, ← redactSensitiveValues_sorted]
  rfl

theorem safe_instruction_iff (instruction : LastValidInstruction) :
    Safe instruction.toJson ↔ Clean instruction.texts := by
  have hclean := vocabulary_clean
  simp only [vocabulary, diagnosticsNames, clean_append_iff, clean_cons_iff] at hclean
  simp [LastValidInstruction.toJson, LastValidInstruction.texts, safe_object_iff,
    safe_string_iff, clean_cons_iff, hclean]

theorem safe_state_iff (host : Host) (config : RemoteConfig) (options : DiagnosticsOptions) :
    Safe (operatorSnapshot host config options).heartbeatState.toJson ↔
      Clean options.quarantineReason.toList := by
  have hclean := vocabulary_clean
  simp only [vocabulary, diagnosticsNames, clean_append_iff, clean_cons_iff] at hclean
  have hhealth : ¬ContainsSecret options.health.name := by
    cases options.health <;> exact not_containsSecret_of_short (by decide)
  simp [operatorSnapshot, OperatorHeartbeatState.toJson, safe_object_iff, safe_string_iff,
    safe_ofStrings_iff, safe_ofUInt64, safe_ofOption_iff, clean_toList_iff,
    hclean, hhealth]

/-- The diagnostics are safe when the texts they take over are. -/
theorem safe_operatorDiagnostics_iff (host : Host) (config : RemoteConfig)
    (options : DiagnosticsOptions) :
    Safe (operatorDiagnostics host config options).toJson ↔
      Clean (diagnosticsTexts host config options) := by
  have hclean := vocabulary_clean
  simp only [vocabulary, diagnosticsNames, fixedTexts, clean_append_iff,
    clean_cons_iff] at hclean
  have hinventory : Safe (operatorSnapshot host config options).capabilityInventory.toJson ↔
      Clean (inventoryTexts host config) := safe_inventory_iff host config
  have hname : ¬ContainsSecret (operatorSnapshot host config options).runnerId ↔
      Clean config.runnerId.toList := clean_runnerName_iff config
  rw [operatorDiagnostics_toJson,
    safe_sorted_iff (OperatorDiagnosticsSnapshot.distinct _)]
  simp only [OperatorDiagnosticsSnapshot.toJson, safe_object_iff, List.forall_mem_cons,
    safe_string_iff, safe_ofOption_iff, safe_state_iff, safe_instruction_iff, hinventory,
    hname]
  simp [operatorSnapshot, RunnerCapabilities.discover, diagnosticsTexts, PROTOCOL_VERSION,
    DIAGNOSTICS_SCHEMA_VERSION, CARGO_PKG_VERSION, clean_cons_iff, clean_append_iff,
    clean_flatMap_iff, hclean]

/-! ### The events of a run -/

/-- The dispatch of a one-shot run. -/
def runDispatch (config : RemoteConfig) : JobDispatch :=
  rewriteDispatch config (runnerName config) bundledJob

theorem safe_registration_iff (host : Host) (config : RemoteConfig) :
    Safe (RunnerDaemon.new host config).registrationPayload.payload.toJson ↔
      Clean config.runnerId.toList ∧ Clean config.allowedWorkingGroups ∧
        ¬ContainsSecret config.registrationTokenEnv := by
  have hclean := vocabulary_clean
  simp only [vocabulary, diagnosticsNames, eventNames, clean_append_iff,
    clean_cons_iff] at hclean
  simp only [RunnerDaemon.registrationPayload, RunnerDaemon.new, ProtocolEnvelope.new,
    RegistrationRequest.toJson, safe_object_iff, List.forall_mem_cons, safe_string_iff,
    safe_ofOption_iff, safe_ofStrings_iff, clean_runnerName_iff]
  simp [clean_toList_iff, hclean]

theorem safe_heartbeat_iff (host : Host) (config : RemoteConfig) :
    Safe ((RunnerDaemon.new host config).heartbeat (runnerName config)).toJson ↔
      Clean config.runnerId.toList := by
  have hclean := vocabulary_clean
  simp only [vocabulary, diagnosticsNames, eventNames, fixedTexts, clean_append_iff,
    clean_cons_iff] at hclean
  simp [RunnerDaemon.heartbeat, RunnerDaemon.new, RunnerCapabilities.discover,
    PROTOCOL_VERSION, CARGO_PKG_VERSION, Heartbeat.toJson, RunnerHealth.name,
    safe_object_iff, safe_string_iff, safe_ofOption_iff, safe_ofStrings_iff,
    safe_ofUInt64, safe_ofInt64, clean_runnerName_iff, hclean]

theorem safe_lease_iff (config : RemoteConfig) :
    Safe (leaseAccepted (leaseFromDispatch (runDispatch config))
      (runnerName config)).payload.toJson ↔ Clean config.runnerId.toList := by
  have hclean := vocabulary_clean
  simp only [vocabulary, diagnosticsNames, eventNames, fixedTexts, clean_append_iff,
    clean_cons_iff] at hclean
  simp [leaseAccepted, ProtocolEnvelope.new, leaseFromDispatch, runDispatch,
    rewriteDispatch, bundledJob, echoDispatch, JobLeaseAcceptance.toJson,
    safe_object_iff, safe_string_iff, safe_ofOption_iff, safe_bool, clean_runnerName_iff,
    hclean]

theorem safe_progress_iff (config : RemoteConfig) (line : String) :
    Safe (ProgressUpdate.toJson {
      jobId := (runOutput (runDispatch config) line).outcome.jobId
      runnerId := runnerName config
      sequence := 1
      phase := "running"
      percent := 100 }) ↔ Clean config.runnerId.toList := by
  have hclean := vocabulary_clean
  simp only [vocabulary, diagnosticsNames, eventNames, fixedTexts, clean_append_iff,
    clean_cons_iff] at hclean
  simp [runOutput, runDispatch, rewriteDispatch, bundledJob, echoDispatch,
    ProgressUpdate.toJson, safe_object_iff, safe_string_iff, safe_ofUInt64,
    clean_runnerName_iff, hclean]

theorem safe_log_iff (chunk : LogChunk) :
    Safe chunk.toJson ↔
      Clean [chunk.jobId, chunk.runnerId, chunk.stream, chunk.line] := by
  have hclean := vocabulary_clean
  simp only [vocabulary, diagnosticsNames, eventNames, clean_append_iff,
    clean_cons_iff] at hclean
  simp [LogChunk.toJson, safe_object_iff, safe_string_iff, safe_ofUInt64, safe_bool,
    clean_cons_iff, hclean]

theorem safe_bundledLog_iff (config : RemoteConfig) :
    Safe (bundledLog (runnerName config)).toJson ↔ Clean config.runnerId.toList := by
  have hclean := vocabulary_clean
  simp only [vocabulary, fixedTexts, clean_append_iff, clean_cons_iff] at hclean
  simp [safe_log_iff, bundledLog, clean_cons_iff, clean_runnerName_iff, hclean]

theorem safe_artifact_iff (descriptor : ArtifactDescriptor) :
    Safe descriptor.toJson ↔
      Clean [descriptor.pathLabel, descriptor.contentType, descriptor.checksumSha256,
        descriptor.retentionPolicy] := by
  have hclean := vocabulary_clean
  simp only [vocabulary, diagnosticsNames, eventNames, clean_append_iff,
    clean_cons_iff] at hclean
  simp [ArtifactDescriptor.toJson, safe_object_iff, safe_string_iff, safe_ofUInt64,
    clean_cons_iff, hclean]

/-- The artifact descriptors of a run show nothing of its dispatch. -/
theorem safe_artifacts (dispatch : JobDispatch) (line : String) :
    ∀ descriptor ∈ (runOutput dispatch line).artifacts.artifacts,
      Safe descriptor.toJson := by
  have hclean := vocabulary_clean
  simp only [vocabulary, fixedTexts, clean_append_iff, clean_cons_iff] at hclean
  by_cases hnoop : dispatch.adapter = .noop
  · simp [runOutput, hnoop, safe_artifact_iff, clean_cons_iff, hclean]
  · simp [runOutput, hnoop, safe_artifact_iff, clean_cons_iff, hclean]

theorem safe_manifest_iff (config : RemoteConfig) (line : String) :
    Safe (runOutput (runDispatch config) line).artifacts.toJson ↔
      Clean config.runnerId.toList := by
  have hclean := vocabulary_clean
  simp only [vocabulary, diagnosticsNames, eventNames, fixedTexts, clean_append_iff,
    clean_cons_iff] at hclean
  have hartifacts := safe_artifacts (runDispatch config) line
  have hrunner : ¬ContainsSecret (runOutput (runDispatch config) line).artifacts.runnerId ↔
      Clean config.runnerId.toList := clean_runnerName_iff config
  simp only [ArtifactManifest.toJson, safe_object_iff, List.forall_mem_cons,
    safe_string_iff, safe_map_iff, iff_true_intro hartifacts, hrunner]
  simp [runOutput, runDispatch, rewriteDispatch, bundledJob, echoDispatch, hclean]

theorem safe_usage_iff (config : RemoteConfig) :
    Safe (usageReport (leaseFromDispatch (runDispatch config))
      (runnerName config)).toJson ↔ Clean config.runnerId.toList := by
  have hclean := vocabulary_clean
  simp only [vocabulary, diagnosticsNames, eventNames, fixedTexts, clean_append_iff,
    clean_cons_iff] at hclean
  simp [usageReport, leaseFromDispatch, runDispatch, rewriteDispatch, bundledJob,
    echoDispatch, UsageReport.toJson, USAGE_SCHEMA_VERSION, UsageAttemptStatus.name,
    safe_object_iff, safe_string_iff, safe_ofOption_iff, safe_ofUInt64,
    clean_runnerName_iff, hclean]

/-- The group a final result names is a configured one or the bundled one. -/
theorem clean_group {config : RemoteConfig} (h : Clean config.allowedWorkingGroups) :
    ¬ContainsSecret (runDispatch config).policy.workingGroupId := by
  have hclean := vocabulary_clean
  simp only [vocabulary, fixedTexts, clean_append_iff, clean_cons_iff] at hclean
  rcases hgroups : config.allowedWorkingGroups with _ | ⟨group, groups⟩
  · simp [runDispatch, rewriteDispatch, bundledJob, echoDispatch, hgroups, hclean]
  · rw [hgroups, clean_cons_iff] at h
    simpa [runDispatch, rewriteDispatch, hgroups] using h.1

theorem safe_audit_iff {config : RemoteConfig} (line : String)
    (h : Clean config.allowedWorkingGroups) :
    Safe (finalResult (runDispatch config) (runOutput (runDispatch config) line)
      (usageReport (leaseFromDispatch (runDispatch config)) (runnerName config))
        (runnerName config)).auditMetadata.toJson ↔
      Clean config.credentialPlaceholder.toList := by
  have hclean := vocabulary_clean
  simp only [vocabulary, diagnosticsNames, eventNames, fixedTexts, clean_append_iff,
    clean_cons_iff] at hclean
  have hgroup := clean_group h
  simp only [finalResult, AdapterExecutionMetadata.toJson, safe_object_iff,
    List.forall_mem_cons, safe_string_iff, safe_ofStrings_iff, clean_cons_iff,
    iff_true_intro hgroup]
  simp [runDispatch, rewriteDispatch, bundledJob, echoDispatch, AdapterKind.name,
    hclean]

theorem safe_finalResult_iff {config : RemoteConfig} (line : String)
    (h : Clean config.allowedWorkingGroups) :
    Safe (finalResult (runDispatch config) (runOutput (runDispatch config) line)
      (usageReport (leaseFromDispatch (runDispatch config)) (runnerName config))
        (runnerName config)).toJson ↔
      Clean config.runnerId.toList ∧ Clean config.credentialPlaceholder.toList := by
  have hclean := vocabulary_clean
  simp only [vocabulary, diagnosticsNames, eventNames, fixedTexts, clean_append_iff,
    clean_cons_iff] at hclean
  have hartifacts := safe_artifacts (runDispatch config) line
  have hphase : (runOutput (runDispatch config) line).outcome.state.name = "completed" := rfl
  have hjob : (runOutput (runDispatch config) line).outcome.jobId =
      "job_fixture_echo_001" := rfl
  simp only [AdapterResult.toJson, safe_object_iff, List.forall_mem_cons, safe_audit_iff line h]
  simp [finalResult, safe_string_iff, safe_map_iff, safe_usage_iff, safe_ofOption_iff,
    safe_ofInt64, clean_runnerName_iff, iff_true_intro hartifacts, hphase, hjob, hclean]

/-- An event shows what its payload is written as. -/
theorem safe_jsonEnvelope_iff {T : Type} {toJson : T → Json}
    {envelope : ProtocolEnvelope T} (h : (toJson envelope.payload).Distinct) :
    Safe (jsonEnvelope toJson envelope).payload.toJson ↔ Safe (toJson envelope.payload) :=
  safe_sorted_iff h

theorem clean_inventoryTexts_groups {host : Host} {config : RemoteConfig}
    (h : Clean (inventoryTexts host config)) : Clean config.allowedWorkingGroups := by
  rw [inventoryTexts, clean_append_iff] at h
  exact h.2

/-- The events of a run are safe when the texts they take over are. -/
theorem safe_events_iff (host : Host) (config : RemoteConfig) :
    (∀ events, (RunnerDaemon.new host config).runOnce = .ok events →
        ∀ event ∈ events, Safe event.payload.toJson) ↔
      Clean (runTexts host config) := by
  have hregistration := safe_registration_iff host config
  have hinventory := safe_inventory_iff host config
  have htexts : Clean (runTexts host config) ↔
      Clean (inventoryTexts host config) ∧ Clean config.runnerId.toList ∧
        ¬ContainsSecret config.registrationTokenEnv ∧
          Clean config.credentialPlaceholder.toList := by
    simp [runTexts, clean_append_iff, clean_cons_iff]
  rw [runOnce_eq, htexts]
  simp only [Except.ok.injEq, forall_eq', RunnerDaemon.evidence, List.forall_mem_cons,
    safe_jsonEnvelope_iff (RegistrationRequest.distinct _),
    safe_jsonEnvelope_iff (RunnerCapabilities.distinct _),
    safe_jsonEnvelope_iff (Heartbeat.distinct _),
    safe_jsonEnvelope_iff (JobLeaseAcceptance.distinct _),
    safe_jsonEnvelope_iff (ProgressUpdate.distinct _),
    safe_jsonEnvelope_iff (LogChunk.distinct _),
    safe_jsonEnvelope_iff (ArtifactManifest.distinct _),
    safe_jsonEnvelope_iff (UsageReport.distinct _),
    safe_jsonEnvelope_iff (AdapterResult.distinct _)]
  constructor
  · intro h
    obtain ⟨hfirst, hsecond, _, _, _, _, _, _, hlast, _⟩ := h
    obtain ⟨hrunner, hgroups, htoken⟩ := hregistration.mp hfirst
    obtain ⟨_, hcredential⟩ := (safe_finalResult_iff "hello from fixture" hgroups).mp hlast
    exact ⟨hinventory.mp hsecond, hrunner, htoken, hcredential⟩
  · intro h
    obtain ⟨hsecond, hrunner, htoken, hcredential⟩ := h
    have hgroups := clean_inventoryTexts_groups hsecond
    exact ⟨hregistration.mpr ⟨hrunner, hgroups, htoken⟩, hinventory.mpr hsecond,
      (safe_heartbeat_iff host config).mpr hrunner, (safe_lease_iff config).mpr hrunner,
      (safe_progress_iff config "hello from fixture").mpr hrunner,
      (safe_bundledLog_iff config).mpr hrunner,
      (safe_manifest_iff config "hello from fixture").mpr hrunner,
      (safe_usage_iff config).mpr hrunner,
      (safe_finalResult_iff "hello from fixture" hgroups).mpr ⟨hrunner, hcredential⟩,
      nofun⟩

/-! ### The evidence of an adapter run -/

theorem safe_output_iff {dispatch : JobDispatch} {line : String}
    (hline : adapterLine dispatch = .ok line) :
    (∀ output, runNoopOrEcho dispatch = .ok output →
        (∀ chunk ∈ output.logs, Safe chunk.toJson) ∧
          ∀ descriptor ∈ output.artifacts.artifacts, Safe descriptor.toJson) ↔
      ¬ContainsSecret dispatch.jobId ∧ ¬ContainsSecret dispatch.runnerId ∧
        ¬ContainsSecret line := by
  have hclean := vocabulary_clean
  simp only [vocabulary, fixedTexts, clean_append_iff, clean_cons_iff] at hclean
  have houtput : runNoopOrEcho dispatch = .ok (runOutput dispatch line) := by
    rw [runNoopOrEcho_eq, hline]
    rfl
  simp only [houtput, Except.ok.injEq, forall_eq', iff_true_intro (safe_artifacts dispatch line),
    and_true]
  simp [runOutput, safe_log_iff, clean_cons_iff, hclean]

/-- The logs and artifact descriptors of a run are safe when the texts they
take over are. -/
theorem safe_evidence_iff (dispatch : JobDispatch) :
    (∀ output, runNoopOrEcho dispatch = .ok output →
        (∀ chunk ∈ output.logs, Safe chunk.toJson) ∧
          ∀ descriptor ∈ output.artifacts.artifacts, Safe descriptor.toJson) ↔
      Clean (evidenceTexts dispatch) := by
  have hclean := vocabulary_clean
  simp only [vocabulary, fixedTexts, clean_append_iff, clean_cons_iff] at hclean
  cases hadapter : dispatch.adapter with
  | noop =>
      have hline : adapterLine dispatch =
          .ok "noop adapter completed without side effects" := by
        simp only [adapterLine, hadapter]
      simp [safe_output_iff hline, evidenceTexts, hadapter, clean_cons_iff, hclean]
  | echo =>
      have hline : adapterLine dispatch =
          .ok (((dispatch.input.toJson.get "echo").bind asStr).getD
            "echo adapter completed") := by
        simp only [adapterLine, hadapter]
      rw [safe_output_iff hline]
      rcases hecho : (dispatch.input.toJson.get "echo").bind asStr with _ | text
      · simp [evidenceTexts, hadapter, hecho, clean_cons_iff, hclean]
      · simp [evidenceTexts, hadapter, hecho, clean_cons_iff, clean_nil]
  | _ =>
      have hfails (output : AdapterRunOutput) : runNoopOrEcho dispatch ≠ .ok output := by
        rw [runNoopOrEcho_eq]
        simp [adapterLine, hadapter, bind, Except.bind]
      simp [hfails, evidenceTexts, hadapter, clean_nil]

/-! ### All reports -/

/-- No report carries a secret-shaped text. -/
structure ReportsClean (host : Host) (config : RemoteConfig) (options : DiagnosticsOptions)
    (dispatch : JobDispatch) : Prop where
  diagnostics : Safe (operatorDiagnostics host config options).toJson
  run : ∀ events, (RunnerDaemon.new host config).runOnce = .ok events →
    ∀ event ∈ events, Safe event.payload.toJson
  adapter : ∀ output, runNoopOrEcho dispatch = .ok output →
    (∀ chunk ∈ output.logs, Safe chunk.toJson) ∧
      ∀ descriptor ∈ output.artifacts.artifacts, Safe descriptor.toJson

/-- The texts that reach a report as they came in. -/
def reportedTexts (host : Host) (config : RemoteConfig) (options : DiagnosticsOptions)
    (dispatch : JobDispatch) : List String :=
  diagnosticsTexts host config options ++ runTexts host config ++ evidenceTexts dispatch

/-- Nothing is cut from the texts on their way: the reports carry no secret
exactly when none came in. -/
theorem reports_clean_iff (host : Host) (config : RemoteConfig)
    (options : DiagnosticsOptions) (dispatch : JobDispatch) :
    ReportsClean host config options dispatch ↔
      ∀ text ∈ reportedTexts host config options dispatch, ¬ContainsSecret text := by
  have htexts : (∀ text ∈ reportedTexts host config options dispatch,
      ¬ContainsSecret text) ↔
        (Clean (diagnosticsTexts host config options) ∧ Clean (runTexts host config)) ∧
          Clean (evidenceTexts dispatch) := by
    change Clean (reportedTexts host config options dispatch) ↔ _
    rw [reportedTexts, clean_append_iff, clean_append_iff]
  rw [htexts, ← safe_operatorDiagnostics_iff, ← safe_events_iff, ← safe_evidence_iff]
  constructor
  · intro h
    exact ⟨⟨h.diagnostics, h.run⟩, h.adapter⟩
  · intro h
    obtain ⟨⟨hdiagnostics, hrun⟩, hadapter⟩ := h
    exact ⟨hdiagnostics, hrun, hadapter⟩

/-! ### Reported secrets -/

def leakyConfig : RemoteConfig :=
  { exampleConfig with
    credentialPlaceholder := some "runner-scoped-ref-secret_fake000000000000000004" }

def leakyOptions : DiagnosticsOptions where
  quarantineReason := some "session cookie tok_fake00000000000000000002"

def leakyDispatch : JobDispatch :=
  { bundledJob with
    input := Value.ofJson (.object [("echo", .string "Bearer sk-fake00000000000000000001")]) }

/-- A quarantine reason, a credential reference and an echo text are reported
with the secrets in them. -/
theorem secrets_reported :
    leakyConfig.validate = .ok () ∧ leakyDispatch.adapter = .echo ∧
      ¬Safe (operatorDiagnostics bareHost leakyConfig leakyOptions).toJson ∧
      (¬∀ events, (RunnerDaemon.new bareHost leakyConfig).runOnce = .ok events →
        ∀ event ∈ events, Safe event.payload.toJson) ∧
      ¬∀ output, runNoopOrEcho leakyDispatch = .ok output →
        ∀ chunk ∈ output.logs, Safe chunk.toJson := by
  refine ⟨by decide, rfl, ?_, ?_, ?_⟩
  · intro h
    have htext : "session cookie tok_fake00000000000000000002" ∈
        diagnosticsTexts bareHost leakyConfig leakyOptions := by
      simp [diagnosticsTexts, leakyOptions]
    exact (safe_operatorDiagnostics_iff _ _ _).mp h _ htext (by decide +kernel)
  · intro h
    have htext : "runner-scoped-ref-secret_fake000000000000000004" ∈
        runTexts bareHost leakyConfig := by
      simp [runTexts, leakyConfig]
    exact (safe_events_iff _ _).mp h _ htext (by decide +kernel)
  · intro h
    have hrun : runNoopOrEcho leakyDispatch =
        .ok (runOutput leakyDispatch "Bearer sk-fake00000000000000000001") := by
      rw [runNoopOrEcho_eq]
      rfl
    have hlog := safe_log_iff _ |>.mp (h _ hrun _ (List.mem_singleton_self _))
    exact hlog "Bearer sk-fake00000000000000000001" (by simp) (by decide +kernel)

end Diagnostics

end RemoteRunner
