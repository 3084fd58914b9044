/-
The runner's configuration, the gates of its high-risk capabilities and the
inventory it discovers from the configuration and the host.
-/
import RemoteRunner.EarlyReturn
import RemoteRunner.RunnerMessages
import RemoteRunner.TextTrim

namespace RemoteRunner

namespace Runner

open Protocol

/-! ### Configuration -/

inductive EndpointHealthStatus where
  | healthy
  | degraded
  | unreachable
  | unknown
deriving DecidableEq

structure LocalLlmEndpointConfig where
  id : String
  provider : String
  baseUrl : String
  modelIds : List String
  healthStatus : EndpointHealthStatus
deriving DecidableEq

structure ExternalAgentAdapterConfig where
  id : String
  runtime : String
  commandLabel : String
  supportedIsolationModes : List String
  supportedNetworkModes : List String
deriving DecidableEq

structure AllowlistedCommandAdapterConfig where
  id : String
  commandLabel : String
  allowedArgs : List String
  allowedEnv : List String
deriving DecidableEq

structure CapabilityOverrides where
  networkZone : Option String := none
  localLlmEndpoints : List LocalLlmEndpointConfig := []
  externalAgentAdapters : List ExternalAgentAdapterConfig := []
  allowlistedCommandAdapters : List AllowlistedCommandAdapterConfig := []
  localTools : List String := []
  mcpHostModes : List String := []
deriving DecidableEq

structure RuntimeFeatureFlags where
  localToolsEnabled : Bool := false
  localLlmEnabled : Bool := false
  externalAgentAdaptersEnabled : Bool := false
  computerUseEnabled : Bool := false
deriving DecidableEq

structure RemoteConfig where
  controlPlaneUrl : String
  runnerId : Option String
  registrationTokenEnv : String
  credentialPlaceholder : Option String
  labels : List String := []
  maxConcurrency : UInt16 := 1
  allowedWorkingGroups : List String := []
  envAllowlist : List String := []
  riskyActionAllowlist : List String := []
  heartbeatIntervalSeconds : UInt64 := 30
  jobTimeoutSeconds : UInt64 := 1800
  capabilityOverrides : CapabilityOverrides := {}
  featureFlags : RuntimeFeatureFlags := {}
deriving DecidableEq

inductive ConfigError where
  | emptyControlPlaneUrl
  | emptyRegistrationTokenEnv
  | emptyConcurrency
deriving DecidableEq

/-- The text an error displays. -/
def ConfigError.message : ConfigError → String
  | .emptyControlPlaneUrl => "control_plane_url must not be empty"
  | .emptyRegistrationTokenEnv =>
      "registration_token_env must name an environment variable"
  | .emptyConcurrency => "max_concurrency must be greater than zero"

def RemoteConfig.validate (config : RemoteConfig) : Except ConfigError Unit := do
  rejectIf (trim config.controlPlaneUrl = "") .emptyControlPlaneUrl
  rejectIf (trim config.registrationTokenEnv = "") .emptyRegistrationTokenEnv
  rejectIf (config.maxConcurrency = 0) .emptyConcurrency

/-- The defaults of a configuration pass its own check. -/
theorem validate_defaults {controlPlaneUrl registrationTokenEnv : String}
    (hurl : trim controlPlaneUrl ≠ "") (henv : trim registrationTokenEnv ≠ "") :
    RemoteConfig.validate
      { controlPlaneUrl, runnerId := none, registrationTokenEnv,
        credentialPlaceholder := none } = .ok () := by
  rw [RemoteConfig.validate, rejectIf_neg hurl, rejectIf_neg henv]
  rfl

/-! ### Gates -/

inductive HighRiskCapability where
  | localToolExecution
  | localLlmExposure
  | externalAgentRuntimeAdapter
  | computerUseExecution
deriving DecidableEq

def HighRiskCapability.contractName : HighRiskCapability → String
  | .localToolExecution => "remote.local_tool_execution"
  | .localLlmExposure => "remote.local_llm_exposure"
  | .externalAgentRuntimeAdapter => "remote.external_agent_runtime_adapter"
  | .computerUseExecution => "remote.computer_use_execution"

def HighRiskCapability.featureFlag : HighRiskCapability → String
  | .localToolExecution => "remote.local_tools.enabled"
  | .localLlmExposure => "remote.local_llm.enabled"
  | .externalAgentRuntimeAdapter => "remote.external_agent_adapters.enabled"
  | .computerUseExecution => "remote.computer_use.enabled"

def HighRiskCapability.flagEnabled (flags : RuntimeFeatureFlags) :
    HighRiskCapability → Bool
  | .localToolExecution => flags.localToolsEnabled
  | .localLlmExposure => flags.localLlmEnabled
  | .externalAgentRuntimeAdapter => flags.externalAgentAdaptersEnabled
  | .computerUseExecution => flags.computerUseEnabled

inductive CapabilityGateDecision where
  | allowed
  | denied (capability : HighRiskCapability) (featureFlag reasonCode : String)
deriving DecidableEq

def evaluateHighRiskCapability (flags : RuntimeFeatureFlags) (policy : PolicySnapshot)
    (capability : HighRiskCapability) : CapabilityGateDecision :=
  if !capability.flagEnabled flags then
    .denied capability capability.featureFlag "feature_flag_disabled"
  else if !policy.allowedCapabilities.any fun allowed =>
      allowed == capability.contractName then
    .denied capability capability.featureFlag "policy_capability_not_allowed"
  else .allowed

/-- The gate opens when the runner's flag is on and the policy names the
capability. -/
theorem evaluateHighRiskCapability_eq_allowed_iff {flags : RuntimeFeatureFlags}
    {policy : PolicySnapshot} {capability : HighRiskCapability} :
    evaluateHighRiskCapability flags policy capability = .allowed ↔
      capability.flagEnabled flags = true ∧
        capability.contractName ∈ policy.allowedCapabilities := by
  by_cases hflag : capability.flagEnabled flags = true
  · by_cases hpolicy : capability.contractName ∈ policy.allowedCapabilities
    · simp [evaluateHighRiskCapability, hflag, hpolicy]
    · simp [evaluateHighRiskCapability, hflag, hpolicy]
  · simp [evaluateHighRiskCapability, hflag]

/-! ### Inventory -/

structure RuntimeCapabilityGate where
  capability : HighRiskCapability
  featureFlag : String
  enabled : Bool
  defaultPolicyEffect : String
deriving DecidableEq

structure LocalLlmEndpointCapability where
  id : String
  provider : String
  baseUrl : String
  modelIds : List String
  healthStatus : EndpointHealthStatus
  usageEventRequired : Bool
deriving DecidableEq

structure ExternalAgentAdapterCapability where
  id : String
  runtime : String
  commandLabel : String
  canMutateWorkspace : Bool
  supportedIsolationModes : List String
  supportedNetworkModes : List String
deriving DecidableEq

structure AllowlistedCommandAdapterCapability where
  id : String
  commandLabel : String
  allowedArgs : List String
  allowedEnv : List String
  canSpawnProcess : Bool
deriving DecidableEq

structure RunnerCapabilities where
  protocolVersion : String
  os : String
  architecture : String
  runtimes : List String
  localTools : List String
  mcpHostModes : List String
  localLlmEndpoints : List LocalLlmEndpointCapability
  externalAgentAdapters : List ExternalAgentAdapterCapability
  allowlistedCommandAdapters : List AllowlistedCommandAdapterCapability
  networkZone : String
  labels : List String
  maxConcurrency : UInt16
  allowedWorkingGroups : List String
  highRiskCapabilities : List RuntimeCapabilityGate
deriving DecidableEq

/-- What the runner learns from the machine it was built for and runs on. -/
structure Host where
  os : String
  architecture : String
  commandExists : String → Bool

def discoverRuntimes (host : Host) : List String :=
  ["rustc", "cargo", "node", "python3"].filter host.commandExists

def LocalLlmEndpointCapability.ofConfig (config : LocalLlmEndpointConfig) :
    LocalLlmEndpointCapability where
  id := config.id
  provider := config.provider
  baseUrl := config.baseUrl
  modelIds := config.modelIds
  healthStatus := config.healthStatus
  usageEventRequired := true

def ExternalAgentAdapterCapability.ofConfig (config : ExternalAgentAdapterConfig) :
    ExternalAgentAdapterCapability where
  id := config.id
  runtime := config.runtime
  commandLabel := config.commandLabel
  canMutateWorkspace := true
  supportedIsolationModes := config.supportedIsolationModes
  supportedNetworkModes := config.supportedNetworkModes

def AllowlistedCommandAdapterCapability.ofConfig
    (config : AllowlistedCommandAdapterConfig) :
    AllowlistedCommandAdapterCapability where
  id := config.id
  commandLabel := config.commandLabel
  allowedArgs := config.allowedArgs
  allowedEnv := config.allowedEnv
  canSpawnProcess := true

def RunnerCapabilities.discover (host : Host) (config : RemoteConfig) :
    RunnerCapabilities where
  protocolVersion := PROTOCOL_VERSION
  os := host.os
  architecture := host.architecture
  runtimes := discoverRuntimes host
  localTools := config.capabilityOverrides.localTools
  mcpHostModes := config.capabilityOverrides.mcpHostModes
  localLlmEndpoints := config.capabilityOverrides.localLlmEndpoints.map .ofConfig
  externalAgentAdapters := config.capabilityOverrides.externalAgentAdapters.map .ofConfig
  allowlistedCommandAdapters :=
    config.capabilityOverrides.allowlistedCommandAdapters.map .ofConfig
  networkZone := config.capabilityOverrides.networkZone.getD "unknown"
  labels := config.labels
  maxConcurrency := config.maxConcurrency
  allowedWorkingGroups := config.allowedWorkingGroups
  highRiskCapabilities := [
    { capability := .localToolExecution
      featureFlag := "remote.local_tools.enabled"
      enabled := config.featureFlags.localToolsEnabled
      defaultPolicyEffect := "deny" },
    { capability := .localLlmExposure
      featureFlag := "remote.local_llm.enabled"
      enabled := config.featureFlags.localLlmEnabled
      defaultPolicyEffect := "deny" },
    { capability := .externalAgentRuntimeAdapter
      featureFlag := "remote.external_agent_adapters.enabled"
      enabled := config.featureFlags.externalAgentAdaptersEnabled
      defaultPolicyEffect := "deny" },
    { capability := .computerUseExecution
      featureFlag := "remote.computer_use.enabled"
      enabled := config.featureFlags.computerUseEnabled
      defaultPolicyEffect := "deny" }]

/-- Every gate reports the flag of its capability as the gate reads it. -/
theorem gate_of_discover {host : Host} {config : RemoteConfig}
    {gate : RuntimeCapabilityGate}
    (h : gate ∈ (RunnerCapabilities.discover host config).highRiskCapabilities) :
    gate.featureFlag = gate.capability.featureFlag ∧
      gate.enabled = gate.capability.flagEnabled config.featureFlags := by
  simp only [RunnerCapabilities.discover, List.mem_cons, List.not_mem_nil, or_false] at h
  rcases h with rfl | rfl | rfl | rfl <;> exact ⟨rfl, rfl⟩

/-! ### Written forms -/

open Json

def EndpointHealthStatus.name : EndpointHealthStatus → String
  | .healthy => "healthy"
  | .degraded => "degraded"
  | .unreachable => "unreachable"
  | .unknown => "unknown"

def HighRiskCapability.name : HighRiskCapability → String
  | .localToolExecution => "local_tool_execution"
  | .localLlmExposure => "local_llm_exposure"
  | .externalAgentRuntimeAdapter => "external_agent_runtime_adapter"
  | .computerUseExecution => "computer_use_execution"

def RuntimeCapabilityGate.toJson (gate : RuntimeCapabilityGate) : Json :=
  .object [
    ("capability", .string gate.capability.name),
    ("feature_flag", .string gate.featureFlag),
    ("enabled", .bool gate.enabled),
    ("default_policy_effect", .string gate.defaultPolicyEffect)]

def LocalLlmEndpointCapability.toJson (endpoint : LocalLlmEndpointCapability) : Json :=
  .object [
    ("id", .string endpoint.id),
    ("provider", .string endpoint.provider),
    ("base_url", .string endpoint.baseUrl),
    ("model_ids", ofStrings endpoint.modelIds),
    ("health_status", .string endpoint.healthStatus.name),
    ("usage_event_required", .bool endpoint.usageEventRequired)]

def ExternalAgentAdapterCapability.toJson (adapter : ExternalAgentAdapterCapability) :
    Json :=
  .object [
    ("id", .string adapter.id),
    ("runtime", .string adapter.runtime),
    ("command_label", .string adapter.commandLabel),
    ("can_mutate_workspace", .bool adapter.canMutateWorkspace),
    ("supported_isolation_modes", ofStrings adapter.supportedIsolationModes),
    ("supported_network_modes", ofStrings adapter.supportedNetworkModes)]

def AllowlistedCommandAdapterCapability.toJson
    (adapter : AllowlistedCommandAdapterCapability) : Json :=
  .object [
    ("id", .string adapter.id),
    ("command_label", .string adapter.commandLabel),
    ("allowed_args", ofStrings adapter.allowedArgs),
    ("allowed_env", ofStrings adapter.allowedEnv),
    ("can_spawn_process", .bool adapter.canSpawnProcess)]

def RunnerCapabilities.toJson (capabilities : RunnerCapabilities) : Json :=
  .object [
    ("protocol_version", .string capabilities.protocolVersion),
    ("os", .string capabilities.os),
    ("architecture", .string capabilities.architecture),
    ("runtimes", ofStrings capabilities.runtimes),
    ("local_tools", ofStrings capabilities.localTools),
    ("mcp_host_modes", ofStrings capabilities.mcpHostModes),
    ("local_llm_endpoints",
      .array (capabilities.localLlmEndpoints.map LocalLlmEndpointCapability.toJson)),
    ("external_agent_adapters",
      .array (capabilities.externalAgentAdapters.map
        ExternalAgentAdapterCapability.toJson)),
    ("allowlisted_command_adapters",
      .array (capabilities.allowlistedCommandAdapters.map
        AllowlistedCommandAdapterCapability.toJson)),
    ("network_zone", .string capabilities.networkZone),
    ("labels", ofStrings capabilities.labels),
    ("max_concurrency", ofUInt64 capabilities.maxConcurrency.toUInt64),
    ("allowed_working_groups", ofStrings capabilities.allowedWorkingGroups),
    ("high_risk_capabilities",
      .array (capabilities.highRiskCapabilities.map RuntimeCapabilityGate.toJson))]

/-- The configuration of `examples/remote.toml`. -/
def exampleConfig : RemoteConfig where
  controlPlaneUrl := "https://app.taskotter.example/api/remote"
  runnerId := some "local-dev-runner"
  registrationTokenEnv := "TASKOTTER_REMOTE_REGISTRATION_TOKEN"
  credentialPlaceholder := some "runner-scoped-credential-ref"
  labels := ["local", "dev"]
  maxConcurrency := 1
  allowedWorkingGroups := ["wg-dev"]
  envAllowlist := ["PATH", "HOME", "TMPDIR"]
  riskyActionAllowlist := ["read_workspace", "write_job_workspace"]
  heartbeatIntervalSeconds := 30
  jobTimeoutSeconds := 1800
  capabilityOverrides := {
    networkZone := some "private-local"
    localTools := ["git", "cargo"]
    mcpHostModes := ["stdio"]
    localLlmEndpoints := [{
      id := "ollama-local"
      provider := "ollama"
      baseUrl := "http://127.0.0.1:11434"
      modelIds := ["llama3.2"]
      healthStatus := .unknown }]
    externalAgentAdapters := [{
      id := "codex-local"
      runtime := "codex"
      commandLabel := "codex"
      supportedIsolationModes := ["temporary_isolated"]
      supportedNetworkModes := ["deny_all"] }]
    allowlistedCommandAdapters := [{
      id := "cargo-test"
      commandLabel := "cargo"
      allowedArgs := ["test"]
      allowedEnv := ["PATH", "TMPDIR"] }] }

/-- A host without any of the probed commands. -/
def bareHost : Host where
  os := "linux"
  architecture := "x86_64"
  commandExists _ := false

end Runner

end RemoteRunner
