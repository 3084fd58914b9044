/-
Loading a configuration file: defaults for members that are left out, the
checks a loaded configuration has passed, and what a file must say before the
runner plans a high-risk adapter.
-/
import RemoteRunner.AdapterPlanning
import RemoteRunner.RunnerWire
import RemoteRunner.WireDefaults

namespace RemoteRunner

open WireField WireRecord

namespace Runner

/-! ### The documents of configurations

Every codec reads the same documents; `omits` only chooses which members are
left out of the written one when they have their defaults. -/

def EndpointHealthStatus.configCodec : Codec EndpointHealthStatus :=
  .tableEnumeration all name mem_all name_injective

section Codecs

variable (omits : String → Bool)

def LocalLlmEndpointConfig.codec : Codec LocalLlmEndpointConfig :=
  (cons (required "id" .string) <|
    cons (required "provider" .string) <|
    cons (required "base_url" .string) <|
    cons (withDefault omits "model_ids" (.vec .string) []) <|
    cons (withDefault omits "health_status" EndpointHealthStatus.configCodec .unknown)
      nil).toCodec.iso
    (fun (id, provider, baseUrl, modelIds, healthStatus, _) =>
      { id, provider, baseUrl, modelIds, healthStatus })
    (fun endpoint => (endpoint.id, endpoint.provider, endpoint.baseUrl,
      endpoint.modelIds, endpoint.healthStatus, ()))
    (fun _ => rfl) (fun _ => rfl)

def ExternalAgentAdapterConfig.codec : Codec ExternalAgentAdapterConfig :=
  (cons (required "id" .string) <|
    cons (required "runtime" .string) <|
    cons (required "command_label" .string) <|
    cons (withDefault omits "supported_isolation_modes" (.vec .string) []) <|
    cons (withDefault omits "supported_network_modes" (.vec .string) [])
      nil).toCodec.iso
    (fun (id, runtime, commandLabel, supportedIsolationModes, supportedNetworkModes, _) =>
      { id, runtime, commandLabel, supportedIsolationModes, supportedNetworkModes })
    (fun adapter => (adapter.id, adapter.runtime, adapter.commandLabel,
      adapter.supportedIsolationModes, adapter.supportedNetworkModes, ()))
    (fun _ => rfl) (fun _ => rfl)

def AllowlistedCommandAdapterConfig.codec : Codec AllowlistedCommandAdapterConfig :=
  (cons (required "id" .string) <|
    cons (required "command_label" .string) <|
    cons (withDefault omits "allowed_args" (.vec .string) []) <|
    cons (withDefault omits "allowed_env" (.vec .string) []) nil).toCodec.iso
    (fun (id, commandLabel, allowedArgs, allowedEnv, _) =>
      { id, commandLabel, allowedArgs, allowedEnv })
    (fun adapter => (adapter.id, adapter.commandLabel, adapter.allowedArgs,
      adapter.allowedEnv, ()))
    (fun _ => rfl) (fun _ => rfl)

def CapabilityOverrides.codec : Codec CapabilityOverrides :=
  (cons (omittedIfNone "network_zone" .string Codec.string_decode_null) <|
    cons (withDefault omits "local_llm_endpoints"
      (.vec (LocalLlmEndpointConfig.codec omits)) []) <|
    cons (withDefault omits "external_agent_adapters"
      (.vec (ExternalAgentAdapterConfig.codec omits)) []) <|
    cons (withDefault omits "allowlisted_command_adapters"
      (.vec (AllowlistedCommandAdapterConfig.codec omits)) []) <|
    cons (withDefault omits "local_tools" (.vec .string) []) <|
    cons (withDefault omits "mcp_host_modes" (.vec .string) []) nil).toCodec.iso
    (fun (networkZone, localLlmEndpoints, externalAgentAdapters,
        allowlistedCommandAdapters, localTools, mcpHostModes, _) =>
      { networkZone, localLlmEndpoints, externalAgentAdapters,
        allowlistedCommandAdapters, localTools, mcpHostModes })
    (fun overrides => (overrides.networkZone, overrides.localLlmEndpoints,
      overrides.externalAgentAdapters, overrides.allowlistedCommandAdapters,
      overrides.localTools, overrides.mcpHostModes, ()))
    (fun _ => rfl) (fun _ => rfl)

def RuntimeFeatureFlags.codec : Codec RuntimeFeatureFlags :=
  (cons (withDefault omits "local_tools_enabled" .bool false) <|
    cons (withDefault omits "local_llm_enabled" .bool false) <|
    cons (withDefault omits "external_agent_adapters_enabled" .bool false) <|
    cons (withDefault omits "computer_use_enabled" .bool false) nil).toCodec.iso
    (fun (localToolsEnabled, localLlmEnabled, externalAgentAdaptersEnabled,
        computerUseEnabled, _) =>
      { localToolsEnabled, localLlmEnabled, externalAgentAdaptersEnabled,
        computerUseEnabled })
    (fun flags => (flags.localToolsEnabled, flags.localLlmEnabled,
      flags.externalAgentAdaptersEnabled, flags.computerUseEnabled, ()))
    (fun _ => rfl) (fun _ => rfl)

def defaultMaxConcurrency : UInt16 := 1

def defaultHeartbeatIntervalSeconds : UInt64 := 30

def defaultJobTimeoutSeconds : UInt64 := 1800

def RemoteConfig.codec : Codec RemoteConfig :=
  (cons (required "control_plane_url" .string) <|
    cons (omittedIfNone "runner_id" .string Codec.string_decode_null) <|
    cons (required "registration_token_env" .string) <|
    cons (omittedIfNone "credential_placeholder" .string Codec.string_decode_null) <|
    cons (withDefault omits "labels" (.vec .string) []) <|
    cons (withDefault omits "max_concurrency" .u16 defaultMaxConcurrency) <|
    cons (withDefault omits "allowed_working_groups" (.vec .string) []) <|
    cons (withDefault omits "env_allowlist" (.vec .string) []) <|
    cons (withDefault omits "risky_action_allowlist" (.vec .string) []) <|
    cons (withDefault omits "heartbeat_interval_seconds" .u64
      defaultHeartbeatIntervalSeconds) <|
    cons (withDefault omits "job_timeout_seconds" .u64 defaultJobTimeoutSeconds) <|
    cons (withDefault omits "capability_overrides" (CapabilityOverrides.codec omits) {}) <|
    cons (withDefault omits "feature_flags" (RuntimeFeatureFlags.codec omits) {})
      nil).toCodec.iso
    (fun (controlPlaneUrl, runnerId, registrationTokenEnv, credentialPlaceholder, labels,
        maxConcurrency, allowedWorkingGroups, envAllowlist, riskyActionAllowlist,
        heartbeatIntervalSeconds, jobTimeoutSeconds, capabilityOverrides,
        featureFlags, _) =>
      { controlPlaneUrl, runnerId, registrationTokenEnv, credentialPlaceholder, labels,
        maxConcurrency, allowedWorkingGroups, envAllowlist, riskyActionAllowlist,
        heartbeatIntervalSeconds, jobTimeoutSeconds, capabilityOverrides, featureFlags })
    (fun config => (config.controlPlaneUrl, config.runnerId, config.registrationTokenEnv,
      config.credentialPlaceholder, config.labels, config.maxConcurrency,
      config.allowedWorkingGroups, config.envAllowlist, config.riskyActionAllowlist,
      config.heartbeatIntervalSeconds, config.jobTimeoutSeconds,
      config.capabilityOverrides, config.featureFlags, ()))
    (fun _ => rfl) (fun _ => rfl)

end Codecs

/-! ### Loading -/

/-- The TOML library: the document of a text, and what it says of a document
that is no configuration. -/
structure Toml where
  parse : String → Except String Json
  mismatch : Json → String

inductive ConfigLoadError where
  | read (reason : String)
  | parse (reason : String)
  | invalid (error : ConfigError)
deriving DecidableEq

/-- The text an error displays. -/
def ConfigLoadError.message : ConfigLoadError → String
  | .read reason => "failed to read config: " ++ reason
  | .parse reason => "failed to parse TOML config: " ++ reason
  | .invalid error => error.message

def RemoteConfig.ofDocument (document : Json) : Option RemoteConfig :=
  (RemoteConfig.codec fun _ => false).decode document

def RemoteConfig.fromTomlStr (toml : Toml) (raw : String) :
    Except ConfigLoadError RemoteConfig := do
  let document ← (toml.parse raw).mapError .parse
  let config ← okOr (RemoteConfig.ofDocument document) (.parse (toml.mismatch document))
  config.validate.mapError .invalid
  return config

def RemoteConfig.fromPath (readToString : String → Except String String) (toml : Toml)
    (path : String) : Except ConfigLoadError RemoteConfig := do
  let raw ← (readToString path).mapError .read
  RemoteConfig.fromTomlStr toml raw

theorem RemoteConfig.codec_decode (omits : String → Bool) :
    (RemoteConfig.codec omits).decode = RemoteConfig.ofDocument := rfl

theorem validate_eq_ok_iff {config : RemoteConfig} :
    config.validate = .ok () ↔ trim config.controlPlaneUrl ≠ "" ∧
      trim config.registrationTokenEnv ≠ "" ∧ config.maxConcurrency ≠ 0 := by
  simp only [RemoteConfig.validate, bind_eq_ok_iff, rejectIf_eq_ok_iff]
  simp

theorem fromTomlStr_eq_ok_iff {toml : Toml} {raw : String} {config : RemoteConfig} :
    RemoteConfig.fromTomlStr toml raw = .ok config ↔
      ∃ document, toml.parse raw = .ok document ∧
        RemoteConfig.ofDocument document = some config ∧ config.validate = .ok () := by
  simp only [RemoteConfig.fromTomlStr, bind_eq_ok_iff, mapError_eq_ok_iff,
    okOr_eq_ok_iff]
  constructor
  · rintro ⟨document, hparse, _, hdecode, _, hvalid, heq⟩
    obtain rfl := Except.ok.inj heq
    exact ⟨document, hparse, hdecode, hvalid⟩
  · rintro ⟨document, hparse, hdecode, hvalid⟩
    exact ⟨document, hparse, config, hdecode, (), hvalid, rfl⟩

theorem fromTomlStr_of_document {toml : Toml} {raw : String} {document : Json}
    {config : RemoteConfig} (hparse : toml.parse raw = .ok document)
    (hdecode : RemoteConfig.ofDocument document = some config) :
    RemoteConfig.fromTomlStr toml raw =
      (config.validate.mapError .invalid).map fun _ => config := by
  rw [RemoteConfig.fromTomlStr, hparse]
  change (okOr (RemoteConfig.ofDocument document) _ >>= _) = _
  rw [hdecode]
  change ((config.validate.mapError ConfigLoadError.invalid) >>= fun _ => pure config) = _
  cases config.validate.mapError ConfigLoadError.invalid <;> rfl

/-- A file lays a configuration out: members in any order, any of them added
that the runner does not know, and any that have their default left out. -/
def LaysOut (document : Json) (config : RemoteConfig) : Prop :=
  ∃ omits, Json.Reorder ((RemoteConfig.codec omits).encode config)
    ((RemoteConfig.codec omits).prune document)

theorem LaysOut.ofDocument {document : Json} {config : RemoteConfig}
    (h : LaysOut document config) : RemoteConfig.ofDocument document = some config := by
  obtain ⟨omits, hreorder⟩ := h
  rw [← RemoteConfig.codec_decode omits, ← (RemoteConfig.codec omits).decode_prune]
  exact (RemoteConfig.codec omits).decode_reorder hreorder

/-- What loading promises of a file that can be read and parsed. -/
structure LoadsBack (readToString : String → Except String String) (toml : Toml) : Prop where
  /-- A file that lays a configuration out loads as it, or is refused by its
  first failing check. -/
  complete : ∀ path raw document config, readToString path = .ok raw →
    toml.parse raw = .ok document → LaysOut document config →
    RemoteConfig.fromPath readToString toml path =
      (config.validate.mapError .invalid).map fun _ => config
  /-- What is loaded was read from a document, and every bound holds of it. -/
  sound : ∀ path config, RemoteConfig.fromPath readToString toml path = .ok config →
    (∃ raw document, readToString path = .ok raw ∧ toml.parse raw = .ok document ∧
      RemoteConfig.ofDocument document = some config) ∧
    trim config.controlPlaneUrl ≠ "" ∧ trim config.registrationTokenEnv ≠ "" ∧
    config.maxConcurrency ≠ 0
  /-- No document lays out two configurations. -/
  unambiguous : ∀ document first second, LaysOut document first →
    LaysOut document second → first = second
  /-- Loading stops at the first step that fails. -/
  refused : ∀ path error, RemoteConfig.fromPath readToString toml path = .error error →
    match error with
    | .read reason => readToString path = .error reason
    | .parse reason => ∃ raw, readToString path = .ok raw ∧
        (toml.parse raw = .error reason ∨ ∃ document, toml.parse raw = .ok document ∧
          RemoteConfig.ofDocument document = none ∧ toml.mismatch document = reason)
    | .invalid reason => ∃ raw document config, readToString path = .ok raw ∧
        toml.parse raw = .ok document ∧ RemoteConfig.ofDocument document = some config ∧
          config.validate = .error reason

end Runner

end RemoteRunner
