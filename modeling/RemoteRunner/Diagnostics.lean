/-
The operator's diagnostics: the snapshot of a runner with the values of its
sensitive members replaced.
-/
import RemoteRunner.JsonTexts
import RemoteRunner.RunnerDaemon

namespace RemoteRunner

namespace Diagnostics

open Protocol Runner Daemon Json OrderedEntries

def DIAGNOSTICS_SCHEMA_VERSION : String := "runner_operator_diagnostics.v1"

structure LastValidInstruction where
  instructionId : String
  messageType : String
  protocolVersion : String
deriving DecidableEq

structure OperatorHeartbeatState where
  health : RunnerHealth
  activeJobIds : List String
  availableConcurrency : UInt16
  resourcePressure : List String
  lastErrorCategory : Option ErrorCategory
  quarantineReason : Option String
deriving DecidableEq

structure OperatorDiagnosticsSnapshot where
  schemaVersion : String
  protocolVersion : String
  capabilityInventoryVersion : String
  daemonVersion : String
  runnerId : String
  controlPlaneUrl : String
  registrationTokenEnvName : String
  credentialRef : Option String
  lastValidInstruction : Option LastValidInstruction
  heartbeatState : OperatorHeartbeatState
  capabilityInventory : RunnerCapabilities
deriving DecidableEq

structure DiagnosticsOptions where
  health : RunnerHealth := .online
  quarantineReason : Option String := none
  lastValidInstruction : Option LastValidInstruction := some {
    instructionId := "fixture:control-plane/job-dispatch-echo"
    messageType := "job.dispatch"
    protocolVersion := PROTOCOL_VERSION }
deriving DecidableEq

def LastValidInstruction.toJson (instruction : LastValidInstruction) : Json :=
  .object [
    ("instruction_id", .string instruction.instructionId),
    ("message_type", .string instruction.messageType),
    ("protocol_version", .string instruction.protocolVersion)]

def OperatorHeartbeatState.toJson (state : OperatorHeartbeatState) : Json :=
  .object [
    ("health", .string state.health.name),
    ("active_job_ids", ofStrings state.activeJobIds),
    ("available_concurrency", ofUInt64 state.availableConcurrency.toUInt64),
    ("resource_pressure", ofStrings state.resourcePressure),
    ("last_error_category",
      ofOption (fun category => .string category.name) state.lastErrorCategory),
    ("quarantine_reason", ofOption .string state.quarantineReason)]

def OperatorDiagnosticsSnapshot.toJson (snapshot : OperatorDiagnosticsSnapshot) : Json :=
  .object [
    ("schema_version", .string snapshot.schemaVersion),
    ("protocol_version", .string snapshot.protocolVersion),
    ("capability_inventory_version", .string snapshot.capabilityInventoryVersion),
    ("daemon_version", .string snapshot.daemonVersion),
    ("runner_id", .string snapshot.runnerId),
    ("control_plane_url", .string snapshot.controlPlaneUrl),
    ("registration_token_env_name", .string snapshot.registrationTokenEnvName),
    ("credential_ref", ofOption .string snapshot.credentialRef),
    ("last_valid_instruction",
      ofOption LastValidInstruction.toJson snapshot.lastValidInstruction),
    ("heartbeat_state", snapshot.heartbeatState.toJson),
    ("capability_inventory", snapshot.capabilityInventory.toJson)]

def isSensitiveKey (key : String) : Bool :=
  let normalized := key.toList.map Char.toLower
  ["token", "secret", "password", "passwd", "api_key", "apikey", "private_key",
      "credential", "credentials", "credential_ref", "scoped_credential_ref"].any
    (fun name => name.toList == normalized) ||
  ["_token", "_secret", "_password", "_api_key"].any
    fun ending => ending.toList.isSuffixOf normalized

mutual

/-- Replace the values of the sensitive members, at any depth. -/
def redactSensitiveValues : Json → Json
  | .object members => .object (redactSensitiveMembers members)
  | .array items => .array (redactSensitiveItems items)
  | other => other

def redactSensitiveItems : List Json → List Json
  | [] => []
  | item :: items => redactSensitiveValues item :: redactSensitiveItems items

def redactSensitiveMembers : List (String × Json) → List (String × Json)
  | [] => []
  | (key, child) :: members =>
      (key, if isSensitiveKey key then .string ("[REDACTED:" ++ key ++ "]")
        else redactSensitiveValues child) :: redactSensitiveMembers members

end

/-- What a member shows after the redaction. -/
def redactedMember (key : String) (child : Json) : Json :=
  if isSensitiveKey key then .string ("[REDACTED:" ++ key ++ "]")
  else redactSensitiveValues child

@[simp] theorem redactSensitiveValues_null : redactSensitiveValues .null = .null := by
  simp [redactSensitiveValues]

@[simp] theorem redactSensitiveValues_bool (value : Bool) :
    redactSensitiveValues (.bool value) = .bool value := by
  simp [redactSensitiveValues]

@[simp] theorem redactSensitiveValues_number (value : Number) :
    redactSensitiveValues (.number value) = .number value := by
  simp [redactSensitiveValues]

@[simp] theorem redactSensitiveValues_string (text : String) :
    redactSensitiveValues (.string text) = .string text := by
  simp [redactSensitiveValues]

@[simp] theorem redactSensitiveValues_array (items : List Json) :
    redactSensitiveValues (.array items) = .array (items.map redactSensitiveValues) := by
  rw [redactSensitiveValues]
  induction items with
  | nil => rfl
  | cons item items ih =>
      rw [redactSensitiveItems, List.map_cons, Json.array.inj ih]

@[simp] theorem redactSensitiveValues_object (members : List (String × Json)) :
    redactSensitiveValues (.object members) =
      .object (members.map fun member => (member.1, redactedMember member.1 member.2)) := by
  rw [redactSensitiveValues]
  induction members with
  | nil => rfl
  | cons member members ih =>
      rw [redactSensitiveMembers, List.map_cons, Json.object.inj ih, redactedMember]

/-- Redaction and sorting commute. -/
theorem redactSensitiveValues_sorted (document : Json) :
    redactSensitiveValues document.sorted = (redactSensitiveValues document).sorted := by
  induction document with
  | null | bool _ | number _ | string _ => simp
  | array items ih =>
      simp only [sorted_array, redactSensitiveValues_array, List.map_map,
        Json.array.injEq]
      exact List.map_congr_left ih
  | object members ih =>
      simp only [sorted_object, redactSensitiveValues_object, map_collect, List.map_map]
      congr 2
      apply List.map_congr_left
      intro member hmember
      by_cases hsensitive : isSensitiveKey member.1 = true
      · simp [redactedMember, hsensitive]
      · simp [redactedMember, hsensitive, ih member hmember]

def operatorSnapshot (host : Host) (config : RemoteConfig)
    (options : DiagnosticsOptions) : OperatorDiagnosticsSnapshot :=
  let capabilities := RunnerCapabilities.discover host config
  { schemaVersion := DIAGNOSTICS_SCHEMA_VERSION
    protocolVersion := PROTOCOL_VERSION
    capabilityInventoryVersion := capabilities.protocolVersion
    daemonVersion := CARGO_PKG_VERSION
    runnerId := runnerName config
    controlPlaneUrl := config.controlPlaneUrl
    registrationTokenEnvName := config.registrationTokenEnv
    credentialRef := config.credentialPlaceholder.map fun _ => "[REDACTED:credential_ref]"
    lastValidInstruction := options.lastValidInstruction
    heartbeatState := {
      health := options.health
      activeJobIds := []
      availableConcurrency := config.maxConcurrency
      resourcePressure := []
      lastErrorCategory := none
      quarantineReason := options.quarantineReason }
    capabilityInventory := capabilities }

/-- The snapshot as a value, redacted in place. -/
def operatorDiagnostics (host : Host) (config : RemoteConfig)
    (options : DiagnosticsOptions) : Value :=
  let value := Value.ofJson (operatorSnapshot host config options).toJson
  ⟨redactSensitiveValues value.toJson, by
    rw [← redactSensitiveValues_sorted, value.toJson_sorted]⟩

end Diagnostics

end RemoteRunner
