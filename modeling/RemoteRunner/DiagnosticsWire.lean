/-
What an operator can read off the diagnostics: the whole snapshot but the
credential reference, and of that reference nothing, not even whether there is
one.
-/
import RemoteRunner.ReportDocuments
import RemoteRunner.RunnerWire

namespace RemoteRunner

open WireField WireRecord

namespace Diagnostics

open Protocol Runner Daemon

def LastValidInstruction.codec : Codec LastValidInstruction :=
  (cons (required "instruction_id" .string) <|
    cons (required "message_type" .string) <|
    cons (required "protocol_version" .string) nil).toCodec.iso
    (fun (instructionId, messageType, protocolVersion, _) =>
      { instructionId, messageType, protocolVersion })
    (fun instruction => (instruction.instructionId, instruction.messageType,
      instruction.protocolVersion, ()))
    (fun _ => rfl) (fun _ => rfl)

def OperatorHeartbeatState.codec : Codec OperatorHeartbeatState :=
  (cons (required "health" RunnerHealth.codec) <|
    cons (required "active_job_ids" (.vec .string)) <|
    cons (required "available_concurrency" .u16) <|
    cons (required "resource_pressure" (.vec .string)) <|
    cons (optional "last_error_category" ErrorCategory.codec
      ErrorCategory.codec_decode_null) <|
    cons (optional "quarantine_reason" .string Codec.string_decode_null)
      nil).toCodec.iso
    (fun (health, activeJobIds, availableConcurrency, resourcePressure,
        lastErrorCategory, quarantineReason, _) =>
      { health, activeJobIds, availableConcurrency, resourcePressure,
        lastErrorCategory, quarantineReason })
    (fun state => (state.health, state.activeJobIds, state.availableConcurrency,
      state.resourcePressure, state.lastErrorCategory, state.quarantineReason, ()))
    (fun _ => rfl) (fun _ => rfl)

def OperatorDiagnosticsSnapshot.codec : Codec OperatorDiagnosticsSnapshot :=
  (cons (required "schema_version" .string) <|
    cons (required "protocol_version" .string) <|
    cons (required "capability_inventory_version" .string) <|
    cons (required "daemon_version" .string) <|
    cons (required "runner_id" .string) <|
    cons (required "control_plane_url" .string) <|
    cons (required "registration_token_env_name" .string) <|
    cons (optional "credential_ref" .string Codec.string_decode_null) <|
    cons (optional "last_valid_instruction" LastValidInstruction.codec rfl) <|
    cons (required "heartbeat_state" OperatorHeartbeatState.codec) <|
    cons (required "capability_inventory" RunnerCapabilities.codec) nil).toCodec.iso
    (fun (schemaVersion, protocolVersion, capabilityInventoryVersion, daemonVersion,
        runnerId, controlPlaneUrl, registrationTokenEnvName, credentialRef,
        lastValidInstruction, heartbeatState, capabilityInventory, _) =>
      { schemaVersion, protocolVersion, capabilityInventoryVersion, daemonVersion,
        runnerId, controlPlaneUrl, registrationTokenEnvName, credentialRef,
        lastValidInstruction, heartbeatState, capabilityInventory })
    (fun snapshot => (snapshot.schemaVersion, snapshot.protocolVersion,
      snapshot.capabilityInventoryVersion, snapshot.daemonVersion, snapshot.runnerId,
      snapshot.controlPlaneUrl, snapshot.registrationTokenEnvName,
      snapshot.credentialRef, snapshot.lastValidInstruction, snapshot.heartbeatState,
      snapshot.capabilityInventory, ()))
    (fun _ => rfl) (fun _ => rfl)

theorem OperatorDiagnosticsSnapshot.codec_writes :
    Writes OperatorDiagnosticsSnapshot.codec OperatorDiagnosticsSnapshot.toJson :=
  fun _ => rfl

/-- The snapshot as the diagnostics show it. -/
def OperatorDiagnosticsSnapshot.shown (snapshot : OperatorDiagnosticsSnapshot) :
    OperatorDiagnosticsSnapshot :=
  { snapshot with credentialRef := some "[REDACTED:credential_ref]" }

theorem operatorDiagnostics_eq_shown (host : Host) (config : RemoteConfig)
    (options : DiagnosticsOptions) :
    (operatorDiagnostics host config options).toJson =
      (operatorSnapshot host config options).shown.toJson.sorted := by
  rw [OperatorDiagnosticsSnapshot.shown, ← redactSensitiveValues_snapshot,
    ← redactSensitiveValues_sorted]
  rfl

/-- The configuration without its credential. -/
def withoutCredential (config : RemoteConfig) : RemoteConfig :=
  { config with credentialPlaceholder := none }

/-- Two runners show the same diagnostics exactly when their snapshots are the same
but for the credential reference. -/
theorem operatorDiagnostics_eq_iff {host host' : Host} {config config' : RemoteConfig}
    {options options' : DiagnosticsOptions} :
    operatorDiagnostics host config options = operatorDiagnostics host' config' options' ↔
      (operatorSnapshot host config options).shown =
        (operatorSnapshot host' config' options').shown := by
  have htexts := operatorDiagnostics_eq_shown host config options
  have htexts' := operatorDiagnostics_eq_shown host' config' options'
  constructor
  · intro h
    apply OperatorDiagnosticsSnapshot.codec_writes.readsBack.injective
    rw [← htexts, ← htexts', h]
  · intro h
    apply Subtype.ext
    change (operatorDiagnostics host config options).toJson =
      (operatorDiagnostics host' config' options').toJson
    rw [htexts, htexts', h]

theorem operatorDiagnostics_withoutCredential (host : Host) (config : RemoteConfig)
    (options : DiagnosticsOptions) :
    operatorDiagnostics host config options =
      operatorDiagnostics host (withoutCredential config) options :=
  operatorDiagnostics_eq_iff.mpr rfl

/-- Diagnostics printed in any member order, and with members added, read back as
the snapshot with its credential reference replaced; they are the same for two
runners exactly when the snapshots are the same but for that reference; and they
are those of the configuration without a credential. -/
theorem operator_diagnostics_read_back (host : Host) (config : RemoteConfig)
    (options : DiagnosticsOptions) :
    (∀ document : Json,
      Json.Reorder (operatorDiagnostics host config options).toJson
          (OperatorDiagnosticsSnapshot.codec.prune document) →
        OperatorDiagnosticsSnapshot.codec.decode document =
          some (operatorSnapshot host config options).shown) ∧
      (∀ (otherHost : Host) (otherConfig : RemoteConfig)
        (otherOptions : DiagnosticsOptions),
        operatorDiagnostics host config options =
            operatorDiagnostics otherHost otherConfig otherOptions ↔
          (operatorSnapshot host config options).shown =
            (operatorSnapshot otherHost otherConfig otherOptions).shown) ∧
      operatorDiagnostics host config options =
        operatorDiagnostics host (withoutCredential config) options := by
  refine ⟨?_, fun _ _ _ => operatorDiagnostics_eq_iff,
    operatorDiagnostics_withoutCredential host config options⟩
  intro document hreorder
  apply OperatorDiagnosticsSnapshot.codec_writes.readsBack.tolerant
  have hdistinct := OperatorDiagnosticsSnapshot.codec.encode_distinct
    (operatorSnapshot host config options).shown
  rw [OperatorDiagnosticsSnapshot.codec_writes] at hdistinct
  rw [operatorDiagnostics_eq_shown] at hreorder
  exact hdistinct.reorder_sorted.trans hreorder

end Diagnostics

end RemoteRunner
