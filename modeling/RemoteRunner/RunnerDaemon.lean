/-
The one-shot daemon: the bundled dispatch rewritten from the configuration, and
the evidence events of its run.
-/
import RemoteRunner.AdapterPlanning
import RemoteRunner.DispatchAssumptions
import RemoteRunner.JobRun

namespace RemoteRunner

namespace Daemon

open Protocol Runner Job DispatchAuth

/-- The document of `fixtures/control-plane/job-dispatch-echo.json`. -/
def bundledDispatch : Json :=
  .object [
    ("protocol_version", .string "remote.v1alpha1"),
    ("message_type", .string "job.dispatch"),
    ("payload", .object [
      ("lease_id", .string "lease_fixture_001"),
      ("job_id", .string "job_fixture_echo_001"),
      ("runner_id", .string "local-dev-runner"),
      ("correlation_id", .string "corr_fixture_echo_001"),
      ("idempotency_key", .string "idem_fixture_echo_001"),
      ("adapter", .string "echo"),
      ("input", .object [("echo", .string "hello from fixture")]),
      ("timeout_seconds", .number (.posInt 60)),
      ("policy", .object [
        ("policy_version", .string "policy_fixture_v1"),
        ("working_group_id", .string "wg-dev"),
        ("allowed_capabilities", .array [.string "echo"]),
        ("risky_actions", .array [.string "write_job_workspace"]),
        ("workspace", .object [
          ("workspace_id", .string "workspace_fixture_001"),
          ("root_strategy", .string "temporary_isolated"),
          ("allowed_env", .array [.string "PATH", .string "TMPDIR"]),
          ("scoped_credential_ref", .string "runner-scoped-credential-ref"),
          ("artifact_path_allowlist", .array [.string "stdout.txt"])]),
        ("network", .object [
          ("mode", .string "deny_all"),
          ("allowed_targets", .array [])])])])]

inductive DaemonError where
  | dispatchFixture
  | jobState (error : JobStateError)
  | missingLog
deriving DecidableEq

/-- The text an error displays; a missing log is an index out of bounds. -/
def DaemonError.message : DaemonError → String
  | .dispatchFixture => "failed to load bundled job dispatch fixture"
  | .jobState error => error.message
  | .missingLog => "index out of bounds: the len is 0 but the index is 0"

structure RunnerDaemon where
  config : RemoteConfig
  capabilities : RunnerCapabilities

def RunnerDaemon.new (host : Host) (config : RemoteConfig) : RunnerDaemon where
  config
  capabilities := .discover host config

/-- The name a runner goes by, registered or not. -/
def runnerName (config : RemoteConfig) : String :=
  config.runnerId.getD "unregistered-local-runner"

def RunnerDaemon.registrationPayload (daemon : RunnerDaemon) :
    ProtocolEnvelope RegistrationRequest :=
  .new "runner.registration.request" {
    runnerId := daemon.config.runnerId
    displayName := runnerName daemon.config
    requestedWorkingGroups := daemon.config.allowedWorkingGroups
    registrationTokenEnv := daemon.config.registrationTokenEnv }

def RunnerDaemon.capabilitySnapshotPayload (daemon : RunnerDaemon) :
    ProtocolEnvelope RunnerCapabilities :=
  .new "runner.capability.snapshot" daemon.capabilities

/-- The fields of a dispatch that are taken from the configuration. -/
def rewriteDispatch (config : RemoteConfig) (runnerId : String)
    (dispatch : JobDispatch) : JobDispatch :=
  { dispatch with
    runnerId
    timeoutSeconds := config.jobTimeoutSeconds
    policy := { dispatch.policy with
      riskyActions := config.riskyActionAllowlist
      workingGroupId :=
        config.allowedWorkingGroups.head?.getD dispatch.policy.workingGroupId
      workspace := { dispatch.policy.workspace with
        allowedEnv := config.envAllowlist
        scopedCredentialRef := config.credentialPlaceholder } } }

def RunnerDaemon.exampleDispatch (daemon : RunnerDaemon) (runnerId : String) :
    Except DaemonError JobDispatch := do
  let envelope ← okOr (dispatchCodec.decode bundledDispatch) .dispatchFixture
  return rewriteDispatch daemon.config runnerId envelope.payload

def jsonEnvelope {T : Type} (toJson : T → Json) (envelope : ProtocolEnvelope T) :
    ProtocolEnvelope Value where
  protocolVersion := envelope.protocolVersion
  messageType := envelope.messageType
  payload := .ofJson (toJson envelope.payload)

def CARGO_PKG_VERSION : String := "0.1.0"

def usageReport (lease : JobLease) (runnerId : String) : UsageReport where
  schemaVersion := USAGE_SCHEMA_VERSION
  jobId := lease.jobId
  runnerId
  requestId := none
  correlationId := some lease.correlationId
  status := .succeeded
  durationMs := 0
  cpuTimeMs := none
  peakMemoryBytes := none
  promptTokens := 0
  completionTokens := 0
  estimatedCostMicroUsd := 0

def finalResult (dispatch : JobDispatch) (output : AdapterRunOutput)
    (usage : UsageReport) (runnerId : String) : AdapterResult where
  jobId := output.outcome.jobId
  runnerId
  phase := output.outcome.state
  exitCode := output.outcome.exitCode
  usage
  artifacts := output.artifacts.artifacts
  auditMetadata := {
    adapterId := "echo"
    adapterKind := dispatch.adapter
    isolationMode := dispatch.policy.workspace.rootStrategy
    networkMode := dispatch.policy.network.mode
    scopedCredentialRefs := dispatch.policy.workspace.scopedCredentialRef.toList
    auditLabels := [dispatch.policy.policyVersion, dispatch.policy.workingGroupId] }

def RunnerDaemon.heartbeat (daemon : RunnerDaemon) (runnerId : String) : Heartbeat where
  runnerId
  capabilityInventoryVersion := daemon.capabilities.protocolVersion
  daemonVersion := CARGO_PKG_VERSION
  health := .online
  activeJobIds := []
  availableConcurrency := daemon.config.maxConcurrency
  clockSkewMs := 0
  resourcePressure := []
  lastErrorCategory := none

def leaseAccepted (lease : JobLease) (runnerId : String) :
    ProtocolEnvelope JobLeaseAcceptance :=
  .new "job.lease.accepted" {
    leaseId := lease.leaseId
    jobId := lease.jobId
    runnerId
    accepted := true
    reason := none }

/-- The events of a run, in the order they are sent. -/
def RunnerDaemon.evidence (daemon : RunnerDaemon) (runnerId : String)
    (dispatch : JobDispatch) (output : AdapterRunOutput) (log : LogChunk) :
    List (ProtocolEnvelope Value) :=
  let lease := leaseFromDispatch dispatch
  let usage := usageReport lease runnerId
  [jsonEnvelope RegistrationRequest.toJson daemon.registrationPayload,
    jsonEnvelope RunnerCapabilities.toJson daemon.capabilitySnapshotPayload,
    jsonEnvelope Heartbeat.toJson (.new "runner.heartbeat" (daemon.heartbeat runnerId)),
    jsonEnvelope JobLeaseAcceptance.toJson (leaseAccepted lease runnerId),
    jsonEnvelope ProgressUpdate.toJson (.new "job.progress" {
      jobId := output.outcome.jobId
      runnerId
      sequence := 1
      phase := "running"
      percent := 100 }),
    jsonEnvelope LogChunk.toJson (.new "job.log" log),
    jsonEnvelope ArtifactManifest.toJson (.new "job.artifacts" output.artifacts),
    jsonEnvelope UsageReport.toJson (.new "job.usage.report" usage),
    jsonEnvelope AdapterResult.toJson
      (.new "job.final_result" (finalResult dispatch output usage runnerId))]

/-- A refusal of the job ends the daemon's run. -/
def ofJob {α : Type} : Except JobStateError α → Except DaemonError α
  | .ok value => .ok value
  | .error error => .error (.jobState error)

def RunnerDaemon.runOnce (daemon : RunnerDaemon) :
    Except DaemonError (List (ProtocolEnvelope Value)) := do
  let runnerId := runnerName daemon.config
  let dispatch ← daemon.exampleDispatch runnerId
  let output ← ofJob (runNoopOrEcho dispatch)
  let log ← okOr output.logs.head? .missingLog
  return daemon.evidence runnerId dispatch output log

/-! ### The run -/

/-- The dispatch of the bundled document, before it is rewritten. -/
def bundledJob : JobDispatch :=
  (echoDispatch "local-dev-runner" "job_fixture_echo_001" "idem_fixture_echo_001").payload

theorem decode_bundledDispatch :
    dispatchCodec.decode bundledDispatch =
      some (echoDispatch "local-dev-runner" "job_fixture_echo_001"
        "idem_fixture_echo_001") := by
  decide

theorem exampleDispatch_eq (daemon : RunnerDaemon) (runnerId : String) :
    daemon.exampleDispatch runnerId =
      .ok (rewriteDispatch daemon.config runnerId bundledJob) := by
  rw [RunnerDaemon.exampleDispatch, decode_bundledDispatch]
  rfl

/-- The log of the bundled job under a runner's name. -/
def bundledLog (runnerId : String) : LogChunk where
  jobId := "job_fixture_echo_001"
  runnerId
  sequence := 1
  stream := "stdout"
  redacted := false
  line := "hello from fixture"

/-- The run never fails: its events are those of the rewritten bundled job. -/
theorem runOnce_eq (daemon : RunnerDaemon) :
    daemon.runOnce =
      .ok (daemon.evidence (runnerName daemon.config)
        (rewriteDispatch daemon.config (runnerName daemon.config) bundledJob)
        (runOutput (rewriteDispatch daemon.config (runnerName daemon.config) bundledJob)
          "hello from fixture")
        (bundledLog (runnerName daemon.config))) := by
  rw [RunnerDaemon.runOnce, exampleDispatch_eq]
  simp only [runNoopOrEcho_eq]
  rfl

end Daemon

end RemoteRunner
