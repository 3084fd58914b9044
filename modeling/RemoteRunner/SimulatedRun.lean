/-
Simulated ends of a noop job, and the evidence both kinds of run leave behind.
-/
import RemoteRunner.EarlyReturn
import RemoteRunner.JobRun

namespace RemoteRunner

namespace Job

open Protocol

inductive SimulatedTerminalOutcome where
  | succeeded
  | failed
  | cancelled
  | timedOut
deriving DecidableEq

namespace SimulatedTerminalOutcome

/-- The final phase, the exit code, the message, and the stream and line of the
log. -/
def report : SimulatedTerminalOutcome →
    JobLifecyclePhase × Option Int32 × String × String × String
  | succeeded => (.completed, some 0, "local noop lifecycle completed", "stdout",
      "noop adapter completed without side effects")
  | failed => (.failed, some 1, "local noop lifecycle failed before result upload",
      "stderr", "noop simulation injected deterministic failure")
  | cancelled => (.cancelled, none,
      "local noop lifecycle cancelled by control plane request", "stderr",
      "noop simulation observed operator_requested cancellation")
  | timedOut => (.timedOut, none, "local noop lifecycle exceeded dispatch timeout",
      "stderr", "noop simulation exceeded 30 second timeout")

/-- The transitions from a running job to its end. -/
def finish (lifecycle : JobLifecycle) :
    SimulatedTerminalOutcome → Except JobStateError JobLifecycle
  | succeeded => do
      let lifecycle ← lifecycle.enter .streamingLogs
      let lifecycle ← lifecycle.enter .uploadingArtifacts
      let lifecycle ← lifecycle.enter .reportingUsage
      lifecycle.enter .succeeded
  | failed => lifecycle.enter .failed
  | cancelled => lifecycle.enter .cancelled
  | timedOut => lifecycle.enter .timedOut

/-- The artifacts of an end whose log holds this line. -/
def artifacts (line : String) : SimulatedTerminalOutcome → List ArtifactDescriptor
  | succeeded => [{
      pathLabel := "stdout.txt"
      contentType := "text/plain"
      sizeBytes := UInt64.ofNat line.utf8ByteSize
      checksumSha256 :=
        "08d9d37a1d9dbc2108aad0cecc04503b2a6bbd699a266f151f928988af025d5f"
      retentionPolicy := "working_group_private" }]
  | failed | cancelled | timedOut => []

end SimulatedTerminalOutcome

/-- The evidence of a simulated end. -/
def simulatedOutput (dispatch : JobDispatch) (terminal : SimulatedTerminalOutcome) :
    AdapterRunOutput :=
  let (finalState, exitCode, message, stream, line) := terminal.report
  { outcome := {
      jobId := dispatch.jobId
      runnerId := dispatch.runnerId
      correlationId := dispatch.correlationId
      state := finalState
      exitCode
      message }
    logs := [{
      jobId := dispatch.jobId
      runnerId := dispatch.runnerId
      sequence := 1
      stream
      redacted := false
      line }]
    artifacts := {
      jobId := dispatch.jobId
      runnerId := dispatch.runnerId
      artifacts := terminal.artifacts line } }

def simulateNoopLifecycle (dispatch : JobDispatch)
    (terminal : SimulatedTerminalOutcome) : Except JobStateError AdapterRunOutput := do
  rejectIf (dispatch.adapter ≠ .noop) (.unsupportedAdapter dispatch.adapter)
  let lifecycle ← (default : JobLifecycle).enter .heartbeating
  let lifecycle ← lifecycle.enter .leased
  let lifecycle ← lifecycle.enter .preparingWorkspace
  let lifecycle ← lifecycle.enter .running
  let _ ← terminal.finish lifecycle
  return simulatedOutput dispatch terminal

/-- Every simulated end is reached over edges, so only the adapter kind can be
refused. -/
theorem simulateNoopLifecycle_eq (dispatch : JobDispatch)
    (terminal : SimulatedTerminalOutcome) :
    simulateNoopLifecycle dispatch terminal =
      if dispatch.adapter = .noop then .ok (simulatedOutput dispatch terminal)
      else .error (.unsupportedAdapter dispatch.adapter) := by
  by_cases hnoop : dispatch.adapter = .noop
  · rw [simulateNoopLifecycle, rejectIf_neg (not_not_intro hnoop), if_pos hnoop]
    cases terminal <;> rfl
  · rw [simulateNoopLifecycle, rejectIf_pos hnoop, if_neg hnoop]
    rfl

/-- The evidence is the dispatch's own, with one log line that every artifact
has the size of. -/
structure SelfConsistent (dispatch : JobDispatch) (output : AdapterRunOutput) :
    Prop where
  outcome : output.outcome.jobId = dispatch.jobId ∧
    output.outcome.runnerId = dispatch.runnerId
  manifest : output.artifacts.jobId = dispatch.jobId ∧
    output.artifacts.runnerId = dispatch.runnerId
  log : ∃ log, output.logs = [log] ∧ log.jobId = dispatch.jobId ∧
    log.runnerId = dispatch.runnerId ∧
    ∀ descriptor ∈ output.artifacts.artifacts,
      descriptor.sizeBytes = UInt64.ofNat log.line.utf8ByteSize

/-- The artifacts of a run are the printed line and nothing else. -/
def OnlyStdout (output : AdapterRunOutput) : Prop :=
  ∀ descriptor ∈ output.artifacts.artifacts, descriptor.pathLabel = "stdout.txt"

/-- Every artifact is listed in the artifact allowlist of the policy. -/
def WithinAllowlist (dispatch : JobDispatch) (output : AdapterRunOutput) : Prop :=
  ∀ descriptor ∈ output.artifacts.artifacts,
    descriptor.pathLabel ∈ dispatch.policy.workspace.artifactPathAllowlist

theorem runOutput_consistent (dispatch : JobDispatch) (line : String) :
    SelfConsistent dispatch (runOutput dispatch line) ∧
      OnlyStdout (runOutput dispatch line) := by
  refine ⟨⟨⟨rfl, rfl⟩, ⟨rfl, rfl⟩, _, rfl, rfl, rfl, ?_⟩, ?_⟩
  · simp [runOutput]
  · simp [OnlyStdout, runOutput]

theorem simulatedOutput_consistent (dispatch : JobDispatch)
    (terminal : SimulatedTerminalOutcome) :
    SelfConsistent dispatch (simulatedOutput dispatch terminal) ∧
      OnlyStdout (simulatedOutput dispatch terminal) := by
  have hartifacts : ∀ line, ∀ descriptor ∈ terminal.artifacts line,
      descriptor.sizeBytes = UInt64.ofNat line.utf8ByteSize ∧
        descriptor.pathLabel = "stdout.txt" := by
    intro line
    cases terminal with
    | succeeded => simp [SimulatedTerminalOutcome.artifacts]
    | failed | cancelled | timedOut => simp [SimulatedTerminalOutcome.artifacts]
  refine ⟨⟨⟨rfl, rfl⟩, ⟨rfl, rfl⟩, _, rfl, rfl, rfl, ?_⟩, ?_⟩
  · exact fun descriptor hdescriptor => (hartifacts _ descriptor hdescriptor).1
  · exact fun descriptor hdescriptor => (hartifacts _ descriptor hdescriptor).2

/-- Output of either kind of run is consistent, and names the standard output
as its only artifact. -/
theorem run_evidence (dispatch : JobDispatch) :
    (∀ output, runNoopOrEcho dispatch = .ok output →
        SelfConsistent dispatch output ∧ OnlyStdout output) ∧
      ∀ terminal output, simulateNoopLifecycle dispatch terminal = .ok output →
        SelfConsistent dispatch output ∧ OnlyStdout output := by
  constructor
  · intro output hrun
    rw [runNoopOrEcho_eq, bind_eq_ok_iff] at hrun
    obtain ⟨line, _, houtput⟩ := hrun
    obtain rfl := Except.ok.inj houtput
    exact runOutput_consistent dispatch line
  · intro terminal output hrun
    rw [simulateNoopLifecycle_eq] at hrun
    split at hrun
    · obtain rfl := Except.ok.inj hrun
      exact simulatedOutput_consistent dispatch terminal
    · cases hrun

/-- The noop fixture with an empty artifact allowlist. -/
def unlistedDispatch : JobDispatch where
  leaseId := "lease_fixture_noop_001"
  jobId := "job_fixture_noop_001"
  runnerId := "local-dev-runner"
  correlationId := "corr_fixture_noop_001"
  idempotencyKey := "idem_fixture_noop_001"
  adapter := .noop
  input := Value.ofJson (.object [])
  timeoutSeconds := 30
  policy := {
    policyVersion := "policy_fixture_v1"
    workingGroupId := "wg-dev"
    allowedCapabilities := ["noop"]
    riskyActions := []
    workspace := {
      workspaceId := "workspace_fixture_001"
      rootStrategy := "temporary_isolated"
      allowedEnv := []
      scopedCredentialRef := none
      artifactPathAllowlist := [] }
    network := { mode := "deny_all", allowedTargets := [] } }
  signedInstruction := none

/-- Both runs report an artifact that the allowlist does not list. -/
theorem stdout_reported_unlisted :
    (∃ output, runNoopOrEcho unlistedDispatch = .ok output ∧
        ¬WithinAllowlist unlistedDispatch output) ∧
      ∃ output, simulateNoopLifecycle unlistedDispatch .succeeded = .ok output ∧
        ¬WithinAllowlist unlistedDispatch output := by
  constructor
  · refine ⟨_, runNoopOrEcho_eq unlistedDispatch, ?_⟩
    simp [WithinAllowlist, runOutput, unlistedDispatch]
  · refine ⟨_, simulateNoopLifecycle_eq unlistedDispatch .succeeded, ?_⟩
    simp [WithinAllowlist, simulatedOutput, SimulatedTerminalOutcome.artifacts,
      unlistedDispatch]

end Job

end RemoteRunner
