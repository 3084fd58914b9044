/-
Running the adapters without side effects: the lease a dispatch grants, the
line its adapter prints and the evidence of the run.
-/
import RemoteRunner.JobLifecycle
import RemoteRunner.RunnerMessages

namespace RemoteRunner

namespace Job

open Protocol

structure JobLease where
  leaseId : String
  jobId : String
  runnerId : String
  workingGroupId : String
  correlationId : String
  timeoutSeconds : UInt64
  allowedEnv : List String
  riskyActions : List String
deriving DecidableEq

structure JobOutcome where
  jobId : String
  runnerId : String
  correlationId : String
  state : JobLifecyclePhase
  exitCode : Option Int32
  message : String
deriving DecidableEq

structure AdapterRunOutput where
  outcome : JobOutcome
  logs : List LogChunk
  artifacts : ArtifactManifest
deriving DecidableEq

def leaseFromDispatch (dispatch : JobDispatch) : JobLease where
  leaseId := dispatch.leaseId
  jobId := dispatch.jobId
  runnerId := dispatch.runnerId
  workingGroupId := dispatch.policy.workingGroupId
  correlationId := dispatch.correlationId
  timeoutSeconds := dispatch.timeoutSeconds
  allowedEnv := dispatch.policy.workspace.allowedEnv
  riskyActions := dispatch.policy.riskyActions

/-- A transition whose refusal ends the call. -/
def JobLifecycle.enter (lifecycle : JobLifecycle) (target : JobState) :
    Except JobStateError JobLifecycle :=
  match lifecycle.transition target with
  | (.ok (), next) => .ok next
  | (.error error, _) => .error error

/-- The line the adapter of a dispatch prints. -/
def adapterLine (dispatch : JobDispatch) : Except JobStateError String :=
  match dispatch.adapter with
  | .noop => .ok "noop adapter completed without side effects"
  | .echo =>
      .ok (((dispatch.input.toJson.get "echo").bind Json.asStr).getD
        "echo adapter completed")
  | adapter => .error (.unsupportedAdapter adapter)

/-- The evidence of a run that printed one line. -/
def runOutput (dispatch : JobDispatch) (line : String) : AdapterRunOutput where
  outcome := {
    jobId := dispatch.jobId
    runnerId := dispatch.runnerId
    correlationId := dispatch.correlationId
    state := .completed
    exitCode := some 0
    message := "local echo lifecycle completed" }
  logs := [{
    jobId := dispatch.jobId
    runnerId := dispatch.runnerId
    sequence := 1
    stream := "stdout"
    redacted := false
    line }]
  artifacts := {
    jobId := dispatch.jobId
    runnerId := dispatch.runnerId
    artifacts := [{
      pathLabel := "stdout.txt"
      contentType := "text/plain"
      sizeBytes := UInt64.ofNat line.utf8ByteSize
      checksumSha256 :=
        if dispatch.adapter = .noop then
          "08d9d37a1d9dbc2108aad0cecc04503b2a6bbd699a266f151f928988af025d5f"
        else "placeholder-not-uploaded"
      retentionPolicy := "working_group_private" }] }

def runNoopOrEcho (dispatch : JobDispatch) : Except JobStateError AdapterRunOutput := do
  let lifecycle ← (default : JobLifecycle).enter .heartbeating
  let lifecycle ← lifecycle.enter .leased
  let lifecycle ← lifecycle.enter .preparingWorkspace
  let lifecycle ← lifecycle.enter .running
  let line ← adapterLine dispatch
  let lifecycle ← lifecycle.enter .streamingLogs
  let lifecycle ← lifecycle.enter .uploadingArtifacts
  let lifecycle ← lifecycle.enter .reportingUsage
  let _ ← lifecycle.enter .succeeded
  return runOutput dispatch line

/-- Only the adapter can fail a run: every transition it makes is an edge. -/
theorem runNoopOrEcho_eq (dispatch : JobDispatch) :
    runNoopOrEcho dispatch =
      adapterLine dispatch >>= fun line => .ok (runOutput dispatch line) := by
  cases hline : adapterLine dispatch with
  | error error =>
      simp only [runNoopOrEcho, hline]
      rfl
  | ok line =>
      simp only [runNoopOrEcho, hline]
      rfl

end Job

end RemoteRunner
