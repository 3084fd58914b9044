/-
What planning promises the rest of the system: the control plane can predict it
from the snapshot a runner sent, and the executor runs exactly what it lets
through without any authority.
-/
import RemoteRunner.HttpsFallback
import RemoteRunner.PlanningOrder
import RemoteRunner.SimulatedRun

namespace RemoteRunner

namespace Adapters

open Protocol Runner Daemon Job

/-! ### The snapshot -/

/-- The snapshot reports this capability's gate as enabled. -/
def gateEnabled (capabilities : RunnerCapabilities) (capability : HighRiskCapability) :
    Bool :=
  capabilities.highRiskCapabilities.any fun gate =>
    gate.capability = capability && gate.enabled

/-- The flags of the runner that took a snapshot. -/
def snapshotFlags (capabilities : RunnerCapabilities) : RuntimeFeatureFlags where
  localToolsEnabled := gateEnabled capabilities .localToolExecution
  localLlmEnabled := gateEnabled capabilities .localLlmExposure
  externalAgentAdaptersEnabled := gateEnabled capabilities .externalAgentRuntimeAdapter
  computerUseEnabled := gateEnabled capabilities .computerUseExecution

/-- Planning as the receiver of a snapshot can do it. -/
def planFromSnapshot (document : Json) (dispatch : JobDispatch) :
    Option (Except AdapterContractError AdapterExecutionPlan) :=
  (RunnerCapabilities.codec.decode document).map fun capabilities =>
    planAdapterExecution dispatch capabilities (snapshotFlags capabilities)

theorem snapshotFlags_discover (host : Host) (config : RemoteConfig) :
    snapshotFlags (.discover host config) = config.featureFlags := by
  simp [snapshotFlags, gateEnabled, RunnerCapabilities.discover]

theorem planFromSnapshot_of_decode {host : Host} {config : RemoteConfig} {document : Json}
    (h : RunnerCapabilities.codec.decode document = some (.discover host config))
    (dispatch : JobDispatch) :
    planFromSnapshot document dispatch =
      some (planAdapterExecution dispatch (.discover host config) config.featureFlags) := by
  rw [planFromSnapshot, h, Option.map_some, snapshotFlags_discover]

/-- What the snapshot of a runner says about its planning. -/
structure SnapshotPredicts (host : Host) (config : RemoteConfig) : Prop where
  /-- Whatever way the snapshot is laid out when it arrives, it predicts the
  decision on every dispatch, plan or refusal. -/
  received : ∀ document, Json.Reorder (RunnerCapabilities.discover host config).toJson
    (RunnerCapabilities.codec.prune document) → ∀ dispatch,
      planFromSnapshot document dispatch =
        some (planAdapterExecution dispatch (.discover host config) config.featureFlags)
  /-- So does the event of a run. -/
  sent : ∀ dispatch, planFromSnapshot (jsonEnvelope RunnerCapabilities.toJson
      (RunnerDaemon.new host config).capabilitySnapshotPayload).payload.toJson dispatch =
    some (planAdapterExecution dispatch (.discover host config) config.featureFlags)
  /-- Runners with one snapshot decide alike. -/
  sufficient : ∀ host' config', (RunnerCapabilities.discover host config).toJson.sorted =
      (RunnerCapabilities.discover host' config').toJson.sorted → ∀ dispatch,
    planAdapterExecution dispatch (.discover host config) config.featureFlags =
      planAdapterExecution dispatch (.discover host' config') config'.featureFlags

theorem snapshot_predicts_planning (host : Host) (config : RemoteConfig) :
    SnapshotPredicts host config := by
  have hreads := RunnerCapabilities.codec_writes.readsBack
  constructor
  · intro document hreorder
    exact planFromSnapshot_of_decode (hreads.tolerant _ document hreorder)
  · apply planFromSnapshot_of_decode
    have hread := readPayload_jsonEnvelope RunnerCapabilities.codec_writes
      (RunnerDaemon.new host config).capabilitySnapshotPayload
    obtain ⟨_, hdecode, heq⟩ := Option.map_eq_some_iff.mp hread
    exact hdecode.trans (congrArg some (congrArg ProtocolEnvelope.payload heq))
  · intro host' config' hsorted dispatch
    have hsame := hreads.injective _ _ hsorted
    rw [← snapshotFlags_discover host config, hsame, snapshotFlags_discover]

/-! ### The executor -/

def validateAdapterResultPhase : JobLifecyclePhase → Except AdapterContractError Unit
  | .completed | .failed | .cancelled | .timedOut | .policyDenied => .ok ()
  | .queued | .leased | .preparing | .running | .finishing =>
      .error (.malformedResult "adapter result must use a terminal lifecycle phase")

/-- How the executor and the planner agree on a dispatch. -/
structure ExecutorAgrees (dispatch : JobDispatch) : Prop where
  /-- The executor runs what is planned for every runner, whatever it has. -/
  runs_iff : (∃ output, runNoopOrEcho dispatch = .ok output) ↔
    ∀ capabilities flags, ∃ plan, planAdapterExecution dispatch capabilities flags = .ok plan
  /-- What is planned onto a high-risk capability it refuses by its kind. -/
  refuses : ∀ capabilities flags plan capability,
    planAdapterExecution dispatch capabilities flags = .ok plan →
    plan.requiredCapability = some capability →
    runNoopOrEcho dispatch = .error (.unsupportedAdapter dispatch.adapter)
  /-- What it reports, also of a simulated end, is a valid result. -/
  reports : ∀ output, (runNoopOrEcho dispatch = .ok output ∨
      ∃ terminal, simulateNoopLifecycle dispatch terminal = .ok output) →
    validateAdapterResultPhase output.outcome.state = .ok ()

theorem runNoopOrEcho_ok_iff {dispatch : JobDispatch} :
    (∃ output, runNoopOrEcho dispatch = .ok output) ↔
      requiredCapability dispatch.adapter = none := by
  simp only [runNoopOrEcho_eq, adapterLine]
  cases dispatch.adapter <;> simp [requiredCapability, bind_eq_ok_iff]

theorem runNoopOrEcho_of_required {dispatch : JobDispatch} {capability : HighRiskCapability}
    (h : requiredCapability dispatch.adapter = some capability) :
    runNoopOrEcho dispatch = .error (.unsupportedAdapter dispatch.adapter) := by
  rw [runNoopOrEcho_eq, adapterLine]
  cases hkind : dispatch.adapter with
  | noop | echo =>
      rw [hkind] at h
      cases h
  | _ => rfl

/-- A runner that has nothing. -/
def noCapabilities : RunnerCapabilities where
  protocolVersion := PROTOCOL_VERSION
  os := "linux"
  architecture := "x86_64"
  runtimes := []
  localTools := []
  mcpHostModes := []
  localLlmEndpoints := []
  externalAgentAdapters := []
  allowlistedCommandAdapters := []
  networkZone := "unknown"
  labels := []
  maxConcurrency := 1
  allowedWorkingGroups := []
  highRiskCapabilities := []

theorem executor_agrees_with_planner (dispatch : JobDispatch) : ExecutorAgrees dispatch where
  runs_iff := by
    rw [runNoopOrEcho_ok_iff]
    constructor
    · intro hrequired capabilities flags
      obtain ⟨adapterId, hauthorised⟩ :=
        authorised_without_capability capabilities flags hrequired
      exact ⟨_, planAdapterExecution_eq_ok_iff.mpr ⟨adapterId, hauthorised, rfl⟩⟩
    · intro hplanned
      rcases hrequired : requiredCapability dispatch.adapter with _ | capability
      · rfl
      · obtain ⟨plan, hplan⟩ := hplanned noCapabilities {}
        obtain ⟨_, hauthorised, _⟩ := planAdapterExecution_eq_ok_iff.mp hplan
        have hgate := ((authorisedAs_iff_group hrequired).mp hauthorised).2.1
        cases capability <;> cases hgate.1
  refuses := by
    intro capabilities flags plan capability hplan hrequired
    obtain ⟨_, _, rfl⟩ := planAdapterExecution_eq_ok_iff.mp hplan
    exact runNoopOrEcho_of_required hrequired
  reports := by
    rintro output (hrun | ⟨terminal, hrun⟩)
    · rw [runNoopOrEcho_eq, bind_eq_ok_iff] at hrun
      obtain ⟨_, _, houtput⟩ := hrun
      obtain rfl := Except.ok.inj houtput
      rfl
    · rw [simulateNoopLifecycle_eq] at hrun
      split at hrun
      · obtain rfl := Except.ok.inj hrun
        cases terminal <;> rfl
      · cases hrun

end Adapters

end RemoteRunner
