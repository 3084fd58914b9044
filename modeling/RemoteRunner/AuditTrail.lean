/-
The audit record the daemon reports for its job, beside the one the planner
makes for the same job.
-/
import RemoteRunner.RunnerDaemon

namespace RemoteRunner

namespace Daemon

open Protocol Runner Job Adapters OrderedEntries

/-- The run reports one final result, with this audit record. -/
def ReportsAudit (daemon : RunnerDaemon) (metadata : AdapterExecutionMetadata) : Prop :=
  ∃ events result, daemon.runOnce = .ok events ∧
    events.filter (fun event => event.messageType = "job.final_result") =
      [jsonEnvelope AdapterResult.toJson (.new "job.final_result" result)] ∧
    result.auditMetadata = metadata

/-- The dispatch the run executes is planned with this audit record. -/
def PlansAudit (daemon : RunnerDaemon) (metadata : AdapterExecutionMetadata) : Prop :=
  ∃ dispatch plan,
    daemon.exampleDispatch (runnerName daemon.config) = .ok dispatch ∧
    planAdapterExecution dispatch daemon.capabilities daemon.config.featureFlags =
      .ok plan ∧
    plan.metadata = metadata

/-- The job the daemon executes. -/
def executedJob (config : RemoteConfig) : JobDispatch :=
  rewriteDispatch config (runnerName config) bundledJob

/-- The record the daemon reports for a job. -/
def reportedAudit (dispatch : JobDispatch) : AdapterExecutionMetadata where
  adapterId := "echo"
  adapterKind := dispatch.adapter
  isolationMode := dispatch.policy.workspace.rootStrategy
  networkMode := dispatch.policy.network.mode
  scopedCredentialRefs := dispatch.policy.workspace.scopedCredentialRef.toList
  auditLabels := [dispatch.policy.policyVersion, dispatch.policy.workingGroupId]

/-! ### Written records determine the record -/

theorem sorted_ofStrings_inj {first second : List String}
    (h : (Json.ofStrings first).sorted = (Json.ofStrings second).sorted) :
    first = second := by
  have hstring : Function.Injective fun text : String => (Json.string text).sorted := by
    intro text text' htext
    simpa using htext
  simp only [Json.ofStrings, Json.sorted_array, List.map_map, Json.array.injEq] at h
  exact hstring.list_map h

theorem sorted_metadata_inj {first second : AdapterExecutionMetadata}
    (h : first.toJson.sorted = second.toJson.sorted) : first = second := by
  have hmember := Json.sorted_object_eq_iff.mp h
  have hid := hmember "adapter_id"
  have hkind := hmember "adapter_kind"
  have hisolation := hmember "isolation_mode"
  have hnetwork := hmember "network_mode"
  have hrefs := hmember "scoped_credential_refs"
  have hlabels := hmember "audit_labels"
  simp [occurrences] at hid hkind hisolation hnetwork hrefs hlabels
  have hkinds := AdapterKind.name_injective _ _ hkind
  have hrefs := sorted_ofStrings_inj hrefs
  have hlabels := sorted_ofStrings_inj hlabels
  cases first
  cases second
  subst hid hkinds hisolation hnetwork hrefs hlabels
  rfl

/-- A written final result holds its audit record. -/
theorem auditMetadata_of_written {first second : AdapterResult}
    (h : jsonEnvelope AdapterResult.toJson (.new "job.final_result" first) =
      jsonEnvelope AdapterResult.toJson (.new "job.final_result" second)) :
    first.auditMetadata = second.auditMetadata := by
  have hpayload := congrArg (fun event => event.payload.toJson) h
  have hmember := Json.sorted_object_eq_iff.mp hpayload "audit_metadata"
  simp [occurrences] at hmember
  exact sorted_metadata_inj hmember

theorem reportsAudit_iff {daemon : RunnerDaemon} {metadata : AdapterExecutionMetadata} :
    ReportsAudit daemon metadata ↔
      metadata = reportedAudit (executedJob daemon.config) := by
  constructor
  · intro hreports
    obtain ⟨events, result, hrun, hfinal, rfl⟩ := hreports
    rw [runOnce_eq] at hrun
    obtain rfl := Except.ok.inj hrun
    have hwritten := List.cons.inj hfinal
    exact (auditMetadata_of_written hwritten.1).symm
  · intro heq
    subst heq
    exact ⟨_, finalResult (executedJob daemon.config)
        (runOutput (executedJob daemon.config) "hello from fixture")
        (usageReport (leaseFromDispatch (executedJob daemon.config))
          (runnerName daemon.config)) (runnerName daemon.config),
      runOnce_eq daemon, rfl, rfl⟩

/-- An echo dispatch is always planned. -/
theorem plansAudit_iff {daemon : RunnerDaemon} {metadata : AdapterExecutionMetadata} :
    PlansAudit daemon metadata ↔
      metadata = (adapterPlan (executedJob daemon.config) "echo").metadata := by
  constructor
  · intro hplans
    obtain ⟨dispatch, plan, hdispatch, hplan, rfl⟩ := hplans
    rw [exampleDispatch_eq] at hdispatch
    obtain rfl := Except.ok.inj hdispatch
    obtain ⟨adapterId, hauthorised, rfl⟩ := planAdapterExecution_eq_ok_iff.mp hplan
    obtain rfl : adapterId = "echo" := hauthorised
    rfl
  · intro heq
    subst heq
    refine ⟨executedJob daemon.config, _, exampleDispatch_eq daemon _, ?_, rfl⟩
    rw [planAdapterExecution_eq_ok_iff]
    exact ⟨"echo", rfl, rfl⟩

/-- The run reports one audit record and the planner makes one.  They agree but
for the labels: the run reports the policy version and the working group, and
the plan writes `policy:` and `working_group:` before them. -/
theorem audit_trails_agree (host : Host) (config : RemoteConfig) :
    (∃ reported, ReportsAudit (.new host config) reported) ∧
      (∃ planned, PlansAudit (.new host config) planned) ∧
      ∀ dispatch reported planned,
        (RunnerDaemon.new host config).exampleDispatch (runnerName config) =
            .ok dispatch →
          ReportsAudit (.new host config) reported →
          PlansAudit (.new host config) planned →
            reported.adapterId = planned.adapterId ∧
            reported.adapterKind = planned.adapterKind ∧
            reported.isolationMode = planned.isolationMode ∧
            reported.networkMode = planned.networkMode ∧
            reported.scopedCredentialRefs = planned.scopedCredentialRefs ∧
            reported.auditLabels =
              [dispatch.policy.policyVersion, dispatch.policy.workingGroupId] ∧
            planned.auditLabels =
              ["policy:" ++ dispatch.policy.policyVersion,
                "working_group:" ++ dispatch.policy.workingGroupId] := by
  simp only [reportsAudit_iff, plansAudit_iff, exists_eq, true_and]
  intro dispatch reported planned hdispatch hreported hplanned
  rw [exampleDispatch_eq] at hdispatch
  obtain rfl := Except.ok.inj hdispatch
  subst hreported hplanned
  exact ⟨rfl, rfl, rfl, rfl, rfl, rfl, rfl⟩

/-- For the example configuration the labels differ. -/
theorem example_audit_labels_differ :
    exampleConfig.validate = .ok () ∧
      ∃ reported planned, ReportsAudit (.new bareHost exampleConfig) reported ∧
        PlansAudit (.new bareHost exampleConfig) planned ∧
        reported.auditLabels ≠ planned.auditLabels :=
  ⟨by decide, _, _, reportsAudit_iff.mpr rfl, plansAudit_iff.mpr rfl, by decide⟩

end Daemon

end RemoteRunner
