/-
The configured bounds of work: the working groups a planned dispatch may belong
to and what the one-shot daemon runs.
-/
import RemoteRunner.RunnerDaemon

namespace RemoteRunner

namespace Daemon

open Protocol Runner Job Adapters

/-- A dispatch within the bounds of a configuration. -/
structure WithinConfig (config : RemoteConfig) (dispatch : JobDispatch) : Prop where
  group : dispatch.policy.workingGroupId ∈ config.allowedWorkingGroups
  env : ∀ name ∈ dispatch.policy.workspace.allowedEnv, name ∈ config.envAllowlist
  actions : ∀ action ∈ dispatch.policy.riskyActions,
    action ∈ config.riskyActionAllowlist

/-- The dispatch is planned only when its working group is allowed. -/
def PlansInside (host : Host) (config : RemoteConfig) (dispatch : JobDispatch) : Prop :=
  (∃ plan, planAdapterExecution dispatch (.discover host config) config.featureFlags =
      .ok plan) →
    dispatch.policy.workingGroupId ∈ config.allowedWorkingGroups

/-- Among the events are an accepted lease and a final result of the dispatch. -/
def EmitsWork (events : List (ProtocolEnvelope Value)) (dispatch : JobDispatch) : Prop :=
  (∃ acceptance : JobLeaseAcceptance, acceptance.accepted = true ∧
      acceptance.leaseId = dispatch.leaseId ∧ acceptance.jobId = dispatch.jobId ∧
      jsonEnvelope JobLeaseAcceptance.toJson (.new "job.lease.accepted" acceptance) ∈
        events) ∧
    ∃ result : AdapterResult, result.jobId = dispatch.jobId ∧
      jsonEnvelope AdapterResult.toJson (.new "job.final_result" result) ∈ events

/-- A one-shot run does work only for a dispatch within the configuration. -/
def RunsInside (host : Host) (config : RemoteConfig) : Prop :=
  ∀ dispatch events,
    (RunnerDaemon.new host config).exampleDispatch (runnerName config) = .ok dispatch →
      (RunnerDaemon.new host config).runOnce = .ok events → EmitsWork events dispatch →
        WithinConfig config dispatch

/-- Every run does emit an accepted lease and a final result. -/
theorem evidence_emitsWork (daemon : RunnerDaemon) (runnerId line : String)
    (dispatch : JobDispatch) (log : LogChunk) :
    EmitsWork (daemon.evidence runnerId dispatch (runOutput dispatch line) log)
      dispatch := by
  constructor
  · refine ⟨(leaseAccepted (leaseFromDispatch dispatch) runnerId).payload,
      rfl, rfl, rfl, ?_⟩
    simp [RunnerDaemon.evidence, leaseAccepted, ProtocolEnvelope.new]
  · refine ⟨finalResult dispatch (runOutput dispatch line)
      (usageReport (leaseFromDispatch dispatch) runnerId) runnerId, rfl, ?_⟩
    simp [RunnerDaemon.evidence]

/-- The rewritten dispatch is within the configuration up to its group, which
is the first configured one if there is any. -/
theorem withinConfig_rewriteDispatch_iff (config : RemoteConfig) (runnerId : String) :
    WithinConfig config (rewriteDispatch config runnerId bundledJob) ↔
      config.allowedWorkingGroups ≠ [] := by
  rcases hgroups : config.allowedWorkingGroups with _ | ⟨group, groups⟩
  · refine iff_of_false (fun hwithin => ?_) (fun hne => hne rfl)
    have hmem := hwithin.group
    rw [hgroups] at hmem
    cases hmem
  · refine iff_of_true ⟨?_, fun _ => id, fun _ => id⟩ nofun
    simp [rewriteDispatch, hgroups]

theorem runsInside_iff (host : Host) (config : RemoteConfig) :
    RunsInside host config ↔ config.allowedWorkingGroups ≠ [] := by
  rw [← withinConfig_rewriteDispatch_iff config (runnerName config)]
  constructor
  · intro hinside
    exact hinside _ _ (exampleDispatch_eq _ _) (runOnce_eq _) (evidence_emitsWork _ _ _ _ _)
  · intro hwithin dispatch events hdispatch _ _
    rw [exampleDispatch_eq] at hdispatch
    obtain rfl := Except.ok.inj hdispatch
    exact hwithin

theorem plansInside_iff (host : Host) (config : RemoteConfig) (dispatch : JobDispatch) :
    PlansInside host config dispatch ↔
      dispatch.policy.workingGroupId ∈ config.allowedWorkingGroups ∨
        ¬∃ adapterId, AuthorisedAs dispatch (.discover host config) config.featureFlags
          adapterId := by
  have hplanned : (∃ plan, planAdapterExecution dispatch (.discover host config)
      config.featureFlags = .ok plan) ↔
        ∃ adapterId, AuthorisedAs dispatch (.discover host config) config.featureFlags
          adapterId := by
    simp only [planAdapterExecution_eq_ok_iff]
    exact ⟨fun ⟨_, adapterId, h, _⟩ => ⟨adapterId, h⟩,
      fun ⟨adapterId, h⟩ => ⟨_, adapterId, h, rfl⟩⟩
  rw [PlansInside, hplanned, or_comm, imp_iff_not_or]

/-- Work stays inside the configured groups exactly when the configuration
lists some group, and the dispatch belongs to a listed group or is not
authorised on other grounds. -/
theorem work_inside_groups_iff (host : Host) (config : RemoteConfig)
    (dispatch : JobDispatch) :
    PlansInside host config dispatch ∧ RunsInside host config ↔
      (dispatch.policy.workingGroupId ∈ config.allowedWorkingGroups ∨
          ¬∃ adapterId, AuthorisedAs dispatch (.discover host config)
            config.featureFlags adapterId) ∧
        config.allowedWorkingGroups ≠ [] := by
  rw [plansInside_iff, runsInside_iff]

def otherGroup : RemoteConfig := { exampleConfig with allowedWorkingGroups := ["wg-ops"] }

def noGroup : RemoteConfig := { exampleConfig with allowedWorkingGroups := [] }

/-- A valid configuration of another group plans the bundled dispatch, and one
without groups runs it. -/
theorem work_outside_groups :
    otherGroup.validate = .ok () ∧ ¬PlansInside bareHost otherGroup bundledJob ∧
      noGroup.validate = .ok () ∧ ¬PlansInside bareHost noGroup bundledJob ∧
        ¬RunsInside bareHost noGroup := by
  refine ⟨by decide, ?_, by decide, ?_, ?_⟩
  · intro hinside
    exact absurd (hinside ⟨_, rfl⟩) (by decide)
  · intro hinside
    exact absurd (hinside ⟨_, rfl⟩) (by decide)
  · rw [runsInside_iff]
    exact fun hne => hne rfl

end Daemon

end RemoteRunner
