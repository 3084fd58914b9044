/-
Planning the adapter of a dispatch: which adapter is resolved, which gates and
boundaries it passes, and exactly when it is authorised.
-/
import RemoteRunner.RunnerCapabilities
import RemoteRunner.RunnerMessages

namespace RemoteRunner

namespace Adapters

open Protocol Runner

structure AdapterExecutionPlan where
  adapterId : String
  adapterKind : AdapterKind
  requiredCapability : Option HighRiskCapability
  phase : JobLifecyclePhase
  metadata : AdapterExecutionMetadata
deriving DecidableEq

inductive AdapterContractError where
  | missingCapability (kind : AdapterKind)
  | policyDenied (capability : HighRiskCapability) (featureFlag reasonCode : String)
  | boundaryDenied (adapterKind : AdapterKind) (reasonCode : String)
  | malformedResult (text : String)
deriving DecidableEq

/-- The text an error displays. -/
def AdapterContractError.message : AdapterContractError → String
  | .missingCapability kind =>
      "missing runner capability for adapter kind: " ++ kind.debug
  | .policyDenied _ _ reasonCode => "adapter execution denied by policy: " ++ reasonCode
  | .boundaryDenied adapterKind reasonCode =>
      "adapter boundary denied for " ++ adapterKind.debug ++ ": " ++ reasonCode
  | .malformedResult text => "malformed adapter result: " ++ text

def requiredCapability : AdapterKind → Option HighRiskCapability
  | .noop | .echo => none
  | .openAiCompatibleLocalLlm | .ollamaLocalLlm | .selfHostedLocalLlm =>
      some .localLlmExposure
  | .codexAgent | .claudeCodeAgent => some .externalAgentRuntimeAdapter
  | .allowlistedCommand => some .localToolExecution

/-- The adapter id a dispatch asks for, unless it is blank. -/
def requestedId (dispatch : JobDispatch) : Option String :=
  ((dispatch.input.toJson.get "adapter_id").bind Json.asStr).filter fun value =>
    trim value ≠ ""

section Lookup

variable {α : Type} (id : α → String)

/-- The id of the first entry that has the requested one. -/
def resolveId (entries : List α) (requested : Option String) (kind : AdapterKind) :
    Except AdapterContractError String :=
  okOr ((entries.find? fun entry => some (id entry) = requested).map id)
    (.missingCapability kind)

/-- The first entry that has the id. -/
def capabilityById (entries : List α) (adapterId : String) (kind : AdapterKind) :
    Except AdapterContractError α :=
  okOr (entries.find? fun entry => id entry = adapterId) (.missingCapability kind)

end Lookup

def resolveAdapterId (dispatch : JobDispatch) (capabilities : RunnerCapabilities) :
    Except AdapterContractError String :=
  let requested := requestedId dispatch
  match dispatch.adapter with
  | .noop => .ok "noop"
  | .echo => .ok "echo"
  | .openAiCompatibleLocalLlm | .ollamaLocalLlm | .selfHostedLocalLlm =>
      resolveId (·.id) capabilities.localLlmEndpoints requested dispatch.adapter
  | .codexAgent | .claudeCodeAgent =>
      resolveId (·.id) capabilities.externalAgentAdapters requested dispatch.adapter
  | .allowlistedCommand =>
      resolveId (·.id) capabilities.allowlistedCommandAdapters requested dispatch.adapter

def localLlmCapability (adapterId : String) (capabilities : RunnerCapabilities)
    (kind : AdapterKind) : Except AdapterContractError LocalLlmEndpointCapability :=
  capabilityById (·.id) capabilities.localLlmEndpoints adapterId kind

def externalAgentCapability (adapterId : String) (capabilities : RunnerCapabilities)
    (kind : AdapterKind) : Except AdapterContractError ExternalAgentAdapterCapability :=
  capabilityById (·.id) capabilities.externalAgentAdapters adapterId kind

def allowlistedCommandCapability (adapterId : String)
    (capabilities : RunnerCapabilities) (kind : AdapterKind) :
    Except AdapterContractError AllowlistedCommandAdapterCapability :=
  capabilityById (·.id) capabilities.allowlistedCommandAdapters adapterId kind

def requestedArgs (dispatch : JobDispatch) : Except AdapterContractError (List String) :=
  match dispatch.input.toJson.get "args" with
  | none => .ok []
  | some value => do
      let items ← okOr value.asArray
        (.malformedResult "allowlisted command args must be an array of strings")
      items.mapM fun arg => okOr arg.asStr
        (.malformedResult "allowlisted command args must be an array of strings")

def requireContains (allowed : List String) (kind : AdapterKind) (reasonCode : String)
    (requested : String) : Except AdapterContractError Unit :=
  if allowed.any fun value => value == requested then .ok ()
  else .error (.boundaryDenied kind reasonCode)

def validateCapabilityBoundaries (dispatch : JobDispatch) (adapterId : String)
    (capabilities : RunnerCapabilities) : Except AdapterContractError Unit :=
  match dispatch.adapter with
  | .noop | .echo => .ok ()
  | .openAiCompatibleLocalLlm | .ollamaLocalLlm | .selfHostedLocalLlm => do
      let _ ← localLlmCapability adapterId capabilities dispatch.adapter
      .ok ()
  | .codexAgent | .claudeCodeAgent => do
      let capability ← externalAgentCapability adapterId capabilities dispatch.adapter
      requireContains capability.supportedIsolationModes dispatch.adapter
        "unsupported_isolation_mode" dispatch.policy.workspace.rootStrategy
      requireContains capability.supportedNetworkModes dispatch.adapter
        "unsupported_network_mode" dispatch.policy.network.mode
  | .allowlistedCommand => do
      let capability ← allowlistedCommandCapability adapterId capabilities dispatch.adapter
      let args ← requestedArgs dispatch
      args.forM (requireContains capability.allowedArgs dispatch.adapter
        "command_arg_not_allowlisted")
      dispatch.policy.workspace.allowedEnv.forM
        (requireContains capability.allowedEnv dispatch.adapter "env_not_allowlisted")

/-- The gate of a high-risk capability, passed when there is none. -/
def passGate (flags : RuntimeFeatureFlags) (policy : PolicySnapshot) :
    Option HighRiskCapability → Except AdapterContractError Unit
  | none => .ok ()
  | some capability =>
      match evaluateHighRiskCapability flags policy capability with
      | .allowed => .ok ()
      | .denied capability featureFlag reasonCode =>
          .error (.policyDenied capability featureFlag reasonCode)

/-- The plan of a dispatch whose adapter is resolved. -/
def adapterPlan (dispatch : JobDispatch) (adapterId : String) : AdapterExecutionPlan where
  adapterId
  adapterKind := dispatch.adapter
  requiredCapability := requiredCapability dispatch.adapter
  phase := .preparing
  metadata := {
    adapterId
    adapterKind := dispatch.adapter
    isolationMode := dispatch.policy.workspace.rootStrategy
    networkMode := dispatch.policy.network.mode
    scopedCredentialRefs := dispatch.policy.workspace.scopedCredentialRef.toList
    auditLabels := [
      "policy:" ++ dispatch.policy.policyVersion,
      "working_group:" ++ dispatch.policy.workingGroupId] }

def planAdapterExecution (dispatch : JobDispatch) (capabilities : RunnerCapabilities)
    (flags : RuntimeFeatureFlags) : Except AdapterContractError AdapterExecutionPlan := do
  let adapterId ← resolveAdapterId dispatch capabilities
  passGate flags dispatch.policy (requiredCapability dispatch.adapter)
  validateCapabilityBoundaries dispatch adapterId capabilities
  return adapterPlan dispatch adapterId

/-! ### Authorisation -/

/-- The first entry of a group with this id. -/
def IsFirst {α : Type} (id : α → String) (entries : List α) (adapterId : String)
    (entry : α) : Prop :=
  id entry = adapterId ∧ ∃ before after, entries = before ++ entry :: after ∧
    ∀ other ∈ before, id other ≠ adapterId

/-- The dispatch asks for this adapter id, which is not blank. -/
def Requests (dispatch : JobDispatch) (adapterId : String) : Prop :=
  dispatch.input.toJson.get "adapter_id" = some (.string adapterId) ∧
    ∃ c ∈ adapterId.toList, isWhitespace c = false

/-- The runner's flag is on and the policy names the capability. -/
def GateOpen (flags : RuntimeFeatureFlags) (policy : PolicySnapshot)
    (capability : HighRiskCapability) : Prop :=
  capability.flagEnabled flags = true ∧
    capability.contractName ∈ policy.allowedCapabilities

/-- The dispatch gives no arguments or a list of allowed texts. -/
def ArgsWithin (dispatch : JobDispatch) (allowed : List String) : Prop :=
  dispatch.input.toJson.get "args" = none ∨
    ∃ args : List String,
      dispatch.input.toJson.get "args" = some (.array (args.map .string)) ∧
        ∀ arg ∈ args, arg ∈ allowed

/-- The runner may execute the dispatch with this adapter. -/
def AuthorisedAs (dispatch : JobDispatch) (capabilities : RunnerCapabilities)
    (flags : RuntimeFeatureFlags) (adapterId : String) : Prop :=
  match dispatch.adapter with
  | .noop => adapterId = "noop"
  | .echo => adapterId = "echo"
  | .openAiCompatibleLocalLlm | .ollamaLocalLlm | .selfHostedLocalLlm =>
      Requests dispatch adapterId ∧
        GateOpen flags dispatch.policy .localLlmExposure ∧
        ∃ entry, IsFirst (·.id) capabilities.localLlmEndpoints adapterId entry
  | .codexAgent | .claudeCodeAgent =>
      Requests dispatch adapterId ∧
        GateOpen flags dispatch.policy .externalAgentRuntimeAdapter ∧
        ∃ entry, IsFirst (·.id) capabilities.externalAgentAdapters adapterId entry ∧
          dispatch.policy.workspace.rootStrategy ∈ entry.supportedIsolationModes ∧
          dispatch.policy.network.mode ∈ entry.supportedNetworkModes
  | .allowlistedCommand =>
      Requests dispatch adapterId ∧
        GateOpen flags dispatch.policy .localToolExecution ∧
        ∃ entry, IsFirst (·.id) capabilities.allowlistedCommandAdapters adapterId entry ∧
          ArgsWithin dispatch entry.allowedArgs ∧
          ∀ name ∈ dispatch.policy.workspace.allowedEnv, name ∈ entry.allowedEnv

section Checks

variable {dispatch : JobDispatch} {capabilities : RunnerCapabilities}
  {flags : RuntimeFeatureFlags} {policy : PolicySnapshot} {adapterId : String}
  {kind : AdapterKind} {allowed : List String} {reasonCode : String}

theorem requestedId_eq_some_iff :
    requestedId dispatch = some adapterId ↔ Requests dispatch adapterId := by
  rw [requestedId, Option.filter_eq_some_iff, Option.bind_eq_some_iff, Requests,
    ← trim_ne_empty_iff, decide_eq_true_iff]
  simp only [Json.asStr_eq_some_iff, exists_eq_right]

theorem find?_eq_some_iff_isFirst {α : Type} {id : α → String} {entries : List α}
    {entry : α} :
    entries.find? (fun other => id other = adapterId) = some entry ↔
      IsFirst id entries adapterId entry := by
  simp [List.find?_eq_some_iff_append, IsFirst]

theorem resolveId_eq_ok_iff {α : Type} {id : α → String} {entries : List α}
    {requested : Option String} :
    resolveId id entries requested kind = .ok adapterId ↔
      requested = some adapterId ∧ ∃ entry, IsFirst id entries adapterId entry := by
  rw [resolveId, okOr_eq_ok_iff, Option.map_eq_some_iff]
  constructor
  · intro hfound
    obtain ⟨entry, hfind, rfl⟩ := hfound
    have hrequested : some (id entry) = requested := by
      simpa using List.find?_some hfind
    subst hrequested
    simp only [Option.some.injEq] at hfind
    exact ⟨rfl, entry, find?_eq_some_iff_isFirst.mp hfind⟩
  · intro hfirst
    obtain ⟨rfl, entry, hentry⟩ := hfirst
    simp only [Option.some.injEq]
    exact ⟨entry, find?_eq_some_iff_isFirst.mpr hentry, hentry.1⟩

theorem capabilityById_eq_ok_iff {α : Type} {id : α → String} {entries : List α}
    {entry : α} :
    capabilityById id entries adapterId kind = .ok entry ↔
      IsFirst id entries adapterId entry := by
  rw [capabilityById, okOr_eq_ok_iff, find?_eq_some_iff_isFirst]

theorem requireContains_eq_ok_iff {requested : String} :
    requireContains allowed kind reasonCode requested = .ok () ↔ requested ∈ allowed := by
  by_cases hmem : requested ∈ allowed
  · simp [requireContains, hmem]
  · simp [requireContains, hmem]

theorem requestedArgs_eq_ok_iff {args : List String} :
    requestedArgs dispatch = .ok args ↔
      (dispatch.input.toJson.get "args" = none ∧ args = []) ∨
        dispatch.input.toJson.get "args" = some (.array (args.map .string)) := by
  have hstrings : ∀ items : List Json,
      items.map Json.asStr = args.map some ↔ items = args.map .string := by
    intro items
    induction items generalizing args with
    | nil => cases args <;> simp
    | cons item items ih =>
        rcases args with _ | ⟨arg, args⟩
        · simp
        · simp [Json.asStr_eq_some_iff, ih]
  rw [requestedArgs]
  rcases dispatch.input.toJson.get "args" with _ | value
  · simp [eq_comm]
  · simp only [bind_eq_ok_iff, okOr_eq_ok_iff, mapM_okOr_eq_ok_iff, hstrings,
      Json.asArray_eq_some_iff]
    simp

theorem passGate_eq_ok_iff {required : Option HighRiskCapability} :
    passGate flags policy required = .ok () ↔
      ∀ capability ∈ required, GateOpen flags policy capability := by
  rcases required with _ | capability
  · exact iff_of_true rfl (by simp)
  · simp only [Option.mem_def, Option.some.injEq, forall_eq', passGate, GateOpen]
    rw [← evaluateHighRiskCapability_eq_allowed_iff]
    cases evaluateHighRiskCapability flags policy capability <;> simp

/-- The entry the boundaries are checked against is one the id was resolved
from. -/
theorem resolved_and_bounded_iff {α : Type} {requested gate : Prop}
    {first bounded : α → Prop} :
    ((requested ∧ ∃ entry, first entry) ∧ gate ∧ ∃ entry, first entry ∧ bounded entry) ↔
      requested ∧ gate ∧ ∃ entry, first entry ∧ bounded entry := by
  constructor
  · intro h
    exact ⟨h.1.1, h.2⟩
  · intro h
    obtain ⟨hrequested, hgate, entry, hfirst, hbounded⟩ := h
    exact ⟨⟨hrequested, entry, hfirst⟩, hgate, entry, hfirst, hbounded⟩

theorem args_pass_iff {rest : Prop} :
    (∃ args, requestedArgs dispatch = .ok args ∧ (∀ arg ∈ args, arg ∈ allowed) ∧ rest) ↔
      ArgsWithin dispatch allowed ∧ rest := by
  simp only [requestedArgs_eq_ok_iff, ArgsWithin]
  constructor
  · intro h
    obtain ⟨args, ⟨hnone, _⟩ | hargs, hallowed, hrest⟩ := h
    · exact ⟨Or.inl hnone, hrest⟩
    · exact ⟨Or.inr ⟨args, hargs, hallowed⟩, hrest⟩
  · intro h
    obtain ⟨hnone | ⟨args, hargs, hallowed⟩, hrest⟩ := h
    · exact ⟨[], Or.inl ⟨hnone, rfl⟩, by simp, hrest⟩
    · exact ⟨args, Or.inr hargs, hallowed, hrest⟩

/-- The three steps of planning pass exactly for the authorised adapter. -/
theorem authorisedAs_iff :
    (resolveAdapterId dispatch capabilities = .ok adapterId ∧
        passGate flags dispatch.policy (requiredCapability dispatch.adapter) = .ok () ∧
        validateCapabilityBoundaries dispatch adapterId capabilities = .ok ()) ↔
      AuthorisedAs dispatch capabilities flags adapterId := by
  rw [resolveAdapterId, passGate_eq_ok_iff, validateCapabilityBoundaries, AuthorisedAs]
  cases hkind : dispatch.adapter with
  | noop | echo => simp [requiredCapability, eq_comm]
  | openAiCompatibleLocalLlm | ollamaLocalLlm | selfHostedLocalLlm =>
      simp only [requiredCapability, resolveId_eq_ok_iff, requestedId_eq_some_iff,
        localLlmCapability, bind_eq_ok_iff, capabilityById_eq_ok_iff, Option.mem_def,
        Option.some.injEq, forall_eq', and_true]
      exact ⟨fun h => ⟨h.1.1, h.2⟩, fun h => ⟨⟨h.1, h.2.2⟩, h.2⟩⟩
  | codexAgent | claudeCodeAgent =>
      simp only [requiredCapability, resolveId_eq_ok_iff, requestedId_eq_some_iff,
        externalAgentCapability, bind_eq_ok_iff, capabilityById_eq_ok_iff, Option.mem_def,
        Option.some.injEq, forall_eq', Unique.exists_iff, PUnit.default_eq_unit,
        requireContains_eq_ok_iff, resolved_and_bounded_iff]
  | allowlistedCommand =>
      simp only [requiredCapability, resolveId_eq_ok_iff, requestedId_eq_some_iff,
        allowlistedCommandCapability, bind_eq_ok_iff, capabilityById_eq_ok_iff,
        Option.mem_def, Option.some.injEq, forall_eq', Unique.exists_iff,
        PUnit.default_eq_unit, forM_eq_ok_iff, requireContains_eq_ok_iff, args_pass_iff,
        resolved_and_bounded_iff]

theorem planAdapterExecution_eq_ok_iff {plan : AdapterExecutionPlan} :
    planAdapterExecution dispatch capabilities flags = .ok plan ↔
      ∃ adapterId, AuthorisedAs dispatch capabilities flags adapterId ∧
        plan = adapterPlan dispatch adapterId := by
  simp only [← authorisedAs_iff, planAdapterExecution, bind_eq_ok_iff]
  constructor
  · intro hplanned
    obtain ⟨adapterId, hresolved, _, hgate, _, hbounded, heq⟩ := hplanned
    exact ⟨adapterId, ⟨hresolved, hgate, hbounded⟩, (Except.ok.inj heq).symm⟩
  · intro hauthorised
    obtain ⟨adapterId, ⟨hresolved, hgate, hbounded⟩, rfl⟩ := hauthorised
    exact ⟨adapterId, hresolved, (), hgate, (), hbounded, rfl⟩

end Checks

/-- Planning succeeds exactly for authorised dispatches, and the plan is made
for the authorised adapter out of the dispatch's own modes and credential. -/
theorem plan_adapter_execution_exact (dispatch : JobDispatch)
    (capabilities : RunnerCapabilities) (flags : RuntimeFeatureFlags) :
    ((∃ plan, planAdapterExecution dispatch capabilities flags = .ok plan) ↔
        ∃ adapterId, AuthorisedAs dispatch capabilities flags adapterId) ∧
      ∀ plan, planAdapterExecution dispatch capabilities flags = .ok plan →
        AuthorisedAs dispatch capabilities flags plan.adapterId ∧
          plan.adapterKind = dispatch.adapter ∧
          plan.metadata.adapterId = plan.adapterId ∧
          plan.metadata.adapterKind = dispatch.adapter ∧
          plan.metadata.isolationMode = dispatch.policy.workspace.rootStrategy ∧
          plan.metadata.networkMode = dispatch.policy.network.mode ∧
          plan.metadata.scopedCredentialRefs =
            dispatch.policy.workspace.scopedCredentialRef.toList := by
  constructor
  · simp only [planAdapterExecution_eq_ok_iff]
    constructor
    · intro hplanned
      obtain ⟨_, adapterId, hauthorised, _⟩ := hplanned
      exact ⟨adapterId, hauthorised⟩
    · intro hauthorised
      obtain ⟨adapterId, hauthorised⟩ := hauthorised
      exact ⟨adapterPlan dispatch adapterId, adapterId, hauthorised, rfl⟩
  · intro plan hplanned
    obtain ⟨adapterId, hauthorised, rfl⟩ := planAdapterExecution_eq_ok_iff.mp hplanned
    exact ⟨hauthorised, rfl, rfl, rfl, rfl, rfl, rfl⟩

/-- A dispatch of the example configuration's command. -/
def commandDispatch : JobDispatch where
  leaseId := "lease_fixture_001"
  jobId := "job_fixture_command_001"
  runnerId := "local-dev-runner"
  correlationId := "corr_fixture_command_001"
  idempotencyKey := "idem_fixture_command_001"
  adapter := .allowlistedCommand
  input := Value.ofJson (.object [
    ("adapter_id", .string "cargo-test"), ("args", .array [.string "test"])])
  timeoutSeconds := 60
  policy := {
    policyVersion := "policy_fixture_v1"
    workingGroupId := "wg-dev"
    allowedCapabilities := ["remote.local_tool_execution"]
    riskyActions := []
    workspace := {
      workspaceId := "workspace_fixture_001"
      rootStrategy := "temporary_isolated"
      allowedEnv := ["PATH", "TMPDIR"]
      scopedCredentialRef := some "runner-scoped-credential-ref"
      artifactPathAllowlist := ["stdout.txt"] }
    network := { mode := "deny_all", allowedTargets := [] } }
  signedInstruction := none

theorem plan_adapter_execution_exact_command :
    AuthorisedAs commandDispatch (.discover bareHost exampleConfig)
        { localToolsEnabled := true } "cargo-test" ∧
      (adapterPlan commandDispatch "cargo-test").metadata.scopedCredentialRefs =
        ["runner-scoped-credential-ref"] := by
  have hplanned : planAdapterExecution commandDispatch
      (.discover bareHost exampleConfig) { localToolsEnabled := true } =
        .ok (adapterPlan commandDispatch "cargo-test") := by decide
  obtain ⟨hauthorised, _, _, _, _, _, hrefs⟩ :=
    (plan_adapter_execution_exact commandDispatch _ _).2 _ hplanned
  exact ⟨hauthorised, hrefs⟩

end Adapters

end RemoteRunner
