/-
Which refusal planning answers with: the first check that fails, in the order
resolution, gate, boundaries.
-/
import Mathlib.Data.Set.List
import RemoteRunner.AdapterKinds

namespace RemoteRunner

namespace Adapters

open Protocol Runner

/-- The dispatch asks for this id, and this is the first entry of its group that
has it. -/
def Resolves (dispatch : JobDispatch) (capabilities : RunnerCapabilities)
    (entry : AdvertisedAdapter) : Prop :=
  ∃ adapterId, Requests dispatch adapterId ∧
    IsFirst AdvertisedAdapter.id (capabilityGroup capabilities dispatch.adapter)
      adapterId entry

/-- The dispatch gives arguments that are not a list of texts. -/
def MalformedArgs (dispatch : JobDispatch) : Prop :=
  ∃ value, dispatch.input.toJson.get "args" = some value ∧
    ∀ args : List String, value ≠ .array (args.map .string)

/-- The first boundary of a resolved entry that the dispatch breaks. -/
def BreaksBoundary (dispatch : JobDispatch) (error : AdapterContractError) :
    AdvertisedAdapter → Prop
  | .localLlmEndpoint _ => False
  | .externalAgent entry =>
      (dispatch.policy.workspace.rootStrategy ∉ entry.supportedIsolationModes ∧
        .boundaryDenied dispatch.adapter "unsupported_isolation_mode" = error) ∨
      (dispatch.policy.workspace.rootStrategy ∈ entry.supportedIsolationModes ∧
        dispatch.policy.network.mode ∉ entry.supportedNetworkModes ∧
        .boundaryDenied dispatch.adapter "unsupported_network_mode" = error)
  | .allowlistedCommand entry =>
      (MalformedArgs dispatch ∧
        .malformedResult "allowlisted command args must be an array of strings" = error) ∨
      (¬MalformedArgs dispatch ∧ ¬ArgsWithin dispatch entry.allowedArgs ∧
        .boundaryDenied dispatch.adapter "command_arg_not_allowlisted" = error) ∨
      (ArgsWithin dispatch entry.allowedArgs ∧
        (∃ name ∈ dispatch.policy.workspace.allowedEnv, name ∉ entry.allowedEnv) ∧
        .boundaryDenied dispatch.adapter "env_not_allowlisted" = error)

/-- Why a dispatch is refused, and with which error. -/
inductive RefusedWith (dispatch : JobDispatch) (capabilities : RunnerCapabilities)
    (flags : RuntimeFeatureFlags) : AdapterContractError → Prop
  | unresolved (capability : HighRiskCapability)
      (required : requiredCapability dispatch.adapter = some capability)
      (unresolved : ∀ entry, ¬Resolves dispatch capabilities entry) :
      RefusedWith dispatch capabilities flags (.missingCapability dispatch.adapter)
  | flagOff (capability : HighRiskCapability) (entry : AdvertisedAdapter)
      (required : requiredCapability dispatch.adapter = some capability)
      (resolves : Resolves dispatch capabilities entry)
      (off : capability.flagEnabled flags = false) :
      RefusedWith dispatch capabilities flags
        (.policyDenied capability capability.featureFlag "feature_flag_disabled")
  | notAllowed (capability : HighRiskCapability) (entry : AdvertisedAdapter)
      (required : requiredCapability dispatch.adapter = some capability)
      (resolves : Resolves dispatch capabilities entry)
      (on : capability.flagEnabled flags = true)
      (unlisted : capability.contractName ∉ dispatch.policy.allowedCapabilities) :
      RefusedWith dispatch capabilities flags
        (.policyDenied capability capability.featureFlag "policy_capability_not_allowed")
  | outOfBounds (capability : HighRiskCapability) (entry : AdvertisedAdapter)
      (error : AdapterContractError)
      (required : requiredCapability dispatch.adapter = some capability)
      (resolves : Resolves dispatch capabilities entry)
      (opened : GateOpen flags dispatch.policy capability)
      (breaks : BreaksBoundary dispatch error entry) :
      RefusedWith dispatch capabilities flags error

section Refusals

variable {dispatch : JobDispatch} {capabilities : RunnerCapabilities}
  {flags : RuntimeFeatureFlags} {policy : PolicySnapshot} {kind : AdapterKind}
  {allowed : List String} {reasonCode adapterId : String} {error : AdapterContractError}

theorem isFirst_map_iff {α : Type} {id : α → String} {pack : α → AdvertisedAdapter}
    (hid : ∀ entry, (pack entry).id = id entry) {entries : List α}
    {entry : AdvertisedAdapter} :
    IsFirst AdvertisedAdapter.id (entries.map pack) adapterId entry ↔
      ∃ inner, IsFirst id entries adapterId inner ∧ pack inner = entry := by
  rw [← find?_eq_some_iff_isFirst, List.find?_map, Option.map_eq_some_iff]
  have hpred : (fun other => decide (AdvertisedAdapter.id other = adapterId)) ∘ pack =
      fun other => decide (id other = adapterId) := by
    funext other
    simp only [Function.comp_apply, hid]
  rw [hpred]
  simp only [find?_eq_some_iff_isFirst]

theorem resolveId_eq_error_iff {α : Type} {id : α → String} {entries : List α} :
    resolveId id entries (requestedId dispatch) kind = .error error ↔
      (∀ adapterId, Requests dispatch adapterId →
        ∀ entry, ¬IsFirst id entries adapterId entry) ∧
      error = .missingCapability kind := by
  constructor
  · intro herror
    rw [resolveId, okOr_eq_error_iff, Option.map_eq_none_iff] at herror
    refine ⟨?_, herror.2.symm⟩
    intro adapterId hrequests entry hfirst
    have hfind := find?_eq_some_iff_isFirst.mpr hfirst
    rw [requestedId_eq_some_iff.mpr hrequests] at herror
    simp only [Option.some.injEq] at herror
    rw [hfind] at herror
    cases herror.1
  · rintro ⟨hunresolved, rfl⟩
    rcases hresolve : resolveId id entries (requestedId dispatch) kind with
      error | adapterId
    · rw [resolveId, okOr_eq_error_iff] at hresolve
      rw [hresolve.2]
    · obtain ⟨hrequested, entry, hfirst⟩ := resolveId_eq_ok_iff.mp hresolve
      exact absurd hfirst
        (hunresolved adapterId (requestedId_eq_some_iff.mp hrequested) entry)

theorem requireContains_eq_error_iff {requested : String} :
    requireContains allowed kind reasonCode requested = .error error ↔
      requested ∉ allowed ∧ .boundaryDenied kind reasonCode = error := by
  by_cases hmem : requested ∈ allowed
  · simp [requireContains, hmem]
  · simp [requireContains, hmem]

theorem ne_texts_iff {value : Json} :
    (∀ args : List String, value ≠ .array (args.map .string)) ↔
      value.asArray = none ∨
        ∃ items, value.asArray = some items ∧ ∃ item ∈ items, item.asStr = none := by
  have htexts : ∀ items : List Json, (∃ args : List String, args.map .string = items) ↔
      ∀ item ∈ items, item.asStr ≠ none := by
    intro items
    have hitems : (∃ args : List String, args.map .string = items) ↔
        ∀ item ∈ items, ∃ text, Json.string text = item :=
      Set.ext_iff.mp (Set.range_list_map Json.string) items
    rw [hitems]
    apply forall₂_congr
    intro item _
    cases item <;> simp [Json.asStr]
  cases value with
  | array items =>
      have hitems := htexts items
      simp only [Json.array.injEq, ne_eq, Json.asArray, reduceCtorEq, Option.some.injEq,
        exists_eq_left', false_or]
      rw [← not_exists, ← not_iff_not, not_not]
      simp only [not_exists, not_and]
      rw [← hitems]
      simp only [eq_comm]
  | _ => simp [Json.asArray]

theorem forM_requireContains_eq_error_iff {requested : List String} :
    requested.forM (requireContains allowed kind reasonCode) = .error error ↔
      (∃ item ∈ requested, item ∉ allowed) ∧ .boundaryDenied kind reasonCode = error :=
  forM_eq_error_iff fun _ _ => requireContains_eq_error_iff

theorem requestedArgs_eq_error_iff :
    requestedArgs dispatch = .error error ↔ MalformedArgs dispatch ∧
      .malformedResult "allowlisted command args must be an array of strings" =
        error := by
  rw [requestedArgs, MalformedArgs]
  rcases dispatch.input.toJson.get "args" with _ | value
  · simp
  · simp only [bind_eq_error_iff, okOr_eq_error_iff, okOr_eq_ok_iff,
      mapM_okOr_eq_error_iff, Option.some.injEq, exists_eq_left', ne_texts_iff]
    constructor
    · rintro (⟨hnone, rfl⟩ | ⟨items, hitems, hitem, rfl⟩)
      · exact ⟨Or.inl hnone, rfl⟩
      · exact ⟨Or.inr ⟨items, hitems, hitem⟩, rfl⟩
    · rintro ⟨hnone | ⟨items, hitems, hitem⟩, rfl⟩
      · exact Or.inl ⟨hnone, rfl⟩
      · exact Or.inr ⟨items, hitems, hitem, rfl⟩

theorem args_fail_iff {rest : Prop} :
    (∃ args, requestedArgs dispatch = .ok args ∧
        (∃ arg ∈ args, arg ∉ allowed) ∧ rest) ↔
      ¬MalformedArgs dispatch ∧ ¬ArgsWithin dispatch allowed ∧ rest := by
  rcases hargs : requestedArgs dispatch with error | args
  · have hmalformed := (requestedArgs_eq_error_iff.mp hargs).1
    exact iff_of_false (by simp) (fun h => h.1 hmalformed)
  · have hwell : ¬MalformedArgs dispatch := by
      intro hmalformed
      rw [requestedArgs_eq_error_iff.mpr ⟨hmalformed, rfl⟩] at hargs
      cases hargs
    have hwithin : ArgsWithin dispatch allowed ↔ ∀ arg ∈ args, arg ∈ allowed := by
      rw [← and_true (ArgsWithin dispatch allowed), ← args_pass_iff, hargs]
      simp
    simp [hwell, hwithin]

theorem passGate_eq_error_iff {capability : HighRiskCapability} :
    passGate flags policy (some capability) = .error error ↔
      (capability.flagEnabled flags = false ∧
        .policyDenied capability capability.featureFlag "feature_flag_disabled" =
          error) ∨
      (capability.flagEnabled flags = true ∧
        capability.contractName ∉ policy.allowedCapabilities ∧
        .policyDenied capability capability.featureFlag "policy_capability_not_allowed" =
          error) := by
  rw [passGate, evaluateHighRiskCapability]
  by_cases hflag : capability.flagEnabled flags = true
  · have hany : (policy.allowedCapabilities.any fun allowed =>
        allowed == capability.contractName) = true ↔
          capability.contractName ∈ policy.allowedCapabilities := by simp
    by_cases hpolicy : capability.contractName ∈ policy.allowedCapabilities
    · simp [hflag, hany.mpr hpolicy, hpolicy]
    · simp [hflag, Bool.eq_false_iff.mpr (mt hany.mp hpolicy), hpolicy]
  · simp [hflag]

theorem resolveAdapterId_eq_ok_iff' {capability : HighRiskCapability}
    (hrequired : requiredCapability dispatch.adapter = some capability) :
    resolveAdapterId dispatch capabilities = .ok adapterId ↔
      Requests dispatch adapterId ∧ ∃ entry, IsFirst AdvertisedAdapter.id
        (capabilityGroup capabilities dispatch.adapter) adapterId entry := by
  rw [resolveAdapterId]
  cases hkind : dispatch.adapter with
  | noop | echo =>
      rw [hkind] at hrequired
      cases hrequired
  | openAiCompatibleLocalLlm | ollamaLocalLlm | selfHostedLocalLlm | codexAgent
  | claudeCodeAgent | allowlistedCommand =>
      simp only [resolveId_eq_ok_iff, requestedId_eq_some_iff, capabilityGroup]
      rw [and_congr_right_iff]
      intro _
      constructor
      · rintro ⟨entry, hfirst⟩
        exact ⟨_, (isFirst_map_iff fun _ => rfl).mpr ⟨entry, hfirst, rfl⟩⟩
      · rintro ⟨_, hfirst⟩
        obtain ⟨entry, hfirst, _⟩ := (isFirst_map_iff fun _ => rfl).mp hfirst
        exact ⟨entry, hfirst⟩

theorem resolveAdapterId_eq_error_iff {capability : HighRiskCapability}
    (hrequired : requiredCapability dispatch.adapter = some capability) :
    resolveAdapterId dispatch capabilities = .error error ↔
      (∀ entry, ¬Resolves dispatch capabilities entry) ∧
        error = .missingCapability dispatch.adapter := by
  rw [resolveAdapterId]
  cases hkind : dispatch.adapter with
  | noop | echo =>
      rw [hkind] at hrequired
      cases hrequired
  | openAiCompatibleLocalLlm | ollamaLocalLlm | selfHostedLocalLlm | codexAgent
  | claudeCodeAgent | allowlistedCommand =>
      simp only [resolveId_eq_error_iff, Resolves, hkind, capabilityGroup]
      rw [and_congr_left_iff]
      intro _
      constructor
      · rintro hunresolved _ ⟨adapterId, hrequests, hfirst⟩
        obtain ⟨entry, hfirst, _⟩ := (isFirst_map_iff fun _ => rfl).mp hfirst
        exact hunresolved adapterId hrequests entry hfirst
      · intro hunresolved adapterId hrequests entry hfirst
        exact hunresolved _ ⟨adapterId, hrequests,
          (isFirst_map_iff fun _ => rfl).mpr ⟨entry, hfirst, rfl⟩⟩

/-- The boundaries of the entry an id resolves to. -/
theorem validateCapabilityBoundaries_eq_error_iff {entry : AdvertisedAdapter}
    (hfirst : IsFirst AdvertisedAdapter.id (capabilityGroup capabilities dispatch.adapter)
      adapterId entry) :
    validateCapabilityBoundaries dispatch adapterId capabilities = .error error ↔
      BreaksBoundary dispatch error entry := by
  rw [validateCapabilityBoundaries]
  cases hkind : dispatch.adapter with
  | noop | echo =>
      rw [hkind] at hfirst
      obtain ⟨_, before, after, hnil, _⟩ := hfirst
      simp [capabilityGroup] at hnil
  | openAiCompatibleLocalLlm | ollamaLocalLlm | selfHostedLocalLlm =>
      rw [hkind] at hfirst
      obtain ⟨inner, hinner, rfl⟩ := (isFirst_map_iff fun _ => rfl).mp hfirst
      have hfound : ∀ kind, localLlmCapability adapterId capabilities kind = .ok inner :=
        fun _ => capabilityById_eq_ok_iff.mpr hinner
      simp only [hfound, bind_eq_error_iff, reduceCtorEq, BreaksBoundary, and_false,
        exists_false, or_false]
  | codexAgent | claudeCodeAgent =>
      rw [hkind] at hfirst
      obtain ⟨inner, hinner, rfl⟩ := (isFirst_map_iff fun _ => rfl).mp hfirst
      have hfound : ∀ kind, externalAgentCapability adapterId capabilities kind =
        .ok inner := fun _ => capabilityById_eq_ok_iff.mpr hinner
      simp only [hfound, bind_eq_error_iff, reduceCtorEq, Except.ok.injEq, exists_eq_left',
        requireContains_eq_error_iff, requireContains_eq_ok_iff, Unique.exists_iff,
        PUnit.default_eq_unit, BreaksBoundary, hkind, false_or]
  | allowlistedCommand =>
      rw [hkind] at hfirst
      obtain ⟨inner, hinner, rfl⟩ := (isFirst_map_iff fun _ => rfl).mp hfirst
      have hfound : ∀ kind, allowlistedCommandCapability adapterId capabilities kind =
        .ok inner := fun _ => capabilityById_eq_ok_iff.mpr hinner
      simp only [hfound, bind_eq_error_iff, reduceCtorEq, Except.ok.injEq, exists_eq_left',
        requestedArgs_eq_error_iff, forM_requireContains_eq_error_iff, forM_eq_ok_iff, requireContains_eq_ok_iff,
        Unique.exists_iff, PUnit.default_eq_unit, BreaksBoundary, hkind, false_or]
      simp only [and_or_left, exists_or, args_fail_iff, args_pass_iff]

variable (capabilities flags) in
/-- What needs no capability is authorised whatever the runner has. -/
theorem authorised_without_capability
    (hrequired : requiredCapability dispatch.adapter = none) :
    ∃ adapterId, AuthorisedAs dispatch capabilities flags adapterId := by
  cases hkind : dispatch.adapter with
  | noop => exact ⟨"noop", by simp only [AuthorisedAs, hkind]⟩
  | echo => exact ⟨"echo", by simp only [AuthorisedAs, hkind]⟩
  | openAiCompatibleLocalLlm | ollamaLocalLlm | selfHostedLocalLlm | codexAgent
  | claudeCodeAgent | allowlistedCommand =>
      rw [hkind] at hrequired
      cases hrequired

theorem refusedWith_iff {capability : HighRiskCapability}
    (hrequired : requiredCapability dispatch.adapter = some capability) :
    RefusedWith dispatch capabilities flags error ↔
      ((∀ entry, ¬Resolves dispatch capabilities entry) ∧
        error = .missingCapability dispatch.adapter) ∨
      ∃ entry, Resolves dispatch capabilities entry ∧
        (passGate flags dispatch.policy (some capability) = .error error ∨
          passGate flags dispatch.policy (some capability) = .ok () ∧
            BreaksBoundary dispatch error entry) := by
  rw [passGate_eq_error_iff, passGate_eq_ok_iff]
  constructor
  · intro hrefused
    cases hrefused with
    | unresolved _ _ hunresolved => exact Or.inl ⟨hunresolved, rfl⟩
    | flagOff other entry hother hresolves hoff =>
        obtain rfl := Option.some.inj (hother.symm.trans hrequired)
        exact Or.inr ⟨entry, hresolves, Or.inl (Or.inl ⟨hoff, rfl⟩)⟩
    | notAllowed other entry hother hresolves hon hunlisted =>
        obtain rfl := Option.some.inj (hother.symm.trans hrequired)
        exact Or.inr ⟨entry, hresolves, Or.inl (Or.inr ⟨hon, hunlisted, rfl⟩)⟩
    | outOfBounds other entry _ hother hresolves hopened hbreaks =>
        obtain rfl := Option.some.inj (hother.symm.trans hrequired)
        refine Or.inr ⟨entry, hresolves, Or.inr ⟨?_, hbreaks⟩⟩
        rintro _ ⟨⟩
        exact hopened
  · rintro (⟨hunresolved, rfl⟩ |
      ⟨entry, hresolves, (⟨hoff, rfl⟩ | ⟨hon, hunlisted, rfl⟩) | ⟨hopened, hbreaks⟩⟩)
    · exact .unresolved capability hrequired hunresolved
    · exact .flagOff capability entry hrequired hresolves hoff
    · exact .notAllowed capability entry hrequired hresolves hon hunlisted
    · exact .outOfBounds capability entry error hrequired hresolves
        (hopened capability rfl) hbreaks

/-- Exactly the dispatches with a reason are refused, and with that reason. -/
theorem plan_adapter_execution_refuses (dispatch : JobDispatch)
    (capabilities : RunnerCapabilities) (flags : RuntimeFeatureFlags)
    (error : AdapterContractError) :
    planAdapterExecution dispatch capabilities flags = .error error ↔
      RefusedWith dispatch capabilities flags error := by
  cases hrequired : requiredCapability dispatch.adapter with
  | none =>
      obtain ⟨adapterId, hauthorised⟩ :=
        authorised_without_capability capabilities flags hrequired
      rw [planAdapterExecution_eq_ok_iff.mpr ⟨adapterId, hauthorised, rfl⟩]
      refine iff_of_false (by rintro ⟨⟩) ?_
      rintro (⟨_, hsome, _⟩ | ⟨_, _, hsome, _⟩ | ⟨_, _, hsome, _⟩ | ⟨_, _, _, hsome, _⟩) <;>
        exact Option.some_ne_none _ (hsome.symm.trans hrequired)
  | some capability =>
      rw [refusedWith_iff hrequired, planAdapterExecution]
      simp only [bind_eq_error_iff, resolveAdapterId_eq_error_iff hrequired,
        resolveAdapterId_eq_ok_iff' hrequired, hrequired, Unique.exists_iff,
        PUnit.default_eq_unit]
      constructor
      · rintro (hunresolved | ⟨adapterId, ⟨hrequests, entry, hfirst⟩, hstopped⟩)
        · exact Or.inl hunresolved
        · refine Or.inr ⟨entry, ⟨adapterId, hrequests, hfirst⟩, ?_⟩
          rcases hstopped with hgate | ⟨hgate, hbounds | ⟨_, hreturn⟩⟩
          · exact Or.inl hgate
          · exact Or.inr
              ⟨hgate, (validateCapabilityBoundaries_eq_error_iff hfirst).mp hbounds⟩
          · cases hreturn
      · rintro (hunresolved | ⟨entry, ⟨adapterId, hrequests, hfirst⟩, hstopped⟩)
        · exact Or.inl hunresolved
        · refine Or.inr ⟨adapterId, ⟨hrequests, entry, hfirst⟩, ?_⟩
          rcases hstopped with hgate | ⟨hgate, hbreaks⟩
          · exact Or.inl hgate
          · exact Or.inr ⟨hgate, Or.inl
              ((validateCapabilityBoundaries_eq_error_iff hfirst).mpr hbreaks)⟩

end Refusals

end Adapters

end RemoteRunner
