/-
Which kinds an advertised adapter is planned as: the kinds of its capability
group, and within the group all or none.
-/
import RemoteRunner.AdapterPlanning

namespace RemoteRunner

namespace Adapters

open Protocol Runner

/-- An adapter the runner advertises, in its capability group. -/
inductive AdvertisedAdapter where
  | localLlmEndpoint (entry : LocalLlmEndpointCapability)
  | externalAgent (entry : ExternalAgentAdapterCapability)
  | allowlistedCommand (entry : AllowlistedCommandAdapterCapability)
deriving DecidableEq

namespace AdvertisedAdapter

def id : AdvertisedAdapter → String
  | localLlmEndpoint entry => entry.id
  | externalAgent entry => entry.id
  | allowlistedCommand entry => entry.id

/-- The kinds that look an adapter up in this group. -/
def kinds : AdvertisedAdapter → List AdapterKind
  | localLlmEndpoint _ =>
      [.openAiCompatibleLocalLlm, .ollamaLocalLlm, .selfHostedLocalLlm]
  | externalAgent _ => [.codexAgent, .claudeCodeAgent]
  | allowlistedCommand _ => [.allowlistedCommand]

end AdvertisedAdapter

/-- The capability group an adapter of this kind is looked up in. -/
def capabilityGroup (capabilities : RunnerCapabilities) :
    AdapterKind → List AdvertisedAdapter
  | .noop | .echo => []
  | .openAiCompatibleLocalLlm | .ollamaLocalLlm | .selfHostedLocalLlm =>
      capabilities.localLlmEndpoints.map .localLlmEndpoint
  | .codexAgent | .claudeCodeAgent =>
      capabilities.externalAgentAdapters.map .externalAgent
  | .allowlistedCommand =>
      capabilities.allowlistedCommandAdapters.map .allowlistedCommand

/-- The dispatch, sent as this kind, is planned onto this entry. -/
def PlannedOnto (dispatch : JobDispatch) (capabilities : RunnerCapabilities)
    (flags : RuntimeFeatureFlags) (kind : AdapterKind)
    (entry : AdvertisedAdapter) : Prop :=
  ∃ plan,
    planAdapterExecution { dispatch with adapter := kind } capabilities flags =
        .ok plan ∧
      IsFirst AdvertisedAdapter.id (capabilityGroup capabilities kind) plan.adapterId
        entry

section Kinds

variable {dispatch : JobDispatch} {capabilities : RunnerCapabilities}
  {flags : RuntimeFeatureFlags} {kind kind' : AdapterKind} {entry : AdvertisedAdapter}

theorem plannedOnto_iff :
    PlannedOnto dispatch capabilities flags kind entry ↔
      ∃ adapterId,
        AuthorisedAs { dispatch with adapter := kind } capabilities flags adapterId ∧
          IsFirst AdvertisedAdapter.id (capabilityGroup capabilities kind) adapterId
            entry := by
  simp only [PlannedOnto, planAdapterExecution_eq_ok_iff]
  constructor
  · intro hplanned
    obtain ⟨_, ⟨adapterId, hauthorised, rfl⟩, hfirst⟩ := hplanned
    exact ⟨adapterId, hauthorised, hfirst⟩
  · intro hauthorised
    obtain ⟨adapterId, hauthorised, hfirst⟩ := hauthorised
    exact ⟨_, ⟨adapterId, hauthorised, rfl⟩, hfirst⟩

theorem IsFirst.mem {α : Type} {id : α → String} {entries : List α} {adapterId : String}
    {first : α} (h : IsFirst id entries adapterId first) : first ∈ entries := by
  obtain ⟨_, before, after, rfl, _⟩ := h
  exact List.mem_append_right before List.mem_cons_self

/-- A group holds only adapters its kind belongs to. -/
theorem kind_mem_of_mem_group (h : entry ∈ capabilityGroup capabilities kind) :
    kind ∈ entry.kinds := by
  cases kind with
  | noop | echo => cases h
  | openAiCompatibleLocalLlm | ollamaLocalLlm | selfHostedLocalLlm | codexAgent
  | claudeCodeAgent | allowlistedCommand =>
      obtain ⟨_, _, rfl⟩ := List.mem_map.mp h
      simp [AdvertisedAdapter.kinds]

variable (dispatch capabilities flags) in
/-- Kinds of one group share the group, the gate and the boundaries. -/
theorem same_group (hkind : kind ∈ entry.kinds) (hkind' : kind' ∈ entry.kinds) :
    capabilityGroup capabilities kind = capabilityGroup capabilities kind' ∧
      ∀ adapterId,
        AuthorisedAs { dispatch with adapter := kind } capabilities flags adapterId ↔
          AuthorisedAs { dispatch with adapter := kind' } capabilities flags
            adapterId := by
  cases entry with
  | localLlmEndpoint _ =>
      simp only [AdvertisedAdapter.kinds, List.mem_cons, List.not_mem_nil, or_false]
        at hkind hkind'
      rcases hkind with rfl | rfl | rfl <;> rcases hkind' with rfl | rfl | rfl <;>
        exact ⟨rfl, fun _ => Iff.rfl⟩
  | externalAgent _ =>
      simp only [AdvertisedAdapter.kinds, List.mem_cons, List.not_mem_nil, or_false]
        at hkind hkind'
      rcases hkind with rfl | rfl <;> rcases hkind' with rfl | rfl <;>
        exact ⟨rfl, fun _ => Iff.rfl⟩
  | allowlistedCommand _ =>
      obtain rfl := List.mem_singleton.mp hkind
      obtain rfl := List.mem_singleton.mp hkind'
      exact ⟨rfl, fun _ => Iff.rfl⟩

end Kinds

/-- An advertised adapter is planned only as a kind of its capability group,
and as any of them when as one. -/
theorem planned_as_group (dispatch : JobDispatch) (capabilities : RunnerCapabilities)
    (flags : RuntimeFeatureFlags) (entry : AdvertisedAdapter) :
    (∀ kind, PlannedOnto dispatch capabilities flags kind entry →
        kind ∈ entry.kinds) ∧
      ∀ kind ∈ entry.kinds, ∀ kind' ∈ entry.kinds,
        (PlannedOnto dispatch capabilities flags kind entry ↔
          PlannedOnto dispatch capabilities flags kind' entry) := by
  constructor
  · intro kind hplanned
    obtain ⟨_, _, hfirst⟩ := hplanned
    exact kind_mem_of_mem_group hfirst.mem
  · intro kind hkind kind' hkind'
    obtain ⟨hgroup, hauthorised⟩ :=
      same_group dispatch capabilities flags hkind hkind'
    simp only [plannedOnto_iff, hgroup, hauthorised]

/-- A dispatch to the example configuration's Ollama endpoint. -/
def ollamaDispatch : JobDispatch :=
  { commandDispatch with
    input := Value.ofJson (.object [("adapter_id", .string "ollama-local")])
    policy := { commandDispatch.policy with
      allowedCapabilities := ["remote.local_llm_exposure"] } }

def ollamaEndpoint : LocalLlmEndpointCapability where
  id := "ollama-local"
  provider := "ollama"
  baseUrl := "http://127.0.0.1:11434"
  modelIds := ["llama3.2"]
  healthStatus := .unknown
  usageEventRequired := true

/-- The Ollama endpoint is also planned as an OpenAI-compatible one. -/
theorem ollama_planned_as_openai_compatible :
    PlannedOnto ollamaDispatch (.discover bareHost exampleConfig)
        { localLlmEnabled := true } .ollamaLocalLlm (.localLlmEndpoint ollamaEndpoint) ∧
      PlannedOnto ollamaDispatch (.discover bareHost exampleConfig)
        { localLlmEnabled := true } .openAiCompatibleLocalLlm
        (.localLlmEndpoint ollamaEndpoint) := by
  constructor
  · refine ⟨adapterPlan { ollamaDispatch with adapter := .ollamaLocalLlm } "ollama-local",
      by decide, rfl, [], [], by decide, by simp⟩
  · refine ⟨adapterPlan { ollamaDispatch with adapter := .openAiCompatibleLocalLlm }
      "ollama-local", by decide, rfl, [], [], by decide, by simp⟩

end Adapters

end RemoteRunner
