/-
Planning never loses what it had: more flags, more allowed capabilities, wider
entries and entries added behind them keep every plan.
-/
import RemoteRunner.AdapterRefusals

namespace RemoteRunner

namespace Adapters

open Protocol Runner

/-- The dispatch stays inside what this entry supports. -/
def InBounds (dispatch : JobDispatch) : AdvertisedAdapter → Prop
  | .localLlmEndpoint _ => True
  | .externalAgent entry =>
      dispatch.policy.workspace.rootStrategy ∈ entry.supportedIsolationModes ∧
        dispatch.policy.network.mode ∈ entry.supportedNetworkModes
  | .allowlistedCommand entry =>
      ArgsWithin dispatch entry.allowedArgs ∧
        ∀ name ∈ dispatch.policy.workspace.allowedEnv, name ∈ entry.allowedEnv

/-- The same adapter, supporting at least as much. -/
inductive AdvertisedAdapter.Widens : AdvertisedAdapter → AdvertisedAdapter → Prop
  | localLlmEndpoint {entry entry' : LocalLlmEndpointCapability}
      (id : entry.id = entry'.id) :
      Widens (.localLlmEndpoint entry) (.localLlmEndpoint entry')
  | externalAgent {entry entry' : ExternalAgentAdapterCapability}
      (id : entry.id = entry'.id)
      (isolation : entry.supportedIsolationModes ⊆ entry'.supportedIsolationModes)
      (network : entry.supportedNetworkModes ⊆ entry'.supportedNetworkModes) :
      Widens (.externalAgent entry) (.externalAgent entry')
  | allowlistedCommand {entry entry' : AllowlistedCommandAdapterCapability}
      (id : entry.id = entry'.id) (args : entry.allowedArgs ⊆ entry'.allowedArgs)
      (env : entry.allowedEnv ⊆ entry'.allowedEnv) :
      Widens (.allowlistedCommand entry) (.allowlistedCommand entry')

/-- Every entry is widened in its place, and new ones stand behind them. -/
def Extends (entries entries' : List AdvertisedAdapter) : Prop :=
  ∃ widened added, entries' = widened ++ added ∧
    List.Forall₂ AdvertisedAdapter.Widens entries widened

section Order

variable {dispatch : JobDispatch} {capabilities : RunnerCapabilities}
  {flags : RuntimeFeatureFlags} {adapterId : String}

theorem AdvertisedAdapter.Widens.id_eq {entry entry' : AdvertisedAdapter}
    (h : entry.Widens entry') : entry.id = entry'.id := by
  cases h with
  | localLlmEndpoint hid | externalAgent hid | allowlistedCommand hid => exact hid

theorem AdvertisedAdapter.Widens.refl (entry : AdvertisedAdapter) : entry.Widens entry := by
  cases entry with
  | localLlmEndpoint entry => exact .localLlmEndpoint rfl
  | externalAgent entry => exact .externalAgent rfl (.refl _) (.refl _)
  | allowlistedCommand entry => exact .allowlistedCommand rfl (.refl _) (.refl _)

theorem Extends.refl (entries : List AdvertisedAdapter) : Extends entries entries := by
  refine ⟨entries, [], (List.append_nil entries).symm, ?_⟩
  exact List.forall₂_same.mpr fun entry _ => .refl entry

theorem ArgsWithin.mono {allowed allowed' : List String} (h : ArgsWithin dispatch allowed)
    (hallowed : allowed ⊆ allowed') : ArgsWithin dispatch allowed' := by
  rcases h with hnone | ⟨args, hargs, hwithin⟩
  · exact Or.inl hnone
  · exact Or.inr ⟨args, hargs, fun arg harg => hallowed (hwithin arg harg)⟩

theorem InBounds.mono {entry entry' : AdvertisedAdapter} (h : InBounds dispatch entry)
    (hwider : entry.Widens entry') : InBounds dispatch entry' := by
  cases hwider with
  | localLlmEndpoint _ => trivial
  | externalAgent _ hisolation hnetwork => exact ⟨hisolation h.1, hnetwork h.2⟩
  | allowlistedCommand _ hargs henv =>
      exact ⟨h.1.mono hargs, fun name hname => henv (h.2 name hname)⟩

theorem isFirst_cons_iff {entry head : AdvertisedAdapter} {entries : List AdvertisedAdapter} :
    IsFirst AdvertisedAdapter.id (head :: entries) adapterId entry ↔
      (head.id = adapterId ∧ head = entry) ∨
        (head.id ≠ adapterId ∧ IsFirst AdvertisedAdapter.id entries adapterId entry) := by
  rw [← find?_eq_some_iff_isFirst, ← find?_eq_some_iff_isFirst, List.find?_cons]
  by_cases hid : head.id = adapterId <;> simp [hid]

/-- The first entry of an id stays first, widened. -/
theorem Extends.isFirst {entries entries' : List AdvertisedAdapter}
    {entry : AdvertisedAdapter} (h : Extends entries entries')
    (hfirst : IsFirst AdvertisedAdapter.id entries adapterId entry) :
    ∃ entry', IsFirst AdvertisedAdapter.id entries' adapterId entry' ∧
      entry.Widens entry' := by
  obtain ⟨widened, added, rfl, hwidened⟩ := h
  induction hwidened with
  | nil =>
      obtain ⟨_, _, _, hnil, _⟩ := hfirst
      simp at hnil
  | @cons head head' _ _ hhead _ ih =>
      rcases isFirst_cons_iff.mp hfirst with ⟨hid, rfl⟩ | ⟨hid, hrest⟩
      · exact ⟨head', isFirst_cons_iff.mpr (Or.inl ⟨hhead.id_eq ▸ hid, rfl⟩), hhead⟩
      · obtain ⟨entry', hentry', hwider⟩ := ih hrest
        exact ⟨entry', isFirst_cons_iff.mpr (Or.inr ⟨hhead.id_eq ▸ hid, hentry'⟩), hwider⟩

theorem exists_isFirst_map_iff {α : Type} {id : α → String} {pack : α → AdvertisedAdapter}
    (hid : ∀ entry, (pack entry).id = id entry) {entries : List α}
    {bounded : AdvertisedAdapter → Prop} :
    (∃ entry, IsFirst AdvertisedAdapter.id (entries.map pack) adapterId entry ∧
        bounded entry) ↔
      ∃ inner, IsFirst id entries adapterId inner ∧ bounded (pack inner) := by
  simp only [isFirst_map_iff hid]
  constructor
  · rintro ⟨_, ⟨inner, hfirst, rfl⟩, hbounded⟩
    exact ⟨inner, hfirst, hbounded⟩
  · rintro ⟨inner, hfirst, hbounded⟩
    exact ⟨pack inner, ⟨inner, hfirst, rfl⟩, hbounded⟩

/-- Authorisation through the group an adapter is looked up in. -/
theorem authorisedAs_iff_group {capability : HighRiskCapability}
    (hrequired : requiredCapability dispatch.adapter = some capability) :
    AuthorisedAs dispatch capabilities flags adapterId ↔
      Requests dispatch adapterId ∧ GateOpen flags dispatch.policy capability ∧
        ∃ entry, IsFirst AdvertisedAdapter.id
          (capabilityGroup capabilities dispatch.adapter) adapterId entry ∧
            InBounds dispatch entry := by
  rw [AuthorisedAs]
  cases hkind : dispatch.adapter with
  | noop | echo =>
      rw [hkind] at hrequired
      cases hrequired
  | openAiCompatibleLocalLlm | ollamaLocalLlm | selfHostedLocalLlm =>
      rw [hkind] at hrequired
      obtain rfl := Option.some.inj hrequired
      rw [capabilityGroup, exists_isFirst_map_iff fun _ => rfl]
      simp only [InBounds, and_true]
      rfl
  | codexAgent | claudeCodeAgent | allowlistedCommand =>
      rw [hkind] at hrequired
      obtain rfl := Option.some.inj hrequired
      rw [capabilityGroup, exists_isFirst_map_iff fun _ => rfl]
      rfl

end Order

/-- The dispatch under a policy that allows other capabilities. -/
def allowing (dispatch : JobDispatch) (allowed : List String) : JobDispatch :=
  { dispatch with policy := { dispatch.policy with allowedCapabilities := allowed } }

/-- Wider authority keeps every plan: flags turned on, capabilities allowed, entries
widened in place and entries added behind the others. -/
theorem planning_monotone (dispatch : JobDispatch)
    (capabilities capabilities' : RunnerCapabilities) (flags flags' : RuntimeFeatureFlags)
    (allowed : List String) (plan : AdapterExecutionPlan)
    (hgroups : ∀ kind,
      Extends (capabilityGroup capabilities kind) (capabilityGroup capabilities' kind))
    (hflags : ∀ capability : HighRiskCapability,
      capability.flagEnabled flags = true → capability.flagEnabled flags' = true)
    (hallowed : dispatch.policy.allowedCapabilities ⊆ allowed)
    (hplan : planAdapterExecution dispatch capabilities flags = .ok plan) :
    planAdapterExecution (allowing dispatch allowed) capabilities' flags' = .ok plan := by
  obtain ⟨adapterId, hauthorised, rfl⟩ := planAdapterExecution_eq_ok_iff.mp hplan
  refine planAdapterExecution_eq_ok_iff.mpr ⟨adapterId, ?_, rfl⟩
  rcases hrequired : requiredCapability dispatch.adapter with _ | capability
  · rw [AuthorisedAs] at hauthorised ⊢
    have hadapter : (allowing dispatch allowed).adapter = dispatch.adapter := rfl
    rw [hadapter]
    cases hkind : dispatch.adapter with
    | noop | echo => simpa only [hkind] using hauthorised
    | openAiCompatibleLocalLlm | ollamaLocalLlm | selfHostedLocalLlm | codexAgent
    | claudeCodeAgent | allowlistedCommand =>
        rw [hkind] at hrequired
        cases hrequired
  · obtain ⟨hrequests, hgate, entry, hfirst, hbounds⟩ :=
      (authorisedAs_iff_group hrequired).mp hauthorised
    obtain ⟨entry', hfirst', hwider⟩ := (hgroups dispatch.adapter).isFirst hfirst
    have hrequired' : requiredCapability (allowing dispatch allowed).adapter =
        some capability := hrequired
    exact (authorisedAs_iff_group hrequired').mpr
      ⟨hrequests, ⟨hflags capability hgate.1, hallowed hgate.2⟩, entry', hfirst',
        hbounds.mono hwider⟩

def widerCommand : AllowlistedCommandAdapterCapability where
  id := "cargo-test"
  commandLabel := "cargo"
  allowedArgs := ["test", "build"]
  allowedEnv := ["PATH", "TMPDIR", "HOME"]
  canSpawnProcess := true

def addedCommand : AllowlistedCommandAdapterCapability where
  id := "cargo-doc"
  commandLabel := "cargo"
  allowedArgs := ["doc"]
  allowedEnv := []
  canSpawnProcess := true

/-- The example inventory with a wider command and a new one behind it. -/
def widerCapabilities : RunnerCapabilities :=
  { RunnerCapabilities.discover bareHost exampleConfig with
    allowlistedCommandAdapters := [widerCommand, addedCommand] }

theorem widerCapabilities_extends (kind : AdapterKind) :
    Extends (capabilityGroup (.discover bareHost exampleConfig) kind)
      (capabilityGroup widerCapabilities kind) := by
  cases kind with
  | allowlistedCommand =>
      have hwider : AdvertisedAdapter.Widens
          (.allowlistedCommand (.ofConfig {
            id := "cargo-test"
            commandLabel := "cargo"
            allowedArgs := ["test"]
            allowedEnv := ["PATH", "TMPDIR"] })) (.allowlistedCommand widerCommand) :=
        .allowlistedCommand rfl (by decide) (by decide)
      exact ⟨[.allowlistedCommand widerCommand], [.allowlistedCommand addedCommand], rfl,
        .cons hwider .nil⟩
  | _ => exact .refl _

theorem planning_monotone_command :
    planAdapterExecution
        (allowing commandDispatch ["remote.local_llm_exposure", "remote.local_tool_execution"])
        widerCapabilities { localToolsEnabled := true, computerUseEnabled := true } =
      .ok (adapterPlan commandDispatch "cargo-test") :=
  planning_monotone commandDispatch (.discover bareHost exampleConfig) widerCapabilities
    { localToolsEnabled := true } { localToolsEnabled := true, computerUseEnabled := true }
    ["remote.local_llm_exposure", "remote.local_tool_execution"]
    (adapterPlan commandDispatch "cargo-test") widerCapabilities_extends
    (by rintro (_ | _ | _ | _) <;> decide) (by decide) (by decide)

end Adapters

end RemoteRunner
