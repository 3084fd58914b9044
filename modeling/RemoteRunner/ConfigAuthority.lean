/-
What a configuration file must say before the runner plans a high-risk adapter:
nothing is enabled by a default, so every permission a plan rests on stands in
the file.
-/
import RemoteRunner.AdapterKinds
import RemoteRunner.ConfigLoading
import RemoteRunner.JobEnvironment

namespace RemoteRunner

open WireField WireRecord

/-- A list of texts in a document has this text. -/
def Json.Lists (document : Json) (name : String) (position : Nat) (text : String) :
    Prop :=
  ∃ items, document.entry name position = some (.array items) ∧ .string text ∈ items

theorem WireField.lists_of_mem {omits : String → Bool} {name : String} {document : Json}
    {position : Nat} {texts : List String} {text : String}
    (h : (withDefault omits name (.vec .string) []).take (document.behind position) =
      some texts) (hmem : text ∈ texts) : document.Lists name position text := by
  obtain ⟨source, hentry, hdecode⟩ := withDefault_entry h (List.ne_nil_of_mem hmem)
  obtain ⟨items, item, rfl, hitem, htext⟩ := Codec.vec_item hdecode hmem
  rw [Codec.string_decode_eq_some_iff] at htext
  exact ⟨items, hentry, htext ▸ hitem⟩

namespace Runner

open Adapters Protocol

/-! ### Entries of a loaded configuration -/

/-- The member of `feature_flags` that turns a capability on, and its position. -/
def HighRiskCapability.flagMember : HighRiskCapability → String × Nat
  | .localToolExecution => ("local_tools_enabled", 0)
  | .localLlmExposure => ("local_llm_enabled", 1)
  | .externalAgentRuntimeAdapter => ("external_agent_adapters_enabled", 2)
  | .computerUseExecution => ("computer_use_enabled", 3)

/-- The file turns the flag of this capability on. -/
def FlagSet (document : Json) (capability : HighRiskCapability) : Prop :=
  ∃ flags, document.entry "feature_flags" 12 = some flags ∧
    flags.entry capability.flagMember.1 capability.flagMember.2 = some (.bool true)

/-- The file has this item in a group of its capability overrides. -/
def Listed (document : Json) (group : String) (position : Nat) (item : Json) : Prop :=
  ∃ overrides items, document.entry "capability_overrides" 11 = some overrides ∧
    overrides.entry group position = some (.array items) ∧ item ∈ items

section Entries

variable {document item : Json} {config : RemoteConfig}

theorem config_entries (h : RemoteConfig.ofDocument document = some config) :
    (config.capabilityOverrides ≠ {} →
      ∃ overrides, document.entry "capability_overrides" 11 = some overrides ∧
        (CapabilityOverrides.codec fun _ => false).decode overrides =
          some config.capabilityOverrides) ∧
    (config.featureFlags ≠ {} →
      ∃ flags, document.entry "feature_flags" 12 = some flags ∧
        (RuntimeFeatureFlags.codec fun _ => false).decode flags =
          some config.featureFlags) := by
  obtain ⟨⟨url, runner, token, credential, labels, concurrency, groups, env, risky,
    heartbeat, timeout, overrides, flags, _⟩, hfields, rfl⟩ :=
    Option.map_eq_some_iff.mp h
  simp only [toCodec_cons_eq_some_iff, Json.behind_behind, Nat.reduceAdd] at hfields
  obtain ⟨-, -, -, -, -, -, -, -, -, -, -, hoverrides, hflags, -⟩ := hfields
  exact ⟨withDefault_entry hoverrides, withDefault_entry hflags⟩

/-- A capability is on only because the file says so. -/
theorem flagSet_of_enabled (h : RemoteConfig.ofDocument document = some config)
    {capability : HighRiskCapability}
    (henabled : capability.flagEnabled config.featureFlags = true) :
    FlagSet document capability := by
  have hne : config.featureFlags ≠ {} := by
    intro hdefault
    rw [hdefault] at henabled
    cases capability <;> cases henabled
  obtain ⟨source, hentry, hdecode⟩ := (config_entries h).2 hne
  refine ⟨source, hentry, ?_⟩
  obtain ⟨⟨tools, llm, agents, computer, _⟩, hfields, hflags⟩ :=
    Option.map_eq_some_iff.mp hdecode
  rw [← hflags] at henabled
  rw [← source.behind_zero] at hfields
  simp only [toCodec_cons_eq_some_iff, Json.behind_behind, Nat.reduceAdd] at hfields
  obtain ⟨htools, hllm, hagents, hcomputer, -⟩ := hfields
  have hread : ∀ {name position value},
      (withDefault (fun _ => false) name .bool false).take (source.behind position) =
        some value → value = true → source.entry name position = some (.bool true) := by
    rintro name position _ htake rfl
    obtain ⟨flag, hflag, hvalue⟩ := withDefault_entry htake (by decide)
    rw [Codec.bool_decode_eq_some_iff] at hvalue
    rw [hflag, hvalue]
  cases capability with
  | localToolExecution => exact hread htools henabled
  | localLlmExposure => exact hread hllm henabled
  | externalAgentRuntimeAdapter => exact hread hagents henabled
  | computerUseExecution => exact hread hcomputer henabled

/-- Every adapter of a loaded configuration is an item of the file. -/
theorem adapters_listed (h : RemoteConfig.ofDocument document = some config) :
    (∀ endpoint ∈ config.capabilityOverrides.localLlmEndpoints,
      ∃ item, Listed document "local_llm_endpoints" 1 item ∧
        (LocalLlmEndpointConfig.codec fun _ => false).decode item = some endpoint) ∧
    (∀ adapter ∈ config.capabilityOverrides.externalAgentAdapters,
      ∃ item, Listed document "external_agent_adapters" 2 item ∧
        (ExternalAgentAdapterConfig.codec fun _ => false).decode item = some adapter) ∧
    ∀ adapter ∈ config.capabilityOverrides.allowlistedCommandAdapters,
      ∃ item, Listed document "allowlisted_command_adapters" 3 item ∧
        (AllowlistedCommandAdapterConfig.codec fun _ => false).decode item =
          some adapter := by
  by_cases hdefault : config.capabilityOverrides = {}
  · rw [hdefault]
    simp
  obtain ⟨source, hentry, hdecode⟩ := (config_entries h).1 hdefault
  obtain ⟨⟨zone, endpoints, agents, commands, tools, modes, _⟩, hfields, hoverrides⟩ :=
    Option.map_eq_some_iff.mp hdecode
  rw [← hoverrides]
  simp only [toCodec_cons_eq_some_iff, Json.behind_behind, Nat.reduceAdd] at hfields
  obtain ⟨-, hendpoints, hagents, hcommands, -⟩ := hfields
  have hlisted : ∀ {α : Type} [DecidableEq α] {codec : Codec α} {group position values},
      (withDefault (fun _ => false) group codec.vec []).take (source.behind position) =
        some values → ∀ value ∈ values,
      ∃ item, Listed document group position item ∧ codec.decode item = some value := by
    intro α _ codec group position values htake value hmem
    obtain ⟨list, hlist, hvalues⟩ := withDefault_entry htake (List.ne_nil_of_mem hmem)
    obtain ⟨items, item, rfl, hitem, hvalue⟩ := Codec.vec_item hvalues hmem
    exact ⟨item, ⟨source, items, hentry, hlist, hitem⟩, hvalue⟩
  exact ⟨hlisted hendpoints, hlisted hagents, hlisted hcommands⟩

theorem endpoint_id {endpoint : LocalLlmEndpointConfig}
    (h : (LocalLlmEndpointConfig.codec fun _ => false).decode item = some endpoint) :
    item.entry "id" 0 = some (.string endpoint.id) := by
  obtain ⟨⟨id, provider, baseUrl, models, health, _⟩, hfields, rfl⟩ :=
    Option.map_eq_some_iff.mp h
  rw [← item.behind_zero, toCodec_cons_eq_some_iff] at hfields
  obtain ⟨source, hentry, hid⟩ := required_entry hfields.1
  rw [hentry, Codec.string_decode_eq_some_iff.mp hid]

theorem agent_entries {adapter : ExternalAgentAdapterConfig}
    (h : (ExternalAgentAdapterConfig.codec fun _ => false).decode item = some adapter) :
    item.entry "id" 0 = some (.string adapter.id) ∧
      (∀ mode ∈ adapter.supportedIsolationModes,
        item.Lists "supported_isolation_modes" 3 mode) ∧
      ∀ mode ∈ adapter.supportedNetworkModes,
        item.Lists "supported_network_modes" 4 mode := by
  obtain ⟨⟨id, runtime, label, isolation, network, _⟩, hfields, rfl⟩ :=
    Option.map_eq_some_iff.mp h
  rw [← item.behind_zero] at hfields
  simp only [toCodec_cons_eq_some_iff, Json.behind_behind, Nat.reduceAdd] at hfields
  obtain ⟨hid, -, -, hisolation, hnetwork, -⟩ := hfields
  obtain ⟨source, hentry, hid⟩ := required_entry hid
  rw [hentry, Codec.string_decode_eq_some_iff.mp hid]
  exact ⟨rfl, fun _ => lists_of_mem hisolation, fun _ => lists_of_mem hnetwork⟩

theorem command_entries {adapter : AllowlistedCommandAdapterConfig}
    (h : (AllowlistedCommandAdapterConfig.codec fun _ => false).decode item =
      some adapter) :
    item.entry "id" 0 = some (.string adapter.id) ∧
      (∀ arg ∈ adapter.allowedArgs, item.Lists "allowed_args" 2 arg) ∧
      ∀ name ∈ adapter.allowedEnv, item.Lists "allowed_env" 3 name := by
  obtain ⟨⟨id, label, args, env, _⟩, hfields, rfl⟩ := Option.map_eq_some_iff.mp h
  rw [← item.behind_zero] at hfields
  simp only [toCodec_cons_eq_some_iff, Json.behind_behind, Nat.reduceAdd] at hfields
  obtain ⟨hid, -, hargs, henv, -⟩ := hfields
  obtain ⟨source, hentry, hid⟩ := required_entry hid
  rw [hentry, Codec.string_decode_eq_some_iff.mp hid]
  exact ⟨rfl, fun _ => lists_of_mem hargs, fun _ => lists_of_mem henv⟩

end Entries

/-! ### Plans -/

/-- The file permits what a dispatch asks of this adapter: the flag is on, the
adapter is listed, and so is everything its entry bounds. -/
def FileAuthorises (document : Json) (dispatch : JobDispatch) (adapterId : String) :
    Prop :=
  match dispatch.adapter with
  | .noop | .echo => True
  | .openAiCompatibleLocalLlm | .ollamaLocalLlm | .selfHostedLocalLlm =>
      FlagSet document .localLlmExposure ∧
        ∃ item, Listed document "local_llm_endpoints" 1 item ∧
          item.entry "id" 0 = some (.string adapterId)
  | .codexAgent | .claudeCodeAgent =>
      FlagSet document .externalAgentRuntimeAdapter ∧
        ∃ item, Listed document "external_agent_adapters" 2 item ∧
          item.entry "id" 0 = some (.string adapterId) ∧
          item.Lists "supported_isolation_modes" 3
            dispatch.policy.workspace.rootStrategy ∧
          item.Lists "supported_network_modes" 4 dispatch.policy.network.mode
  | .allowlistedCommand =>
      FlagSet document .localToolExecution ∧
        ∃ item, Listed document "allowlisted_command_adapters" 3 item ∧
          item.entry "id" 0 = some (.string adapterId) ∧
          (∀ args, requestedArgs dispatch = .ok args →
            ∀ arg ∈ args, item.Lists "allowed_args" 2 arg) ∧
          ∀ name ∈ dispatch.policy.workspace.allowedEnv,
            item.Lists "allowed_env" 3 name

theorem requestedArgs_within {dispatch : JobDispatch} {allowed args : List String}
    (h : ArgsWithin dispatch allowed) (hargs : requestedArgs dispatch = .ok args) :
    ∀ arg ∈ args, arg ∈ allowed := by
  rcases requestedArgs_eq_ok_iff.mp hargs with ⟨hnone, rfl⟩ | hsome
  · simp
  · rcases h with hnone | ⟨within, hwithin, hallowed⟩
    · rw [hnone] at hsome
      cases hsome
    · rw [hsome] at hwithin
      have htexts : args.map Json.string = within.map .string := by simpa using hwithin
      have hsame := List.map_injective_iff.mpr
        (fun _ _ heq => Json.string.inj heq) htexts
      rwa [hsame]

theorem authorisedAs_file {document : Json} {config : RemoteConfig} {host : Host}
    {dispatch : JobDispatch} {adapterId : String}
    (h : RemoteConfig.ofDocument document = some config)
    (hauthorised : AuthorisedAs dispatch (.discover host config) config.featureFlags
      adapterId) : FileAuthorises document dispatch adapterId := by
  obtain ⟨hendpoints, hagents, hcommands⟩ := adapters_listed h
  rw [AuthorisedAs] at hauthorised
  rw [FileAuthorises]
  cases hkind : dispatch.adapter with
  | noop | echo => trivial
  | openAiCompatibleLocalLlm | ollamaLocalLlm | selfHostedLocalLlm =>
      simp only [hkind] at hauthorised
      obtain ⟨-, hgate, entry, hfirst⟩ := hauthorised
      obtain ⟨endpoint, hendpoint, rfl⟩ := List.mem_map.mp hfirst.mem
      obtain ⟨item, hlisted, hdecode⟩ := hendpoints endpoint hendpoint
      exact ⟨flagSet_of_enabled h hgate.1, item, hlisted,
        hfirst.1 ▸ endpoint_id hdecode⟩
  | codexAgent | claudeCodeAgent =>
      simp only [hkind] at hauthorised
      obtain ⟨-, hgate, entry, hfirst, hisolation, hnetwork⟩ := hauthorised
      obtain ⟨adapter, hadapter, rfl⟩ := List.mem_map.mp hfirst.mem
      obtain ⟨item, hlisted, hdecode⟩ := hagents adapter hadapter
      obtain ⟨hentry, hisolations, hnetworks⟩ := agent_entries hdecode
      exact ⟨flagSet_of_enabled h hgate.1, item, hlisted, hfirst.1 ▸ hentry,
        hisolations _ hisolation, hnetworks _ hnetwork⟩
  | allowlistedCommand =>
      simp only [hkind] at hauthorised
      obtain ⟨-, hgate, entry, hfirst, hargs, henv⟩ := hauthorised
      obtain ⟨adapter, hadapter, rfl⟩ := List.mem_map.mp hfirst.mem
      obtain ⟨item, hlisted, hdecode⟩ := hcommands adapter hadapter
      obtain ⟨hentry, hallowed, hnames⟩ := command_entries hdecode
      exact ⟨flagSet_of_enabled h hgate.1, item, hlisted, hfirst.1 ▸ hentry,
        fun _ hok arg harg => hallowed arg (requestedArgs_within hargs hok arg harg),
        fun name hname => hnames name (henv name hname)⟩

/-- A file that enables local tools and lists one command. -/
def commandFile : Json := .object [
  ("control_plane_url", .string "https://taskotter.local"),
  ("registration_token_env", .string "TASKOTTER_REMOTE_REGISTRATION_TOKEN"),
  ("capability_overrides", .object [
    ("allowlisted_command_adapters", .array [.object [
      ("id", .string "cargo-test"), ("command_label", .string "cargo"),
      ("allowed_args", .array [.string "test"]),
      ("allowed_env", .array [.string "PATH", .string "TMPDIR"])]])]),
  ("feature_flags", .object [("local_tools_enabled", .bool true)])]

def commandFileText : String :=
  "control_plane_url = \"https://taskotter.local\"\n" ++
  "registration_token_env = \"TASKOTTER_REMOTE_REGISTRATION_TOKEN\"\n" ++
  "[[capability_overrides.allowlisted_command_adapters]]\n" ++
  "id = \"cargo-test\"\ncommand_label = \"cargo\"\n" ++
  "allowed_args = [\"test\"]\nallowed_env = [\"PATH\", \"TMPDIR\"]\n" ++
  "[feature_flags]\nlocal_tools_enabled = true\n"

/-- The library on this one file; it is given no other. -/
def commandFileToml : Toml where
  parse raw := if raw = commandFileText then .ok commandFile else .error "not this file"
  mismatch _ := "not a configuration"

def commandFileConfig : RemoteConfig where
  controlPlaneUrl := "https://taskotter.local"
  runnerId := none
  registrationTokenEnv := "TASKOTTER_REMOTE_REGISTRATION_TOKEN"
  credentialPlaceholder := none
  capabilityOverrides := {
    allowlistedCommandAdapters := [{
      id := "cargo-test"
      commandLabel := "cargo"
      allowedArgs := ["test"]
      allowedEnv := ["PATH", "TMPDIR"] }] }
  featureFlags := { localToolsEnabled := true }

theorem commandFile_parses : commandFileToml.parse commandFileText = .ok commandFile := by
  simp only [commandFileToml, ↓reduceIte]

theorem commandFile_loads :
    RemoteConfig.fromTomlStr commandFileToml commandFileText = .ok commandFileConfig := by
  apply fromTomlStr_eq_ok_iff.mpr
  refine ⟨commandFile, commandFile_parses, ?_, ?_⟩
  · rfl
  · decide

open JobIsolation

/-- What the job of a planned command gets: of the environment what the entry of its
adapter in the file lists, as the runner has it bound, and of the credentials the
one its plan names. -/
structure CommandConfined (document : Json) (dispatch : JobDispatch)
    (plan : AdapterExecutionPlan) (ambientEnv : List (String × String)) : Prop where
  environment : ∃ item, Listed document "allowlisted_command_adapters" 3 item ∧
    item.entry "id" 0 = some (.string plan.adapterId) ∧
    ∀ name value,
      (planJobIsolation dispatch ambientEnv).allowedEnv.get? name = some value →
        item.Lists "allowed_env" 3 name ∧ Binds ambientEnv name value
  credential : ∀ name,
    (planJobIsolation dispatch ambientEnv).owns ⟨dispatch.jobId, .credential, name⟩ =
      .ok () ↔ name ∈ plan.metadata.scopedCredentialRefs

end Runner

end RemoteRunner
