/-
The command line: what each command prints under a configuration it loads, when
it fails, and where the configured credential can be seen in what it prints.
-/
import RemoteRunner.ConfigLoading
import RemoteRunner.DiagnosticsWire
import RemoteRunner.HttpsFallback

namespace RemoteRunner

namespace CommandLine

open Protocol Runner Daemon Diagnostics

inductive DiagnosticHealth where
  | online
  | degraded
  | draining
  | offline
  | quarantined
deriving DecidableEq

def DiagnosticHealth.toRunnerHealth : DiagnosticHealth → RunnerHealth
  | .online => .online
  | .degraded => .degraded
  | .draining => .draining
  | .offline => .offline
  | .quarantined => .quarantined

/-- A command with the path of its configuration. -/
inductive Command where
  | printCapabilities (config : String)
  | register (config : String)
  | runOnce (config : String)
  | diagnostics (config : String) (health : DiagnosticHealth)
      (quarantineReason : Option String)
deriving DecidableEq

def Command.config : Command → String
  | .printCapabilities config => config
  | .register config => config
  | .runOnce config => config
  | .diagnostics config _ _ => config

/-- What a command finds outside of itself. -/
structure World where
  host : Host
  readToString : String → Except String String
  toml : Toml

inductive CliError where
  | loadConfig (path : String) (cause : ConfigLoadError)
  | daemon (cause : DaemonError)
deriving DecidableEq

/-- The text an error displays, its cause aside. -/
def CliError.message : CliError → String
  | .loadConfig path _ => "failed to load config at " ++ path
  | .daemon cause => cause.message

def loadConfig (world : World) (path : String) : Except CliError RemoteConfig :=
  (RemoteConfig.fromPath world.readToString world.toml path).mapError (.loadConfig path)

/-- The documents a command prints under a loaded configuration. -/
def execute (host : Host) (config : RemoteConfig) :
    Command → Except CliError (List Json)
  | .printCapabilities _ => .ok [(RunnerCapabilities.discover host config).toJson]
  | .register _ =>
      let daemon := RunnerDaemon.new host config
      .ok [(ProtocolEnvelope.codec RegistrationRequest.codec).encode
        daemon.registrationPayload]
  | .runOnce _ => do
      let daemon := RunnerDaemon.new host config
      let envelopes ← daemon.runOnce.mapError .daemon
      return envelopes.map (ProtocolEnvelope.codec .value).encode
  | .diagnostics _ health quarantineReason =>
      .ok [(operatorDiagnostics host config
        { health := health.toRunnerHealth, quarantineReason }).toJson]

def runCli (world : World) (command : Command) : Except CliError (List Json) := do
  let config ← loadConfig world command.config
  execute world.host config command

/-! ### The credential -/

/-- The result without the credential references it reports. -/
def withoutRefs (result : AdapterResult) : AdapterResult :=
  { result with auditMetadata := { result.auditMetadata with scopedCredentialRefs := [] } }

/-- The final event of a run, as it is printed. -/
def printedResult (result : AdapterResult) : Json :=
  (ProtocolEnvelope.codec .value).encode
    (jsonEnvelope AdapterResult.toJson (.new "job.final_result" result))

/-- What a command prints under two configurations is the same, but for the
credential references of the final result of a run. -/
def SameButRefs (first second : RemoteConfig) (printed printed' : List Json) :
    Command → Prop
  | .runOnce _ => ∃ events result result',
      printed = events ++ [printedResult result] ∧
        printed' = events ++ [printedResult result'] ∧
        withoutRefs result = withoutRefs result' ∧
        result.auditMetadata.scopedCredentialRefs = first.credentialPlaceholder.toList ∧
        result'.auditMetadata.scopedCredentialRefs = second.credentialPlaceholder.toList
  | _ => printed = printed'

/-- The final result a run reports. -/
def finalReport (daemon : RunnerDaemon) : AdapterResult :=
  finalResult daemon.job daemon.jobOutput daemon.jobUsage (runnerName daemon.config)

/-- The events a run prints before its final result. -/
def earlierEvents (daemon : RunnerDaemon) : List Json :=
  ((daemon.evidence (runnerName daemon.config) daemon.job daemon.jobOutput
    (bundledLog (runnerName daemon.config))).take 8).map
      (ProtocolEnvelope.codec .value).encode

theorem execute_runOnce (host : Host) (config : RemoteConfig) (path : String) :
    execute host config (.runOnce path) =
      .ok (earlierEvents (.new host config) ++
        [printedResult (finalReport (.new host config))]) := by
  simp only [execute, runOnce_eq]
  rfl

theorem earlierEvents_credential (host : Host) (config : RemoteConfig)
    (credential : Option String) :
    earlierEvents (.new host { config with credentialPlaceholder := credential }) =
      earlierEvents (.new host config) := rfl

theorem execute_same_but_refs (host : Host) {first second : RemoteConfig}
    (h : withoutCredential first = withoutCredential second) (command : Command) :
    ∃ printed printed', execute host first command = .ok printed ∧
      execute host second command = .ok printed' ∧
      SameButRefs first second printed printed' command := by
  obtain ⟨credential, rfl⟩ : ∃ credential,
      second = { first with credentialPlaceholder := credential } := by
    refine ⟨second.credentialPlaceholder, ?_⟩
    cases first
    cases second
    simpa [withoutCredential] using Eq.symm h
  cases command with
  | printCapabilities _ => exact ⟨_, _, rfl, rfl, rfl⟩
  | register _ => exact ⟨_, _, rfl, rfl, rfl⟩
  | runOnce _ =>
      refine ⟨_, _, execute_runOnce host first _, execute_runOnce host _ _, ?_⟩
      exact ⟨earlierEvents (.new host first), finalReport (.new host first),
        finalReport (.new host { first with credentialPlaceholder := credential }), rfl,
        by rw [earlierEvents_credential], rfl, rfl, rfl⟩
  | diagnostics _ health quarantineReason =>
      have hshown := fun config => operatorDiagnostics_withoutCredential host config
        { health := health.toRunnerHealth, quarantineReason }
      have hsame := (hshown first).trans
        (hshown { first with credentialPlaceholder := credential }).symm
      exact ⟨_, _, rfl, rfl, congrArg (fun value => [Value.toJson value]) hsame⟩

/-- How the command line fails, and what it shows of the credential. -/
structure Contract (world : World) : Prop where
  /-- A command fails exactly when its configuration does not load, with an error
  that names the file, and then it prints nothing. -/
  fails_iff : ∀ command error, runCli world command = .error error ↔
    ∃ cause, RemoteConfig.fromPath world.readToString world.toml command.config =
        .error cause ∧ error = .loadConfig command.config cause
  /-- Of the credential only the final result of a run tells anything. -/
  confined : ∀ (world' : World) command first second, world'.host = world.host →
    loadConfig world command.config = .ok first →
    loadConfig world' command.config = .ok second →
    withoutCredential first = withoutCredential second →
      ∃ printed printed', runCli world command = .ok printed ∧
        runCli world' command = .ok printed' ∧
        SameButRefs first second printed printed' command

end CommandLine

end RemoteRunner
