import RemoteRunner.OrderedEntries
import RemoteRunner.JsonTree
import RemoteRunner.JsonReorder
import RemoteRunner.WireCodec
import RemoteRunner.WireRecord
import RemoteRunner.TextTrim
import RemoteRunner.EarlyReturn
import RemoteRunner.Protocol
import RemoteRunner.DispatchAuth
import RemoteRunner.DispatchChecks
import RemoteRunner.StepRun
import RemoteRunner.OnceGate
import RemoteRunner.JoinedText
import RemoteRunner.CompactText
import RemoteRunner.Base64
import RemoteRunner.DispatchAssumptions
import RemoteRunner.DispatchSigning
import RemoteRunner.DispatchAuthenticity
import RemoteRunner.DispatchRuns
import RemoteRunner.RunnerLifecycle
import RemoteRunner.RunnerLifecycleSteps
import RemoteRunner.RunnerLifecycleRuns
import RemoteRunner.JobIsolation
import RemoteRunner.DispatchReceived
import RemoteRunner.DispatchVerdicts
import RemoteRunner.RunnerLifecycleLeases
import RemoteRunner.RunnerLifecycleTokens
import RemoteRunner.JobLifecycle
import RemoteRunner.RunRedaction
import RemoteRunner.SecretRedaction
import RemoteRunner.DispatchWire
import RemoteRunner.AdapterPlanning
import RemoteRunner.JobRun
import RemoteRunner.RunnerDaemon
import RemoteRunner.WorkingGroups
import RemoteRunner.Diagnostics
import RemoteRunner.ReportedSecrets
import RemoteRunner.DispatchAcceptance
import RemoteRunner.JobEnvironment
import RemoteRunner.RedactedSurfaces
import RemoteRunner.DiagnosticsEquivalence
import RemoteRunner.AdapterKinds
import RemoteRunner.AuditTrail
import RemoteRunner.SimulatedRun
import RemoteRunner.Interleaving
import RemoteRunner.RunnerLifecycleClients
import RemoteRunner.GateMemory
import RemoteRunner.DispatchStreams
import RemoteRunner.DispatchFleet
import RemoteRunner.RunnerLifecycleHistory
import RemoteRunner.WireScalars
import RemoteRunner.WireStaged
import RemoteRunner.RunnerWire
import RemoteRunner.HttpsFallback
import RemoteRunner.DiagnosticsWire
import RemoteRunner.WireDefaults
import RemoteRunner.ConfigLoading
import RemoteRunner.ConfigAuthority
import RemoteRunner.AdapterRefusals
import RemoteRunner.PlanningOrder
import RemoteRunner.PlanningContracts
import RemoteRunner.RedactedLines
import RemoteRunner.CommandLine
import RemoteRunner.RunnerLifecycleStandings
import RemoteRunner.RunnerLifecycleRecovery
import RemoteRunner.RunnerLifecycleBudget
import RemoteRunner.WireTexts
import RemoteRunner.RedactedMessages
