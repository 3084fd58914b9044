/-
The HTTPS fallback: commands polled and events posted in batches whose payloads
travel as plain values and are read as records afterwards.
-/
import RemoteRunner.RunnerDaemon
import RemoteRunner.RunnerWire
import RemoteRunner.WireStaged

namespace RemoteRunner

open WireField WireRecord

namespace Protocol

def HTTPS_FALLBACK_SCHEMA_VERSION : String := "remote_https_fallback.v1alpha1"

structure HttpsFallbackPollRequest where
  schemaVersion : String
  runnerId : String
  protocolVersion : String
  capabilityInventoryVersion : String
  lastControlPlaneEventId : Option String
  lastRunnerEventSequence : UInt64
deriving DecidableEq

/-- The commands of a poll.  The wire type has `T := Value`. -/
structure HttpsFallbackPollResponse (T : Type) where
  schemaVersion : String
  protocolVersion : String
  controlPlaneEventId : String
  commands : List (ProtocolEnvelope T)
  nextPollAfterMs : UInt64
deriving DecidableEq

/-- A batch of events.  The wire type has `T := Value`. -/
structure HttpsFallbackEventBatchRequest (T : Type) where
  schemaVersion : String
  runnerId : String
  idempotencyKey : String
  firstSequence : UInt64
  events : List (ProtocolEnvelope T)
deriving DecidableEq

structure HttpsFallbackEventBatchResponse where
  schemaVersion : String
  accepted : Bool
  acceptedSequences : List UInt64
  retryAfterMs : Option UInt64
deriving DecidableEq

def HttpsFallbackPollRequest.codec : Codec HttpsFallbackPollRequest :=
  (cons (required "schema_version" .string) <|
    cons (required "runner_id" .string) <|
    cons (required "protocol_version" .string) <|
    cons (required "capability_inventory_version" .string) <|
    cons (optional "last_control_plane_event_id" .string Codec.string_decode_null) <|
    cons (required "last_runner_event_sequence" .u64) nil).toCodec.iso
    (fun (schemaVersion, runnerId, protocolVersion, capabilityInventoryVersion,
        lastControlPlaneEventId, lastRunnerEventSequence, _) =>
      { schemaVersion, runnerId, protocolVersion, capabilityInventoryVersion,
        lastControlPlaneEventId, lastRunnerEventSequence })
    (fun request => (request.schemaVersion, request.runnerId, request.protocolVersion,
      request.capabilityInventoryVersion, request.lastControlPlaneEventId,
      request.lastRunnerEventSequence, ()))
    (fun _ => rfl) (fun _ => rfl)

def HttpsFallbackPollResponse.codec {T : Type} (payload : Codec T) :
    Codec (HttpsFallbackPollResponse T) :=
  (cons (required "schema_version" .string) <|
    cons (required "protocol_version" .string) <|
    cons (required "control_plane_event_id" .string) <|
    cons (required "commands" (.vec (ProtocolEnvelope.codec payload))) <|
    cons (required "next_poll_after_ms" .u64) nil).toCodec.iso
    (fun (schemaVersion, protocolVersion, controlPlaneEventId, commands,
        nextPollAfterMs, _) =>
      { schemaVersion, protocolVersion, controlPlaneEventId, commands, nextPollAfterMs })
    (fun response => (response.schemaVersion, response.protocolVersion,
      response.controlPlaneEventId, response.commands, response.nextPollAfterMs, ()))
    (fun _ => rfl) (fun _ => rfl)

def HttpsFallbackEventBatchRequest.codec {T : Type} (payload : Codec T) :
    Codec (HttpsFallbackEventBatchRequest T) :=
  (cons (required "schema_version" .string) <|
    cons (required "runner_id" .string) <|
    cons (required "idempotency_key" .string) <|
    cons (required "first_sequence" .u64) <|
    cons (required "events" (.vec (ProtocolEnvelope.codec payload))) nil).toCodec.iso
    (fun (schemaVersion, runnerId, idempotencyKey, firstSequence, events, _) =>
      { schemaVersion, runnerId, idempotencyKey, firstSequence, events })
    (fun request => (request.schemaVersion, request.runnerId, request.idempotencyKey,
      request.firstSequence, request.events, ()))
    (fun _ => rfl) (fun _ => rfl)

def HttpsFallbackEventBatchResponse.codec : Codec HttpsFallbackEventBatchResponse :=
  (cons (required "schema_version" .string) <|
    cons (required "accepted" .bool) <|
    cons (required "accepted_sequences" (.vec .u64)) <|
    cons (optional "retry_after_ms" .u64 Codec.u64_decode_null) nil).toCodec.iso
    (fun (schemaVersion, accepted, acceptedSequences, retryAfterMs, _) =>
      { schemaVersion, accepted, acceptedSequences, retryAfterMs })
    (fun response => (response.schemaVersion, response.accepted,
      response.acceptedSequences, response.retryAfterMs, ()))
    (fun _ => rfl) (fun _ => rfl)

/-! ### Payloads read later -/

instance : AdapterKind.codec.Stable :=
  inferInstanceAs (Codec.enumeration _ _ _ _).Stable

instance : NetworkPolicy.codec.Stable := by
  unfold NetworkPolicy.codec
  infer_instance

instance : WorkspacePolicy.codec.Stable := by
  have hcredential :=
    optional_stable "scoped_credential_ref" .string Codec.string_decode_null
  unfold WorkspacePolicy.codec
  infer_instance

instance : PolicySnapshot.codec.Stable := by
  unfold PolicySnapshot.codec
  infer_instance

instance : SignedDispatchInstruction.codec.Stable := by
  unfold SignedDispatchInstruction.codec
  infer_instance

instance : JobDispatch.codec.Stable := by
  have hinstruction :=
    skippedIfNone_stable "signed_instruction" SignedDispatchInstruction.codec rfl
  unfold JobDispatch.codec
  infer_instance

/-- Read the payload of an envelope that carries it as a value. -/
def ProtocolEnvelope.readPayload {T : Type} (payload : Codec T)
    (envelope : ProtocolEnvelope Value) : Option (ProtocolEnvelope T) :=
  (payload.decode envelope.payload.toJson).map fun record =>
    { protocolVersion := envelope.protocolVersion
      messageType := envelope.messageType
      payload := record }

/-- An envelope that reads with its record reads with a value, and the value
then reads as the record. -/
theorem ProtocolEnvelope.codec_refines {T : Type} (payload : Codec T) [payload.Stable] :
    (ProtocolEnvelope.codec payload).Refines (ProtocolEnvelope.codec .value)
      fun envelope staged => staged.readPayload payload = some envelope := by
  apply Codec.Refines.iso
  · exact (WireRecord.Refines.cons (.refl .string) <|
      .cons (.refl .string) <| .cons (.value payload) (.refl nil)).toCodec
  · rintro ⟨version, messageType, record, _⟩ ⟨_, _, memory, _⟩ ⟨rfl, rfl, hread, _⟩
    change payload.decode memory.toJson = some record at hread
    simp [readPayload, hread]

theorem mapM_readPayload {T : Type} {payload : Codec T}
    {envelopes : List (ProtocolEnvelope T)} {staged : List (ProtocolEnvelope Value)}
    (h : List.Forall₂ (fun envelope memory =>
      ProtocolEnvelope.readPayload payload memory = some envelope) envelopes staged) :
    staged.mapM (ProtocolEnvelope.readPayload payload) = some envelopes := by
  induction h with
  | nil => rfl
  | cons hread _ ih => simp [hread, ih]

/-- Commands that read as dispatches read with values, and the values then read
as the dispatches, in their order. -/
theorem HttpsFallbackPollResponse.codec_refines {T : Type} (payload : Codec T)
    [payload.Stable] :
    (HttpsFallbackPollResponse.codec payload).Refines
      (HttpsFallbackPollResponse.codec .value) fun response staged =>
        staged.commands.mapM (ProtocolEnvelope.readPayload payload) =
            some response.commands ∧
          staged = { response with commands := staged.commands } := by
  apply Codec.Refines.iso
  · exact (WireRecord.Refines.cons (.refl .string) <|
      .cons (.refl .string) <| .cons (.refl .string) <|
      .cons (ProtocolEnvelope.codec_refines payload).vec <|
      .cons (.refl .u64) (.refl nil)).toCodec
  · rintro ⟨_, _, _, commands, _, _⟩ ⟨_, _, _, staged, _, _⟩
      ⟨rfl, rfl, rfl, hcommands, rfl, _⟩
    exact ⟨mapM_readPayload hcommands, rfl⟩

/-- Where no member is repeated, an envelope reads in stages as it reads at once. -/
theorem ProtocolEnvelope.decode_staged {T : Type} (payload : Codec T) {document : Json}
    (h : document.Distinct) :
    ((ProtocolEnvelope.codec .value).decode document).bind (readPayload payload) =
      (ProtocolEnvelope.codec payload).decode document := by
  cases document with
  | object members =>
      have hfield := WireField.decode_staged "payload" payload h
      simp only [ProtocolEnvelope.codec, Codec.iso, WireRecord.toCodec, WireRecord.cons,
        ← hfield]
      rcases (required "protocol_version" .string).decode members with _ | version
      · rfl
      rcases (required "message_type" .string).decode members with _ | messageType
      · rfl
      rcases (required "payload" Codec.value).decode members with _ | memory
      · rfl
      rcases hread : payload.decode memory.toJson with _ | record
      · simp [readPayload, hread, WireRecord.nil]
      · simp [readPayload, hread, WireRecord.nil]
  | array items =>
      simp only [ProtocolEnvelope.codec, Codec.iso, WireRecord.toCodec, WireRecord.cons]
      rcases hversion : (required "protocol_version" .string).decodeItem items with
        _ | ⟨version, rest⟩
      · rfl
      have hrest := WireField.decodeItem_distinct hversion h.items
      simp only [Option.bind_eq_bind, Option.bind_some]
      rcases hmessage : (required "message_type" .string).decodeItem rest with
        _ | ⟨messageType, last⟩
      · rfl
      have hlast := WireField.decodeItem_distinct hmessage hrest
      simp only [Option.bind_some, ← WireField.decodeItem_staged "payload" payload hlast]
      rcases (required "payload" Codec.value).decodeItem last with _ | ⟨memory, after⟩
      · rfl
      rcases hread : payload.decode memory.toJson with _ | record
      · rcases after with _ | ⟨item, after⟩ <;> simp [readPayload, hread, WireRecord.nil]
      · rcases after with _ | ⟨item, after⟩ <;> simp [readPayload, hread, WireRecord.nil]
  | _ => rfl

/-- A poll response whose known part is the written commands, in any member
order and with unknown members at any depth, even inside the payloads, reads
with values that read as the dispatches it was written from; where no member is
repeated, reading in stages is reading at once; and the records without payload
read back. -/
theorem fallback_commands_read_back :
    (∀ (response : HttpsFallbackPollResponse JobDispatch) (document : Json),
      Json.Reorder ((HttpsFallbackPollResponse.codec JobDispatch.codec).encode response)
          ((HttpsFallbackPollResponse.codec JobDispatch.codec).prune document) →
        ∃ staged, (HttpsFallbackPollResponse.codec .value).decode document = some staged ∧
          staged.commands.mapM (ProtocolEnvelope.readPayload JobDispatch.codec) =
            some response.commands ∧
          staged = { response with commands := staged.commands }) ∧
      (∀ document : Json, document.Distinct →
        ((ProtocolEnvelope.codec .value).decode document).bind
            (ProtocolEnvelope.readPayload JobDispatch.codec) =
          (ProtocolEnvelope.codec JobDispatch.codec).decode document) ∧
      ReadsBack HttpsFallbackPollRequest.codec HttpsFallbackPollRequest.codec.encode ∧
      ReadsBack HttpsFallbackEventBatchResponse.codec
        HttpsFallbackEventBatchResponse.codec.encode := by
  refine ⟨?_, ?_, Writes.readsBack fun _ => rfl, Writes.readsBack fun _ => rfl⟩
  · intro response document hreorder
    have hdecode := (HttpsFallbackPollResponse.codec JobDispatch.codec).decode_reorder
      hreorder
    rw [Codec.decode_prune] at hdecode
    exact HttpsFallbackPollResponse.codec_refines JobDispatch.codec document response
      hdecode
  · intro document hdistinct
    exact ProtocolEnvelope.decode_staged JobDispatch.codec hdistinct

end Protocol

namespace Daemon

open Protocol Runner Job

/-! ### The events of a run -/

/-- The payload of an event reads as the record it was written from. -/
theorem readPayload_jsonEnvelope {T : Type} {codec : Codec T} {toJson : T → Json}
    (h : Writes codec toJson) (envelope : ProtocolEnvelope T) :
    (jsonEnvelope toJson envelope).readPayload codec = some envelope := by
  have hread : codec.decode (toJson envelope.payload).sorted = some envelope.payload := by
    rw [← h envelope.payload, codec.decode_sorted _ (codec.encode_distinct _),
      codec.decode_encode]
  change (codec.decode (toJson envelope.payload).sorted).map _ = _
  rw [hread]
  rfl

/-- The reports of a run name no request. -/
theorem usageReport_hasUuid (uuid : UuidText) (lease : JobLease) (runnerId : String) :
    (usageReport lease runnerId).HasUuid uuid := by
  intro requestId h
  cases h

/-- The job a run executes. -/
def RunnerDaemon.job (daemon : RunnerDaemon) : JobDispatch :=
  rewriteDispatch daemon.config (runnerName daemon.config) bundledJob

/-- The output of the job. -/
def RunnerDaemon.jobOutput (daemon : RunnerDaemon) : AdapterRunOutput :=
  runOutput daemon.job "hello from fixture"

/-- The usage a run reports. -/
def RunnerDaemon.jobUsage (daemon : RunnerDaemon) : UsageReport :=
  usageReport (leaseFromDispatch daemon.job) (runnerName daemon.config)

/-- The event at the position carries this record. -/
def EventReads {T : Type} (events : List (ProtocolEnvelope Value)) (position : Nat)
    (codec : Codec T) (envelope : ProtocolEnvelope T) : Prop :=
  events[position]?.bind (ProtocolEnvelope.readPayload codec) = some envelope

/-- The events carry the records of the run, one kind each, in their order. -/
structure RunReadsBack (uuid : UuidText) (daemon : RunnerDaemon)
    (events : List (ProtocolEnvelope Value)) : Prop where
  length : events.length = 9
  registration : EventReads events 0 RegistrationRequest.codec
    daemon.registrationPayload
  capabilities : EventReads events 1 RunnerCapabilities.codec
    daemon.capabilitySnapshotPayload
  heartbeat : EventReads events 2 Heartbeat.codec
    (ProtocolEnvelope.new "runner.heartbeat" (daemon.heartbeat (runnerName daemon.config)))
  lease : EventReads events 3 JobLeaseAcceptance.codec
    (leaseAccepted (leaseFromDispatch daemon.job) (runnerName daemon.config))
  progress : EventReads events 4 ProgressUpdate.codec
    (ProtocolEnvelope.new "job.progress" {
      jobId := daemon.jobOutput.outcome.jobId
      runnerId := runnerName daemon.config
      sequence := 1
      phase := "running"
      percent := 100 })
  log : EventReads events 5 LogChunk.codec
    (ProtocolEnvelope.new "job.log" (bundledLog (runnerName daemon.config)))
  artifacts : EventReads events 6 ArtifactManifest.codec
    (ProtocolEnvelope.new "job.artifacts" daemon.jobOutput.artifacts)
  usage : EventReads events 7 (UsageReport.codec uuid)
    (ProtocolEnvelope.new "job.usage.report" ⟨daemon.jobUsage, usageReport_hasUuid uuid _ _⟩)
  result : EventReads events 8 (AdapterResult.codec uuid)
    (ProtocolEnvelope.new "job.final_result"
      ⟨finalResult daemon.job daemon.jobOutput daemon.jobUsage (runnerName daemon.config),
        usageReport_hasUuid uuid _ _⟩)

theorem eventReads_of_jsonEnvelope {T : Type} {codec : Codec T} {toJson : T → Json}
    {events : List (ProtocolEnvelope Value)} {position : Nat}
    {envelope : ProtocolEnvelope T} (h : Writes codec toJson)
    (hevent : events[position]? = some (jsonEnvelope toJson envelope)) :
    EventReads events position codec envelope := by
  rw [EventReads, hevent]
  exact readPayload_jsonEnvelope h envelope

theorem evidence_reads_back (uuid : UuidText) (daemon : RunnerDaemon) :
    RunReadsBack uuid daemon
      (daemon.evidence (runnerName daemon.config) daemon.job daemon.jobOutput
        (bundledLog (runnerName daemon.config))) where
  length := rfl
  registration := eventReads_of_jsonEnvelope RegistrationRequest.codec_writes rfl
  capabilities := eventReads_of_jsonEnvelope RunnerCapabilities.codec_writes rfl
  heartbeat := eventReads_of_jsonEnvelope Heartbeat.codec_writes rfl
  lease := eventReads_of_jsonEnvelope JobLeaseAcceptance.codec_writes rfl
  progress := eventReads_of_jsonEnvelope ProgressUpdate.codec_writes rfl
  log := eventReads_of_jsonEnvelope LogChunk.codec_writes rfl
  artifacts := eventReads_of_jsonEnvelope ArtifactManifest.codec_writes rfl
  usage := eventReads_of_jsonEnvelope (UsageReport.codec_writes uuid) rfl
  result := eventReads_of_jsonEnvelope (AdapterResult.codec_writes uuid) rfl

/-- A run never fails, and however its events are batched for the fallback, a
document whose known part is the written batch in some member order reads as the
batch, whose events read as the records of the run. -/
theorem fallback_carries_run (uuid : UuidText) (host : Host) (config : RemoteConfig) :
    ∃ events, (RunnerDaemon.new host config).runOnce = .ok events ∧
      RunReadsBack uuid (.new host config) events ∧
      ∀ (batch : HttpsFallbackEventBatchRequest Value) (document : Json),
        batch.events = events →
        Json.Reorder ((HttpsFallbackEventBatchRequest.codec .value).encode batch)
          ((HttpsFallbackEventBatchRequest.codec .value).prune document) →
        (HttpsFallbackEventBatchRequest.codec .value).decode document = some batch := by
  refine ⟨_, runOnce_eq _, evidence_reads_back uuid (.new host config), ?_⟩
  intro batch document _ hreorder
  rw [← Codec.decode_prune]
  exact Codec.decode_reorder _ hreorder

end Daemon

end RemoteRunner
