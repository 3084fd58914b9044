/-
The wire round trip of a dispatch.  Members a newer control plane adds to any
record of the message, and the order of members, change nothing of what is
read.
-/
import RemoteRunner.DispatchReceived
import RemoteRunner.WireShape

namespace RemoteRunner

namespace Protocol

open WireShape

def NetworkPolicy.shape : WireShape :=
  .record [("mode", .leaf), ("allowed_targets", .leaf)]

def WorkspacePolicy.shape : WireShape :=
  .record [("workspace_id", .leaf), ("root_strategy", .leaf), ("allowed_env", .leaf),
    ("scoped_credential_ref", .leaf), ("artifact_path_allowlist", .leaf)]

def SignedDispatchInstruction.shape : WireShape :=
  .record [("instruction_id", .leaf), ("job_id", .leaf), ("lease_id", .leaf),
    ("tenant_id", .leaf), ("runner_id", .leaf),
    ("capability_inventory_version", .leaf), ("protocol_version", .leaf),
    ("policy_decision_id", .leaf), ("policy_version", .leaf),
    ("allowed_adapter", .leaf), ("execution_mode", .leaf),
    ("timeout_seconds", .leaf), ("max_concurrency_impact", .leaf),
    ("input_refs", .leaf), ("artifact_allowlist", .leaf), ("credential_ref", .leaf),
    ("credential_expires_at", .leaf), ("credential_audience", .leaf),
    ("network", NetworkPolicy.shape), ("log_redaction", .leaf),
    ("retention_class", .leaf), ("usage_correlation_id", .leaf),
    ("audit_correlation_id", .leaf), ("issued_at", .leaf), ("not_before", .leaf),
    ("expires_at", .leaf), ("nonce", .leaf), ("key_id", .leaf), ("signature", .leaf)]

def PolicySnapshot.shape : WireShape :=
  .record [("policy_version", .leaf), ("working_group_id", .leaf),
    ("allowed_capabilities", .leaf), ("risky_actions", .leaf),
    ("workspace", WorkspacePolicy.shape), ("network", NetworkPolicy.shape)]

def JobDispatch.shape : WireShape :=
  .record [("lease_id", .leaf), ("job_id", .leaf), ("runner_id", .leaf),
    ("correlation_id", .leaf), ("idempotency_key", .leaf), ("adapter", .leaf),
    ("input", .leaf), ("timeout_seconds", .leaf), ("policy", PolicySnapshot.shape),
    ("signed_instruction", SignedDispatchInstruction.shape)]

def ProtocolEnvelope.shape (payload : WireShape) : WireShape :=
  .record [("protocol_version", .leaf), ("message_type", .leaf), ("payload", payload)]

theorem NetworkPolicy.reads : Reads shape codec := by
  apply ReadsFields.reads
  exact .cons (reads_leaf rfl) <| .cons (reads_vec rfl) readsFields_nil

theorem WorkspacePolicy.reads : Reads shape codec := by
  apply ReadsFields.reads
  exact .cons (reads_leaf rfl) <| .cons (reads_leaf rfl) <| .cons (reads_vec rfl) <|
    .cons ((reads_leaf rfl).option rfl) <| .cons (reads_vec rfl) readsFields_nil

theorem SignedDispatchInstruction.reads : Reads shape codec := by
  apply ReadsFields.reads
  repeat
    first
    | exact readsFields_nil
    | refine .cons (reads_leaf rfl) ?_
    | refine .cons (reads_vec rfl) ?_
    | refine .cons NetworkPolicy.reads ?_

theorem PolicySnapshot.reads : Reads shape codec := by
  apply ReadsFields.reads
  exact .cons (reads_leaf rfl) <| .cons (reads_leaf rfl) <| .cons (reads_vec rfl) <|
    .cons (reads_vec rfl) <| .cons WorkspacePolicy.reads <|
    .cons NetworkPolicy.reads readsFields_nil

theorem JobDispatch.reads : Reads shape codec := by
  apply ReadsFields.reads
  exact .cons (reads_leaf rfl) <| .cons (reads_leaf rfl) <| .cons (reads_leaf rfl) <|
    .cons (reads_leaf rfl) <| .cons (reads_leaf rfl) <| .cons (reads_leaf rfl) <|
    .cons (reads_leaf rfl) <| .cons (reads_leaf rfl) <| .cons PolicySnapshot.reads <|
    .cons (SignedDispatchInstruction.reads.option rfl) readsFields_nil

theorem ProtocolEnvelope.reads {T : Type} {payload : WireShape} {codec : Codec T}
    (h : Reads payload codec) :
    Reads (shape payload) (ProtocolEnvelope.codec codec) := by
  apply ReadsFields.reads
  exact .cons (reads_leaf rfl) <| .cons (reads_leaf rfl) <| .cons h readsFields_nil

open DispatchAuth

/-- Decoding undoes encoding, and so it does after unknown members were inserted
into any records of the message and object members were reordered. -/
theorem dispatch_wire_round_trip (envelope : ProtocolEnvelope JobDispatch) :
    dispatchCodec.decode (dispatchCodec.encode envelope) = some envelope ∧
      ∀ document,
        Extends (ProtocolEnvelope.shape JobDispatch.shape)
            (dispatchCodec.encode envelope) document →
          dispatchCodec.decode document = some envelope := by
  refine ⟨dispatchCodec.decode_encode envelope, ?_⟩
  intro document hextends
  exact (ProtocolEnvelope.reads JobDispatch.reads).decode_extends hextends

theorem extends_addMember {fields : List (String × WireShape)} {name : String}
    (h : name ∉ fields.map Prod.fst) (value document : Json) :
    Extends (.record fields) document (addMember name value document) := by
  cases document with
  | object members =>
      have hinsert := Extends.insert members name value [] h
      rw [List.append_nil] at hinsert
      exact hinsert
  | _ => exact .refl _ _

/-- Additive members of the message and of its payload are ignored. -/
theorem dispatch_wire_round_trip_fixture :
    dispatchCodec.decode (dispatchCodec.encode fixtureDispatch) = some fixtureDispatch ∧
      dispatchCodec.decode
          (addMember "control_plane_build"
            (.string "taskotter-control-plane-fixture+additive")
            (overMember "payload" (addMember "dispatch_priority" (.string "normal"))
              (dispatchCodec.encode fixtureDispatch))) = some fixtureDispatch := by
  have hpayload : Extends JobDispatch.shape
      (JobDispatch.codec.encode fixtureDispatch.payload)
      (addMember "dispatch_priority" (.string "normal")
        (JobDispatch.codec.encode fixtureDispatch.payload)) :=
    extends_addMember (by decide) _ _
  have hmessage : Extends (ProtocolEnvelope.shape JobDispatch.shape)
      (dispatchCodec.encode fixtureDispatch)
      (overMember "payload" (addMember "dispatch_priority" (.string "normal"))
        (dispatchCodec.encode fixtureDispatch)) :=
    .member [("protocol_version", _), ("message_type", _)] "payload" [] rfl hpayload
  obtain ⟨hround, hadditive⟩ := dispatch_wire_round_trip fixtureDispatch
  exact ⟨hround, hadditive _ (hmessage.trans (extends_addMember (by decide) _ _))⟩

end Protocol

end RemoteRunner
