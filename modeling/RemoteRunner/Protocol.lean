/-
The dispatch messages of the runner protocol and their wire form.  Every record
lists its members in declaration order; an option is written as null unless the
source skips it.
-/
import RemoteRunner.WireRecord

namespace RemoteRunner

namespace Protocol

def PROTOCOL_VERSION : String := "remote.v1alpha1"

def SUPPORTED_PROTOCOL_VERSIONS : List String := [PROTOCOL_VERSION]

inductive ProtocolCompatibilityError where
  | unsupportedProtocolVersion (version : String)
deriving DecidableEq

def validateProtocolVersion (version : String) :
    Except ProtocolCompatibilityError Unit :=
  if version ∈ SUPPORTED_PROTOCOL_VERSIONS then .ok ()
  else .error (.unsupportedProtocolVersion version)

structure ProtocolEnvelope (T : Type) where
  protocolVersion : String
  messageType : String
  payload : T
deriving DecidableEq

structure WorkspacePolicy where
  workspaceId : String
  rootStrategy : String
  allowedEnv : List String
  scopedCredentialRef : Option String
  artifactPathAllowlist : List String
deriving DecidableEq

structure NetworkPolicy where
  mode : String
  allowedTargets : List String
deriving DecidableEq

inductive AdapterKind where
  | noop
  | echo
  | openAiCompatibleLocalLlm
  | ollamaLocalLlm
  | selfHostedLocalLlm
  | codexAgent
  | claudeCodeAgent
  | allowlistedCommand
deriving DecidableEq

/-- The instruction a control plane may embed in a dispatch. -/
structure SignedDispatchInstruction where
  instructionId : String
  jobId : String
  leaseId : String
  tenantId : String
  runnerId : String
  capabilityInventoryVersion : String
  protocolVersion : String
  policyDecisionId : String
  policyVersion : String
  allowedAdapter : AdapterKind
  executionMode : String
  timeoutSeconds : UInt64
  maxConcurrencyImpact : UInt16
  inputRefs : List String
  artifactAllowlist : List String
  credentialRef : String
  credentialExpiresAt : String
  credentialAudience : String
  network : NetworkPolicy
  logRedaction : String
  retentionClass : String
  usageCorrelationId : String
  auditCorrelationId : String
  issuedAt : String
  notBefore : String
  expiresAt : String
  nonce : String
  keyId : String
  signature : String
deriving DecidableEq

structure PolicySnapshot where
  policyVersion : String
  workingGroupId : String
  allowedCapabilities : List String
  riskyActions : List String
  workspace : WorkspacePolicy
  network : NetworkPolicy
deriving DecidableEq

structure JobDispatch where
  leaseId : String
  jobId : String
  runnerId : String
  correlationId : String
  idempotencyKey : String
  adapter : AdapterKind
  input : Value
  timeoutSeconds : UInt64
  policy : PolicySnapshot
  signedInstruction : Option SignedDispatchInstruction
deriving DecidableEq

structure JobLeaseAcceptance where
  leaseId : String
  jobId : String
  runnerId : String
  accepted : Bool
  reason : Option String
deriving DecidableEq

/-! ### Wire forms -/

open WireField WireRecord

/-- The snake case name of an adapter kind. -/
def AdapterKind.name : AdapterKind → String
  | .noop => "noop"
  | .echo => "echo"
  | .openAiCompatibleLocalLlm => "open_ai_compatible_local_llm"
  | .ollamaLocalLlm => "ollama_local_llm"
  | .selfHostedLocalLlm => "self_hosted_local_llm"
  | .codexAgent => "codex_agent"
  | .claudeCodeAgent => "claude_code_agent"
  | .allowlistedCommand => "allowlisted_command"

/-- The name an adapter kind prints in an error. -/
def AdapterKind.debug : AdapterKind → String
  | .noop => "Noop"
  | .echo => "Echo"
  | .openAiCompatibleLocalLlm => "OpenAiCompatibleLocalLlm"
  | .ollamaLocalLlm => "OllamaLocalLlm"
  | .selfHostedLocalLlm => "SelfHostedLocalLlm"
  | .codexAgent => "CodexAgent"
  | .claudeCodeAgent => "ClaudeCodeAgent"
  | .allowlistedCommand => "AllowlistedCommand"

def AdapterKind.all : List AdapterKind :=
  [.noop, .echo, .openAiCompatibleLocalLlm, .ollamaLocalLlm,
    .selfHostedLocalLlm, .codexAgent, .claudeCodeAgent, .allowlistedCommand]

theorem AdapterKind.mem_all (kind : AdapterKind) : kind ∈ all := by
  cases kind <;> decide

theorem AdapterKind.name_injective (first second : AdapterKind)
    (h : first.name = second.name) : first = second := by
  cases first <;> cases second <;> first | rfl | exact absurd h (by decide)

def AdapterKind.codec : Codec AdapterKind :=
  .enumeration all name mem_all name_injective

def NetworkPolicy.codec : Codec NetworkPolicy :=
  (cons (required "mode" .string) <|
    cons (required "allowed_targets" (.vec .string)) nil).toCodec.iso
    (fun (mode, allowedTargets, _) => { mode, allowedTargets })
    (fun policy => (policy.mode, policy.allowedTargets, ()))
    (fun _ => rfl) (fun _ => rfl)

def WorkspacePolicy.codec : Codec WorkspacePolicy :=
  (cons (required "workspace_id" .string) <|
    cons (required "root_strategy" .string) <|
    cons (required "allowed_env" (.vec .string)) <|
    cons (optional "scoped_credential_ref" .string rfl) <|
    cons (required "artifact_path_allowlist" (.vec .string)) nil).toCodec.iso
    (fun (workspaceId, rootStrategy, allowedEnv, scopedCredentialRef,
        artifactPathAllowlist, _) =>
      { workspaceId, rootStrategy, allowedEnv, scopedCredentialRef,
        artifactPathAllowlist })
    (fun policy => (policy.workspaceId, policy.rootStrategy,
      policy.allowedEnv, policy.scopedCredentialRef,
      policy.artifactPathAllowlist, ()))
    (fun _ => rfl) (fun _ => rfl)

def SignedDispatchInstruction.codec : Codec SignedDispatchInstruction :=
  (cons (required "instruction_id" .string) <|
    cons (required "job_id" .string) <|
    cons (required "lease_id" .string) <|
    cons (required "tenant_id" .string) <|
    cons (required "runner_id" .string) <|
    cons (required "capability_inventory_version" .string) <|
    cons (required "protocol_version" .string) <|
    cons (required "policy_decision_id" .string) <|
    cons (required "policy_version" .string) <|
    cons (required "allowed_adapter" AdapterKind.codec) <|
    cons (required "execution_mode" .string) <|
    cons (required "timeout_seconds" .u64) <|
    cons (required "max_concurrency_impact" .u16) <|
    cons (required "input_refs" (.vec .string)) <|
    cons (required "artifact_allowlist" (.vec .string)) <|
    cons (required "credential_ref" .string) <|
    cons (required "credential_expires_at" .string) <|
    cons (required "credential_audience" .string) <|
    cons (required "network" NetworkPolicy.codec) <|
    cons (required "log_redaction" .string) <|
    cons (required "retention_class" .string) <|
    cons (required "usage_correlation_id" .string) <|
    cons (required "audit_correlation_id" .string) <|
    cons (required "issued_at" .string) <|
    cons (required "not_before" .string) <|
    cons (required "expires_at" .string) <|
    cons (required "nonce" .string) <|
    cons (required "key_id" .string) <|
    cons (required "signature" .string) nil).toCodec.iso
    (fun (instructionId, jobId, leaseId, tenantId, runnerId,
        capabilityInventoryVersion, protocolVersion, policyDecisionId,
        policyVersion, allowedAdapter, executionMode, timeoutSeconds,
        maxConcurrencyImpact, inputRefs, artifactAllowlist, credentialRef,
        credentialExpiresAt, credentialAudience, network, logRedaction,
        retentionClass, usageCorrelationId, auditCorrelationId, issuedAt,
        notBefore, expiresAt, nonce, keyId, signature, _) =>
      { instructionId, jobId, leaseId, tenantId, runnerId,
        capabilityInventoryVersion, protocolVersion, policyDecisionId,
        policyVersion, allowedAdapter, executionMode, timeoutSeconds,
        maxConcurrencyImpact, inputRefs, artifactAllowlist, credentialRef,
        credentialExpiresAt, credentialAudience, network, logRedaction,
        retentionClass, usageCorrelationId, auditCorrelationId, issuedAt,
        notBefore, expiresAt, nonce, keyId, signature })
    (fun instruction => (instruction.instructionId, instruction.jobId,
      instruction.leaseId, instruction.tenantId, instruction.runnerId,
      instruction.capabilityInventoryVersion, instruction.protocolVersion,
      instruction.policyDecisionId, instruction.policyVersion,
      instruction.allowedAdapter, instruction.executionMode,
      instruction.timeoutSeconds, instruction.maxConcurrencyImpact,
      instruction.inputRefs, instruction.artifactAllowlist,
      instruction.credentialRef, instruction.credentialExpiresAt,
      instruction.credentialAudience, instruction.network,
      instruction.logRedaction, instruction.retentionClass,
      instruction.usageCorrelationId, instruction.auditCorrelationId,
      instruction.issuedAt, instruction.notBefore, instruction.expiresAt,
      instruction.nonce, instruction.keyId, instruction.signature, ()))
    (fun _ => rfl) (fun _ => rfl)

def PolicySnapshot.codec : Codec PolicySnapshot :=
  (cons (required "policy_version" .string) <|
    cons (required "working_group_id" .string) <|
    cons (required "allowed_capabilities" (.vec .string)) <|
    cons (required "risky_actions" (.vec .string)) <|
    cons (required "workspace" WorkspacePolicy.codec) <|
    cons (required "network" NetworkPolicy.codec) nil).toCodec.iso
    (fun (policyVersion, workingGroupId, allowedCapabilities, riskyActions,
        workspace, network, _) =>
      { policyVersion, workingGroupId, allowedCapabilities, riskyActions,
        workspace, network })
    (fun policy => (policy.policyVersion, policy.workingGroupId,
      policy.allowedCapabilities, policy.riskyActions, policy.workspace,
      policy.network, ()))
    (fun _ => rfl) (fun _ => rfl)

def JobDispatch.codec : Codec JobDispatch :=
  (cons (required "lease_id" .string) <|
    cons (required "job_id" .string) <|
    cons (required "runner_id" .string) <|
    cons (required "correlation_id" .string) <|
    cons (required "idempotency_key" .string) <|
    cons (required "adapter" AdapterKind.codec) <|
    cons (required "input" .value) <|
    cons (required "timeout_seconds" .u64) <|
    cons (required "policy" PolicySnapshot.codec) <|
    cons (skippedIfNone "signed_instruction"
      SignedDispatchInstruction.codec rfl) nil).toCodec.iso
    (fun (leaseId, jobId, runnerId, correlationId, idempotencyKey, adapter,
        input, timeoutSeconds, policy, signedInstruction, _) =>
      { leaseId, jobId, runnerId, correlationId, idempotencyKey, adapter,
        input, timeoutSeconds, policy, signedInstruction })
    (fun dispatch => (dispatch.leaseId, dispatch.jobId, dispatch.runnerId,
      dispatch.correlationId, dispatch.idempotencyKey, dispatch.adapter,
      dispatch.input, dispatch.timeoutSeconds, dispatch.policy,
      dispatch.signedInstruction, ()))
    (fun _ => rfl) (fun _ => rfl)

def ProtocolEnvelope.codec {T : Type} (payload : Codec T) :
    Codec (ProtocolEnvelope T) :=
  (cons (required "protocol_version" .string) <|
    cons (required "message_type" .string) <|
    cons (required "payload" payload) nil).toCodec.iso
    (fun (protocolVersion, messageType, payload, _) =>
      { protocolVersion, messageType, payload })
    (fun envelope => (envelope.protocolVersion, envelope.messageType,
      envelope.payload, ()))
    (fun _ => rfl) (fun _ => rfl)

end Protocol

end RemoteRunner
