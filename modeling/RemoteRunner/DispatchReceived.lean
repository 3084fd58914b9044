/-
The payload of what was received against the payload of what was sent.  The
verifier re-encodes the typed envelope, so the two agree exactly on documents
laid out as the encoder lays them out.
-/
import RemoteRunner.DispatchAuthenticity

namespace RemoteRunner

namespace DispatchAuth

open Protocol

variable {SigningKey VerifyingKey : Type} {env : Externals SigningKey VerifyingKey}

/-- The payload of a document as it was sent. -/
def sentPayload (env : Externals SigningKey VerifyingKey) (document : Json)
    (signature : DispatchSignature) : Except DispatchVerificationError String :=
  sortedText env (signingDocument document signature)

theorem sentPayload_congr {document document' : Json}
    (h : document.sorted = document'.sorted) (signature : DispatchSignature) :
    sentPayload env document signature = sentPayload env document' signature := by
  rw [sentPayload, sentPayload, sortedText, sortedText, sortJsonValue, sortJsonValue,
    signingDocument_sorted, signingDocument_sorted, h]

/-- Payloads agree exactly when the sorted documents do. -/
theorem canonicalSigningPayload_eq_sentPayload_iff (hprints : PrintsEvery env)
    (hdistinct : PrintsDistinct env) {dispatch : ProtocolEnvelope JobDispatch} {document : Json}
    {signature : DispatchSignature} :
    canonicalSigningPayload env dispatch signature =
        sentPayload env document signature ↔
      document.sorted = (dispatchCodec.encode dispatch).sorted := by
  constructor
  · intro h
    obtain ⟨text, hprint⟩ := hprints (signingDocument document signature).sorted
    have hsent : sentPayload env document signature = .ok text :=
      sortedText_eq_ok_iff.mpr hprint
    exact (sortedText_signingDocument_injective hdistinct hsent
      (h.trans hsent)).1
  · intro h
    exact sentPayload_congr h.symm signature

/-- The signature of a call verifies over the payload of this document. -/
def SignedAsSent (env : Externals SigningKey VerifyingKey) (document : Json)
    (call : VerifyCall VerifyingKey) : Prop :=
  ∀ key signature text,
    call.registry.get call.instruction.signature.keyId = some key →
    env.base64Decode call.instruction.signature.signatureBase64 =
      some signature.bytes →
    sentPayload env document call.instruction.signature = .ok text →
    env.verify key.verifyingKey text.toByteArray signature = true

/-- The signature of a call was made under a key in use and verifies over the
payload of this document and over nothing else. -/
def SignedOnlyAsSent (env : Externals SigningKey VerifyingKey) (document : Json)
    (call : VerifyCall VerifyingKey) : Prop :=
  ∃ key signature text,
    call.registry.get call.instruction.signature.keyId = some key ∧
    ¬key.status.Rejects call.nowUnixSeconds
      call.instruction.signature.signedAtUnixSeconds ∧
    env.base64Decode call.instruction.signature.signatureBase64 =
      some signature.bytes ∧
    sentPayload env document call.instruction.signature = .ok text ∧
    ∀ message, env.verify key.verifyingKey message signature = true ↔
      message = text.toByteArray

section Step

variable {Cache : Type} [DispatchReplayCache Cache] {document : Json}
  (call : VerifyCall VerifyingKey)

/-- A signature over the payload as sent is not invalid when the payloads
agree. -/
theorem not_invalidSignature_of_payload_eq
    (hpayload : canonicalSigningPayload env call.instruction.dispatch
        call.instruction.signature =
      sentPayload env document call.instruction.signature)
    (hsigned : SignedAsSent env document call) (cache : Cache) :
    (verifyStep env cache call).1 ≠ .error .invalidSignature := by
  intro hinvalid
  rcases hcheck : checkCall env call with error | value
  · rw [verifyStep_of_check_error hcheck] at hinvalid
    obtain rfl := Except.error.inj hinvalid
    obtain ⟨_, key, signature, text, hready, hfailed⟩ :=
      checkCall_invalidSignature_iff.mp hcheck
    have hverified := hsigned key signature text hready.registered hready.decoded
      (hpayload ▸ hready.printed)
    exact Bool.false_ne_true (hfailed.symm.trans hverified)
  · rw [verifyStep_of_admissible (checkCall_eq_ok_iff.mp hcheck)] at hinvalid
    split at hinvalid
    · exact absurd hinvalid (by simp)
    · exact absurd hinvalid (by simp)

/-- A signature over nothing but the payload as sent is invalid when the
payloads differ. -/
theorem invalidSignature_of_payload_ne (hprints : PrintsEvery env)
    (hpayload : canonicalSigningPayload env call.instruction.dispatch
        call.instruction.signature ≠
      sentPayload env document call.instruction.signature)
    (hscope : InScope call) (hsigned : SignedOnlyAsSent env document call)
    (cache : Cache) :
    verifyStep env cache call = (.error .invalidSignature, cache) := by
  obtain ⟨key, signature, text, hkey, hinUse, hdecoded, hsent, hverify⟩ := hsigned
  obtain ⟨text', hprint⟩ := hprints (signingDocument
    (dispatchCodec.encode call.instruction.dispatch) call.instruction.signature).sorted
  have hprinted : canonicalSigningPayload env call.instruction.dispatch
      call.instruction.signature = .ok text' := sortedText_eq_ok_iff.mpr hprint
  have hne : text' ≠ text := by
    rintro rfl
    exact hpayload (hprinted.trans hsent.symm)
  have hfailed : env.verify key.verifyingKey text'.toByteArray signature = false := by
    rw [← Bool.not_eq_true, hverify]
    exact fun h => hne (String.toByteArray_inj.mp h)
  exact verifyStep_of_check_error (checkCall_invalidSignature_iff.mpr
    ⟨hscope, key, signature, text', ⟨hkey, hinUse, hdecoded, hprinted⟩, hfailed⟩)

end Step

/-- For a document the decoder accepts, the payload of the decoded envelope is
the payload of the document exactly when the document has only the members the
records declare, in objects, with the credential reference present, no null
instruction and adapters given by name.  Then a signature over the document is
never invalid; otherwise one over the document alone is. -/
theorem received_payload_iff (hprints : PrintsEvery env)
    (hdistinct : PrintsDistinct env) {document : Json}
    {dispatch : ProtocolEnvelope JobDispatch}
    (hdecode : dispatchCodec.decode document = some dispatch) :
    (∀ signature,
      canonicalSigningPayload env dispatch signature =
          sentPayload env document signature ↔
        dispatchCodec.Written document) ∧
      (∀ call : VerifyCall VerifyingKey, call.instruction.dispatch = dispatch →
        SignedAsSent env document call → dispatchCodec.Written document →
          ∀ cache : InMemoryDispatchReplayCache,
            (verifyStep env cache call).1 ≠ .error .invalidSignature) ∧
      ∀ call : VerifyCall VerifyingKey, call.instruction.dispatch = dispatch →
        InScope call → SignedOnlyAsSent env document call →
          ¬dispatchCodec.Written document →
          ∀ cache : InMemoryDispatchReplayCache,
            verifyStep env cache call = (.error .invalidSignature, cache) := by
  have hiff : ∀ signature, canonicalSigningPayload env dispatch signature =
      sentPayload env document signature ↔ dispatchCodec.Written document := by
    intro signature
    rw [canonicalSigningPayload_eq_sentPayload_iff hprints hdistinct,
      dispatchCodec.written_iff document dispatch hdecode]
  refine ⟨hiff, ?_, ?_⟩
  · rintro call rfl hsigned hwritten cache
    exact not_invalidSignature_of_payload_eq call
      ((hiff call.instruction.signature).mpr hwritten) hsigned cache
  · rintro call rfl hscope hsigned hwritten cache
    exact invalidSignature_of_payload_ne call hprints
      (mt (hiff call.instruction.signature).mp hwritten) hscope hsigned cache

def fixtureDispatch : ProtocolEnvelope JobDispatch :=
  echoDispatch "local-dev-runner" "job_fixture_echo_001" "idem_fixture_echo_001"

theorem received_payload_iff_fixture :
    (∀ signature,
      canonicalSigningPayload (standIn fun _ _ => true) fixtureDispatch signature =
          sentPayload (standIn fun _ _ => true) (dispatchCodec.encode fixtureDispatch)
            signature ↔
        dispatchCodec.Written (dispatchCodec.encode fixtureDispatch)) ∧
      (∀ call : VerifyCall UInt8, call.instruction.dispatch = fixtureDispatch →
        SignedAsSent (standIn fun _ _ => true)
            (dispatchCodec.encode fixtureDispatch) call →
          dispatchCodec.Written (dispatchCodec.encode fixtureDispatch) →
          ∀ cache : InMemoryDispatchReplayCache,
            (verifyStep (standIn fun _ _ => true) cache call).1 ≠
              .error .invalidSignature) ∧
      ∀ call : VerifyCall UInt8, call.instruction.dispatch = fixtureDispatch →
        InScope call →
          SignedOnlyAsSent (standIn fun _ _ => true)
            (dispatchCodec.encode fixtureDispatch) call →
          ¬dispatchCodec.Written (dispatchCodec.encode fixtureDispatch) →
          ∀ cache : InMemoryDispatchReplayCache,
            verifyStep (standIn fun _ _ => true) cache call =
              (.error .invalidSignature, cache) :=
  received_payload_iff (standIn_parsesPrinted _).printsEvery
    (standIn_parsesPrinted _).printsDistinct (dispatchCodec.decode_encode fixtureDispatch)

/-! ### Documents whose payload is lost -/

/-- Change the value of a member. -/
def overMember (name : String) (edit : Json → Json) : Json → Json
  | .object members => .object (members.map fun member =>
      if member.1 = name then (member.1, edit member.2) else member)
  | document => document

def addMember (name : String) (value : Json) : Json → Json
  | .object members => .object (members ++ [(name, value)])
  | document => document

def removeMember (name : String) : Json → Json
  | .object members => .object (members.filter fun member => member.1 ≠ name)
  | document => document

/-- A member no record declares. -/
def additiveDocument : Json :=
  addMember "control_plane_build" (.string "taskotter-control-plane-fixture+additive")
    (dispatchCodec.encode fixtureDispatch)

/-- The credential reference left out. -/
def missingReferenceDocument : Json :=
  overMember "payload" (overMember "policy" (overMember "workspace"
    (removeMember "scoped_credential_ref"))) (dispatchCodec.encode fixtureDispatch)

/-- The embedded instruction given as null. -/
def nullInstructionDocument : Json :=
  overMember "payload" (addMember "signed_instruction" .null)
    (dispatchCodec.encode fixtureDispatch)

def fixtureSignature : DispatchSignature :=
  { unsignedSignature fixtureContext with
    signatureBase64 := Base64.encode (List.replicate 64 activeKey.verifyingKey) }

def fixtureCall (dispatch : ProtocolEnvelope JobDispatch) : VerifyCall UInt8 :=
  ⟨⟨dispatch, fixtureSignature⟩, fixtureRegistry, 1800000000, "local-dev-runner"⟩

/-- The payload of one document is on record. -/
def sentOnRecord (document : Json) (_ : UInt8) (message : ByteArray) : Bool :=
  match sentPayload (standIn fun _ _ => true) document fixtureSignature with
  | .ok text => sameBytes message text.toByteArray
  | .error _ => false

def signedOver (document : Json) : Externals UInt8 UInt8 :=
  standIn (sentOnRecord document)

theorem signedOver_signedOnlyAsSent (document : Json)
    (dispatch : ProtocolEnvelope JobDispatch) :
    SignedOnlyAsSent (signedOver document) document (fixtureCall dispatch) := by
  obtain ⟨text, hprint, _⟩ := standIn_parsesPrinted (sentOnRecord document)
    (signingDocument document fixtureSignature).sorted
  have hsent : sentPayload (signedOver document) document fixtureSignature =
      .ok text := sortedText_eq_ok_iff.mpr hprint
  have hsent' : sentPayload (standIn fun _ _ => true) document fixtureSignature =
      .ok text := hsent
  refine ⟨activeKey, (signedOver document).sign activeKey.verifyingKey default, text,
    fixtureRegistry_activeKey, not_false, standIn_decodesEncoded _ _, hsent, ?_⟩
  intro message
  have hrecord : sentOnRecord document activeKey.verifyingKey message =
      sameBytes message text.toByteArray := by
    rw [sentOnRecord, hsent']
  simp only [signedOver, standIn, decide_true, Bool.true_and, hrecord, sameBytes_iff]

/-- The decoder accepts the document, its payload is another one than that of
the decoded envelope, and its signature is refused. -/
def RefusedAsSent (document : Json) : Prop :=
  ∃ dispatch, dispatchCodec.decode document = some dispatch ∧
    canonicalSigningPayload (signedOver document) dispatch fixtureSignature ≠
      sentPayload (signedOver document) document fixtureSignature ∧
    SignedOnlyAsSent (signedOver document) document (fixtureCall dispatch) ∧
    ∀ cache : InMemoryDispatchReplayCache,
      verifyStep (signedOver document) cache (fixtureCall dispatch) =
        (.error .invalidSignature, cache)

theorem refusedAsSent_of_decode {document : Json}
    (dispatch : ProtocolEnvelope JobDispatch)
    (hdecode : dispatchCodec.decode document = some dispatch)
    (hscope : InScope (fixtureCall dispatch))
    (hsorted : document.sorted ≠ (dispatchCodec.encode dispatch).sorted) :
    RefusedAsSent document := by
  have hjson : ParsesPrinted (signedOver document) := standIn_parsesPrinted _
  have hpayload : canonicalSigningPayload (signedOver document) dispatch
      fixtureSignature ≠ sentPayload (signedOver document) document fixtureSignature := by
    rwa [ne_eq, canonicalSigningPayload_eq_sentPayload_iff hjson.printsEvery
      hjson.printsDistinct]
  have hsigned := signedOver_signedOnlyAsSent document dispatch
  refine ⟨dispatch, hdecode, hpayload, hsigned, ?_⟩
  intro cache
  exact invalidSignature_of_payload_ne (fixtureCall dispatch) hjson.printsEvery
    hpayload hscope hsigned cache

/-- An additive member, a left out credential reference and a null instruction
each make a signature over the document invalid. -/
theorem signed_document_refused :
    RefusedAsSent additiveDocument ∧ RefusedAsSent missingReferenceDocument ∧
      RefusedAsSent nullInstructionDocument := by
  refine ⟨?_, ?_, ?_⟩
  · apply refusedAsSent_of_decode fixtureDispatch (by decide)
    · constructor <;> decide
    · decide
  · apply refusedAsSent_of_decode _ rfl
    · constructor <;> decide
    · decide
  · apply refusedAsSent_of_decode fixtureDispatch (by decide)
    · constructor <;> decide
    · decide

end DispatchAuth

end RemoteRunner
