/-
What a signature covers.  The canonical payload determines the dispatch and
the signature metadata, so an accepted instruction agrees with one that was
signed.
-/
import RemoteRunner.DispatchSigning

namespace RemoteRunner

namespace DispatchAuth

open Protocol OrderedEntries

variable {SigningKey VerifyingKey : Type} {env : Externals SigningKey VerifyingKey}

/-- Two signatures with the same signed metadata. -/
structure SameMetadata (first second : DispatchSignature) : Prop where
  keyId : first.keyId = second.keyId
  algorithm : first.algorithm = second.algorithm
  signedAt : first.signedAtUnixSeconds = second.signedAtUnixSeconds
  expiresAt : first.expiresAtUnixSeconds = second.expiresAtUnixSeconds

/-- The document under a signature is written in sorted order but for the
dispatch. -/
theorem signingDocument_sorted (dispatch : Json) (signature : DispatchSignature) :
    (signingDocument dispatch signature).sorted =
      signingDocument dispatch.sorted signature := by
  have hmetadata : ∀ algorithm expiresAt keyId signedAt : Json,
      Ascending [("algorithm", algorithm), ("expires_at_unix_seconds", expiresAt),
        ("key_id", keyId), ("signed_at_unix_seconds", signedAt)] := by
    intro _ _ _ _
    change List.Pairwise (· < ·) ["algorithm", "expires_at_unix_seconds", "key_id",
      "signed_at_unix_seconds"]
    decide
  have hdocument : ∀ dispatch signature : Json,
      Ascending [("dispatch", dispatch), ("signature", signature)] := by
    intro _ _
    change List.Pairwise (· < ·) ["dispatch", "signature"]
    decide
  simp only [signingDocument, Json.sorted_object, Json.sorted_string,
    Json.sorted_number, List.map_cons, List.map_nil,
    collect_eq_self (hmetadata _ _ _ _), collect_eq_self (hdocument _ _)]

theorem signingDocument_injective {dispatch dispatch' : Json}
    {signature signature' : DispatchSignature}
    (h : signingDocument dispatch signature = signingDocument dispatch' signature') :
    dispatch = dispatch' ∧ SameMetadata signature signature' := by
  simp only [signingDocument, Json.object.injEq, List.cons.injEq, Prod.mk.injEq,
    Json.string.injEq, Json.number.injEq, Number.posInt.injEq, true_and,
    and_true] at h
  obtain ⟨hdispatch, halgorithm, hexpiresAt, hkeyId, hsignedAt⟩ := h
  exact ⟨hdispatch, hkeyId, halgorithm, hsignedAt, hexpiresAt⟩

theorem sortedText_eq_ok_iff {document : Json} {text : String} :
    sortedText env document = .ok text ↔
      env.jsonToString document.sorted = some text := by
  rw [sortedText, sortJsonValue]
  rcases env.jsonToString document.sorted with _ | printed <;> simp

/-- One sorted text, one sorted dispatch and one set of metadata. -/
theorem sortedText_signingDocument_injective (hprints : PrintsDistinct env)
    {dispatch dispatch' : Json} {signature signature' : DispatchSignature}
    {text : String}
    (h : sortedText env (signingDocument dispatch signature) = .ok text)
    (h' : sortedText env (signingDocument dispatch' signature') = .ok text) :
    dispatch.sorted = dispatch'.sorted ∧ SameMetadata signature signature' := by
  rw [sortedText_eq_ok_iff, signingDocument_sorted] at h h'
  exact signingDocument_injective (hprints _ _ _ h h')

/-- The canonical payload determines the dispatch and the metadata. -/
theorem canonicalSigningPayload_injective (hprints : PrintsDistinct env)
    {dispatch dispatch' : ProtocolEnvelope JobDispatch}
    {signature signature' : DispatchSignature} {text : String}
    (h : canonicalSigningPayload env dispatch signature = .ok text)
    (h' : canonicalSigningPayload env dispatch' signature' = .ok text) :
    dispatch = dispatch' ∧ SameMetadata signature signature' := by
  obtain ⟨hsorted, hmetadata⟩ := sortedText_signingDocument_injective hprints h h'
  exact ⟨dispatchCodec.encode_sorted_injective hsorted, hmetadata⟩

end DispatchAuth

end RemoteRunner
