/-
The exact condition under which a runner accepts an instruction, and the
canonical form its payload is printed from.
-/
import RemoteRunner.DispatchSigning

namespace RemoteRunner

namespace DispatchAuth

open Protocol OrderedEntries

variable {SigningKey VerifyingKey : Type} {env : Externals SigningKey VerifyingKey}

/-- The last of the keys that carry this id. -/
def IsLastKey (keys : List (DispatchVerificationKey VerifyingKey)) (keyId : String)
    (key : DispatchVerificationKey VerifyingKey) : Prop :=
  ∃ before after, keys = before ++ key :: after ∧ key.keyId = keyId ∧
    ∀ later ∈ after, later.keyId ≠ keyId

/-- A registry holds the last key of every id it was built from. -/
theorem DispatchKeyRegistry.get_new_eq_some_iff
    {keys : List (DispatchVerificationKey VerifyingKey)} {keyId : String}
    {key : DispatchVerificationKey VerifyingKey} :
    (DispatchKeyRegistry.new keys).get keyId = some key ↔ IsLastKey keys keyId key := by
  rw [DispatchKeyRegistry.get, DispatchKeyRegistry.new, OrderedMap.get?_ofEntries,
    getLast?_occurrences_eq_some_iff]
  constructor
  · intro h
    obtain ⟨before, rest, hkeys, hrest⟩ := h
    obtain ⟨front, back, rfl, rfl, hback⟩ := List.map_eq_append_iff.mp hkeys
    obtain ⟨last, after, rfl, hlast, rfl⟩ := List.map_eq_cons_iff.mp hback
    obtain ⟨rfl, rfl⟩ := Prod.mk.inj hlast
    refine ⟨front, after, rfl, rfl, ?_⟩
    intro later hlater heq
    exact hrest (by simpa using ⟨later, hlater, heq⟩)
  · intro h
    obtain ⟨before, after, rfl, rfl, hafter⟩ := h
    refine ⟨before.map fun other => (other.keyId, other),
      after.map fun other => (other.keyId, other), by simp, ?_⟩
    simpa using hafter

/-- What an instruction must satisfy to be accepted at `nowUnixSeconds` by the
runner `expectedRunnerId` that trusts `keys` and has `cache`. -/
structure Acceptable {Cache : Type} [DispatchReplayCache Cache]
    (env : Externals SigningKey VerifyingKey)
    (keys : List (DispatchVerificationKey VerifyingKey)) (cache : Cache)
    (instruction : SignedDispatchInstruction) (nowUnixSeconds : UInt64)
    (expectedRunnerId : String) : Prop where
  protocol : instruction.dispatch.protocolVersion ∈ SUPPORTED_PROTOCOL_VERSIONS
  required : ∀ field ∈ requiredDispatchFields instruction.dispatch.payload,
    ∃ c ∈ field.2.toList, isWhitespace c = false
  scope : instruction.dispatch.payload.runnerId = expectedRunnerId
  algorithm : instruction.signature.algorithm = "ed25519"
  unexpired : nowUnixSeconds < instruction.signature.expiresAtUnixSeconds
  signed : ∃ key, IsLastKey keys instruction.signature.keyId key ∧
    key.status.Accepts nowUnixSeconds instruction.signature.signedAtUnixSeconds ∧
    ∃ bytes, env.base64Decode instruction.signature.signatureBase64 = some bytes ∧
      ∃ length_eq : bytes.length = 64, ∃ canonicalPayload,
        canonicalSigningPayload env instruction.dispatch instruction.signature =
            .ok canonicalPayload ∧
          env.verify key.verifyingKey canonicalPayload.toByteArray
            ⟨bytes, length_eq⟩ = true
  unseen : DispatchReplayCache.hasSeen cache
    (replayKey instruction.dispatch.payload) = false

theorem hasRequiredFields_iff {dispatch : JobDispatch} :
    HasRequiredFields dispatch ↔
      ∀ field ∈ requiredDispatchFields dispatch,
        ∃ c ∈ field.2.toList, isWhitespace c = false := by
  simp only [HasRequiredFields, trim_ne_empty_iff]

/-- The signature of a call verifies under some key exactly when the last key
of its id is in use and accepts the decoded bytes. -/
theorem signatureVerifies_iff {keys : List (DispatchVerificationKey VerifyingKey)}
    {instruction : SignedDispatchInstruction} {nowUnixSeconds : UInt64}
    {expectedRunnerId : String} {key : DispatchVerificationKey VerifyingKey}
    {signature : Signature} {canonicalPayload : String} :
    SignatureVerifies env ⟨instruction, DispatchKeyRegistry.new keys, nowUnixSeconds,
        expectedRunnerId⟩ key signature canonicalPayload ↔
      IsLastKey keys instruction.signature.keyId key ∧
        key.status.Accepts nowUnixSeconds instruction.signature.signedAtUnixSeconds ∧
        env.base64Decode instruction.signature.signatureBase64 =
          some signature.bytes ∧
        canonicalSigningPayload env instruction.dispatch instruction.signature =
          .ok canonicalPayload ∧
        env.verify key.verifyingKey canonicalPayload.toByteArray signature = true := by
  have hinUse : ¬key.status.Rejects nowUnixSeconds
      instruction.signature.signedAtUnixSeconds ↔
      key.status.Accepts nowUnixSeconds instruction.signature.signedAtUnixSeconds := by
    rw [DispatchKeyStatus.rejects_iff, not_not]
  constructor
  · intro h
    exact ⟨DispatchKeyRegistry.get_new_eq_some_iff.mp h.registered,
      hinUse.mp h.inUse, h.decoded, h.printed, h.verified⟩
  · intro h
    obtain ⟨hkey, haccepts, hdecoded, hprinted, hverified⟩ := h
    exact
      { registered := DispatchKeyRegistry.get_new_eq_some_iff.mpr hkey
        inUse := hinUse.mpr haccepts
        decoded := hdecoded
        printed := hprinted
        verified := hverified }

/-- An instruction is accepted exactly when it is acceptable. -/
theorem verifyDispatchInstruction_eq_ok_iff {Cache : Type} [DispatchReplayCache Cache]
    (env : Externals SigningKey VerifyingKey)
    (keys : List (DispatchVerificationKey VerifyingKey)) (cache : Cache)
    (instruction : SignedDispatchInstruction) (nowUnixSeconds : UInt64)
    (expectedRunnerId : String) :
    ((verifyDispatchInstruction env instruction (DispatchKeyRegistry.new keys)
        nowUnixSeconds expectedRunnerId).run.run cache).1 = .ok () ↔
      Acceptable env keys cache instruction nowUnixSeconds expectedRunnerId := by
  change (verifyStep env cache ⟨instruction, DispatchKeyRegistry.new keys,
    nowUnixSeconds, expectedRunnerId⟩).1 = .ok () ↔ _
  rw [verifyStep_ok_iff]
  constructor
  · intro h
    obtain ⟨hadmissible, hunseen⟩ := h
    obtain ⟨key, signature, canonicalPayload, hsigned⟩ := hadmissible.signed
    obtain ⟨hkey, haccepts, hdecoded, hprinted, hverified⟩ :=
      signatureVerifies_iff.mp hsigned
    exact
      { protocol := hadmissible.protocol
        required := hasRequiredFields_iff.mp hadmissible.required
        scope := hadmissible.scope
        algorithm := hadmissible.algorithm
        unexpired := hadmissible.unexpired
        signed := ⟨key, hkey, haccepts, signature.bytes, hdecoded,
          signature.length_eq, canonicalPayload, hprinted, hverified⟩
        unseen := hunseen }
  · intro h
    obtain ⟨key, hkey, haccepts, bytes, hdecoded, hlength, canonicalPayload, hprinted,
      hverified⟩ := h.signed
    refine ⟨?_, h.unseen⟩
    exact
      { protocol := h.protocol
        required := hasRequiredFields_iff.mpr h.required
        scope := h.scope
        algorithm := h.algorithm
        unexpired := h.unexpired
        signed := ⟨key, ⟨bytes, hlength⟩, canonicalPayload,
          signatureVerifies_iff.mpr ⟨hkey, haccepts, hdecoded, hprinted, hverified⟩⟩ }

/-! ### The canonical form -/

/-- Sorting orders every object, moves nothing but members, and gives two
documents one form exactly when they differ in the order of members only. -/
theorem sortJsonValue_canonical {value : Json} (hvalue : value.Distinct) :
    (sortJsonValue value).Ordered ∧
      Json.Reorder value (sortJsonValue value) ∧
      sortJsonValue (sortJsonValue value) = sortJsonValue value ∧
      ∀ other : Json, other.Distinct →
        (sortJsonValue value = sortJsonValue other ↔ Json.Reorder value other) :=
  ⟨value.sorted_ordered, hvalue.reorder_sorted, value.sorted_sorted,
    fun _ hother => Json.sorted_eq_sorted_iff hvalue hother⟩

/-- An object out of order, inside an array inside another. -/
def unsortedDocument : Json :=
  .object [("steps", .array [.object [("name", .string "run"), ("id", .null)],
    .bool true]), ("count", .null)]

theorem unsortedDocument_distinct : unsortedDocument.Distinct := by
  apply Json.Distinct.object (by decide)
  simp only [List.mem_cons, List.not_mem_nil, or_false, forall_eq_or_imp, forall_eq]
  refine ⟨Json.Distinct.array ?_, Json.Distinct.null⟩
  simp only [List.mem_cons, List.not_mem_nil, or_false, forall_eq_or_imp, forall_eq]
  refine ⟨Json.Distinct.object (by decide) ?_, Json.Distinct.bool true⟩
  simp only [List.mem_cons, List.not_mem_nil, or_false, forall_eq_or_imp, forall_eq]
  exact ⟨Json.Distinct.string "run", Json.Distinct.null⟩

theorem sortJsonValue_canonical_unsorted :
    (sortJsonValue unsortedDocument).Ordered ∧
      Json.Reorder unsortedDocument (sortJsonValue unsortedDocument) ∧
      sortJsonValue (sortJsonValue unsortedDocument) =
        sortJsonValue unsortedDocument ∧
      ∀ other : Json, other.Distinct →
        (sortJsonValue unsortedDocument = sortJsonValue other ↔
          Json.Reorder unsortedDocument other) :=
  sortJsonValue_canonical unsortedDocument_distinct

end DispatchAuth

end RemoteRunner
