/-
The redacted surfaces of a runner: log lines, artifact labels, error messages
and JSON values.
-/
import RemoteRunner.JsonTexts
import RemoteRunner.RunnerMessages
import RemoteRunner.SecretRedaction

namespace RemoteRunner

namespace JobIsolation

open Protocol Json

def redactLogChunk (chunk : LogChunk) : Option LogChunk := do
  let (line, redacted) ← redactSecretShapedValues chunk.line
  return { chunk with line, redacted := chunk.redacted || redacted }

def redactArtifactDescriptor (descriptor : ArtifactDescriptor) :
    Option ArtifactDescriptor := do
  let (pathLabel, _) ← redactSecretShapedValues descriptor.pathLabel
  return { descriptor with pathLabel }

def redactRunnerError (error : RunnerError) : Option RunnerError := do
  let (message, _) ← redactSecretShapedValues error.message
  return { error with message }

mutual

def redactJsonValue : Json → Option Json
  | .string raw => do
      let (redacted, _) ← redactSecretShapedValues raw
      return .string redacted
  | .array items => do return .array (← redactJsonItems items)
  | .object entries => do return .object (← redactJsonEntries entries)
  | other => return other

def redactJsonItems : List Json → Option (List Json)
  | [] => return []
  | item :: items => do return (← redactJsonValue item) :: (← redactJsonItems items)

def redactJsonEntries : List (String × Json) → Option (List (String × Json))
  | [] => return []
  | (name, item) :: entries => do
      return (name, ← redactJsonValue item) :: (← redactJsonEntries entries)

end

/-! ### What a redacted text shows of a secret -/

/-- No secret prefix runs on into another. -/
theorem secretShape_separate : secretShape.Separate := by decide

/-- Two texts that differ in a secret only are redacted to one text. -/
theorem redactSecretShapedValues_hides {before first second after : String}
    (hfirst : SecretShaped first.toList) (hsecond : SecretShaped second.toList)
    (hafter : ∀ c ∈ after.toList.head?, isSecretBodyChar c = false) :
    redactSecretShapedValues (before ++ first ++ after) =
      redactSecretShapedValues (before ++ second ++ after) := by
  have hpieces := secretShape_separate.visible_pieces_eq before.toList
    (secretShaped_iff.mp hfirst) (secretShaped_iff.mp hsecond) hafter
  simp only [redactSecretShapedValues_eq, String.toList_append, List.append_assoc,
    RunShape.redact, Piece.flatMap_shown_eq_of_visible _ hpieces,
    Piece.any_isFound_eq_of_visible hpieces]

/-- Redacted texts, log lines, artifact labels and error messages say nothing
about a secret in them. -/
theorem redaction_hides_secret {before first second after : String}
    (hfirst : SecretShaped first.toList) (hsecond : SecretShaped second.toList)
    (hafter : ∀ c ∈ after.toList.head?, isSecretBodyChar c = false) :
    (∃ output redacted,
        redactSecretShapedValues (before ++ first ++ after) =
            some (output, redacted) ∧
          redactSecretShapedValues (before ++ second ++ after) =
            some (output, redacted)) ∧
      (∀ chunk : LogChunk,
        redactLogChunk { chunk with line := before ++ first ++ after } =
          redactLogChunk { chunk with line := before ++ second ++ after }) ∧
      (∀ descriptor : ArtifactDescriptor,
        redactArtifactDescriptor
            { descriptor with pathLabel := before ++ first ++ after } =
          redactArtifactDescriptor
            { descriptor with pathLabel := before ++ second ++ after }) ∧
      ∀ error : RunnerError,
        redactRunnerError { error with message := before ++ first ++ after } =
          redactRunnerError { error with message := before ++ second ++ after } := by
  have hsame : redactSecretShapedValues (before ++ first ++ after) =
      redactSecretShapedValues (before ++ second ++ after) :=
    redactSecretShapedValues_hides hfirst hsecond hafter
  refine ⟨⟨_, _, redactSecretShapedValues_eq _, ?_⟩, ?_, ?_, ?_⟩
  · rw [← hsame]
    exact redactSecretShapedValues_eq _
  · intro chunk
    simp only [redactLogChunk, hsame]
  · intro descriptor
    simp only [redactArtifactDescriptor, hsame]
  · intro error
    simp only [redactRunnerError, hsame]

theorem redaction_hides_secret_cookie :
    (∃ output redacted,
        redactSecretShapedValues
            ("s" ++ "sk-fake00000000000000000001" ++ "; path=/") =
            some (output, redacted) ∧
          redactSecretShapedValues
            ("s" ++ "tok_fake0000000000000000000000002" ++ "; path=/") =
            some (output, redacted)) ∧
      (∀ chunk : LogChunk,
        redactLogChunk
            { chunk with line := "s" ++ "sk-fake00000000000000000001" ++ "; path=/" } =
          redactLogChunk
            { chunk with
              line := "s" ++ "tok_fake0000000000000000000000002" ++ "; path=/" }) ∧
      (∀ descriptor : ArtifactDescriptor,
        redactArtifactDescriptor
            { descriptor with
              pathLabel := "s" ++ "sk-fake00000000000000000001" ++ "; path=/" } =
          redactArtifactDescriptor
            { descriptor with
              pathLabel := "s" ++ "tok_fake0000000000000000000000002" ++ "; path=/" }) ∧
      ∀ error : RunnerError,
        redactRunnerError
            { error with
              message := "s" ++ "sk-fake00000000000000000001" ++ "; path=/" } =
          redactRunnerError
            { error with
              message := "s" ++ "tok_fake0000000000000000000000002" ++ "; path=/" } :=
  redaction_hides_secret
    ⟨⟨"sk-", by decide, by decide⟩, by simp [isSecretBodyChar], by decide⟩
    ⟨⟨"tok_", by decide, by decide⟩, by simp [isSecretBodyChar], by decide⟩
    (by simp [isSecretBodyChar])

/-! ### Redacted JSON values -/

/-- What a redacted text shows. -/
def redactedText (text : String) : String :=
  String.ofList (secretShape.redact text.toList)

theorem not_containsSecret_redactedText (text : String) :
    ¬ContainsSecret (redactedText text) := by
  rw [containsSecret_iff, redactedText, String.toList_ofList]
  exact RunShape.not_occurs_redact text.toList

theorem redactJsonItems_eq (f : Json → Json) {items : List Json}
    (h : ∀ item ∈ items, redactJsonValue item = some (f item)) :
    redactJsonItems items = some (items.map f) := by
  induction items with
  | nil => rfl
  | cons item items ih =>
      rw [redactJsonItems, h item List.mem_cons_self,
        ih fun other hother => h other (List.mem_cons_of_mem item hother)]
      rfl

theorem redactJsonEntries_eq (f : Json → Json) {entries : List (String × Json)}
    (h : ∀ entry ∈ entries, redactJsonValue entry.2 = some (f entry.2)) :
    redactJsonEntries entries = some (entries.map fun entry => (entry.1, f entry.2)) := by
  induction entries with
  | nil => rfl
  | cons entry entries ih =>
      rw [redactJsonEntries, h entry List.mem_cons_self,
        ih fun other hother => h other (List.mem_cons_of_mem entry hother)]
      rfl

/-- Redacting a value rewrites its strings and keeps its member names. -/
theorem redactJsonValue_eq (value : Json) :
    redactJsonValue value = some (value.mapTexts id redactedText) := by
  induction value with
  | null | bool _ | number _ => simp [redactJsonValue]
  | string raw => simp [redactJsonValue, redactSecretShapedValues_eq, redactedText]
  | array items ih =>
      rw [redactJsonValue, redactJsonItems_eq _ ih, mapTexts_array]
      rfl
  | object entries ih =>
      rw [redactJsonValue, redactJsonEntries_eq _ ih, mapTexts_object]
      rfl

/-- The result holds no secret in a string or a member name, and has only
texts rewritten: arrays keep their items in order, and every null, boolean and
number stands where it stood. -/
def FullyRedacted (value result : Json) : Prop :=
  (∀ text ∈ result.texts, ¬ContainsSecret text) ∧
    ∃ onName onString, result = value.mapTexts onName onString

/-- A value is redacted fully exactly when no member name in it contains a
secret. -/
theorem redactJsonValue_full_iff (value : Json) :
    (∃ result, redactJsonValue value = some result ∧ FullyRedacted value result) ↔
      ∀ name ∈ value.memberNames, ¬ContainsSecret name := by
  have htexts : (∀ text ∈ (value.mapTexts id redactedText).texts,
      ¬ContainsSecret text) ↔ ∀ name ∈ value.memberNames, ¬ContainsSecret name :=
    forall_mem_texts_mapTexts_iff not_containsSecret_redactedText value
  constructor
  · intro h
    obtain ⟨result, hresult, hclean, _⟩ := h
    rw [redactJsonValue_eq] at hresult
    obtain rfl := Option.some.inj hresult
    exact htexts.mp hclean
  · intro hnames
    exact ⟨_, redactJsonValue_eq value, htexts.mpr hnames, id, redactedText, rfl⟩

/-- An object with a secret for a member name. -/
def secretlyNamed : Json := .object [("sk-fake00000000000000000001", .null)]

/-- The secret is still there after the redaction. -/
theorem member_name_not_redacted :
    ¬∃ result, redactJsonValue secretlyNamed = some result ∧
      FullyRedacted secretlyNamed result := by
  intro h
  obtain ⟨result, hresult, hclean, _⟩ := h
  have hsame : redactJsonValue secretlyNamed = some secretlyNamed := by
    simp [secretlyNamed, redactJsonValue_eq]
  rw [hsame] at hresult
  obtain rfl := Option.some.inj hresult
  have hname : "sk-fake00000000000000000001" ∈ secretlyNamed.texts := by
    simp [secretlyNamed]
  exact hclean _ hname (by decide)

end JobIsolation

end RemoteRunner
