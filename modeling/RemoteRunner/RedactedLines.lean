/-
Redacting a log line by line: where the separator of the lines cannot stand in a
secret, the redacted lines are the lines of the redacted log.
-/
import RemoteRunner.RedactedSurfaces

namespace RemoteRunner

namespace JobIsolation

open Protocol

/-- The lines of a log, joined by a separator. -/
def joinedLines (separator : Char) (chunks : List LogChunk) : String :=
  (String.singleton separator).intercalate (chunks.map (·.line))

/-- A chunk whose line is redacted on its own. -/
def redactedChunk (chunk : LogChunk) : LogChunk :=
  { chunk with
    line := redactedText chunk.line
    redacted := chunk.redacted ||
      (secretShape.pieces chunk.line.toList).any Piece.isFound }

theorem redactLogChunk_eq (chunk : LogChunk) :
    redactLogChunk chunk = some (redactedChunk chunk) := by
  rw [redactLogChunk, redactSecretShapedValues_eq]
  rfl

theorem redactedChunk_of_clean {chunk : LogChunk} (h : ¬ContainsSecret chunk.line) :
    redactedChunk chunk = chunk := by
  rw [containsSecret_iff] at h
  have hfound : (secretShape.pieces chunk.line.toList).any Piece.isFound = false := by
    rw [Bool.eq_false_iff]
    exact mt (RunShape.any_isFound_iff _).mp h
  rw [redactedChunk, redactedText, RunShape.redact_of_not_occurs h, hfound, Bool.or_false,
    String.ofList_toList]

theorem mapM_redactLogChunk (chunks : List LogChunk) :
    chunks.mapM redactLogChunk = some (chunks.map redactedChunk) := by
  induction chunks with
  | nil => rfl
  | cons chunk chunks ih =>
      rw [List.mapM_cons, redactLogChunk_eq, ih]
      rfl

theorem redact_joinedLines {separator : Char} (h : isSecretBodyChar separator = false)
    (chunks : List LogChunk) :
    redactSecretShapedValues (joinedLines separator chunks) =
      some (joinedLines separator (chunks.map redactedChunk),
        chunks.any fun chunk =>
          (secretShape.pieces chunk.line.toList).any Piece.isFound) := by
  have hbody : secretShape.body separator = false := h
  obtain ⟨hredact, hfound⟩ :=
    RunShape.redact_intercalate hbody (chunks.map (·.line.toList))
  have hjoined : (joinedLines separator chunks).toList =
      [separator].intercalate (chunks.map (·.line.toList)) := by
    simp [joinedLines, Function.comp_def]
  have hlines : (joinedLines separator (chunks.map redactedChunk)).toList =
      [separator].intercalate ((chunks.map (·.line.toList)).map secretShape.redact) := by
    simp [joinedLines, redactedChunk, redactedText, Function.comp_def]
  rw [redactSecretShapedValues_eq, hjoined, hredact, hfound, ← hlines, String.ofList_toList,
    List.any_map]
  rfl

/-- Two lines, neither of them a secret, that are one when joined by a character
that secrets may have. -/
def splitSecret : List LogChunk :=
  ["sk-aaaaaaaaaaaaaaaaa", "a"].map fun line =>
    { jobId := "job_fixture_echo_001"
      runnerId := "local-dev-runner"
      sequence := 1
      stream := "stdout"
      redacted := false
      line }

theorem splitSecret_joined {separator : Char} (h : isSecretBodyChar separator = true) :
    ∀ output redacted,
      redactSecretShapedValues (joinedLines separator splitSecret) =
        some (output, redacted) →
      output ≠ joinedLines separator (splitSecret.map redactedChunk) := by
  intro output redacted hredact heq
  have hsame : splitSecret.map redactedChunk = splitSecret := by
    have hclean : ∀ chunk ∈ splitSecret, ¬ContainsSecret chunk.line := by decide
    have hkept := List.map_congr_left fun chunk hchunk =>
      redactedChunk_of_clean (hclean chunk hchunk)
    rw [hkept, List.map_id']
  rw [redactSecretShapedValues_eq] at hredact
  obtain ⟨houtput, _⟩ := Prod.mk.inj (Option.some.inj hredact)
  have hclean := not_containsSecret_redactedText (joinedLines separator splitSecret)
  rw [redactedText, houtput, heq, hsame] at hclean
  have hlist : (joinedLines separator splitSecret).toList =
      "sk-aaaaaaaaaaaaaaaaa".toList ++ separator :: "a".toList := by
    simp [joinedLines, splitSecret]
  apply hclean
  refine ⟨_, ⟨⟨"sk-", by decide, ?_⟩, ?_, ?_⟩, List.infix_refl _⟩
  · rw [hlist]
    exact ⟨"aaaaaaaaaaaaaaaaa".toList ++ separator :: "a".toList, rfl⟩
  · rw [hlist]
    have hfront : "sk-aaaaaaaaaaaaaaaaa".toList.all isSecretBodyChar = true := by decide
    have hback : "a".toList.all isSecretBodyChar = true := by decide
    rw [List.all_eq_true] at hfront hback
    simp only [List.mem_append, List.mem_cons]
    rintro c (hc | rfl | hc)
    · exact hfront c hc
    · exact h
    · exact hback c hc
  · rw [hlist, List.countP_append, List.countP_cons]
    have hfront : "sk-aaaaaaaaaaaaaaaaa".toList.countP Char.isAlphanum = 19 := by decide
    have hback : "a".toList.countP Char.isAlphanum = 1 := by decide
    rw [hfront, hback, MIN_SECRET_ALNUM_CHARS]
    omega

/-- A log may be redacted line by line exactly when its separator is no character
a secret may have: then the redacted chunks carry the lines of the redacted log,
and one of them is marked when the log is or one was marked before. -/
theorem redacted_lines_iff (separator : Char) :
    isSecretBodyChar separator = false ↔
      ∀ chunks, ∃ chunks' redacted, chunks.mapM redactLogChunk = some chunks' ∧
        redactSecretShapedValues (joinedLines separator chunks) =
          some (joinedLines separator chunks', redacted) ∧
        (chunks'.any (·.redacted)) = (chunks.any (·.redacted) || redacted) := by
  constructor
  · intro h chunks
    refine ⟨_, _, mapM_redactLogChunk chunks, redact_joinedLines h chunks, ?_⟩
    induction chunks with
    | nil => rfl
    | cons chunk chunks ih =>
        simp only [List.map_cons, List.any_cons, ih, redactedChunk]
        ac_rfl
  · intro hlines
    by_contra hbody
    rw [Bool.not_eq_false] at hbody
    obtain ⟨_, redacted, hchunks, hjoined, _⟩ := hlines splitSecret
    rw [mapM_redactLogChunk] at hchunks
    obtain rfl := Option.some.inj hchunks
    exact splitSecret_joined hbody _ redacted hjoined rfl

end JobIsolation

end RemoteRunner
