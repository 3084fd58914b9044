/-
Redaction of secret-shaped substrings: the scans as they run over byte offsets,
and what they leave of a text.
-/
import RemoteRunner.RunRedaction
import RemoteRunner.Utf8Offsets

namespace RemoteRunner

namespace JobIsolation

def SECRET_PREFIXES : List String := ["sk-", "tok_", "ghp_", "secret_"]

def MIN_SECRET_ALNUM_CHARS : Nat := 20

def isSecretBodyChar (c : Char) : Bool := c.isAlphanum || c == '_' || c == '-'

/-- The rest of a text begins with one of the prefixes. -/
def startsWithSecretPrefix (rest : List Char) : Bool :=
  SECRET_PREFIXES.any fun secretPrefix => secretPrefix.toList.isPrefixOf rest

/-- Where the run that begins at an offset ends. -/
def secretEnd (input rest : List Char) (start : Nat) : Nat :=
  ((charIndices 0 rest).findSome? fun entry =>
    if isSecretBodyChar entry.2 then none else some (start + entry.1)).getD
      (byteLength input)

/-- The scan over the remaining character offsets.  Nothing is returned when a
slice does not exist. -/
def findSecretFrom (input : List Char) : List (Nat × Char) → Option (Option (Nat × Nat))
  | [] => some none
  | (start, _) :: indices => do
      let rest ← sliceFrom input start
      if !startsWithSecretPrefix rest then findSecretFrom input indices
      else
        let stop := secretEnd input rest start
        let candidate ← slice input start stop
        if candidate.countP Char.isAlphanum ≥ MIN_SECRET_ALNUM_CHARS then
          some (some (start, stop))
        else findSecretFrom input indices

def findSecretShapedSubstring (input : List Char) : Option (Option (Nat × Nat)) :=
  findSecretFrom input (charIndices 0 input)

/-- The redaction loop.  Nothing is returned when a slice does not exist or the
rounds run out. -/
def redactLoop : Nat → List Char → Nat → List Char → Bool → Option (List Char × Bool)
  | 0, _, _, _, _ => none
  | rounds + 1, input, cursor, output, redacted =>
      if cursor < byteLength input then do
        let rest ← sliceFrom input cursor
        match ← findSecretShapedSubstring rest with
        | some (start, stop) =>
            let kept ← slice input cursor (cursor + start)
            redactLoop rounds input (cursor + stop)
              (output ++ kept ++ "[REDACTED]".toList) true
        | none => some (output ++ rest, redacted)
      else some (output, redacted)

/-- Redaction within a number of rounds. -/
def redactRounds (rounds : Nat) (input : String) : Option (String × Bool) :=
  (redactLoop rounds input.toList 0 [] false).map fun (output, redacted) =>
    (String.ofList output, redacted)

def redactSecretShapedValues (input : String) : Option (String × Bool) :=
  redactRounds (byteLength input.toList + 1) input

/-! ### Secret-shaped texts -/

/-- A text that begins with a secret prefix, consists of body characters and
has enough letters and digits. -/
def SecretShaped (word : List Char) : Prop :=
  (∃ secretPrefix ∈ SECRET_PREFIXES, secretPrefix.toList <+: word) ∧
    (∀ c ∈ word, isSecretBodyChar c = true) ∧
    MIN_SECRET_ALNUM_CHARS ≤ word.countP Char.isAlphanum

/-- A secret-shaped substring stands somewhere in the text. -/
def ContainsSecret (text : String) : Prop :=
  ∃ word, SecretShaped word ∧ word <:+: text.toList

def secretShape : RunShape Char where
  starts := SECRET_PREFIXES.map String.toList
  body := isSecretBodyChar
  counted := Char.isAlphanum
  least := MIN_SECRET_ALNUM_CHARS
  marker := "[REDACTED]".toList
  starts_ne_nil := by decide
  starts_body := by simp [SECRET_PREFIXES, isSecretBodyChar]
  marker_fresh := by simp [SECRET_PREFIXES]
  marker_stops := ⟨'[', rfl, by decide⟩

theorem secretShaped_iff {word : List Char} :
    SecretShaped word ↔ secretShape.Matches word := by
  simp [SecretShaped, RunShape.Matches, secretShape]

theorem containsSecret_iff {text : String} :
    ContainsSecret text ↔ secretShape.Occurs text.toList := by
  simp [ContainsSecret, RunShape.Occurs, secretShaped_iff]

instance (text : String) : Decidable (ContainsSecret text) :=
  decidable_of_iff (¬secretShape.leftmost text.toList = none) (by
    rw [RunShape.leftmost_eq_none_iff, not_not, containsSecret_iff])

/-- A secret takes at least a byte for each of its letters and digits. -/
theorem not_containsSecret_of_short {text : String}
    (h : text.utf8ByteSize < MIN_SECRET_ALNUM_CHARS) : ¬ContainsSecret text := by
  intro hsecret
  obtain ⟨word, hword, hinfix⟩ := hsecret
  have hbytes : text.utf8ByteSize = byteLength text.toList := by
    rw [← utf8ByteSize_ofList, String.ofList_toList]
  have hlong : MIN_SECRET_ALNUM_CHARS ≤ text.utf8ByteSize :=
    calc MIN_SECRET_ALNUM_CHARS ≤ word.countP Char.isAlphanum := hword.2.2
      _ ≤ word.length := List.countP_le_length
      _ ≤ text.toList.length := hinfix.length_le
      _ ≤ byteLength text.toList := length_le_byteLength _
      _ = text.utf8ByteSize := hbytes.symm
  exact absurd h (Nat.not_lt.mpr hlong)

theorem heads_iff {rest : List Char} :
    secretShape.Heads rest ↔ startsWithSecretPrefix rest = true ∧
      MIN_SECRET_ALNUM_CHARS ≤ (rest.takeWhile isSecretBodyChar).countP Char.isAlphanum := by
  simp [RunShape.Heads, startsWithSecretPrefix, secretShape]

/-! ### The scans -/

/-- The run that begins behind a front part ends where its body characters
do. -/
theorem secretEnd_eq (front rest : List Char) :
    secretEnd (front ++ rest) rest (byteLength front) =
      byteLength front + byteLength (rest.takeWhile isSecretBodyChar) := by
  have hrun := findSome?_charIndices isSecretBodyChar (byteLength front) 0 rest
  rw [Nat.zero_add, Nat.zero_add] at hrun
  rw [secretEnd, byteLength_append]
  exact hrun

/-- A scan that starts behind a front part finds the leftmost word of the
rest. -/
theorem findSecretFrom_eq (front rest : List Char) :
    findSecretFrom (front ++ rest) (charIndices (byteLength front) rest) =
      some ((secretShape.leftmost rest).map fun found =>
        (byteLength front + byteLength found.1,
          byteLength front + byteLength found.1 + byteLength found.2)) := by
  induction rest generalizing front with
  | nil => rfl
  | cons c rest ih =>
      have hnext : findSecretFrom (front ++ c :: rest)
          (charIndices (byteLength front + c.utf8Size) rest) =
            some ((secretShape.leftmost rest).map fun found =>
              (byteLength front + byteLength (c :: found.1),
                byteLength front + byteLength (c :: found.1) +
                  byteLength found.2)) := by
        have hshift := ih (front ++ [c])
        simpa [Nat.add_assoc] using hshift
      have hcandidate := slice_run isSecretBodyChar front (c :: rest)
      rw [charIndices, findSecretFrom, sliceFrom_append, RunShape.leftmost]
      simp only [Option.bind_eq_bind, Option.bind_some, secretEnd_eq, hnext, hcandidate]
      by_cases hheads : secretShape.Heads (c :: rest)
      · obtain ⟨hfront, hleast⟩ := heads_iff.mp hheads
        simp [hheads, hfront, hleast]
        rfl
      · by_cases hfront : startsWithSecretPrefix (c :: rest) = true
        · have hshort : ¬MIN_SECRET_ALNUM_CHARS ≤
              ((c :: rest).takeWhile isSecretBodyChar).countP Char.isAlphanum :=
            fun hleast => hheads (heads_iff.mpr ⟨hfront, hleast⟩)
          simp [hheads, hfront, hshort, Function.comp_def]
        · simp [hheads, hfront, Function.comp_def]

theorem findSecretShapedSubstring_eq (input : List Char) :
    findSecretShapedSubstring input =
      some ((secretShape.leftmost input).map fun found =>
        (byteLength found.1, byteLength found.1 + byteLength found.2)) := by
  have hscan := findSecretFrom_eq [] input
  simp only [byteLength_nil, Nat.zero_add, List.nil_append] at hscan
  exact hscan

/-- With more rounds than bytes left, the loop appends the redacted rest. -/
theorem redactLoop_eq {rounds : Nat} (front rest output : List Char) (redacted : Bool)
    (h : byteLength rest < rounds) :
    redactLoop rounds (front ++ rest) (byteLength front) output redacted =
      some (output ++ secretShape.redact rest,
        redacted || (secretShape.pieces rest).any Piece.isFound) := by
  induction rounds generalizing front rest output redacted with
  | zero => exact absurd h (Nat.not_lt_zero _)
  | succ rounds ih =>
      rw [redactLoop]
      by_cases hrest : rest = []
      · subst hrest
        rw [List.append_nil, if_neg (Nat.lt_irrefl _), RunShape.redact, RunShape.pieces_nil]
        simp
      · have hinside : byteLength front < byteLength (front ++ rest) := by
          rw [byteLength_append]
          exact Nat.lt_add_of_pos_right (byteLength_pos hrest)
        rw [if_pos hinside, sliceFrom_append]
        simp only [Option.bind_eq_bind, Option.bind_some, findSecretShapedSubstring_eq]
        rcases hleftmost : secretShape.leftmost rest with _ | ⟨kept, word⟩
        · have hnone := RunShape.leftmost_eq_none_iff.mp hleftmost
          rw [RunShape.redact_of_not_occurs hnone, RunShape.pieces_of_not_occurs hnone,
            Piece.any_isFound_kept, Bool.or_false]
          rfl
        · obtain ⟨hne, after, hsplit, hpieces⟩ := RunShape.pieces_of_leftmost hleftmost
          have hkept : slice (front ++ rest) (byteLength front)
              (byteLength front + byteLength kept) = some kept := by
            rw [hsplit, List.append_assoc]
            exact slice_append front kept (word ++ after)
          have hshorter : byteLength after < rounds := by
            have hword := byteLength_pos hne
            rw [hsplit, byteLength_append, byteLength_append] at h
            omega
          have hnext := ih (front ++ kept ++ word) after
            (output ++ kept ++ "[REDACTED]".toList) true hshorter
          have hinput : front ++ rest = front ++ kept ++ word ++ after := by
            rw [hsplit, List.append_assoc, List.append_assoc, List.append_assoc]
          rw [← hinput, byteLength_append, byteLength_append, Nat.add_assoc] at hnext
          have hredact : secretShape.redact rest =
              kept ++ ("[REDACTED]".toList ++ secretShape.redact after) := by
            rw [RunShape.redact, hpieces, List.flatMap_append, Piece.flatMap_shown_kept,
              List.flatMap_cons]
            rfl
          have hfound : (secretShape.pieces rest).any Piece.isFound = true := by
            rw [hpieces, List.any_append, List.any_cons]
            exact Bool.or_eq_true_iff.mpr (Or.inr rfl)
          simp only [Option.map_some, hkept, Option.bind_some, hnext, hredact, hfound,
            Bool.true_or, Bool.or_true]
          rw [List.append_assoc, List.append_assoc]

/-- Any number of rounds above the byte length gives the same result. -/
theorem redactRounds_eq {rounds : Nat} {input : String}
    (h : byteLength input.toList < rounds) :
    redactRounds rounds input =
      some (String.ofList (secretShape.redact input.toList),
        (secretShape.pieces input.toList).any Piece.isFound) := by
  have hloop := redactLoop_eq [] input.toList [] false h
  rw [byteLength_nil, List.nil_append, List.nil_append, Bool.false_or] at hloop
  rw [redactRounds, hloop, Option.map_some]

theorem redactSecretShapedValues_eq (input : String) :
    redactSecretShapedValues input =
      some (String.ofList (secretShape.redact input.toList),
        (secretShape.pieces input.toList).any Piece.isFound) :=
  redactRounds_eq (Nat.lt_succ_self _)

/-! ### What redaction does -/

/-- What redaction returns for a text. -/
structure Redaction (input output : String) (redacted : Bool) : Prop where
  clean : ¬ContainsSecret output
  cut : ∃ pieces : List (Piece Char),
    input.toList = pieces.flatMap Piece.source ∧
      output.toList = pieces.flatMap (Piece.shown "[REDACTED]".toList) ∧
      ∀ before word after, pieces = before ++ .found word :: after →
        SecretShaped word ∧
          ∀ c ∈ (after.flatMap Piece.source).head?, isSecretBodyChar c = false
  redacted_iff : redacted = true ↔ ContainsSecret input
  changed_iff : redacted = true ↔ output ≠ input
  again : redactSecretShapedValues output = some (output, false)

/-- On every text the loop ends within its slices, and redacts completely and
nothing else. -/
theorem redaction_exact (input : String) :
    ∃ output redacted,
      (∀ rounds, byteLength input.toList < rounds →
        redactRounds rounds input = some (output, redacted)) ∧
      redactSecretShapedValues input = some (output, redacted) ∧
      Redaction input output redacted := by
  have hclean : ¬ContainsSecret (String.ofList (secretShape.redact input.toList)) := by
    rw [containsSecret_iff, String.toList_ofList]
    exact RunShape.not_occurs_redact input.toList
  have hfound : (secretShape.pieces input.toList).any Piece.isFound = true ↔
      ContainsSecret input :=
    (RunShape.any_isFound_iff input.toList).trans containsSecret_iff.symm
  refine ⟨_, _, fun _ => redactRounds_eq, redactSecretShapedValues_eq input, ?_⟩
  refine ⟨hclean, ⟨secretShape.pieces input.toList, ?_, ?_, ?_⟩, hfound, ?_, ?_⟩
  · exact (RunShape.flatMap_source_pieces input.toList).symm
  · exact String.toList_ofList
  · intro before word after hpieces
    obtain ⟨hword, hmaximal⟩ := RunShape.found_right_maximal hpieces
    exact ⟨secretShaped_iff.mpr hword, hmaximal⟩
  · rw [hfound, containsSecret_iff, ← RunShape.redact_ne_iff, ne_eq, ne_eq,
      ← String.toList_inj, String.toList_ofList]
  · rw [containsSecret_iff] at hclean
    rw [redactSecretShapedValues_eq, RunShape.redact_of_not_occurs hclean,
      RunShape.pieces_of_not_occurs hclean, Piece.any_isFound_kept, String.ofList_toList]

end JobIsolation

end RemoteRunner
