/-
Redaction of words that begin with one of several starts and run on over body
characters.  A text is cut from left to right into kept characters and found
words; every found word is shown as a marker.
-/
import Mathlib.Data.List.TakeWhile
import Mathlib.Data.List.Infix

namespace RemoteRunner

universe u

/-- What a word to redact looks like, and the marker that stands for it.  The
marker begins no word and ends every run. -/
structure RunShape (α : Type u) where
  starts : List (List α)
  body : α → Bool
  counted : α → Bool
  least : Nat
  marker : List α
  starts_ne_nil : ∀ start ∈ starts, start ≠ []
  starts_body : ∀ start ∈ starts, ∀ c ∈ start, body c = true
  marker_fresh : ∀ c ∈ marker, ∀ start ∈ starts, c ∉ start.head?
  marker_stops : ∃ c ∈ marker.head?, body c = false

/-- A part of a text: a character that stays or a word that goes. -/
inductive Piece (α : Type u) where
  | kept (c : α)
  | found (word : List α)

namespace Piece

variable {α : Type u}

/-- What a piece was cut from. -/
def source : Piece α → List α
  | kept c => [c]
  | found word => word

/-- What a piece is shown as. -/
def shown (marker : List α) : Piece α → List α
  | kept c => [c]
  | found _ => marker

def isFound : Piece α → Bool
  | kept _ => false
  | found _ => true

/-- What a reader of the shown text learns of a piece: the character, or that a
word was found. -/
def visible : Piece α → Option α
  | kept c => some c
  | found _ => none

theorem flatMap_shown_eq_of_visible (marker : List α) {first second : List (Piece α)}
    (h : first.map visible = second.map visible) :
    first.flatMap (shown marker) = second.flatMap (shown marker) := by
  have hshown : shown marker = fun piece : Piece α =>
      (visible piece).elim marker fun c => [c] := by
    funext piece
    cases piece <;> rfl
  have hpieces := congrArg (fun views =>
    views.flatMap fun view : Option α => view.elim marker fun c => [c]) h
  rw [hshown]
  simpa only [List.flatMap_map] using hpieces

theorem any_isFound_eq_of_visible {first second : List (Piece α)}
    (h : first.map visible = second.map visible) :
    first.any isFound = second.any isFound := by
  have hfound : (isFound : Piece α → Bool) = fun piece => (visible piece).isNone := by
    funext piece
    cases piece <;> rfl
  have hpieces := congrArg (fun views => views.any Option.isNone) h
  rw [hfound]
  simpa only [List.any_map, Function.comp_def] using hpieces

@[simp] theorem flatMap_shown_kept (marker text : List α) :
    (text.map kept).flatMap (shown marker) = text := by
  induction text with
  | nil => rfl
  | cons c text ih => simp [shown, ih]

@[simp] theorem any_isFound_kept (text : List α) :
    (text.map kept).any isFound = false := by
  induction text with
  | nil => rfl
  | cons c text ih => simp [isFound]

end Piece

namespace RunShape

variable {α : Type u} (shape : RunShape α)

/-- A whole word of the shape. -/
def Matches (word : List α) : Prop :=
  (∃ start ∈ shape.starts, start <+: word) ∧ (∀ c ∈ word, shape.body c = true) ∧
    shape.least ≤ word.countP shape.counted

/-- A word of the shape stands somewhere in the text. -/
def Occurs (text : List α) : Prop := ∃ word, shape.Matches word ∧ word <:+: text

/-- The run at the head of the text is a word of the shape. -/
def Heads (text : List α) : Prop :=
  (∃ start ∈ shape.starts, start <+: text) ∧
    shape.least ≤ (text.takeWhile shape.body).countP shape.counted

instance [DecidableEq α] (text : List α) : Decidable (shape.Heads text) :=
  inferInstanceAs (Decidable (_ ∧ _))

variable {shape}

theorem start_prefix_run {start text : List α} (hstart : start ∈ shape.starts)
    (h : start <+: text) : start <+: text.takeWhile shape.body := by
  obtain ⟨rest, rfl⟩ := h
  rw [List.takeWhile_append_of_pos (shape.starts_body start hstart)]
  exact List.prefix_append _ _

theorem Heads.matches {text : List α} (h : shape.Heads text) :
    shape.Matches (text.takeWhile shape.body) := by
  obtain ⟨⟨start, hstart, hfront⟩, hleast⟩ := h
  exact ⟨⟨start, hstart, start_prefix_run hstart hfront⟩,
    fun _ => List.mem_takeWhile_imp, hleast⟩

/-- A longer run at the head is still a word. -/
theorem Heads.of_run_prefix {text longer : List α} (h : shape.Heads text)
    (hrun : text.takeWhile shape.body <+: longer.takeWhile shape.body) :
    shape.Heads longer := by
  obtain ⟨⟨start, hstart, hfront⟩, hleast⟩ := h
  refine ⟨⟨start, hstart, ?_⟩, Nat.le_trans hleast hrun.sublist.countP_le⟩
  exact ((start_prefix_run hstart hfront).trans hrun).trans (List.takeWhile_prefix _)

theorem not_heads_nil : ¬shape.Heads [] := by
  intro h
  obtain ⟨⟨start, hstart, hfront⟩, _⟩ := h
  exact shape.starts_ne_nil start hstart (List.prefix_nil.mp hfront)

theorem Heads.body_head {c : α} {text : List α} (h : shape.Heads (c :: text)) :
    shape.body c = true := by
  obtain ⟨⟨start, hstart, hfront⟩, _⟩ := h
  rcases start with _ | ⟨first, start⟩
  · exact absurd rfl (shape.starts_ne_nil [] hstart)
  · rw [← (List.cons_prefix_cons.mp hfront).1]
    exact shape.starts_body _ hstart first List.mem_cons_self

/-- A word occurs exactly when one heads some rest of the text. -/
theorem occurs_iff_suffix {text : List α} :
    shape.Occurs text ↔ ∃ suffix, suffix <:+ text ∧ shape.Heads suffix := by
  constructor
  · intro hoccurs
    obtain ⟨word, ⟨⟨start, hstart, hfront⟩, hbody, hleast⟩, front, back, htext⟩ :=
      hoccurs
    refine ⟨word ++ back, ⟨front, by rw [← htext, List.append_assoc]⟩,
      ⟨start, hstart, hfront.trans (List.prefix_append _ _)⟩, ?_⟩
    rw [List.takeWhile_append_of_pos hbody, List.countP_append]
    exact Nat.le_add_right_of_le hleast
  · intro hsuffix
    obtain ⟨suffix, hsuffix, hheads⟩ := hsuffix
    exact ⟨_, hheads.matches,
      (List.takeWhile_prefix _).isInfix.trans hsuffix.isInfix⟩

theorem not_occurs_nil : ¬shape.Occurs [] := by
  intro h
  obtain ⟨suffix, hsuffix, hheads⟩ := occurs_iff_suffix.mp h
  rw [List.suffix_nil.mp hsuffix] at hheads
  exact not_heads_nil hheads

theorem occurs_cons_iff {c : α} {text : List α} :
    shape.Occurs (c :: text) ↔ shape.Heads (c :: text) ∨ shape.Occurs text := by
  simp only [occurs_iff_suffix, List.suffix_cons_iff, or_and_right, exists_or,
    exists_eq_left]

/-- Characters that begin no word do not help one to occur. -/
theorem occurs_append_of_fresh {front text : List α}
    (h : ∀ c ∈ front, ∀ start ∈ shape.starts, c ∉ start.head?) :
    shape.Occurs (front ++ text) ↔ shape.Occurs text := by
  induction front with
  | nil => rfl
  | cons c front ih =>
      have hrest := ih fun c' hc' => h c' (List.mem_cons_of_mem c hc')
      rw [List.cons_append, occurs_cons_iff, hrest]
      refine or_iff_right fun hheads => ?_
      obtain ⟨⟨start, hstart, hfront⟩, _⟩ := hheads
      rcases start with _ | ⟨first, start⟩
      · exact shape.starts_ne_nil [] hstart rfl
      · rw [(List.cons_prefix_cons.mp hfront).1] at hstart
        exact h c List.mem_cons_self _ hstart rfl

/-! ### Text before a word -/

variable (shape) in
/-- No start runs on into another: what is left of a start behind its first
character neither begins a start nor begins with one. -/
def Separate : Prop :=
  ∀ start ∈ shape.starts, ∀ rest ∈ start.tail.tails, rest ≠ [] →
    ∀ other ∈ shape.starts, ¬rest <+: other ∧ ¬other <+: rest

instance [DecidableEq α] : Decidable shape.Separate :=
  inferInstanceAs (Decidable (∀ start ∈ shape.starts, ∀ rest ∈ start.tail.tails,
    rest ≠ [] → ∀ other ∈ shape.starts, _))

/-- Text before a word holds a start whole or not at all. -/
theorem Separate.start_prefix_iff (hseparate : shape.Separate)
    {before word : List α} (hbefore : before ≠ []) (hword : shape.Matches word)
    (after : List α) {start : List α} (hstart : start ∈ shape.starts) :
    start <+: before ++ (word ++ after) ↔ start <+: before := by
  constructor
  · intro h
    obtain ⟨rest, hsplit⟩ := h
    rcases List.append_eq_append_iff.mp hsplit with
      ⟨back, hback, _⟩ | ⟨back, hback, htail⟩
    · exact ⟨back, hback.symm⟩
    · by_cases hnil : back = []
      · rw [hback, hnil, List.append_nil]
      · obtain ⟨⟨other, hother, hfront⟩, _⟩ := hword
        have hrest : back ∈ start.tail.tails := by
          rw [List.mem_tails, hback, List.tail_append_of_ne_nil hbefore]
          exact List.suffix_append _ _
        have hnot := hseparate start hstart back hrest hnil other hother
        have hlong : other <+: word ++ after :=
          hfront.trans (List.prefix_append _ _)
        rcases List.prefix_or_prefix_of_prefix ⟨rest, htail.symm⟩ hlong with h | h
        · exact absurd h hnot.1
        · exact absurd h hnot.2
  · intro h
    exact h.trans (List.prefix_append _ _)

/-- Whether text before a word is cut at its head does not depend on the
word. -/
theorem Separate.heads_append_iff (hseparate : shape.Separate)
    {before word : List α} (hbefore : before ≠ []) (hword : shape.Matches word)
    (after : List α) :
    shape.Heads (before ++ (word ++ after)) ↔
      (∃ start ∈ shape.starts, start <+: before) ∧
        ((∀ c ∈ before, shape.body c = true) ∨
          shape.least ≤ (before.takeWhile shape.body).countP shape.counted) := by
  have hstart : (∃ start ∈ shape.starts, start <+: before ++ (word ++ after)) ↔
      ∃ start ∈ shape.starts, start <+: before :=
    exists_congr fun start => and_congr_right fun hmem =>
      hseparate.start_prefix_iff hbefore hword after hmem
  rw [Heads, hstart]
  apply and_congr_right
  intro _
  obtain ⟨_, hbody, hleast⟩ := hword
  by_cases hall : ∀ c ∈ before, shape.body c = true
  · have hcount : shape.least ≤ ((before ++ (word ++ after)).takeWhile
        shape.body).countP shape.counted := by
      rw [List.takeWhile_append_of_pos hall, List.takeWhile_append_of_pos hbody,
        List.countP_append, List.countP_append]
      omega
    exact iff_of_true hcount (Or.inl hall)
  · have hrun : (before ++ (word ++ after)).takeWhile shape.body =
        before.takeWhile shape.body := by
      rw [List.takeWhile_append, if_neg]
      intro hlength
      apply hall
      rw [← (List.takeWhile_prefix shape.body).eq_of_length hlength]
      exact fun _ => List.mem_takeWhile_imp
    rw [hrun, or_iff_right hall]

/-- Text that stops every run is not shortened. -/
theorem dropWhile_of_stops {after : List α}
    (hafter : ∀ c ∈ after.head?, shape.body c = false) :
    after.dropWhile shape.body = after := by
  rcases after with _ | ⟨c, after⟩
  · rfl
  · rw [List.dropWhile_cons_of_neg]
    rw [hafter c rfl]
    exact Bool.false_ne_true

/-- A character outside the body ends the run before it. -/
theorem takeWhile_append_stop {c : α} (hc : shape.body c = false) (front back : List α) :
    (front ++ c :: back).takeWhile shape.body = front.takeWhile shape.body ∧
      (front ++ c :: back).dropWhile shape.body = front.dropWhile shape.body ++ c :: back := by
  induction front with
  | nil => simp [hc]
  | cons head front ih =>
      by_cases hhead : shape.body head = true
      · simp [hhead, ih.1, ih.2]
      · simp [hhead]

theorem heads_append_stop_iff {front back : List α} {c : α} (hc : shape.body c = false) :
    shape.Heads (front ++ c :: back) ↔ shape.Heads front := by
  have hrun := (takeWhile_append_stop hc front back).1
  constructor
  · intro h
    exact h.of_run_prefix (hrun ▸ List.prefix_refl _)
  · intro h
    exact h.of_run_prefix (hrun ▸ List.prefix_refl _)

/-! ### Cutting a text -/

variable [DecidableEq α]

variable (shape) in
/-- Cut a text into kept characters and found words. -/
def pieces : List α → List (Piece α)
  | [] => []
  | c :: rest =>
      if shape.Heads (c :: rest) then
        .found (c :: rest.takeWhile shape.body) :: pieces (rest.dropWhile shape.body)
      else .kept c :: pieces rest
  termination_by text => text.length
  decreasing_by
    · exact Nat.lt_succ_of_le (List.length_dropWhile_le _ _)
    · exact Nat.lt_succ_self _

variable (shape) in
def redact (text : List α) : List α :=
  (shape.pieces text).flatMap (Piece.shown shape.marker)

theorem pieces_nil : shape.pieces [] = [] := by rw [pieces]

theorem pieces_of_heads {c : α} {rest : List α} (h : shape.Heads (c :: rest)) :
    shape.pieces (c :: rest) = .found (c :: rest.takeWhile shape.body) ::
      shape.pieces (rest.dropWhile shape.body) := by
  rw [pieces, if_pos h]

theorem pieces_of_not_heads {c : α} {rest : List α} (h : ¬shape.Heads (c :: rest)) :
    shape.pieces (c :: rest) = .kept c :: shape.pieces rest := by
  rw [pieces, if_neg h]

theorem redact_of_heads {c : α} {rest : List α} (h : shape.Heads (c :: rest)) :
    shape.redact (c :: rest) =
      shape.marker ++ shape.redact (rest.dropWhile shape.body) := by
  rw [redact, pieces_of_heads h]
  rfl

theorem redact_of_not_heads {c : α} {rest : List α} (h : ¬shape.Heads (c :: rest)) :
    shape.redact (c :: rest) = c :: shape.redact rest := by
  rw [redact, pieces_of_not_heads h]
  rfl

/-- A text is cut to the left and to the right of a character no word has. -/
theorem pieces_append_stop {front back : List α} {c : α} (hc : shape.body c = false) :
    shape.pieces (front ++ c :: back) =
      shape.pieces front ++ .kept c :: shape.pieces back := by
  induction front using pieces.induct shape with
  | case1 =>
      have hheads : ¬shape.Heads (c :: back) := by
        intro h
        rw [h.body_head] at hc
        cases hc
      rw [List.nil_append, pieces_of_not_heads hheads, pieces_nil, List.nil_append]
  | case2 head rest hheads ih =>
      have hlonger : shape.Heads (head :: (rest ++ c :: back)) :=
        (heads_append_stop_iff hc).mpr hheads
      obtain ⟨htake, hdrop⟩ := takeWhile_append_stop hc rest back
      rw [List.cons_append, pieces_of_heads hlonger, pieces_of_heads hheads, htake, hdrop,
        ih, List.cons_append]
  | case3 head rest hheads ih =>
      have hsame : shape.Heads (head :: rest ++ c :: back) ↔ shape.Heads (head :: rest) :=
        heads_append_stop_iff hc
      have hlonger : ¬shape.Heads (head :: (rest ++ c :: back)) := mt hsame.mp hheads
      rw [List.cons_append, pieces_of_not_heads hlonger, pieces_of_not_heads hheads, ih,
        List.cons_append]

theorem redact_append_stop {front back : List α} {c : α} (hc : shape.body c = false) :
    shape.redact (front ++ c :: back) = shape.redact front ++ c :: shape.redact back := by
  rw [redact, pieces_append_stop hc, List.flatMap_append, List.flatMap_cons]
  rfl

/-- Redacting joined texts is joining redacted ones. -/
theorem redact_intercalate {c : α} (hc : shape.body c = false) (texts : List (List α)) :
    shape.redact ([c].intercalate texts) = [c].intercalate (texts.map shape.redact) ∧
      (shape.pieces ([c].intercalate texts)).any Piece.isFound =
        texts.any fun text => (shape.pieces text).any Piece.isFound := by
  induction texts with
  | nil => simp [redact, pieces_nil]
  | cons text texts ih =>
      rcases texts with _ | ⟨next, texts⟩
      · simp
      · have hcut : [c].intercalate (text :: next :: texts) =
            text ++ c :: [c].intercalate (next :: texts) := by
          simp [List.intercalate]
        rw [hcut, redact_append_stop hc, pieces_append_stop hc, ih.1, List.any_append,
          List.any_cons, ih.2]
        exact ⟨by simp [List.intercalate], rfl⟩

/-- The pieces make up the text. -/
theorem flatMap_source_pieces (text : List α) :
    (shape.pieces text).flatMap Piece.source = text := by
  induction text using pieces.induct shape with
  | case1 => rw [pieces_nil]; rfl
  | case2 c rest hheads ih =>
      rw [pieces_of_heads hheads, List.flatMap_cons, ih, Piece.source, List.cons_append,
        List.takeWhile_append_dropWhile]
  | case3 c rest hheads ih =>
      rw [pieces_of_not_heads hheads, List.flatMap_cons, ih, Piece.source]
      rfl

/-- A found word is a word of the shape, and the text does not run on after
it. -/
theorem found_right_maximal {text : List α} {before after : List (Piece α)}
    {word : List α} (h : shape.pieces text = before ++ .found word :: after) :
    shape.Matches word ∧
      ∀ c ∈ (after.flatMap Piece.source).head?, shape.body c = false := by
  induction text using pieces.induct shape generalizing before with
  | case1 =>
      rw [pieces_nil] at h
      exact absurd h (by simp)
  | case2 c rest hheads ih =>
      rw [pieces_of_heads hheads] at h
      rcases List.cons_eq_append_iff.mp h with ⟨rfl, heq⟩ | ⟨before', rfl, hrest⟩
      · obtain ⟨hword, rfl⟩ := List.cons.inj heq
        cases hword
        refine ⟨?_, ?_⟩
        · have hrun := hheads.matches
          rw [List.takeWhile_cons_of_pos hheads.body_head] at hrun
          exact hrun
        · intro next hnext
          rw [flatMap_source_pieces] at hnext
          have hstop := List.head?_dropWhile_not shape.body rest
          rw [Option.mem_def.mp hnext] at hstop
          exact hstop
      · exact ih hrest
  | case3 c rest hheads ih =>
      rw [pieces_of_not_heads hheads] at h
      rcases List.cons_eq_append_iff.mp h with ⟨rfl, heq⟩ | ⟨before', rfl, hrest⟩
      · cases (List.cons.inj heq).1
      · exact ih hrest

/-- Redaction never lengthens the run at the head. -/
theorem run_prefix_redact (text : List α) :
    (shape.redact text).takeWhile shape.body <+: text.takeWhile shape.body := by
  induction text using pieces.induct shape with
  | case1 => rw [redact, pieces_nil]; rfl
  | case2 c rest hheads ih =>
      obtain ⟨first, hfirst, hstops⟩ := shape.marker_stops
      obtain ⟨marker, hmarker⟩ := List.head?_eq_some_iff.mp (Option.mem_def.mp hfirst)
      rw [redact_of_heads hheads, hmarker, List.cons_append,
        List.takeWhile_cons_of_neg (by rw [hstops]; exact Bool.false_ne_true)]
      exact List.nil_prefix
  | case3 c rest hheads ih =>
      rw [redact_of_not_heads hheads]
      by_cases hbody : shape.body c = true
      · rw [List.takeWhile_cons_of_pos hbody, List.takeWhile_cons_of_pos hbody]
        exact (List.prefix_cons_inj c).mpr ih
      · rw [List.takeWhile_cons_of_neg hbody]
        exact List.nil_prefix

/-- No word of the shape is left, not even across a marker. -/
theorem not_occurs_redact (text : List α) : ¬shape.Occurs (shape.redact text) := by
  induction text using pieces.induct shape with
  | case1 =>
      rw [redact, pieces_nil]
      exact not_occurs_nil
  | case2 c rest hheads ih =>
      rw [redact_of_heads hheads, occurs_append_of_fresh shape.marker_fresh]
      exact ih
  | case3 c rest hheads ih =>
      rw [redact_of_not_heads hheads, occurs_cons_iff]
      intro hoccurs
      rcases hoccurs with hhead | hrest
      · apply hheads
        rw [← redact_of_not_heads hheads] at hhead
        exact hhead.of_run_prefix (run_prefix_redact _)
      · exact ih hrest

/-- A word is found exactly when one occurs. -/
theorem any_isFound_iff (text : List α) :
    (shape.pieces text).any Piece.isFound = true ↔ shape.Occurs text := by
  induction text using pieces.induct shape with
  | case1 =>
      rw [pieces_nil]
      exact iff_of_false Bool.false_ne_true not_occurs_nil
  | case2 c rest hheads ih =>
      rw [pieces_of_heads hheads]
      exact iff_of_true rfl (occurs_cons_iff.mpr (Or.inl hheads))
  | case3 c rest hheads ih =>
      rw [pieces_of_not_heads hheads, occurs_cons_iff, ← ih]
      simp [Piece.isFound, hheads]

/-- A text without words is kept as it is. -/
theorem pieces_of_not_occurs {text : List α} (h : ¬shape.Occurs text) :
    shape.pieces text = text.map .kept := by
  induction text with
  | nil => exact pieces_nil
  | cons c rest ih =>
      rw [occurs_cons_iff, not_or] at h
      rw [pieces_of_not_heads h.1, ih h.2, List.map_cons]

theorem redact_of_not_occurs {text : List α} (h : ¬shape.Occurs text) :
    shape.redact text = text := by
  rw [redact, pieces_of_not_occurs h, Piece.flatMap_shown_kept]

/-- Redaction changes a text exactly when a word occurs in it. -/
theorem redact_ne_iff (text : List α) :
    shape.redact text ≠ text ↔ shape.Occurs text := by
  constructor
  · intro hchanged
    by_contra hnone
    exact hchanged (redact_of_not_occurs hnone)
  · intro hoccurs hsame
    rw [← hsame] at hoccurs
    exact not_occurs_redact text hoccurs

/-! ### The leftmost word -/

variable (shape) in
/-- What stands before the leftmost word, and the word. -/
def leftmost : List α → Option (List α × List α)
  | [] => none
  | c :: rest =>
      if shape.Heads (c :: rest) then some ([], (c :: rest).takeWhile shape.body)
      else (leftmost rest).map fun found => (c :: found.1, found.2)

theorem leftmost_eq_none_iff {text : List α} :
    shape.leftmost text = none ↔ ¬shape.Occurs text := by
  induction text with
  | nil => exact iff_of_true rfl not_occurs_nil
  | cons c rest ih =>
      rw [leftmost, occurs_cons_iff]
      by_cases hheads : shape.Heads (c :: rest)
      · simp [hheads]
      · simp [hheads, ih]

/-- Cutting a text cuts off its leftmost word first. -/
theorem pieces_of_leftmost {text front word : List α}
    (h : shape.leftmost text = some (front, word)) :
    word ≠ [] ∧ ∃ rest, text = front ++ word ++ rest ∧
      shape.pieces text = front.map .kept ++ .found word :: shape.pieces rest := by
  induction text generalizing front with
  | nil => cases h
  | cons c rest ih =>
      rw [leftmost] at h
      by_cases hheads : shape.Heads (c :: rest)
      · rw [if_pos hheads] at h
        cases h
        rw [List.takeWhile_cons_of_pos hheads.body_head, pieces_of_heads hheads]
        refine ⟨nofun, rest.dropWhile shape.body, ?_, rfl⟩
        rw [List.nil_append, List.cons_append, List.takeWhile_append_dropWhile]
      · rw [if_neg hheads] at h
        obtain ⟨⟨front', word'⟩, hfound, heq⟩ := Option.map_eq_some_iff.mp h
        cases heq
        obtain ⟨hne, after, htext, hpieces⟩ := ih hfound
        refine ⟨hne, after, ?_, ?_⟩
        · rw [htext]
          rfl
        · rw [pieces_of_not_heads hheads, hpieces]
          rfl

/-! ### Hidden words -/

/-- A word at the head of a text is one piece when the text stops after it. -/
theorem visible_pieces_word {word after : List α}
    (hword : shape.Matches word)
    (hafter : ∀ c ∈ after.head?, shape.body c = false) :
    (shape.pieces (word ++ after)).map Piece.visible =
      none :: (shape.pieces after).map Piece.visible := by
  obtain ⟨⟨start, hstart, hfront⟩, hbody, hleast⟩ := hword
  have hheads : shape.Heads (word ++ after) := by
    refine ⟨⟨start, hstart, hfront.trans (List.prefix_append _ _)⟩, ?_⟩
    rw [List.takeWhile_append_of_pos hbody, List.countP_append]
    exact Nat.le_add_right_of_le hleast
  rcases word with _ | ⟨c, word⟩
  · exact absurd (List.prefix_nil.mp hfront) (shape.starts_ne_nil start hstart)
  · rw [List.cons_append] at hheads ⊢
    rw [pieces_of_heads hheads, List.map_cons, Piece.visible,
      List.dropWhile_append_of_pos fun c' hc' => hbody c' (List.mem_cons_of_mem c hc'),
      dropWhile_of_stops hafter]

/-- Cutting a text at a word of the shape shows nothing of the word. -/
theorem Separate.visible_pieces_eq (hseparate : shape.Separate)
    (before : List α) {first second after : List α} (hfirst : shape.Matches first)
    (hsecond : shape.Matches second)
    (hafter : ∀ c ∈ after.head?, shape.body c = false) :
    (shape.pieces (before ++ (first ++ after))).map Piece.visible =
      (shape.pieces (before ++ (second ++ after))).map Piece.visible := by
  induction hlength : before.length using Nat.strong_induction_on generalizing before with
  | h n ih =>
      rcases before with _ | ⟨c, rest⟩
      · rw [List.nil_append, List.nil_append, visible_pieces_word hfirst hafter,
          visible_pieces_word hsecond hafter]
      · have hbefore : c :: rest ≠ [] := List.cons_ne_nil c rest
        have hheads := (hseparate.heads_append_iff hbefore hfirst after).trans
          (hseparate.heads_append_iff hbefore hsecond after).symm
        simp only [List.cons_append] at hheads ⊢
        by_cases hcut : shape.Heads (c :: (rest ++ (first ++ after)))
        · rw [pieces_of_heads hcut, pieces_of_heads (hheads.mp hcut), List.map_cons,
            List.map_cons]
          congr 1
          by_cases hall : ∀ c' ∈ rest, shape.body c' = true
          · rw [List.dropWhile_append_of_pos hall, List.dropWhile_append_of_pos hall,
              List.dropWhile_append_of_pos hfirst.2.1,
              List.dropWhile_append_of_pos hsecond.2.1]
          · have hrest : ¬(rest.dropWhile shape.body).isEmpty = true := by
              rw [List.isEmpty_iff, List.dropWhile_eq_nil_iff]
              exact hall
            rw [List.dropWhile_append, if_neg hrest, List.dropWhile_append, if_neg hrest]
            apply ih (rest.dropWhile shape.body).length _ _ rfl
            have hshorter := List.length_dropWhile_le shape.body rest
            rw [← hlength, List.length_cons]
            exact Nat.lt_succ_of_le hshorter
        · rw [pieces_of_not_heads hcut,
            pieces_of_not_heads fun h => hcut (hheads.mpr h), List.map_cons,
            List.map_cons]
          congr 1
          apply ih rest.length _ _ rfl
          rw [← hlength, List.length_cons]
          exact Nat.lt_succ_self _

end RunShape

end RemoteRunner
