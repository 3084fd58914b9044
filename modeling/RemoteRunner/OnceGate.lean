/-
A gate that admits every key at most once.  An input passes checks that do not
look at memory, then the gate refuses it when its key was accepted before and
remembers the key otherwise.
-/
import Mathlib.Data.Finset.Dedup
import Mathlib.Data.Finset.Lattice.Lemmas
import RemoteRunner.Interleaving

namespace RemoteRunner

universe u v w

structure OnceGate (I : Type u) (K : Type v) (E : Type w) where
  check : I → Except E Unit
  key : I → K
  replayed : E
  check_ne_replayed : ∀ input, check input ≠ .error replayed

namespace OnceGate

variable {I : Type u} {K : Type v} {E : Type w}

/-- The keys of the accepted inputs of a run, in order. -/
def acceptedKeys (gate : OnceGate I K E) (entries : List (I × Except E Unit)) :
    List K :=
  (entries.filter fun entry => entry.2.isOk).map fun entry => gate.key entry.1

theorem mem_acceptedKeys_iff (gate : OnceGate I K E)
    {entries : List (I × Except E Unit)} {key : K} :
    key ∈ gate.acceptedKeys entries ↔
      ∃ (position : Nat) (input : I),
        entries[position]? = some (input, Except.ok ()) ∧ gate.key input = key := by
  simp only [acceptedKeys, List.mem_map, List.mem_filter]
  constructor
  · intro haccepted
    obtain ⟨⟨input, answer⟩, ⟨hmem, hok⟩, rfl⟩ := haccepted
    obtain ⟨position, hposition⟩ := List.mem_iff_getElem?.mp hmem
    rcases answer with error | _
    · cases hok
    · exact ⟨position, input, hposition, rfl⟩
  · intro hfound
    obtain ⟨position, input, hposition, rfl⟩ := hfound
    exact ⟨(input, Except.ok ()), ⟨List.mem_of_getElem? hposition, rfl⟩, rfl⟩

variable [DecidableEq K]

/-- Decide one input against the keys seen so far. -/
def decideOne (gate : OnceGate I K E) (seen : Finset K) (input : I) :
    Except E Unit × Finset K :=
  match gate.check input with
  | .error error => (.error error, seen)
  | .ok () =>
      if gate.key input ∈ seen then (.error gate.replayed, seen)
      else (.ok (), insert (gate.key input) seen)

variable (gate : OnceGate I K E)

/-- What one decision can be: acceptance of a fresh key, or a refusal that
leaves the memory alone. -/
theorem decideOne_cases (seen : Finset K) (input : I) :
    (gate.decideOne seen input = (.ok (), insert (gate.key input) seen) ∧
        gate.check input = .ok () ∧ gate.key input ∉ seen) ∨
      ∃ error, gate.decideOne seen input = (.error error, seen) ∧
        (gate.check input = .error error ∨
          gate.check input = .ok () ∧ gate.key input ∈ seen ∧
            error = gate.replayed) := by
  unfold decideOne
  cases hcheck : gate.check input with
  | error error => exact Or.inr ⟨error, rfl, Or.inl rfl⟩
  | ok _ =>
      by_cases hseen : gate.key input ∈ seen
      · exact Or.inr ⟨gate.replayed, by simp [hseen], Or.inr ⟨rfl, hseen, rfl⟩⟩
      · exact Or.inl ⟨by simp [hseen], rfl, hseen⟩

theorem decideOne_ok_iff {seen : Finset K} {input : I} :
    (gate.decideOne seen input).1 = .ok () ↔
      gate.check input = .ok () ∧ gate.key input ∉ seen := by
  rcases gate.decideOne_cases seen input with
    ⟨hdecide, hcheck, hnew⟩ | ⟨error, hdecide, hreason⟩
  · simp [hdecide, hcheck, hnew]
  · rw [hdecide]
    rcases hreason with hcheck | ⟨_, hseen, _⟩
    · simp [hcheck]
    · simp [hseen]

theorem decideOne_replayed_iff {seen : Finset K} {input : I} :
    (gate.decideOne seen input).1 = .error gate.replayed ↔
      gate.check input = .ok () ∧ gate.key input ∈ seen := by
  rcases gate.decideOne_cases seen input with
    ⟨hdecide, _, hnew⟩ | ⟨error, hdecide, hreason⟩
  · simp [hdecide, hnew]
  · rw [hdecide]
    rcases hreason with hcheck | ⟨hcheck, hseen, rfl⟩
    · have hne := gate.check_ne_replayed input
      rw [hcheck] at hne
      simpa [hcheck] using hne
    · simp [hcheck, hseen]

/-- A decision adds the key of an accepted input to the memory. -/
theorem decideOne_memory (seen : Finset K) (input : I) :
    (gate.decideOne seen input).2 =
      if (gate.decideOne seen input).1.isOk then insert (gate.key input) seen else seen := by
  rcases gate.decideOne_cases seen input with ⟨hdecide, _, _⟩ | ⟨_, hdecide, _⟩ <;>
    rw [hdecide] <;> rfl

/-- The gate remembers exactly the keys it accepted. -/
theorem mem_finalState_iff (seen : Finset K) (inputs : List I) (key : K) :
    key ∈ finalState gate.decideOne seen inputs ↔
      key ∈ seen ∨ key ∈ gate.acceptedKeys (trace gate.decideOne seen inputs) := by
  induction inputs generalizing seen with
  | nil => simp [trace, acceptedKeys]
  | cons input inputs ih =>
      rw [finalState_cons, ih]
      rcases gate.decideOne_cases seen input with ⟨hdecide, _⟩ | ⟨_, hdecide, _⟩
      · simp only [hdecide, Finset.mem_insert, trace, acceptedKeys,
          List.filter_cons, Except.isOk, Except.toBool, ↓reduceIte,
          List.map_cons, List.mem_cons]
        tauto
      · simp [hdecide, trace, acceptedKeys, Except.isOk, Except.toBool]

/-- No key is accepted twice, nor one that was seen before the run. -/
theorem acceptedKeys_fresh (seen : Finset K) (inputs : List I) :
    (gate.acceptedKeys (trace gate.decideOne seen inputs)).Nodup ∧
      ∀ key ∈ gate.acceptedKeys (trace gate.decideOne seen inputs),
        key ∉ seen := by
  induction inputs generalizing seen with
  | nil => simp [trace, acceptedKeys]
  | cons input inputs ih =>
      rcases gate.decideOne_cases seen input with
        ⟨hdecide, _, hnew⟩ | ⟨_, hdecide, _⟩
      · obtain ⟨hnodup, hfresh⟩ := ih (insert (gate.key input) seen)
        have hcons : gate.acceptedKeys (trace gate.decideOne seen (input :: inputs)) =
            gate.key input :: gate.acceptedKeys
              (trace gate.decideOne (insert (gate.key input) seen) inputs) := by
          simp [trace, acceptedKeys, hdecide, Except.isOk, Except.toBool]
        rw [hcons]
        constructor
        · refine List.nodup_cons.mpr ⟨?_, hnodup⟩
          intro hmem
          exact hfresh _ hmem (Finset.mem_insert_self _ _)
        · intro key hkey
          rcases List.mem_cons.mp hkey with rfl | hrest
          · exact hnew
          · exact fun hmem => hfresh key hrest (Finset.mem_insert_of_mem hmem)
      · have hsame : gate.acceptedKeys (trace gate.decideOne seen (input :: inputs)) =
            gate.acceptedKeys (trace gate.decideOne seen inputs) := by
          simp [trace, acceptedKeys, hdecide, Except.isOk, Except.toBool]
        rw [hsame]
        exact ih seen

/-- A fresh gate has seen a key exactly when an earlier input with that key
was accepted. -/
theorem seen_iff_accepted (inputs : List I) (position : Nat) (key : K) :
    key ∈ finalState gate.decideOne ∅ (inputs.take position) ↔
      ∃ (earlier : Nat) (input : I), earlier < position ∧
        (trace gate.decideOne ∅ inputs)[earlier]? = some (input, Except.ok ()) ∧
          gate.key input = key := by
  rw [mem_finalState_iff, mem_acceptedKeys_iff, trace_take]
  constructor
  · intro hseen
    rcases hseen with hmem | ⟨earlier, input, hearlier, hkey⟩
    · simp at hmem
    · rw [List.getElem?_take] at hearlier
      split at hearlier
      · rename_i hlt
        exact ⟨earlier, input, hlt, hearlier, hkey⟩
      · cases hearlier
  · intro hearlier
    obtain ⟨earlier, input, hlt, hearlier, hkey⟩ := hearlier
    refine Or.inr ⟨earlier, input, ?_, hkey⟩
    rw [List.getElem?_take_of_lt hlt]
    exact hearlier

/-- A key stays in memory. -/
theorem mem_finalState_of_mem {seen : Finset K} {key : K} (h : key ∈ seen)
    (inputs : List I) : key ∈ finalState gate.decideOne seen inputs :=
  (gate.mem_finalState_iff seen inputs key).mpr (Or.inl h)

/-- An input with the key of an earlier one is refused when the earlier one
passed every check it passes, whatever either was answered. -/
theorem later_refused (seen : Finset K) {inputs : List I} {earlier later : Nat}
    {first second : I} (hlt : earlier < later)
    (hfirst : inputs[earlier]? = some first) (hsecond : inputs[later]? = some second)
    (hkey : gate.key first = gate.key second)
    (hcheck : gate.check second = .ok () → gate.check first = .ok ()) :
    ∃ error, (trace gate.decideOne seen inputs)[later]? =
      some (second, .error error) := by
  rw [trace_getElem?, hsecond]
  rcases hanswer : (gate.decideOne
      (finalState gate.decideOne seen (inputs.take later)) second).1 with error | _
  · exact ⟨error, by simp [hanswer]⟩
  · obtain ⟨hsound, hnew⟩ := gate.decideOne_ok_iff.mp hanswer
    rw [take_eq_append_cons hfirst hlt, finalState_append, finalState_cons] at hnew
    rcases gate.decideOne_cases (finalState gate.decideOne seen (inputs.take earlier))
        first with ⟨hdecide, _, _⟩ | ⟨error, hdecide, hrefused | ⟨_, hseen, _⟩⟩
    · rw [hdecide, ← hkey] at hnew
      exact absurd (gate.mem_finalState_of_mem (Finset.mem_insert_self _ _) _) hnew
    · rw [hcheck hsound] at hrefused
      cases hrefused
    · rw [hdecide, ← hkey] at hnew
      exact absurd (gate.mem_finalState_of_mem hseen _) hnew

/-- The entry a position of a run from a fresh gate has. -/
theorem trace_entry_iff (inputs : List I) (position : Nat) (input : I)
    (answer : Except E Unit) :
    (trace gate.decideOne ∅ inputs)[position]? = some (input, answer) ↔
      inputs[position]? = some input ∧
        (gate.decideOne (finalState gate.decideOne ∅ (inputs.take position))
          input).1 = answer := by
  rw [trace_getElem?, Option.map_eq_some_iff]
  constructor
  · intro hentry
    obtain ⟨found, hfound, heq⟩ := hentry
    obtain ⟨rfl, hanswer⟩ := Prod.mk.inj heq
    exact ⟨hfound, hanswer⟩
  · intro hentry
    obtain ⟨hinput, rfl⟩ := hentry
    exact ⟨input, hinput, rfl⟩

/-- An input is answered as replayed exactly when it is admitted and an
earlier input with its key was accepted. -/
theorem replayed_iff (inputs : List I) (position : Nat) (input : I) :
    (trace gate.decideOne ∅ inputs)[position]? = some (input, .error gate.replayed) ↔
      inputs[position]? = some input ∧ gate.check input = .ok () ∧
        ∃ (earlier : Nat) (first : I), earlier < position ∧
          (trace gate.decideOne ∅ inputs)[earlier]? = some (first, Except.ok ()) ∧
            gate.key first = gate.key input := by
  rw [trace_entry_iff, decideOne_replayed_iff, seen_iff_accepted]

theorem admitted_of_accepted {inputs : List I} {position : Nat} {input : I}
    (h : (trace gate.decideOne ∅ inputs)[position]? = some (input, Except.ok ())) :
    inputs[position]? = some input ∧ gate.check input = .ok () := by
  obtain ⟨hinput, hok⟩ := (gate.trace_entry_iff _ _ _ _).mp h
  exact ⟨hinput, (gate.decideOne_ok_iff.mp hok).1⟩

/-- Two accepted inputs of one run with one key are the same input. -/
theorem accepted_unique {inputs : List I} {earlier later : Nat} {first second : I}
    (hfirst : (trace gate.decideOne ∅ inputs)[earlier]? = some (first, Except.ok ()))
    (hsecond : (trace gate.decideOne ∅ inputs)[later]? = some (second, Except.ok ()))
    (hkey : gate.key first = gate.key second) : first = second := by
  rcases lt_trichotomy earlier later with hlt | rfl | hlt
  · have hnew := (gate.decideOne_ok_iff.mp ((gate.trace_entry_iff _ _ _ _).mp hsecond).2).2
    exact absurd ((gate.seen_iff_accepted _ _ _).mpr
      ⟨earlier, first, hlt, hfirst, hkey⟩) hnew
  · rw [hfirst] at hsecond
    exact (Prod.mk.inj (Option.some.inj hsecond)).1
  · have hnew := (gate.decideOne_ok_iff.mp ((gate.trace_entry_iff _ _ _ _).mp hfirst).2).2
    exact absurd ((gate.seen_iff_accepted _ _ _).mpr
      ⟨later, second, hlt, hsecond, hkey.symm⟩) hnew

/-- An admitted input is accepted or answered as replayed. -/
theorem admitted_answer {inputs : List I} {position : Nat} {input : I}
    (hinput : inputs[position]? = some input) (hcheck : gate.check input = .ok ()) :
    (trace gate.decideOne ∅ inputs)[position]? = some (input, Except.ok ()) ∨
      (trace gate.decideOne ∅ inputs)[position]? =
        some (input, .error gate.replayed) := by
  rw [trace_entry_iff, trace_entry_iff, decideOne_ok_iff, decideOne_replayed_iff]
  by_cases hseen : gate.key input ∈ finalState gate.decideOne ∅ (inputs.take position)
  · exact Or.inr ⟨hinput, hcheck, hseen⟩
  · exact Or.inl ⟨hinput, hcheck, hseen⟩

/-- An input is accepted exactly when it is admitted and no input with its key
was admitted before. -/
theorem accepted_iff_first (inputs : List I) (position : Nat) (input : I) :
    (trace gate.decideOne ∅ inputs)[position]? = some (input, Except.ok ()) ↔
      inputs[position]? = some input ∧ gate.check input = .ok () ∧
        ∀ (earlier : Nat) (first : I), earlier < position →
          inputs[earlier]? = some first → gate.check first = .ok () →
            gate.key first ≠ gate.key input := by
  rw [trace_entry_iff, decideOne_ok_iff, seen_iff_accepted]
  constructor
  · intro haccepted
    obtain ⟨hinput, hcheck, hnew⟩ := haccepted
    refine ⟨hinput, hcheck, ?_⟩
    intro earlier first hlt hfirst hadmitted hkey
    rcases gate.admitted_answer hfirst hadmitted with hok | hreplayed
    · exact hnew ⟨earlier, first, hlt, hok, hkey⟩
    · obtain ⟨_, _, earliest, other, hlt', hother, hkey'⟩ :=
        (gate.replayed_iff _ _ _).mp hreplayed
      exact hnew ⟨earliest, other, Nat.lt_trans hlt' hlt, hother, hkey'.trans hkey⟩
  · intro hfirst
    obtain ⟨hinput, hcheck, hnone⟩ := hfirst
    refine ⟨hinput, hcheck, ?_⟩
    intro hseen
    obtain ⟨earlier, first, hlt, hentry, hkey⟩ := hseen
    obtain ⟨hinput', hcheck'⟩ := gate.admitted_of_accepted hentry
    exact hnone earlier first hlt hinput' hcheck' hkey

/-- Inputs with different keys do not see each other. -/
theorem commutes_of_key_ne {first second : I} (h : gate.key first ≠ gate.key second) :
    Commutes gate.decideOne first second := by
  have hunseen : ∀ {one other : I}, gate.key one ≠ gate.key other → ∀ seen,
      (gate.decideOne (gate.decideOne seen one).2 other).1 =
        (gate.decideOne seen other).1 := by
    intro one other hne seen
    rcases gate.decideOne_cases seen one with ⟨hdecide, _, _⟩ | ⟨_, hdecide, _⟩
    · have hmem : gate.key other ∈ insert (gate.key one) seen ↔
          gate.key other ∈ seen := by
        simp [hne.symm]
      rw [hdecide, decideOne, decideOne]
      by_cases hseen : gate.key other ∈ seen
      · rw [if_pos (hmem.mpr hseen), if_pos hseen]
        cases gate.check other <;> rfl
      · rw [if_neg (hmem.not.mpr hseen), if_neg hseen]
        cases gate.check other <;> rfl
    · rw [hdecide]
  refine ⟨hunseen h.symm, hunseen h, fun seen => ?_⟩
  rw [decideOne_memory, hunseen h, gate.decideOne_memory (gate.decideOne seen second).2,
    hunseen h.symm, gate.decideOne_memory seen first, gate.decideOne_memory seen second]
  split <;> split
  · exact Finset.insert_comm _ _ _
  · rfl
  · rfl
  · rfl

/-- With a key computed from an identity, replays name an accepted input of
their own identity throughout a run exactly when the admitted inputs of the run
that share a key share their identity. -/
theorem replayed_faithful_iff {D : Type*} (identity : I → D)
    (factors : ∀ first second, identity first = identity second →
      gate.key first = gate.key second) (inputs : List I) :
    (∀ position input,
        (trace gate.decideOne ∅ inputs)[position]? =
            some (input, .error gate.replayed) →
          ∃ (earlier : Nat) (first : I), earlier < position ∧
            (trace gate.decideOne ∅ inputs)[earlier]? = some (first, Except.ok ()) ∧
              identity first = identity input) ↔
      ∀ (earlier later : Nat) (first second : I), earlier < later →
        inputs[earlier]? = some first → inputs[later]? = some second →
        gate.check first = .ok () → gate.check second = .ok () →
        gate.key first = gate.key second → identity first = identity second := by
  constructor
  · intro hfaithful
    have haccepted : ∀ (position : Nat) (input : I),
        inputs[position]? = some input → gate.check input = .ok () →
        ∃ (earlier : Nat) (first : I),
          (trace gate.decideOne ∅ inputs)[earlier]? = some (first, Except.ok ()) ∧
            identity first = identity input := by
      intro position input hinput hcheck
      rcases gate.admitted_answer hinput hcheck with hok | hreplayed
      · exact ⟨position, input, hok, rfl⟩
      · obtain ⟨earlier, first, _, hentry, hidentity⟩ := hfaithful _ _ hreplayed
        exact ⟨earlier, first, hentry, hidentity⟩
    intro earlier later first second _ hfirst hsecond hcheck hcheck' hkey
    obtain ⟨position, accepted, hentry, hidentity⟩ := haccepted _ _ hfirst hcheck
    obtain ⟨position', accepted', hentry', hidentity'⟩ := haccepted _ _ hsecond hcheck'
    have hsame : accepted = accepted' := by
      apply gate.accepted_unique hentry hentry'
      rw [factors _ _ hidentity, factors _ _ hidentity', hkey]
    rw [← hidentity, ← hidentity', hsame]
  · intro hidentities position input hreplayed
    obtain ⟨hinput, hcheck, earlier, first, hlt, hentry, hkey⟩ :=
      (gate.replayed_iff _ _ _).mp hreplayed
    obtain ⟨hfirst, hcheck'⟩ := gate.admitted_of_accepted hentry
    exact ⟨earlier, first, hlt, hentry,
      hidentities earlier position first input hlt hfirst hinput hcheck' hcheck hkey⟩

end OnceGate

end RemoteRunner
