/-
A once gate over any memory of keys.  A memory that keeps what it is given
never lets a key through twice; one that invents nothing never refuses a key
that was not let through; one that does both answers every run as the set of
admitted keys does.
-/
import RemoteRunner.OnceGate

namespace RemoteRunner

universe u v w x

/-- A memory of keys, seen through its two operations. -/
structure KeyMemory (M : Type x) (K : Type v) where
  hasSeen : M → K → Bool
  record : M → K → M

variable {M : Type x} {K : Type v}

/-- A recorded key is reported from then on. -/
structure KeyMemory.Keeps (memory : KeyMemory M K) : Prop where
  recorded : ∀ kept key, memory.hasSeen (memory.record kept key) key = true
  kept : ∀ kept key other, memory.hasSeen kept other = true →
    memory.hasSeen (memory.record kept key) other = true

/-- Only recorded keys are reported. -/
def KeyMemory.InventsNothing (memory : KeyMemory M K) : Prop :=
  ∀ kept key other, memory.hasSeen (memory.record kept key) other = true →
    other = key ∨ memory.hasSeen kept other = true

namespace OnceGate

variable {I : Type u} {E : Type w} (gate : OnceGate I K E) (memory : KeyMemory M K)

/-- Decide one input against a memory. -/
def decideIn (kept : M) (input : I) : Except E Unit × M :=
  match gate.check input with
  | .error error => (.error error, kept)
  | .ok () =>
      if memory.hasSeen kept (gate.key input) then (.error gate.replayed, kept)
      else (.ok (), memory.record kept (gate.key input))

/-- What one decision can be. -/
theorem decideIn_cases (kept : M) (input : I) :
    (gate.decideIn memory kept input = (.ok (), memory.record kept (gate.key input)) ∧
        memory.hasSeen kept (gate.key input) = false) ∨
      ∃ error, gate.decideIn memory kept input = (.error error, kept) ∧
        (error = gate.replayed → memory.hasSeen kept (gate.key input) = true) := by
  unfold decideIn
  cases hcheck : gate.check input with
  | error error =>
      refine Or.inr ⟨error, rfl, ?_⟩
      rintro rfl
      exact absurd hcheck (gate.check_ne_replayed input)
  | ok _ =>
      rcases hseen : memory.hasSeen kept (gate.key input) with _ | _
      · exact Or.inl ⟨by simp, rfl⟩
      · exact Or.inr ⟨gate.replayed, by simp, fun _ => rfl⟩

variable {gate memory}

/-- What a memory reports it reports for good. -/
theorem hasSeen_decideIn (hkeeps : memory.Keeps) {kept : M} {key : K}
    (h : memory.hasSeen kept key = true) (input : I) :
    memory.hasSeen (gate.decideIn memory kept input).2 key = true := by
  rcases gate.decideIn_cases memory kept input with ⟨hdecide, _⟩ | ⟨_, hdecide, _⟩
  · rw [hdecide]
    exact hkeeps.kept kept (gate.key input) key h
  · rw [hdecide]
    exact h

/-- The gate lets no key through twice. -/
theorem accepted_once (hkeeps : memory.Keeps) {start : M} {inputs : List I}
    {earlier later : Nat} {first second : I} (hlt : earlier < later)
    (hfirst : (trace (gate.decideIn memory) start inputs)[earlier]? = some (first, .ok ()))
    (hsecond : (trace (gate.decideIn memory) start inputs)[later]? = some (second, .ok ())) :
    gate.key first ≠ gate.key second := by
  intro hkey
  obtain ⟨hinput, hok⟩ := (trace_getElem?_eq_some_iff _).mp hfirst
  obtain ⟨_, hok'⟩ := (trace_getElem?_eq_some_iff _).mp hsecond
  -- accepted, so recorded, so still reported when the second is decided
  have hrecorded : memory.hasSeen (finalState (gate.decideIn memory) start
      (inputs.take (earlier + 1))) (gate.key first) = true := by
    rw [finalState_take_succ _ hinput]
    rcases gate.decideIn_cases memory (finalState (gate.decideIn memory) start
        (inputs.take earlier)) first with ⟨hdecide, _⟩ | ⟨error, hdecide, _⟩
    · rw [hdecide]
      exact hkeeps.recorded _ _
    · rw [hdecide] at hok
      cases hok
  have hreported := finalState_take_invariant (gate.decideIn memory)
    (fun kept => memory.hasSeen kept (gate.key first) = true)
    (fun _ input h => hasSeen_decideIn hkeeps h input) hlt hrecorded
  rcases gate.decideIn_cases memory (finalState (gate.decideIn memory) start
      (inputs.take later)) second with ⟨_, hnew⟩ | ⟨error, hdecide, _⟩
  · rw [hkey, hnew] at hreported
    cases hreported
  · rw [hdecide] at hok'
    cases hok'

/-- A key reported after a run was reported before it or let through in it. -/
theorem hasSeen_finalState (hinvents : memory.InventsNothing) {start : M} {key : K}
    (inputs : List I)
    (h : memory.hasSeen (finalState (gate.decideIn memory) start inputs) key = true) :
    memory.hasSeen start key = true ∨
      ∃ (position : Nat) (input : I), gate.key input = key ∧
        (trace (gate.decideIn memory) start inputs)[position]? = some (input, .ok ()) := by
  induction inputs generalizing start with
  | nil => exact Or.inl h
  | cons input inputs ih =>
      rw [finalState_cons] at h
      rcases ih h with hseen | ⟨position, accepted, hkey, hentry⟩
      · rcases gate.decideIn_cases memory start input with
          ⟨hdecide, _⟩ | ⟨error, hdecide, _⟩
        · rw [hdecide] at hseen
          rcases hinvents start (gate.key input) key hseen with rfl | hbefore
          · exact Or.inr ⟨0, input, rfl, by simp [trace, hdecide]⟩
          · exact Or.inl hbefore
        · rw [hdecide] at hseen
          exact Or.inl hseen
      · exact Or.inr ⟨position + 1, accepted, hkey, by simpa [trace] using hentry⟩

/-- The gate refuses a key as replayed only after it let the key through. -/
theorem replayed_after_accepted (hinvents : memory.InventsNothing) {start : M}
    (hstart : ∀ key, memory.hasSeen start key = false) {inputs : List I} {position : Nat}
    {input : I}
    (h : (trace (gate.decideIn memory) start inputs)[position]? =
      some (input, .error gate.replayed)) :
    ∃ (earlier : Nat) (first : I), earlier < position ∧
      (trace (gate.decideIn memory) start inputs)[earlier]? = some (first, .ok ()) ∧
        gate.key first = gate.key input := by
  obtain ⟨_, hreplayed⟩ := (trace_getElem?_eq_some_iff _).mp h
  rcases gate.decideIn_cases memory (finalState (gate.decideIn memory) start
      (inputs.take position)) input with ⟨hdecide, _⟩ | ⟨error, hdecide, hseen⟩
  · rw [hdecide] at hreplayed
    cases hreplayed
  · rw [hdecide] at hreplayed
    obtain rfl := Except.error.inj hreplayed
    rcases hasSeen_finalState hinvents _ (hseen rfl) with hbefore | hfound
    · rw [hstart] at hbefore
      cases hbefore
    · obtain ⟨earlier, first, hkey, hentry⟩ := hfound
      rw [trace_take] at hentry
      by_cases hlt : earlier < position
      · rw [List.getElem?_take_of_lt hlt] at hentry
        exact ⟨earlier, first, hlt, hentry, hkey⟩
      · rw [List.getElem?_take_eq_none (Nat.le_of_not_lt hlt)] at hentry
        cases hentry

variable [DecidableEq K]

/-- A memory that keeps what it is given and invents nothing answers as the set
of the keys it reports. -/
theorem trace_decideIn (hkeeps : memory.Keeps) (hinvents : memory.InventsNothing)
    {start : M} {seen : Finset K}
    (hstart : ∀ key, memory.hasSeen start key = true ↔ key ∈ seen) (inputs : List I) :
    trace (gate.decideIn memory) start inputs = trace gate.decideOne seen inputs := by
  induction inputs generalizing start seen with
  | nil => rfl
  | cons input inputs ih =>
      have hseen := hstart (gate.key input)
      rw [trace, trace, decideIn, decideOne]
      cases gate.check input with
      | error error => rw [ih hstart]
      | ok _ =>
          by_cases hmem : gate.key input ∈ seen
          · simp only [hseen.mpr hmem, hmem, ↓reduceIte]
            rw [ih hstart]
          · have hrecord : ∀ key, memory.hasSeen (memory.record start (gate.key input)) key =
                true ↔ key ∈ insert (gate.key input) seen := by
              intro key
              rw [Finset.mem_insert, ← hstart]
              constructor
              · exact hinvents start (gate.key input) key
              · rintro (rfl | hbefore)
                · exact hkeeps.recorded start (gate.key input)
                · exact hkeeps.kept start (gate.key input) key hbefore
            simp only [hseen.not.mpr hmem, hmem, Bool.false_eq_true, ↓reduceIte]
            rw [ih hrecord]

variable (gate)

/-- The key of an input is remembered exactly when it was before or an admitted
input of the run had it. -/
theorem mem_finalState_iff_admitted (seen : Finset K) (inputs : List I) (key : K) :
    key ∈ finalState gate.decideOne seen inputs ↔
      key ∈ seen ∨ ∃ input ∈ inputs, gate.check input = .ok () ∧ gate.key input = key := by
  induction inputs generalizing seen with
  | nil => simp
  | cons input inputs ih =>
      rw [finalState_cons, ih, List.exists_mem_cons_iff]
      cases hcheck : gate.check input with
      | error error => simp [decideOne, hcheck]
      | ok _ =>
          by_cases hmem : gate.key input ∈ seen
          · simp only [decideOne, hcheck, hmem, ↓reduceIte, true_and]
            constructor
            · rintro (hbefore | hlater)
              · exact Or.inl hbefore
              · exact Or.inr (Or.inr hlater)
            · rintro (hbefore | rfl | hlater)
              · exact Or.inl hbefore
              · exact Or.inl hmem
              · exact Or.inr hlater
          · simp only [decideOne, hcheck, hmem, ↓reduceIte, Finset.mem_insert, true_and]
            constructor
            · rintro ((rfl | hbefore) | hlater)
              · exact Or.inr (Or.inl rfl)
              · exact Or.inl hbefore
              · exact Or.inr (Or.inr hlater)
            · rintro (hbefore | rfl | hlater)
              · exact Or.inl (Or.inr hbefore)
              · exact Or.inl (Or.inl rfl)
              · exact Or.inr hlater

end OnceGate

end RemoteRunner
