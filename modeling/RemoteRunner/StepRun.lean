/-
Runs of a deterministic machine that answers every input and moves to a next
state.
-/
import Mathlib.Data.List.Basic

namespace RemoteRunner

universe u v w

variable {S : Type u} {I : Type v} {O : Type w}

/-- The state after a list of inputs. -/
def finalState (step : S → I → O × S) : S → List I → S
  | state, [] => state
  | state, input :: inputs => finalState step (step state input).2 inputs

/-- Every input of a run with the answer it got. -/
def trace (step : S → I → O × S) : S → List I → List (I × O)
  | _, [] => []
  | state, input :: inputs =>
      (input, (step state input).1) :: trace step (step state input).2 inputs

/-- Drop the entries at the selected positions. -/
def deleteAt {α : Type u} : (Nat → Bool) → List α → List α
  | _, [] => []
  | drop, entry :: entries =>
      if drop 0 then deleteAt (fun position => drop (position + 1)) entries
      else entry :: deleteAt (fun position => drop (position + 1)) entries

variable (step : S → I → O × S)

@[simp] theorem finalState_nil (state : S) : finalState step state [] = state := rfl

@[simp] theorem finalState_cons (state : S) (input : I) (inputs : List I) :
    finalState step state (input :: inputs) =
      finalState step (step state input).2 inputs := rfl

@[simp] theorem finalState_append (state : S) (first second : List I) :
    finalState step state (first ++ second) =
      finalState step (finalState step state first) second := by
  induction first generalizing state with
  | nil => rfl
  | cons input first ih => exact ih (step state input).2

theorem trace_take (state : S) (inputs : List I) (count : Nat) :
    trace step state (inputs.take count) = (trace step state inputs).take count := by
  induction inputs generalizing state count with
  | nil => simp [trace]
  | cons input inputs ih =>
      rcases count with _ | count
      · rfl
      · simp [trace, ih]

/-- The answer at a position is the answer of the state the inputs before it
lead to. -/
theorem trace_getElem? (state : S) (inputs : List I) (position : Nat) :
    (trace step state inputs)[position]? =
      inputs[position]?.map fun input =>
        (input, (step (finalState step state (inputs.take position)) input).1) := by
  induction inputs generalizing state position with
  | nil => simp [trace]
  | cons input inputs ih =>
      cases position with
      | zero => simp [trace]
      | succ position => simp [trace, ih]

/-- The entry at a position of a trace. -/
theorem trace_getElem?_eq_some_iff {state : S} {inputs : List I} {position : Nat}
    {input : I} {answer : O} :
    (trace step state inputs)[position]? = some (input, answer) ↔
      inputs[position]? = some input ∧
        (step (finalState step state (inputs.take position)) input).1 = answer := by
  rw [trace_getElem?, Option.map_eq_some_iff]
  constructor
  · rintro ⟨found, hfound, hentry⟩
    obtain ⟨rfl, hanswer⟩ := Prod.mk.inj hentry
    exact ⟨hfound, hanswer⟩
  · rintro ⟨hinput, rfl⟩
    exact ⟨input, hinput, rfl⟩

/-- A prefix splits at an input inside it. -/
theorem take_eq_append_cons {inputs : List I} {position count : Nat} {input : I}
    (h : inputs[position]? = some input) (hlt : position < count) :
    inputs.take count =
      inputs.take position ++ input :: (inputs.take count).drop (position + 1) := by
  obtain ⟨hlength, rfl⟩ := List.getElem?_eq_some_iff.mp h
  have hinside : position < (inputs.take count).length := by
    rw [List.length_take]
    omega
  have hsplit := List.take_append_drop position (inputs.take count)
  rw [List.take_take, Nat.min_eq_left (Nat.le_of_lt hlt), List.drop_eq_getElem_cons hinside,
    List.getElem_take] at hsplit
  exact hsplit.symm

/-- One more input is one more step. -/
theorem finalState_take_succ {state : S} {inputs : List I} {position : Nat}
    {input : I} (h : inputs[position]? = some input) :
    finalState step state (inputs.take (position + 1)) =
      (step (finalState step state (inputs.take position)) input).2 := by
  rw [List.take_add_one, h, finalState_append]
  rfl

/-- An invariant of every step holds after every run. -/
theorem finalState_invariant (P : S → Prop)
    (hstep : ∀ state input, P state → P (step state input).2)
    {state : S} (hstate : P state) (inputs : List I) :
    P (finalState step state inputs) := by
  induction inputs generalizing state with
  | nil => exact hstate
  | cons input inputs ih => exact ih (hstep state input hstate)

/-- What every step keeps is kept from one position of a run to a later one. -/
theorem finalState_take_invariant (P : S → Prop)
    (hstep : ∀ state input, P state → P (step state input).2)
    {state : S} {inputs : List I} {earlier later : Nat} (hle : earlier ≤ later)
    (h : P (finalState step state (inputs.take earlier))) :
    P (finalState step state (inputs.take later)) := by
  have hsplit : inputs.take later =
      inputs.take earlier ++ (inputs.take later).drop earlier := by
    have happend := List.take_append_drop earlier (inputs.take later)
    rw [List.take_take, Nat.min_eq_left hle] at happend
    exact happend.symm
  rw [hsplit, finalState_append]
  exact finalState_invariant step P hstep h _

/-- What the inputs between two positions of a run keep is kept from the one to
the other. -/
theorem finalState_take_kept (P : S → Prop) {state : S} {inputs : List I}
    {earlier later : Nat} (hle : earlier ≤ later)
    (hstep : ∀ (position : Nat) (input : I) (state : S), earlier ≤ position →
      position < later → inputs[position]? = some input → P state →
        P (step state input).2)
    (h : P (finalState step state (inputs.take earlier))) :
    P (finalState step state (inputs.take later)) := by
  obtain ⟨count, rfl⟩ := Nat.exists_eq_add_of_le hle
  induction count with
  | zero => exact h
  | succ count ih =>
      have hbefore := ih (Nat.le_add_right earlier count)
        fun position input state hfrom hto =>
          hstep position input state hfrom (Nat.lt_succ_of_lt hto)
      rw [← Nat.add_assoc]
      rcases hinput : inputs[earlier + count]? with _ | input
      · rw [List.take_add_one, hinput, Option.toList_none, List.append_nil]
        exact hbefore
      · rw [finalState_take_succ step hinput]
        exact hstep (earlier + count) input _ (Nat.le_add_right earlier count)
          (Nat.lt_succ_self (earlier + count)) hinput hbefore

/-- What one entry of a trace starts and another ends holds after a run exactly
when the last word on it is a start: it held before and nothing ended it, or an
entry started it and no later one ended it. -/
theorem finalState_iff_since (P : S → Prop) (Starts Ends : I × O → Prop)
    (hstep : ∀ state input, P (step state input).2 ↔
      Starts (input, (step state input).1) ∨
        P state ∧ ¬Ends (input, (step state input).1))
    (state : S) (inputs : List I) :
    P (finalState step state inputs) ↔
      (P state ∧ ∀ entry ∈ trace step state inputs, ¬Ends entry) ∨
        ∃ before entry after, trace step state inputs = before ++ entry :: after ∧
          Starts entry ∧ ∀ later ∈ after, ¬Ends later := by
  induction inputs generalizing state with
  | nil => simp [trace]
  | cons input inputs ih =>
      rw [finalState_cons, ih, hstep, trace]
      constructor
      · rintro (⟨hstarted | ⟨hheld, hkept⟩, hafter⟩ | ⟨before, entry, after, htrace, h⟩)
        · exact Or.inr ⟨[], _, _, rfl, hstarted, hafter⟩
        · exact Or.inl ⟨hheld, List.forall_mem_cons.mpr ⟨hkept, hafter⟩⟩
        · exact Or.inr ⟨_ :: before, entry, after, by rw [htrace, List.cons_append], h⟩
      · rintro (⟨hheld, hkept⟩ | ⟨_ | ⟨first, before⟩, entry, after, htrace, hstarted, hafter⟩)
        · obtain ⟨hhead, htail⟩ := List.forall_mem_cons.mp hkept
          exact Or.inl ⟨Or.inr ⟨hheld, hhead⟩, htail⟩
        · obtain ⟨rfl, rfl⟩ := List.cons.inj htrace
          exact Or.inl ⟨Or.inl hstarted, hafter⟩
        · obtain ⟨rfl, hrest⟩ := List.cons.inj htrace
          exact Or.inr ⟨before, entry, after, hrest, hstarted, hafter⟩

/-- What every step pays for from a budget that no step refills happens at most so
often in a run. -/
theorem countP_trace_le (budget : S → Nat) (paid : I × O → Bool)
    (hstep : ∀ state input, budget (step state input).2 +
      (paid (input, (step state input).1)).toNat ≤ budget state)
    (state : S) (inputs : List I) :
    (trace step state inputs).countP paid + budget (finalState step state inputs) ≤
      budget state := by
  induction inputs generalizing state with
  | nil => simp [trace]
  | cons input inputs ih =>
      have hrest := ih (step state input).2
      have hfirst := hstep state input
      rw [trace, List.countP_cons, finalState_cons]
      rcases hpaid : paid (input, (step state input).1) with _ | _
      · simp only [hpaid, Bool.toNat_false] at hfirst
        simp only [Bool.false_eq_true, ↓reduceIte]
        omega
      · simp only [hpaid, Bool.toNat_true] at hfirst
        simp only [↓reduceIte]
        omega

/-- Inputs whose answers are quiet can be deleted: the other answers and the
final state stay as they were. -/
theorem trace_deleteAt (Quiet : O → Prop)
    (hquiet : ∀ state input, Quiet (step state input).1 →
      (step state input).2 = state)
    (state : S) (inputs : List I) (drop : Nat → Bool)
    (hdrop : ∀ position entry, (trace step state inputs)[position]? = some entry →
      drop position = true → Quiet entry.2) :
    trace step state (deleteAt drop inputs) =
        deleteAt drop (trace step state inputs) ∧
      finalState step state (deleteAt drop inputs) =
        finalState step state inputs := by
  induction inputs generalizing state drop with
  | nil => exact ⟨rfl, rfl⟩
  | cons input inputs ih =>
      have hrest := ih (step state input).2 (fun position => drop (position + 1))
        (fun position entry hentry => hdrop (position + 1) entry (by simpa [trace]))
      by_cases hhead : drop 0 = true
      · have hsame : (step state input).2 = state :=
          hquiet state input (hdrop 0 (input, (step state input).1)
            (by simp [trace]) hhead)
        rw [hsame] at hrest
        simpa [trace, deleteAt, hhead, hsame] using hrest
      · simpa [trace, deleteAt, hhead] using hrest

/-- A machine that simulates another answers alike and ends in the simulating
state. -/
theorem trace_simulates {T : Type*} {step' : T → I → O × T} (simulated : S → T)
    (h : ∀ state input, step' (simulated state) input =
      ((step state input).1, simulated (step state input).2))
    (state : S) (inputs : List I) :
    trace step' (simulated state) inputs = trace step state inputs ∧
      finalState step' (simulated state) inputs =
        simulated (finalState step state inputs) := by
  induction inputs generalizing state with
  | nil => exact ⟨rfl, rfl⟩
  | cons input inputs ih =>
      obtain ⟨htrace, hfinal⟩ := ih (step state input).2
      constructor
      · simp only [trace, h, htrace]
      · simp only [finalState_cons, h, hfinal]

end RemoteRunner
