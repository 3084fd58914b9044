/-
Runs of several clients over one machine.  Inputs of different clients that
commute can be interleaved in any order: every client gets the answers it gets
alone, and the machine ends in the same state.
-/
import RemoteRunner.StepRun

namespace RemoteRunner

universe u v w x

variable {S : Type u} {I : Type v} {O : Type w} {C : Type x}

/-- Neither input sees the other: each is answered as it is alone, and both
orders lead to the same state. -/
structure Commutes (step : S → I → O × S) (first second : I) : Prop where
  answer_first : ∀ state, (step (step state second).2 first).1 = (step state first).1
  answer_second : ∀ state, (step (step state first).2 second).1 = (step state second).1
  state_eq : ∀ state,
    (step (step state first).2 second).2 = (step (step state second).2 first).2

variable {step : S → I → O × S}

theorem Commutes.symm {first second : I} (h : Commutes step first second) :
    Commutes step second first where
  answer_first := h.answer_second
  answer_second := h.answer_first
  state_eq state := (h.state_eq state).symm

/-- An input before inputs it commutes with changes none of their answers, and
may as well come after them. -/
theorem trace_after_commuting {input : I} {inputs : List I}
    (hcommutes : ∀ other ∈ inputs, Commutes step input other) (state : S) :
    trace step (step state input).2 inputs = trace step state inputs ∧
      finalState step (step state input).2 inputs =
        (step (finalState step state inputs) input).2 := by
  induction inputs generalizing state with
  | nil => exact ⟨rfl, rfl⟩
  | cons other inputs ih =>
      have hother := hcommutes other List.mem_cons_self
      obtain ⟨htrace, hfinal⟩ :=
        ih (fun later hlater => hcommutes later (List.mem_cons_of_mem _ hlater))
          (step state other).2
      constructor
      · rw [trace, trace, hother.answer_second, hother.state_eq, htrace]
      · rw [finalState_cons, finalState_cons, hother.state_eq, hfinal]

variable (client : I → C)

/-- Inputs of different clients commute. -/
def ClientsCommute (step : S → I → O × S) (inputs : List I) : Prop :=
  ∀ first ∈ inputs, ∀ second ∈ inputs, client first ≠ client second →
    Commutes step first second

theorem ClientsCommute.tail {input : I} {inputs : List I}
    (h : ClientsCommute client step (input :: inputs)) :
    ClientsCommute client step inputs := by
  intro first hfirst second hsecond
  exact h first (List.mem_cons_of_mem _ hfirst) second (List.mem_cons_of_mem _ hsecond)

variable [DecidableEq C]

/-- The inputs of one client, in their order. -/
def ownInputs (owner : C) (inputs : List I) : List I :=
  inputs.filter fun input => client input = owner

/-- The entries of one client in a trace, in their order. -/
def ownEntries (owner : C) (entries : List (I × O)) : List (I × O) :=
  entries.filter fun entry => client entry.1 = owner

/-- An input is among its own client's inputs. -/
theorem mem_ownInputs_self {inputs : List I} {input : I} :
    input ∈ ownInputs client (client input) inputs ↔ input ∈ inputs := by
  simp [ownInputs]

variable {client}

/-- Every client is answered as if it were alone. -/
theorem ownEntries_trace {inputs : List I} (hcommute : ClientsCommute client step inputs)
    (state : S) (owner : C) :
    ownEntries client owner (trace step state inputs) =
      trace step state (ownInputs client owner inputs) := by
  induction inputs generalizing state with
  | nil => rfl
  | cons input inputs ih =>
      have hrest := ih hcommute.tail (step state input).2
      by_cases howner : client input = owner
      · have hentries : ownEntries client owner (trace step state (input :: inputs)) =
            (input, (step state input).1) ::
              ownEntries client owner (trace step (step state input).2 inputs) := by
          simp [trace, ownEntries, howner]
        have hinputs : ownInputs client owner (input :: inputs) =
            input :: ownInputs client owner inputs := by
          simp [ownInputs, howner]
        rw [hentries, hinputs, hrest, trace]
      · have hentries : ownEntries client owner (trace step state (input :: inputs)) =
            ownEntries client owner (trace step (step state input).2 inputs) := by
          simp [trace, ownEntries, howner]
        have hinputs : ownInputs client owner (input :: inputs) =
            ownInputs client owner inputs := by
          simp [ownInputs, howner]
        -- the other client's input commutes with all that is left of the owner's
        have hothers : ∀ other ∈ ownInputs client owner inputs,
            Commutes step input other := by
          intro other hother
          obtain ⟨hmem, hclient⟩ := List.mem_filter.mp hother
          apply hcommute input List.mem_cons_self other (List.mem_cons_of_mem _ hmem)
          rw [of_decide_eq_true hclient]
          exact howner
        rw [hentries, hinputs, hrest, (trace_after_commuting hothers state).1]

/-- Two interleavings of the same clients have the same inputs. -/
theorem mem_of_ownInputs_eq {first second : List I}
    (hsame : ∀ owner, ownInputs client owner first = ownInputs client owner second)
    {input : I} (h : input ∈ second) : input ∈ first := by
  rw [← mem_ownInputs_self client, hsame, mem_ownInputs_self]
  exact h

/-- Every interleaving of the same clients ends in the same state. -/
theorem finalState_interleaving {first second : List I}
    (hcommute : ClientsCommute client step first)
    (hsame : ∀ owner, ownInputs client owner first = ownInputs client owner second)
    (state : S) :
    finalState step state first = finalState step state second := by
  induction first generalizing second state with
  | nil =>
      rcases second with _ | ⟨input, second⟩
      · rfl
      · exact absurd (mem_of_ownInputs_eq hsame List.mem_cons_self) List.not_mem_nil
  | cons input first ih =>
      -- the input's first place in the second run, behind inputs of other clients
      have hown := hsame (client input)
      rw [ownInputs, List.filter_cons_of_pos (by simp)] at hown
      obtain ⟨before, after, rfl, hbefore, _, hafter⟩ :=
        List.filter_eq_cons_iff.mp hown.symm
      have hcommutes : ∀ other ∈ before, Commutes step input other := by
        intro other hother
        apply hcommute input List.mem_cons_self other
        · exact mem_of_ownInputs_eq hsame (List.mem_append_left _ hother)
        · intro hclient
          exact hbefore other hother (decide_eq_true hclient.symm)
      have hrest : ∀ owner, ownInputs client owner first =
          ownInputs client owner (before ++ after) := by
        intro owner
        have howner := hsame owner
        by_cases hinput : client input = owner
        · subst hinput
          have hnone : before.filter (fun other => client other = client input) = [] :=
            List.filter_eq_nil_iff.mpr hbefore
          rw [ownInputs, ownInputs, List.filter_append, hnone, List.nil_append]
          exact hafter.symm
        · simpa [ownInputs, hinput] using howner
      rw [finalState_cons, ih hcommute.tail hrest, finalState_append, finalState_append,
        finalState_cons, (trace_after_commuting hcommutes state).2]

/-- Every interleaving gives every client the same answers. -/
theorem ownEntries_interleaving {first second : List I}
    (hcommute : ClientsCommute client step first)
    (hsame : ∀ owner, ownInputs client owner first = ownInputs client owner second)
    (state : S) (owner : C) :
    ownEntries client owner (trace step state second) =
      ownEntries client owner (trace step state first) := by
  have hcommute' : ClientsCommute client step second := by
    intro one hone other hother
    exact hcommute one (mem_of_ownInputs_eq hsame hone) other
      (mem_of_ownInputs_eq hsame hother)
  rw [ownEntries_trace hcommute', ownEntries_trace hcommute, hsame]

end RemoteRunner
