/-
A machine whose inputs are the states it is asked to enter.  A request along an
edge is granted, any other request is refused and leaves the state alone.
-/
import RemoteRunner.StepRun

namespace RemoteRunner

universe u w

variable {S : Type u} {E : Type w}

def requestStep (edge : S → S → Bool) (refused : S → S → E) (state target : S) :
    Except E Unit × S :=
  if edge state target then (.ok (), target) else (.error (refused state target), state)

/-- The targets a run entered, in order. -/
def entered (entries : List (S × Except E Unit)) : List S :=
  (entries.filter fun entry => entry.2.isOk).map Prod.fst

section Requests

variable {edge : S → S → Bool} {refused : S → S → E}

theorem requestStep_of_edge {state target : S} (h : edge state target = true) :
    requestStep edge refused state target = (.ok (), target) :=
  if_pos h

theorem requestStep_of_not_edge {state target : S} (h : ¬edge state target = true) :
    requestStep edge refused state target = (.error (refused state target), state) :=
  if_neg h

theorem requestStep_ok_iff {state target : S} :
    (requestStep edge refused state target).1 = .ok () ↔ edge state target = true := by
  by_cases hedge : edge state target = true
  · rw [requestStep_of_edge hedge]
    exact iff_of_true rfl hedge
  · rw [requestStep_of_not_edge hedge]
    exact iff_of_false nofun hedge

/-- A refusal names the state and the target and changes nothing. -/
theorem requestStep_error {state target : S} {error : E}
    (h : (requestStep edge refused state target).1 = .error error) :
    error = refused state target ∧ (requestStep edge refused state target).2 = state := by
  by_cases hedge : edge state target = true
  · rw [requestStep_of_edge hedge] at h
    cases h
  · rw [requestStep_of_not_edge hedge] at h ⊢
    cases h
    exact ⟨rfl, rfl⟩

theorem entered_cons_of_edge {state target : S} (targets : List S)
    (h : edge state target = true) :
    entered (trace (requestStep edge refused) state (target :: targets)) =
      target :: entered (trace (requestStep edge refused) target targets) := by
  simp only [trace, requestStep_of_edge h]
  rfl

theorem entered_cons_of_not_edge {state target : S} (targets : List S)
    (h : ¬edge state target = true) :
    entered (trace (requestStep edge refused) state (target :: targets)) =
      entered (trace (requestStep edge refused) state targets) := by
  simp only [trace, requestStep_of_not_edge h]
  rfl

/-- The states a run enters follow the edges. -/
theorem entered_isChain (state : S) (targets : List S) :
    (state :: entered (trace (requestStep edge refused) state targets)).IsChain
      fun current next => edge current next = true := by
  induction targets generalizing state with
  | nil => exact .singleton state
  | cons target targets ih =>
      by_cases hedge : edge state target = true
      · rw [entered_cons_of_edge targets hedge]
        exact .cons_cons hedge (ih target)
      · rw [entered_cons_of_not_edge targets hedge]
        exact ih state

/-- What every edge preserves of the state and the path to it holds after a
run. -/
theorem entered_invariant (P : S → List S → Prop)
    (hedge : ∀ state path target, P state path → edge state target = true →
      P target (path ++ [target]))
    {state : S} {path : List S} (h : P state path) (targets : List S) :
    P (finalState (requestStep edge refused) state targets)
      (path ++ entered (trace (requestStep edge refused) state targets)) := by
  induction targets generalizing state path with
  | nil =>
      rw [show path ++ entered (trace (requestStep edge refused) state []) = path from
        List.append_nil path]
      exact h
  | cons target targets ih =>
      by_cases hgranted : edge state target = true
      · rw [entered_cons_of_edge targets hgranted, finalState_cons,
          requestStep_of_edge hgranted, List.append_cons]
        exact ih (hedge state path target h hgranted)
      · rw [entered_cons_of_not_edge targets hgranted, finalState_cons,
          requestStep_of_not_edge hgranted]
        exact ih h

/-- A state without outgoing edges is never left. -/
theorem finalState_take_of_terminal {start : S} {targets : List S} {earlier later : Nat}
    (h : ∀ target, ¬edge (finalState (requestStep edge refused) start
      (targets.take earlier)) target = true) (hle : earlier ≤ later) :
    finalState (requestStep edge refused) start (targets.take later) =
      finalState (requestStep edge refused) start (targets.take earlier) := by
  apply finalState_take_invariant (requestStep edge refused) (fun state =>
    state = finalState (requestStep edge refused) start (targets.take earlier)) _ hle rfl
  intro state target hstate
  rw [hstate, requestStep_of_not_edge (h target)]

variable {rank : S → Nat}
  (hrank : ∀ state target, edge state target = true → rank state < rank target)

include hrank

/-- When every edge climbs, no state is entered twice. -/
theorem entered_nodup (state : S) (targets : List S) :
    (state :: entered (trace (requestStep edge refused) state targets)).Nodup := by
  have hclimbs : (state :: entered (trace (requestStep edge refused) state targets)).IsChain
      fun current next => rank current < rank next :=
    (entered_isChain state targets).imp hrank
  have : IsTrans S fun current next => rank current < rank next :=
    ⟨fun _ _ _ hfirst hsecond => Nat.lt_trans hfirst hsecond⟩
  exact (List.isChain_iff_pairwise.mp hclimbs).imp fun hlt heq =>
    absurd (congrArg rank heq) (Nat.ne_of_lt hlt)

/-- When every edge climbs, a run enters no more states than it climbs. -/
theorem rank_add_entered_length_le (state : S) (targets : List S) :
    rank state + (entered (trace (requestStep edge refused) state targets)).length ≤
      rank (finalState (requestStep edge refused) state targets) := by
  have hstep : ∀ current path target, rank state + path.length ≤ rank current →
      edge current target = true →
        rank state + (path ++ [target]).length ≤ rank target := by
    intro current path target hpath hgranted
    have hlt := hrank current target hgranted
    simp only [List.length_append, List.length_singleton]
    omega
  exact entered_invariant (fun current path => rank state + path.length ≤ rank current)
    hstep (Nat.le_refl (rank state + ([] : List S).length)) targets

end Requests

end RemoteRunner
