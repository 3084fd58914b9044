/-
The lifecycle of a job: the states, the edges between them, and what a run of
requested transitions can have entered.
-/
import RemoteRunner.Protocol
import RemoteRunner.TransitionGraph

namespace RemoteRunner

namespace Job

open Protocol

inductive JobState where
  | registered
  | heartbeating
  | leased
  | preparingWorkspace
  | running
  | streamingLogs
  | uploadingArtifacts
  | reportingUsage
  | succeeded
  | failed
  | cancelled
  | timedOut
deriving DecidableEq

/-- The name a state prints in an error. -/
def JobState.debug : JobState → String
  | .registered => "Registered"
  | .heartbeating => "Heartbeating"
  | .leased => "Leased"
  | .preparingWorkspace => "PreparingWorkspace"
  | .running => "Running"
  | .streamingLogs => "StreamingLogs"
  | .uploadingArtifacts => "UploadingArtifacts"
  | .reportingUsage => "ReportingUsage"
  | .succeeded => "Succeeded"
  | .failed => "Failed"
  | .cancelled => "Cancelled"
  | .timedOut => "TimedOut"

inductive JobStateError where
  | invalidTransition (current target : JobState)
  | unsupportedAdapter (kind : AdapterKind)
deriving DecidableEq

/-- The text an error displays. -/
def JobStateError.message : JobStateError → String
  | .invalidTransition current target =>
      "invalid job transition from " ++ current.debug ++ " to " ++ target.debug
  | .unsupportedAdapter kind => "unsupported adapter kind: " ++ kind.debug

structure JobLifecycle where
  state : JobState
deriving DecidableEq

instance : Inhabited JobLifecycle := ⟨⟨.registered⟩⟩

def canTransition : JobState → JobState → Bool
  | .registered, .heartbeating
  | .heartbeating, .leased
  | .leased, .preparingWorkspace
  | .preparingWorkspace, .running
  | .running, .streamingLogs
  | .streamingLogs, .uploadingArtifacts
  | .uploadingArtifacts, .reportingUsage
  | .reportingUsage, .succeeded
  | .heartbeating, .cancelled
  | .leased, .cancelled
  | .preparingWorkspace, .cancelled
  | .running, .cancelled
  | .running, .timedOut
  | .preparingWorkspace, .failed
  | .running, .failed
  | .streamingLogs, .failed
  | .uploadingArtifacts, .failed
  | .reportingUsage, .failed => true
  | _, _ => false

/-- The answer to a requested transition, with the lifecycle after it. -/
def JobLifecycle.transition (lifecycle : JobLifecycle) (target : JobState) :
    Except JobStateError Unit × JobLifecycle :=
  if !canTransition lifecycle.state target then
    (.error (.invalidTransition lifecycle.state target), lifecycle)
  else (.ok (), { lifecycle with state := target })

/-! ### Edges -/

/-- The states a job passes through when nothing stops it. -/
def happyPath : List JobState :=
  [.heartbeating, .leased, .preparingWorkspace, .running, .streamingLogs,
    .uploadingArtifacts, .reportingUsage, .succeeded]

/-- How far along its way a job in this state is. -/
def JobState.rank : JobState → Nat
  | .registered => 0
  | .heartbeating => 1
  | .leased => 2
  | .preparingWorkspace => 3
  | .running => 4
  | .streamingLogs => 5
  | .uploadingArtifacts => 6
  | .reportingUsage => 7
  | .succeeded | .failed | .cancelled | .timedOut => 8

def JobState.IsTerminal (state : JobState) : Prop :=
  state ∈ [JobState.succeeded, .failed, .cancelled, .timedOut]

instance (state : JobState) : Decidable state.IsTerminal :=
  inferInstanceAs (Decidable (_ ∈ _))

theorem JobState.rank_le (state : JobState) : state.rank ≤ 8 := by
  cases state <;> decide

/-- Every edge climbs. -/
theorem rank_lt_of_canTransition (state target : JobState)
    (h : canTransition state target = true) : state.rank < target.rank := by
  cases state <;> cases target <;> first | decide | cases h

theorem not_canTransition_of_isTerminal {state : JobState} (h : state.IsTerminal)
    (target : JobState) : ¬canTransition state target = true := by
  intro hedge
  have hclimbs := rank_lt_of_canTransition state target hedge
  have htop : state.rank = 8 := by
    cases state <;> first | rfl | exact absurd h (by decide)
  have hbound := target.rank_le
  omega

theorem canTransition_timedOut_iff {state : JobState} :
    canTransition state .timedOut = true ↔ state = .running := by
  cases state <;> decide

/-- A job that has not failed, been cancelled or timed out has walked the first
part of the happy path, up to its state. -/
def OnHappyPath (state : JobState) (path : List JobState) : Prop :=
  state = .failed ∨ state = .cancelled ∨ state = .timedOut ∨
    path = happyPath.take state.rank

theorem OnHappyPath.of_canTransition (state : JobState) (path : List JobState)
    (target : JobState) (h : OnHappyPath state path)
    (hedge : canTransition state target = true) :
    OnHappyPath target (path ++ [target]) := by
  have hlive : path = happyPath.take state.rank := by
    rcases h with rfl | rfl | rfl | hpath
    · exact absurd hedge (not_canTransition_of_isTerminal (by decide) target)
    · exact absurd hedge (not_canTransition_of_isTerminal (by decide) target)
    · exact absurd hedge (not_canTransition_of_isTerminal (by decide) target)
    · exact hpath
  subst hlive
  cases state <;> cases target <;>
    first
    | exact absurd hedge (by decide)
    | exact Or.inl rfl
    | exact Or.inr (Or.inl rfl)
    | exact Or.inr (Or.inr (Or.inl rfl))
    | exact Or.inr (Or.inr (Or.inr rfl))

/-! ### Runs -/

/-- A lifecycle is the machine of its edges. -/
theorem requestStep_state (lifecycle : JobLifecycle) (target : JobState) :
    requestStep canTransition JobStateError.invalidTransition lifecycle.state target =
      ((lifecycle.transition target).1, (lifecycle.transition target).2.state) := by
  unfold requestStep JobLifecycle.transition
  cases canTransition lifecycle.state target <;> rfl

/-- The state after the first requests of a run. -/
def stateAfter (requests : List JobState) (count : Nat) : JobState :=
  (finalState JobLifecycle.transition default (requests.take count)).state

/-- The requests of a run with their answers. -/
def history (requests : List JobState) : List (JobState × Except JobStateError Unit) :=
  trace JobLifecycle.transition default requests

theorem history_eq (requests : List JobState) :
    history requests =
      trace (requestStep canTransition JobStateError.invalidTransition) .registered
        requests :=
  (trace_simulates _ JobLifecycle.state requestStep_state default requests).1.symm

theorem stateAfter_eq (requests : List JobState) (count : Nat) :
    stateAfter requests count =
      finalState (requestStep canTransition JobStateError.invalidTransition) .registered
        (requests.take count) :=
  (trace_simulates _ JobLifecycle.state requestStep_state default _).2.symm

/-- An answered request is the step from the state before it. -/
theorem answer_of_history {requests : List JobState} {position : Nat}
    {target : JobState} {answer : Except JobStateError Unit}
    (h : (history requests)[position]? = some (target, answer)) :
    requestStep canTransition JobStateError.invalidTransition
      (stateAfter requests position) target =
        (answer, stateAfter requests (position + 1)) := by
  rw [history_eq, trace_getElem?] at h
  obtain ⟨found, hfound, heq⟩ := Option.map_eq_some_iff.mp h
  cases heq
  rw [stateAfter_eq, stateAfter_eq, finalState_take_succ _ hfound]

/-- What a run of requests can have done. -/
structure HistoryHolds (requests : List JobState) : Prop where
  refused : ∀ (position : Nat) (target : JobState) (error : JobStateError),
    (history requests)[position]? = some (target, .error error) →
      error = .invalidTransition (stateAfter requests position) target ∧
        stateAfter requests (position + 1) = stateAfter requests position
  succeeded : stateAfter requests requests.length = .succeeded →
    entered (history requests) = happyPath
  timed_out : ∀ position : Nat,
    (history requests)[position]? = some (.timedOut, .ok ()) →
      stateAfter requests position = .running
  terminal : ∀ (position later : Nat) (target : JobState)
      (answer : Except JobStateError Unit),
    (stateAfter requests position).IsTerminal → position ≤ later →
    (history requests)[later]? = some (target, answer) →
      answer = .error (.invalidTransition (stateAfter requests position) target)
  entered_once : (JobState.registered :: entered (history requests)).Nodup
  at_most_eight : (entered (history requests)).length ≤ 8

/-- A terminal state is never left. -/
theorem stateAfter_of_isTerminal {requests : List JobState} {position later : Nat}
    (h : (stateAfter requests position).IsTerminal) (hle : position ≤ later) :
    stateAfter requests later = stateAfter requests position := by
  rw [stateAfter_eq] at h
  rw [stateAfter_eq, stateAfter_eq]
  exact finalState_take_of_terminal (not_canTransition_of_isTerminal h) hle

theorem job_history (requests : List JobState) : HistoryHolds requests where
  refused := by
    intro position target error hanswer
    have hstep := answer_of_history hanswer
    obtain ⟨herror, hsame⟩ := requestStep_error (congrArg Prod.fst hstep)
    refine ⟨herror, ?_⟩
    rw [hstep] at hsame
    exact hsame
  succeeded := by
    intro hsucceeded
    have hpath : OnHappyPath (stateAfter requests requests.length)
        ([] ++ entered (history requests)) := by
      rw [stateAfter_eq, List.take_length, history_eq]
      exact entered_invariant OnHappyPath OnHappyPath.of_canTransition
        (Or.inr (Or.inr (Or.inr rfl))) requests
    rw [hsucceeded] at hpath
    rcases hpath with h | h | h | h
    · cases h
    · cases h
    · cases h
    · exact h
  timed_out := by
    intro position hanswer
    have hstep := congrArg Prod.fst (answer_of_history hanswer)
    exact canTransition_timedOut_iff.mp (requestStep_ok_iff.mp hstep)
  terminal := by
    intro position later target answer hterminal hle hanswer
    have hstep := answer_of_history hanswer
    rw [stateAfter_of_isTerminal hterminal hle,
      requestStep_of_not_edge (not_canTransition_of_isTerminal hterminal target)] at hstep
    exact (congrArg Prod.fst hstep).symm
  entered_once := by
    rw [history_eq]
    exact entered_nodup rank_lt_of_canTransition .registered requests
  at_most_eight := by
    have hclimb : JobState.registered.rank + (entered (history requests)).length ≤
        (stateAfter requests requests.length).rank := by
      rw [history_eq, stateAfter_eq, List.take_length]
      exact rank_add_entered_length_le rank_lt_of_canTransition .registered requests
    exact Nat.le_trans (Nat.le_add_left _ _)
      (Nat.le_trans hclimb (JobState.rank_le _))

end Job

end RemoteRunner
