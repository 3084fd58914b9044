/-
A control plane that signs and runners that verify, each against its own
in-memory replay cache, which it loses when it restarts.  Instructions travel
in any way whatever: a delivery presents an arbitrary one to any runner, at any
clock and under any registry.
-/
import Mathlib.Data.Nat.Init
import Mathlib.Logic.Function.Basic
import RemoteRunner.DispatchAuthenticity
import RemoteRunner.DispatchStreams

namespace RemoteRunner

namespace DispatchAuth

open Protocol

variable {SigningKey VerifyingKey : Type}

inductive FleetAction (SigningKey VerifyingKey : Type) where
  | sign (call : SignCall SigningKey)
  | deliver (call : VerifyCall VerifyingKey)
  | restart (runnerId : String)

inductive FleetAnswer where
  | signed (result : Except DispatchVerificationError SignedDispatchInstruction)
  | verified (result : Except DispatchVerificationError Unit)
  | restarted

/-- The replay cache of every runner. -/
abbrev Fleet : Type := String → InMemoryDispatchReplayCache

/-- Every runner just started. -/
def Fleet.started : Fleet := fun _ => default

/-- One action: a delivery is verified by the runner it reaches. -/
def fleetStep (env : Externals SigningKey VerifyingKey) (fleet : Fleet) :
    FleetAction SigningKey VerifyingKey → FleetAnswer × Fleet
  | .sign call =>
      (.signed (signDispatchInstruction env call.dispatch call.signingKey call.context),
        fleet)
  | .deliver call =>
      let (answer, cache) := verifyStep env (fleet call.expectedRunnerId) call
      (.verified answer, Function.update fleet call.expectedRunnerId cache)
  | .restart runnerId => (.restarted, Function.update fleet runnerId default)

/-- The run of a fleet that has just started. -/
def fleetTrace (env : Externals SigningKey VerifyingKey)
    (actions : List (FleetAction SigningKey VerifyingKey)) :
    List (FleetAction SigningKey VerifyingKey × FleetAnswer) :=
  trace (fleetStep env) Fleet.started actions

/-- The call is delivered at the position and accepted. -/
def AcceptedAt (env : Externals SigningKey VerifyingKey)
    (actions : List (FleetAction SigningKey VerifyingKey)) (position : Nat)
    (call : VerifyCall VerifyingKey) : Prop :=
  (fleetTrace env actions)[position]? = some (.deliver call, .verified (.ok ()))

variable {env : Externals SigningKey VerifyingKey}
  {actions : List (FleetAction SigningKey VerifyingKey)}

/-- The fleet before the action at a position. -/
def fleetAt (env : Externals SigningKey VerifyingKey)
    (actions : List (FleetAction SigningKey VerifyingKey)) (position : Nat) : Fleet :=
  finalState (fleetStep env) Fleet.started (actions.take position)

theorem acceptedAt_iff {position : Nat} {call : VerifyCall VerifyingKey} :
    AcceptedAt env actions position call ↔
      actions[position]? = some (.deliver call) ∧ Admissible env call ∧
        call.replayKey ∉ (fleetAt env actions position call.expectedRunnerId).seen := by
  rw [AcceptedAt, fleetTrace, trace_getElem?_eq_some_iff]
  change _ ∧ FleetAnswer.verified (verifyStep env
    (fleetAt env actions position call.expectedRunnerId) call).1 = _ ↔ _
  rw [FleetAnswer.verified.injEq, verifyStep_ok_iff]
  simp only [DispatchReplayCache.hasSeen, decide_eq_false_iff_not]
  rfl

/-! ### One action -/

/-- A runner remembers what it has seen until it restarts. -/
theorem seen_fleetStep {fleet : Fleet} {runnerId key : String}
    {action : FleetAction SigningKey VerifyingKey} (haction : action ≠ .restart runnerId)
    (h : key ∈ (fleet runnerId).seen) :
    key ∈ ((fleetStep env fleet action).2 runnerId).seen := by
  cases action with
  | sign call => exact h
  | deliver call =>
      by_cases hrunner : call.expectedRunnerId = runnerId
      · subst hrunner
        simp only [fleetStep, Function.update_self]
        rw [show fleet call.expectedRunnerId = ⟨(fleet call.expectedRunnerId).seen⟩ from rfl,
          verifyStep_eq_decideOne, OnceGate.decideOne_memory]
        split
        · exact Finset.mem_insert_of_mem h
        · exact h
      · simp only [fleetStep, Function.update_of_ne (Ne.symm hrunner)]
        exact h
  | restart other =>
      have hother : runnerId ≠ other := by
        rintro rfl
        exact haction rfl
      simp only [fleetStep, Function.update_of_ne hother]
      exact h

/-- A runner has seen a key after an action only if it had before or the action
is an accepted delivery of the key to it. -/
theorem seen_of_fleetStep {fleet : Fleet} {runnerId key : String}
    {action : FleetAction SigningKey VerifyingKey}
    (h : key ∈ ((fleetStep env fleet action).2 runnerId).seen) :
    key ∈ (fleet runnerId).seen ∨
      ∃ call, action = .deliver call ∧ call.expectedRunnerId = runnerId ∧
        call.replayKey = key ∧ (verifyStep env (fleet runnerId) call).1 = .ok () := by
  cases action with
  | sign call => exact Or.inl h
  | deliver call =>
      by_cases hrunner : call.expectedRunnerId = runnerId
      · subst hrunner
        simp only [fleetStep, Function.update_self] at h
        rcases hanswer : (verifyStep env (fleet call.expectedRunnerId) call).1 with error | _
        · rw [verifyStep_error_cache hanswer] at h
          exact Or.inl h
        · have hadmissible := (verifyStep_ok_iff.mp hanswer).1
          have hnew := (verifyStep_ok_iff.mp hanswer).2
          rw [verifyStep_of_admissible hadmissible, hnew] at h
          rcases Finset.mem_insert.mp h with rfl | hbefore
          · exact Or.inr ⟨call, rfl, rfl, rfl, hanswer⟩
          · exact Or.inl hbefore
      · simp only [fleetStep, Function.update_of_ne (Ne.symm hrunner)] at h
        exact Or.inl h
  | restart other =>
      by_cases hother : runnerId = other
      · subst hother
        simp only [fleetStep, Function.update_self] at h
        exact absurd h (Finset.notMem_empty key)
      · simp only [fleetStep, Function.update_of_ne hother] at h
        exact Or.inl h

/-! ### Whole runs -/

/-- A runner that has seen a key accepted a delivery of it earlier. -/
theorem accepted_of_seen {position : Nat} {runnerId key : String}
    (h : key ∈ (fleetAt env actions position runnerId).seen) :
    ∃ (earlier : Nat) (call : VerifyCall VerifyingKey), earlier < position ∧
      call.expectedRunnerId = runnerId ∧ call.replayKey = key ∧
        AcceptedAt env actions earlier call := by
  induction position with
  | zero => exact absurd h (Finset.notMem_empty key)
  | succ position ih =>
      have hearlier : key ∈ (fleetAt env actions position runnerId).seen →
          ∃ (earlier : Nat) (call : VerifyCall VerifyingKey), earlier < position + 1 ∧
            call.expectedRunnerId = runnerId ∧ call.replayKey = key ∧
              AcceptedAt env actions earlier call := by
        intro hbefore
        obtain ⟨earlier, call, hlt, hcall⟩ := ih hbefore
        exact ⟨earlier, call, Nat.lt_succ_of_lt hlt, hcall⟩
      rcases haction : actions[position]? with _ | action
      · rw [fleetAt, List.take_add_one, haction, Option.toList_none, List.append_nil] at h
        exact hearlier h
      · rw [fleetAt, finalState_take_succ _ haction] at h
        rcases seen_of_fleetStep h with hbefore | ⟨call, rfl, rfl, hkey, hanswer⟩
        · exact hearlier hbefore
        · refine ⟨position, call, Nat.lt_succ_self position, rfl, hkey, ?_⟩
          rw [AcceptedAt, fleetTrace, trace_getElem?_eq_some_iff]
          exact ⟨haction, congrArg FleetAnswer.verified hanswer⟩

/-- Between two accepted deliveries of one key to a runner, the runner restarts. -/
theorem restart_between {earlier later : Nat} {first second : VerifyCall VerifyingKey}
    (hlt : earlier < later) (hfirst : AcceptedAt env actions earlier first)
    (hsecond : AcceptedAt env actions later second)
    (hrunner : first.expectedRunnerId = second.expectedRunnerId)
    (hkey : first.replayKey = second.replayKey) :
    ∃ restart, earlier < restart ∧ restart < later ∧
      actions[restart]? = some (.restart second.expectedRunnerId) := by
  obtain ⟨haction, hadmissible, hnew⟩ := acceptedAt_iff.mp hfirst
  obtain ⟨_, _, hunseen⟩ := acceptedAt_iff.mp hsecond
  by_contra hnone
  apply hunseen
  -- the first delivery leaves its key in the cache
  have hseen : second.replayKey ∈
      (fleetAt env actions (earlier + 1) second.expectedRunnerId).seen := by
    rw [fleetAt, finalState_take_succ _ haction]
    change _ ∈ ((fleetStep env (fleetAt env actions earlier) _).2 _).seen
    rw [← hrunner, ← hkey]
    simp only [fleetStep, Function.update_self]
    rw [verifyStep_of_admissible hadmissible]
    have hfalse : DispatchReplayCache.hasSeen
        (fleetAt env actions earlier first.expectedRunnerId)
        (replayKey first.payload) = false := decide_eq_false hnew
    rw [hfalse]
    exact Finset.mem_insert_self _ _
  refine finalState_take_kept (fleetStep env)
    (fun fleet => second.replayKey ∈ (fleet second.expectedRunnerId).seen) hlt ?_ hseen
  intro position action fleet hfrom hto hposition
  apply seen_fleetStep
  rintro rfl
  exact hnone ⟨position, hfrom, hto, hposition⟩

/-- A delivery carries a signature that verifies only over a message signed
earlier in the run with the matching key. -/
def UnforgeableInRun (env : Externals SigningKey VerifyingKey)
    (actions : List (FleetAction SigningKey VerifyingKey)) : Prop :=
  ∀ (position : Nat) (call : VerifyCall VerifyingKey)
    (key : DispatchVerificationKey VerifyingKey) (signature : Signature) (text : String),
    actions[position]? = some (.deliver call) →
    SignatureVerifies env call key signature text →
      ∃ (earlier : Nat) (signCall : SignCall SigningKey), earlier < position ∧
        actions[earlier]? = some (.sign signCall) ∧
        env.verifyingKey signCall.signingKey = key.verifyingKey ∧
        signCall.Signs env text.toByteArray

/-- What a run of the fleet promises of its accepted deliveries: each agrees
with an instruction signed earlier for the runner it reached, in the whole
dispatch and in the signed metadata; and between two of one identity, wherever
they are accepted, the runner the identity names restarts. -/
structure FleetAgreement (env : Externals SigningKey VerifyingKey)
    (actions : List (FleetAction SigningKey VerifyingKey)) : Prop where
  signed_earlier : ∀ (position : Nat) (call : VerifyCall VerifyingKey),
    AcceptedAt env actions position call →
      ∃ (earlier : Nat) (signCall : SignCall SigningKey)
        (signed : SignedDispatchInstruction)
        (key : DispatchVerificationKey VerifyingKey), earlier < position ∧
        (fleetTrace env actions)[earlier]? =
          some (.sign signCall, .signed (.ok signed)) ∧
        call.registry.get call.instruction.signature.keyId = some key ∧
        env.verifyingKey signCall.signingKey = key.verifyingKey ∧
        signCall.dispatch.payload.runnerId = call.expectedRunnerId ∧
        signed.dispatch = call.instruction.dispatch ∧
        SameMetadata signed.signature call.instruction.signature
  once_between_restarts : ∀ (earlier later : Nat) (first second : VerifyCall VerifyingKey),
    earlier < later → AcceptedAt env actions earlier first →
    AcceptedAt env actions later second → SameIdentity first.payload second.payload →
      ∃ restart, earlier < restart ∧ restart < later ∧
        actions[restart]? = some (.restart first.payload.runnerId)

/-- Every run of the fleet agrees with what was signed in it. -/
theorem fleet_agreement (hprints : PrintsDistinct env)
    (hunforgeable : UnforgeableInRun env actions) : FleetAgreement env actions where
  signed_earlier := by
    intro position call haccepted
    obtain ⟨haction, hadmissible, _⟩ := acceptedAt_iff.mp haccepted
    obtain ⟨key, signature, text, hsignature⟩ := hadmissible.signed
    obtain ⟨earlier, signCall, hlt, hsigned, hkey, signed, text', hsign, hprinted,
      hmessage⟩ := hunforgeable position call key signature text haction hsignature
    obtain rfl : text' = text := String.toByteArray_inj.mp hmessage
    obtain ⟨hdispatch, hmetadata⟩ :=
      canonicalSigningPayload_injective hprints hprinted hsignature.printed
    have hentry : (fleetTrace env actions)[earlier]? =
        some (.sign signCall, .signed (.ok signed)) := by
      rw [fleetTrace, trace_getElem?_eq_some_iff]
      exact ⟨hsigned, congrArg FleetAnswer.signed hsign⟩
    obtain ⟨_, _, _, rfl⟩ := signDispatchInstruction_eq_ok_iff.mp hsign
    refine ⟨earlier, signCall, _, key, hlt, hentry, hsignature.registered, hkey, ?_,
      hdispatch, hmetadata.keyId, hmetadata.algorithm, hmetadata.signedAt,
      hmetadata.expiresAt⟩
    rw [hdispatch]
    exact hadmissible.scope
  once_between_restarts := by
    intro earlier later first second hlt hfirst hsecond hidentity
    have hscope := (acceptedAt_iff.mp hfirst).2.1.scope
    have hscope' := (acceptedAt_iff.mp hsecond).2.1.scope
    have hrunner : first.expectedRunnerId = second.expectedRunnerId := by
      rw [← hscope, ← hscope']
      exact hidentity.1
    have hkey : first.replayKey = second.replayKey :=
      replayKey_eq_iff.mpr (Or.inl hidentity)
    rw [hscope, hrunner]
    exact restart_between hlt hfirst hsecond hrunner hkey

theorem fleet_agreement_fixture :
    ∃ instruction : SignedDispatchInstruction,
      FleetAgreement (standIn fixtureSignCall.record)
        [.sign fixtureSignCall,
          .deliver ⟨instruction, fixtureRegistry, 1800000000, "local-dev-runner"⟩] := by
  have hjson := standIn_parsesPrinted fixtureSignCall.record
  obtain ⟨instruction, hsign⟩ := signDispatchInstruction_succeeds hjson
    (by decide : HasRequiredFields fixtureSignCall.dispatch.payload)
    fixtureSignCall.signingKey fixtureSignCall.context
  refine ⟨instruction, fleet_agreement hjson.printsDistinct ?_⟩
  intro position call key signature text hposition hsignature
  obtain ⟨signCall, hlog, hkey, hsigns⟩ :=
    standIn_unforgeable fixtureSignCall _ _ _ hsignature.verified
  obtain rfl := Set.mem_singleton_iff.mp hlog
  have hlater : 0 < position := by
    rcases position with _ | position
    · cases hposition
    · exact Nat.succ_pos position
  exact ⟨0, _, hlater, rfl, hkey, hsigns⟩

end DispatchAuth

end RemoteRunner
