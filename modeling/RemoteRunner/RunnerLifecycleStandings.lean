/-
The lifecycle without its clock.  A token, a credential or a runner stands in
one of finitely many ways; the standings alone settle every answer and every
lease, and how an operation moves them.
-/
import Mathlib.Logic.Function.Basic
import RemoteRunner.RunnerLifecycleRuns

namespace RemoteRunner

namespace RunnerLifecycle

open Protocol

/-! ### The machine of standings -/

inductive TokenStanding where
  | unknown
  | expired
  | used
  | usable
deriving DecidableEq

/-- A credential no longer active is closed until it expires, then lapsed. -/
inductive CredentialStanding where
  | unknown
  | valid
  | expired
  | closed
  | lapsed
deriving DecidableEq

inductive RunnerStanding where
  | unknown
  | onRecord (state : RunnerLifecycleState) (credentialRef : Option String)
deriving DecidableEq

structure Standings where
  token : String → TokenStanding
  credential : String → CredentialStanding
  runner : String → RunnerStanding

/-- Why a token cannot register a runner. -/
def TokenStanding.refusal : TokenStanding → Option RunnerLifecycleError
  | .unknown => some .registrationTokenNotFound
  | .expired => some .registrationTokenExpired
  | .used => some .registrationTokenAlreadyUsed
  | .usable => none

/-- Why a credential cannot be granted. -/
def CredentialStanding.refusal : CredentialStanding → Option RunnerLifecycleError
  | .unknown => some .runnerCredentialNotFound
  | .valid => none
  | .expired => some .runnerCredentialExpired
  | .closed => some .runnerCredentialInactive
  | .lapsed => some .runnerCredentialInactive

/-- Rotated away. -/
def CredentialStanding.close : CredentialStanding → CredentialStanding
  | .unknown => .unknown
  | .valid => .closed
  | .expired => .lapsed
  | .closed => .closed
  | .lapsed => .lapsed

/-- Why a credential rules a lease out. -/
def CredentialStanding.leaseRejection : CredentialStanding → Option String
  | .unknown => some "runner credential unavailable"
  | .valid => none
  | .expired => some "runner credential expired; rotate before accepting leases"
  | .closed => some "runner credential unavailable"
  | .lapsed => some "runner credential expired; rotate before accepting leases"

namespace Standings

variable (standings : Standings)

def register (tokenId runnerId credentialRef : String) :
    Except RunnerLifecycleError RunnerCredentialGrant × Standings :=
  ((standings.token tokenId).refusal.or (standings.credential credentialRef).refusal).elim
    (.ok { runnerId, credentialRef },
      { standings with
        token := Function.update standings.token tokenId .used
        runner := Function.update standings.runner runnerId
          (.onRecord .registered (some credentialRef)) })
    fun error => (.error error, standings)

/-- Why a rotation does not even close the current credential. -/
def rotationRefusal (runnerId currentRef : String) : Option RunnerLifecycleError :=
  match standings.runner runnerId with
  | .unknown => some .runnerNotFound
  | .onRecord _ credentialRef =>
      if credentialRef ≠ some currentRef then some .runnerCredentialRotationMismatch
      else if standings.credential currentRef = .unknown then
        some .runnerCredentialNotFound
      else none

def close (credentialRef : String) : Standings :=
  { standings with
    credential := Function.update standings.credential credentialRef
      (standings.credential credentialRef).close }

def rotate (runnerId currentRef nextRef : String) :
    Except RunnerLifecycleError RunnerCredentialGrant × Standings :=
  (standings.rotationRefusal runnerId currentRef).elim
    (((standings.close currentRef).credential nextRef).refusal.elim
      (.ok { runnerId, credentialRef := nextRef },
        { standings.close currentRef with
          runner := Function.update standings.runner runnerId
            (.onRecord .registered (some nextRef)) })
      fun error => (.error error, standings.close currentRef))
    fun error => (.error error, standings)

def operate : Operation → Except RunnerLifecycleError RunnerCredentialGrant × Standings
  | .registerRunner tokenId runnerId credentialRef =>
      standings.register tokenId runnerId credentialRef
  | .rotateCredential runnerId currentRef nextRef =>
      standings.rotate runnerId currentRef nextRef

def leaseRejection (runnerId : String) : Option String :=
  match standings.runner runnerId with
  | .unknown => some "runner is not registered"
  | .onRecord state credentialRef =>
      state.rejectionReason.or (credentialRef.elim (some "runner credential unavailable")
        fun credentialRef => (standings.credential credentialRef).leaseRejection)

end Standings

/-! ### Requests -/

/-- What the lifecycle is asked: to operate, or for a lease. -/
inductive Request where
  | operate (operation : Operation)
  | lease (attempt : LeaseAttemptFixture)
deriving DecidableEq

inductive Answer where
  | operated (result : Except RunnerLifecycleError RunnerCredentialGrant)
  | lease (acceptance : JobLeaseAcceptance)

def answerRequest (simulator : RunnerLifecycleSimulator) :
    Request → Answer × RunnerLifecycleSimulator
  | .operate operation =>
      (.operated (step simulator operation).1, (step simulator operation).2)
  | .lease attempt => (.lease (evaluateLease simulator attempt), simulator)

def Standings.answerRequest (standings : Standings) : Request → Answer × Standings
  | .operate operation =>
      (.operated (standings.operate operation).1, (standings.operate operation).2)
  | .lease attempt =>
      (.lease
        { leaseId := attempt.leaseId
          jobId := attempt.jobId
          runnerId := attempt.runnerId
          accepted := (standings.leaseRejection attempt.runnerId).isNone
          reason := standings.leaseRejection attempt.runnerId },
        standings)

/-! ### The standings of the tables -/

def RegistrationTokenFixture.standing (token : RegistrationTokenFixture)
    (nowTick : UInt64) : TokenStanding :=
  if token.expiresAtTick ≤ nowTick then .expired
  else if token.usedByRunnerId.isSome = true then .used
  else .usable

def RunnerCredentialFixture.standing (credential : RunnerCredentialFixture)
    (nowTick : UInt64) : CredentialStanding :=
  if credential.active = true then
    if credential.expiresAtTick ≤ nowTick then .expired else .valid
  else if credential.expiresAtTick ≤ nowTick then .lapsed else .closed

def RunnerFixture.standing (runner : RunnerFixture) : RunnerStanding :=
  .onRecord runner.state runner.credentialRef

def RunnerLifecycleSimulator.standings (simulator : RunnerLifecycleSimulator) :
    Standings where
  token tokenId := (simulator.registrationTokens.get? tokenId).elim .unknown
    fun token => token.standing simulator.nowTick
  credential credentialRef := (simulator.credentials.get? credentialRef).elim .unknown
    fun credential => credential.standing simulator.nowTick
  runner runnerId := (simulator.runners.get? runnerId).elim .unknown RunnerFixture.standing

theorem token_refusal (token : RegistrationTokenFixture) (nowTick : UInt64) :
    (token.standing nowTick).refusal =
      if token.expiresAtTick ≤ nowTick then some .registrationTokenExpired
      else if token.usedByRunnerId.isSome = true then some .registrationTokenAlreadyUsed
      else none := by
  rw [RegistrationTokenFixture.standing]
  by_cases hexpired : token.expiresAtTick ≤ nowTick
  · rw [if_pos hexpired, if_pos hexpired]
    rfl
  · by_cases hused : token.usedByRunnerId.isSome = true
    · rw [if_neg hexpired, if_neg hexpired, if_pos hused, if_pos hused]
      rfl
    · rw [if_neg hexpired, if_neg hexpired, if_neg hused, if_neg hused]
      rfl

theorem validateCredential_eq (credential : RunnerCredentialFixture) (nowTick : UInt64) :
    validateCredential credential nowTick =
      (credential.standing nowTick).refusal.elim (.ok ()) .error := by
  rcases hactive : credential.active with _ | _ <;>
    by_cases hexpired : credential.expiresAtTick ≤ nowTick <;>
    simp [validateCredential, RunnerCredentialFixture.standing,
      CredentialStanding.refusal, rejectIf, hactive, hexpired] <;> rfl

theorem standing_deactivated (credential : RunnerCredentialFixture) (nowTick : UInt64) :
    ({ credential with active := false } : RunnerCredentialFixture).standing nowTick =
      (credential.standing nowTick).close := by
  rcases hactive : credential.active with _ | _ <;>
    by_cases hexpired : credential.expiresAtTick ≤ nowTick <;>
    simp [RunnerCredentialFixture.standing, CredentialStanding.close, hactive, hexpired]

/-- Looking a credential up and validating it goes by its standing. -/
theorem runOn_validated_bind {α : Type} (simulator : RunnerLifecycleSimulator)
    (credentialRef : String) (next : Lifecycle α) :
    runOn (do
        let credential ← attempt
          (okOr (simulator.credentials.get? credentialRef) .runnerCredentialNotFound)
        attempt (validateCredential credential simulator.nowTick)
        next) simulator =
      (simulator.standings.credential credentialRef).refusal.elim (runOn next simulator)
        fun error => (.error error, simulator) := by
  rcases hfound : simulator.credentials.get? credentialRef with _ | credential
  · simp only [RunnerLifecycleSimulator.standings, hfound, okOr_none,
      runOn_attempt_error_bind]
    rfl
  rw [okOr_some, runOn_attempt_ok_bind, validateCredential_eq]
  simp only [RunnerLifecycleSimulator.standings, hfound, Option.elim_some]
  rcases (credential.standing simulator.nowTick).refusal with _ | error
  · rfl
  · rfl

/-! ### Every operation moves the standings -/

theorem standings_afterRegistration (simulator : RunnerLifecycleSimulator)
    {tokenId : String} (runnerId credentialRef : String)
    {token : RegistrationTokenFixture}
    (hunexpired : ¬token.expiresAtTick ≤ simulator.nowTick) :
    (afterRegistration simulator tokenId runnerId credentialRef token).standings =
      { simulator.standings with
        token := Function.update simulator.standings.token tokenId .used
        runner := Function.update simulator.standings.runner runnerId
          (.onRecord .registered (some credentialRef)) } := by
  rw [RunnerLifecycleSimulator.standings, Standings.mk.injEq]
  refine ⟨?_, rfl, ?_⟩
  · funext key
    by_cases hkey : key = tokenId
    · simp [afterRegistration, hkey, RegistrationTokenFixture.standing, hunexpired]
    · simp [afterRegistration, hkey, RunnerLifecycleSimulator.standings]
  · funext key
    by_cases hkey : key = runnerId
    · simp [afterRegistration, hkey, RunnerFixture.standing]
    · simp [afterRegistration, hkey, RunnerLifecycleSimulator.standings]

theorem standings_afterDeactivation (simulator : RunnerLifecycleSimulator)
    {credentialRef : String} {credential : RunnerCredentialFixture}
    (hfound : simulator.credentials.get? credentialRef = some credential) :
    (afterDeactivation simulator credentialRef credential).standings =
      simulator.standings.close credentialRef := by
  rw [RunnerLifecycleSimulator.standings, Standings.close, Standings.mk.injEq]
  refine ⟨rfl, ?_, rfl⟩
  funext key
  by_cases hkey : key = credentialRef
  · simp [afterDeactivation, hkey, RunnerLifecycleSimulator.standings, hfound,
      standing_deactivated]
  · simp [afterDeactivation, hkey, RunnerLifecycleSimulator.standings]

theorem standings_afterRotation (simulator : RunnerLifecycleSimulator)
    (runnerId nextRef : String) (runner : RunnerFixture) {currentRef : String}
    {current : RunnerCredentialFixture}
    (hfound : simulator.credentials.get? currentRef = some current) :
    (afterRotation simulator runnerId currentRef nextRef runner current).standings =
      { simulator.standings.close currentRef with
        runner := Function.update simulator.standings.runner runnerId
          (.onRecord .registered (some nextRef)) } := by
  rw [← standings_afterDeactivation simulator hfound, RunnerLifecycleSimulator.standings,
    Standings.mk.injEq]
  refine ⟨rfl, rfl, ?_⟩
  funext key
  by_cases hkey : key = runnerId
  · simp [afterRotation, hkey, RunnerFixture.standing]
  · simp [afterRotation, hkey, RunnerLifecycleSimulator.standings]

theorem register_standings (simulator : RunnerLifecycleSimulator)
    (tokenId runnerId credentialRef : String) :
    simulator.standings.register tokenId runnerId credentialRef =
      ((runOn (registerRunner tokenId runnerId credentialRef) simulator).1,
        (runOn (registerRunner tokenId runnerId credentialRef)
          simulator).2.standings) := by
  simp only [registerRunner, runOn_get_bind]
  rcases htoken : simulator.registrationTokens.get? tokenId with _ | token
  · have hstanding : simulator.standings.token tokenId = .unknown := by
      simp [RunnerLifecycleSimulator.standings, htoken]
    rw [Standings.register, hstanding, okOr_none, runOn_attempt_error_bind]
    rfl
  have hrefusal : (simulator.standings.token tokenId).refusal =
      (token.standing simulator.nowTick).refusal := by
    simp [RunnerLifecycleSimulator.standings, htoken]
  rw [Standings.register, hrefusal, token_refusal, okOr_some, runOn_attempt_ok_bind]
  by_cases hexpired : token.expiresAtTick ≤ simulator.nowTick
  · rw [if_pos hexpired, rejectIf_pos hexpired, runOn_attempt_error_bind]
    rfl
  rw [if_neg hexpired, rejectIf_neg hexpired, runOn_attempt_ok_bind]
  by_cases hused : token.usedByRunnerId.isSome = true
  · rw [if_pos hused, rejectIf_pos hused, runOn_attempt_error_bind]
    rfl
  rw [if_neg hused, rejectIf_neg hused, runOn_attempt_ok_bind, runOn_validated_bind,
    Option.none_or]
  rcases (simulator.standings.credential credentialRef).refusal with _ | error
  · rw [Option.elim_none,
      ← standings_afterRegistration simulator runnerId credentialRef hexpired]
    rfl
  · rfl

theorem rotate_standings (simulator : RunnerLifecycleSimulator)
    (runnerId currentRef nextRef : String) :
    simulator.standings.rotate runnerId currentRef nextRef =
      ((runOn (rotateCredential runnerId currentRef nextRef) simulator).1,
        (runOn (rotateCredential runnerId currentRef nextRef) simulator).2.standings) := by
  simp only [rotateCredential, runOn_get_bind]
  rcases hrunner : simulator.runners.get? runnerId with _ | runner
  · have hrefusal : simulator.standings.rotationRefusal runnerId currentRef =
        some .runnerNotFound := by
      simp [Standings.rotationRefusal, RunnerLifecycleSimulator.standings, hrunner]
    rw [Standings.rotate, hrefusal, okOr_none, runOn_attempt_error_bind]
    rfl
  have hstanding : simulator.standings.runner runnerId = runner.standing := by
    simp [RunnerLifecycleSimulator.standings, hrunner]
  rw [okOr_some, runOn_attempt_ok_bind, Standings.rotate, Standings.rotationRefusal,
    hstanding]
  simp only [RunnerFixture.standing]
  by_cases hholds : runner.credentialRef ≠ some currentRef
  · rw [if_pos hholds, rejectIf_pos hholds, runOn_attempt_error_bind]
    rfl
  rw [if_neg hholds, rejectIf_neg hholds, runOn_attempt_ok_bind]
  rcases hcurrent : simulator.credentials.get? currentRef with _ | current
  · have hunknown : simulator.standings.credential currentRef = .unknown := by
      simp [RunnerLifecycleSimulator.standings, hcurrent]
    rw [if_pos hunknown, okOr_none, runOn_attempt_error_bind]
    rfl
  have hknown : simulator.standings.credential currentRef ≠ .unknown := by
    simp only [RunnerLifecycleSimulator.standings, hcurrent, Option.elim_some,
      RunnerCredentialFixture.standing]
    split <;> split <;> simp
  rw [if_neg hknown, okOr_some, runOn_attempt_ok_bind, runOn_modify_bind, runOn_get_bind]
  -- the next credential is looked up with the current one closed
  have hclosed := standings_afterDeactivation simulator hcurrent
  refine Eq.trans ?_ (congrArg
    (fun result : Except RunnerLifecycleError RunnerCredentialGrant ×
      RunnerLifecycleSimulator => (result.1, result.2.standings))
    (runOn_validated_bind (afterDeactivation simulator currentRef current) nextRef _).symm)
  rw [hclosed, Option.elim_none]
  rcases ((simulator.standings.close currentRef).credential nextRef).refusal with _ | error
  · rw [Option.elim_none, Option.elim_none,
      ← standings_afterRotation simulator runnerId nextRef runner hcurrent]
    rfl
  · rw [Option.elim_some, Option.elim_some, hclosed]

theorem operate_standings (simulator : RunnerLifecycleSimulator) (operation : Operation) :
    simulator.standings.operate operation =
      ((step simulator operation).1, (step simulator operation).2.standings) := by
  cases operation with
  | registerRunner tokenId runnerId credentialRef =>
      exact register_standings simulator tokenId runnerId credentialRef
  | rotateCredential runnerId currentRef nextRef =>
      exact rotate_standings simulator runnerId currentRef nextRef

/-! ### Leases -/

theorem credentialRejectionReason_eq (simulator : RunnerLifecycleSimulator)
    (credentialRef : String) :
    credentialRejectionReason simulator credentialRef =
      (simulator.standings.credential credentialRef).leaseRejection := by
  rw [credentialRejectionReason]
  rcases hfound : simulator.credentials.get? credentialRef with _ | credential
  · simp [RunnerLifecycleSimulator.standings, hfound, CredentialStanding.leaseRejection]
  simp only [RunnerLifecycleSimulator.standings, hfound, Option.elim_some,
    validateCredential_eq]
  rcases hactive : credential.active with _ | _ <;>
    by_cases hexpired : credential.expiresAtTick ≤ simulator.nowTick <;>
    simp [RunnerCredentialFixture.standing, CredentialStanding.refusal,
      CredentialStanding.leaseRejection, hactive, hexpired]

theorem leaseRejectionReason_eq (simulator : RunnerLifecycleSimulator)
    (runnerId : String) :
    leaseRejectionReason simulator runnerId =
      simulator.standings.leaseRejection runnerId := by
  rw [leaseRejectionReason, Standings.leaseRejection]
  rcases hfound : simulator.runners.get? runnerId with _ | runner
  · simp [RunnerLifecycleSimulator.standings, hfound]
  have hstanding : simulator.standings.runner runnerId = runner.standing := by
    simp [RunnerLifecycleSimulator.standings, hfound]
  rw [hstanding]
  simp only [RunnerFixture.standing]
  rcases runner.state.rejectionReason with _ | reason
  · rcases runner.credentialRef with _ | credentialRef
    · rfl
    · exact credentialRejectionReason_eq simulator credentialRef
  · rfl

theorem answerRequest_standings (simulator : RunnerLifecycleSimulator)
    (request : Request) :
    simulator.standings.answerRequest request =
      ((answerRequest simulator request).1,
        (answerRequest simulator request).2.standings) := by
  cases request with
  | operate operation =>
      simp only [Standings.answerRequest, answerRequest, operate_standings]
  | lease attempt =>
      simp only [Standings.answerRequest, answerRequest, evaluateLease,
        leaseRejectionReason_eq]

/-! ### Whole runs -/

/-- Tables that stand alike answer every run alike. -/
theorem trace_answerRequest_congr {first second : RunnerLifecycleSimulator}
    (h : first.standings = second.standings) (requests : List Request) :
    trace answerRequest first requests = trace answerRequest second requests := by
  have hanswers := fun simulator => (trace_simulates answerRequest
    RunnerLifecycleSimulator.standings answerRequest_standings simulator requests).1
  rw [← hanswers first, h, hanswers second]

def RegistrationTokenFixture.retimed (tick : UInt64 → UInt64)
    (token : RegistrationTokenFixture) : RegistrationTokenFixture :=
  { token with expiresAtTick := tick token.expiresAtTick }

def RunnerCredentialFixture.retimed (tick : UInt64 → UInt64)
    (credential : RunnerCredentialFixture) : RunnerCredentialFixture :=
  { credential with expiresAtTick := tick credential.expiresAtTick }

/-- The scenario on another clock. -/
def RunnerLifecycleScenario.retimed (scenario : RunnerLifecycleScenario)
    (tick : UInt64 → UInt64) : RunnerLifecycleScenario :=
  { scenario with
    nowTick := tick scenario.nowTick
    registrationTokens := scenario.registrationTokens.map (.retimed tick)
    credentials := scenario.credentials.map (.retimed tick) }

/-- The ticks at which a token or a credential expires. -/
def RunnerLifecycleScenario.expiries (scenario : RunnerLifecycleScenario) : List UInt64 :=
  scenario.registrationTokens.map RegistrationTokenFixture.expiresAtTick ++
    scenario.credentials.map RunnerCredentialFixture.expiresAtTick

/-- A table of records each changed without touching its key. -/
theorem get?_ofEntries_map {V : Type} (key : V → String) (change : V → V)
    (hkey : ∀ record, key (change record) = key record) (records : List V) (k : String) :
    (OrderedMap.ofEntries
        ((records.map change).map fun record => (key record, record))).get? k =
      ((OrderedMap.ofEntries (records.map fun record => (key record, record))).get? k).map
        change := by
  have hentries : (records.map change).map (fun record => (key record, record)) =
      (records.map fun record => (key record, record)).map
        fun entry => (entry.1, change entry.2) := by
    simp [Function.comp_def, hkey]
  rw [OrderedMap.get?_ofEntries, OrderedMap.get?_ofEntries, hentries,
    OrderedEntries.occurrences_map_value, List.getLast?_map]

/-- A record found in a table is one of its records. -/
theorem mem_of_get?_ofEntries {V : Type} {key : V → String} {records : List V}
    {k : String} {found : V}
    (h : (OrderedMap.ofEntries (records.map fun record => (key record, record))).get? k =
      some found) : found ∈ records := by
  rw [OrderedMap.get?_ofEntries] at h
  have hmem := OrderedEntries.mem_occurrences_iff.mp (List.mem_of_getLast? h)
  obtain ⟨record, hrecord, heq⟩ := List.mem_map.mp hmem
  obtain ⟨_, rfl⟩ := Prod.mk.inj heq
  exact hrecord

theorem standings_retimed {scenario : RunnerLifecycleScenario} {tick : UInt64 → UInt64}
    (horder : ∀ expiry ∈ scenario.expiries,
      tick expiry ≤ tick scenario.nowTick ↔ expiry ≤ scenario.nowTick) :
    (RunnerLifecycleSimulator.fromScenario (scenario.retimed tick)).standings =
      (RunnerLifecycleSimulator.fromScenario scenario).standings := by
  rw [RunnerLifecycleSimulator.standings, RunnerLifecycleSimulator.standings,
    Standings.mk.injEq]
  refine ⟨?_, ?_, rfl⟩
  · funext tokenId
    have hretimed := get?_ofEntries_map RegistrationTokenFixture.tokenId
      (RegistrationTokenFixture.retimed tick) (fun _ => rfl)
      scenario.registrationTokens tokenId
    simp only [RunnerLifecycleSimulator.fromScenario, RunnerLifecycleScenario.retimed,
      hretimed]
    rcases hfound : (OrderedMap.ofEntries (scenario.registrationTokens.map fun token =>
        (token.tokenId, token))).get? tokenId with _ | token
    · rw [hfound]
      rfl
    · have hexpiry := horder token.expiresAtTick
        (List.mem_append_left _ (List.mem_map_of_mem (mem_of_get?_ofEntries hfound)))
      simp only [hfound, Option.map_some, Option.elim_some,
        RegistrationTokenFixture.standing, RegistrationTokenFixture.retimed, hexpiry]
  · funext credentialRef
    have hretimed := get?_ofEntries_map RunnerCredentialFixture.credentialRef
      (RunnerCredentialFixture.retimed tick) (fun _ => rfl)
      scenario.credentials credentialRef
    simp only [RunnerLifecycleSimulator.fromScenario, RunnerLifecycleScenario.retimed,
      hretimed]
    rcases hfound : (OrderedMap.ofEntries (scenario.credentials.map fun credential =>
        (credential.credentialRef, credential))).get? credentialRef with _ | credential
    · rw [hfound]
      rfl
    · have hexpiry := horder credential.expiresAtTick
        (List.mem_append_right _ (List.mem_map_of_mem (mem_of_get?_ofEntries hfound)))
      simp only [hfound, Option.map_some, Option.elim_some,
        RunnerCredentialFixture.standing, RunnerCredentialFixture.retimed, hexpiry]

/-- Of the clock only which expiries it has reached matters: a scenario on
another clock that has reached the same ones answers every run alike. -/
theorem clock_irrelevant (scenario : RunnerLifecycleScenario) (tick : UInt64 → UInt64)
    (horder : ∀ expiry ∈ scenario.expiries,
      tick expiry ≤ tick scenario.nowTick ↔ expiry ≤ scenario.nowTick)
    (requests : List Request) :
    trace answerRequest (.fromScenario (scenario.retimed tick)) requests =
      trace answerRequest (.fromScenario scenario) requests :=
  trace_answerRequest_congr (standings_retimed horder) requests

def rotationRequests : List Request :=
  [.operate (.rotateCredential "runner" "credential-ref-active" "credential-ref-rotated"),
    .lease { runnerId := "runner", jobId := "job", leaseId := "lease" }]

/-- A day of ticks later. -/
theorem clock_irrelevant_small :
    trace answerRequest
        (.fromScenario ((smallScenario .registered).retimed fun tick => tick + 86400))
        rotationRequests =
      trace answerRequest (.fromScenario (smallScenario .registered)) rotationRequests :=
  clock_irrelevant (smallScenario .registered) (fun tick => tick + 86400)
    (by simp [RunnerLifecycleScenario.expiries, smallScenario]) rotationRequests

end RunnerLifecycle

end RemoteRunner
