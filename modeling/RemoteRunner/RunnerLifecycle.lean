/-
The runner lifecycle simulator: registration tokens, credentials and runners
in three tables, two operations that change them, and the lease decision that
reads them.
-/
import RemoteRunner.EarlyReturn
import RemoteRunner.OrderedEntries
import RemoteRunner.Protocol

namespace RemoteRunner

namespace RunnerLifecycle

open Protocol

inductive RunnerLifecycleState where
  | registered
  | unregistered
  | expired
  | disabled
  | draining
  | shared
  | quarantined
deriving DecidableEq

structure RegistrationTokenFixture where
  tokenId : String
  expiresAtTick : UInt64
  usedByRunnerId : Option String
deriving DecidableEq

structure RunnerCredentialFixture where
  credentialRef : String
  expiresAtTick : UInt64
  active : Bool
  rotatedFrom : Option String
deriving DecidableEq

structure RunnerFixture where
  runnerId : String
  state : RunnerLifecycleState
  registrationTokenId : Option String
  credentialRef : Option String
deriving DecidableEq

structure LeaseAttemptFixture where
  runnerId : String
  jobId : String
  leaseId : String
deriving DecidableEq

structure RunnerLifecycleScenario where
  nowTick : UInt64
  registrationTokens : List RegistrationTokenFixture
  credentials : List RunnerCredentialFixture
  runners : List RunnerFixture
deriving DecidableEq

structure RunnerCredentialGrant where
  runnerId : String
  credentialRef : String
deriving DecidableEq

inductive RunnerLifecycleError where
  | registrationTokenExpired
  | registrationTokenAlreadyUsed
  | registrationTokenNotFound
  | runnerNotFound
  | runnerCredentialNotFound
  | runnerCredentialExpired
  | runnerCredentialInactive
  | runnerCredentialRotationMismatch
deriving DecidableEq

/-- The text every error displays. -/
def RunnerLifecycleError.message : RunnerLifecycleError → String
  | .registrationTokenExpired => "registration token expired"
  | .registrationTokenAlreadyUsed => "registration token already used"
  | .registrationTokenNotFound => "registration token not found"
  | .runnerNotFound => "runner not found"
  | .runnerCredentialNotFound => "runner credential not found"
  | .runnerCredentialExpired => "runner credential expired"
  | .runnerCredentialInactive => "runner credential inactive"
  | .runnerCredentialRotationMismatch => "runner credential rotation mismatch"

structure RunnerLifecycleSimulator where
  nowTick : UInt64
  registrationTokens : OrderedMap String RegistrationTokenFixture
  credentials : OrderedMap String RunnerCredentialFixture
  runners : OrderedMap String RunnerFixture
deriving DecidableEq

/-- The tables of a scenario; of two entries with one key the later stays. -/
def RunnerLifecycleSimulator.fromScenario (scenario : RunnerLifecycleScenario) :
    RunnerLifecycleSimulator where
  nowTick := scenario.nowTick
  registrationTokens := .ofEntries
    (scenario.registrationTokens.map fun token => (token.tokenId, token))
  credentials := .ofEntries
    (scenario.credentials.map fun credential => (credential.credentialRef, credential))
  runners := .ofEntries (scenario.runners.map fun runner => (runner.runnerId, runner))

abbrev Lifecycle := ExceptT RunnerLifecycleError (StateM RunnerLifecycleSimulator)

def validateCredential (credential : RunnerCredentialFixture) (nowTick : UInt64) :
    Except RunnerLifecycleError Unit := do
  rejectIf (credential.active = false) .runnerCredentialInactive
  rejectIf (credential.expiresAtTick ≤ nowTick) .runnerCredentialExpired

def registerRunner (tokenId runnerId credentialRef : String) :
    Lifecycle RunnerCredentialGrant := do
  let simulator ← get
  let token ← attempt
    (okOr (simulator.registrationTokens.get? tokenId) .registrationTokenNotFound)
  attempt (rejectIf (token.expiresAtTick ≤ simulator.nowTick) .registrationTokenExpired)
  attempt (rejectIf (token.usedByRunnerId.isSome = true) .registrationTokenAlreadyUsed)
  let credential ← attempt
    (okOr (simulator.credentials.get? credentialRef) .runnerCredentialNotFound)
  attempt (validateCredential credential simulator.nowTick)
  modify fun simulator => { simulator with
    registrationTokens := simulator.registrationTokens.insert tokenId
      { token with usedByRunnerId := some runnerId } }
  modify fun simulator => { simulator with
    runners := simulator.runners.insert runnerId {
      runnerId
      state := .registered
      registrationTokenId := some tokenId
      credentialRef := some credentialRef } }
  return { runnerId, credentialRef }

/-- The current credential is deactivated before the next one is looked up. -/
def rotateCredential (runnerId currentCredentialRef nextCredentialRef : String) :
    Lifecycle RunnerCredentialGrant := do
  let simulator ← get
  let runner ← attempt (okOr (simulator.runners.get? runnerId) .runnerNotFound)
  attempt (rejectIf (runner.credentialRef ≠ some currentCredentialRef)
    .runnerCredentialRotationMismatch)
  let current ← attempt
    (okOr (simulator.credentials.get? currentCredentialRef) .runnerCredentialNotFound)
  modify fun simulator => { simulator with
    credentials := simulator.credentials.insert currentCredentialRef
      { current with active := false } }
  let simulator ← get
  let next ← attempt
    (okOr (simulator.credentials.get? nextCredentialRef) .runnerCredentialNotFound)
  attempt (validateCredential next simulator.nowTick)
  modify fun simulator => { simulator with
    runners := simulator.runners.insert runnerId { runner with
      state := .registered
      credentialRef := some nextCredentialRef } }
  return { runnerId, credentialRef := nextCredentialRef }

/-- Why a state alone rules a lease out. -/
def RunnerLifecycleState.rejectionReason : RunnerLifecycleState → Option String
  | .registered => none
  | .unregistered => some "runner is not registered"
  | .expired => some "runner credential expired; rotate before accepting leases"
  | .disabled => some "runner is disabled"
  | .draining => some "runner is draining"
  | .shared => some "runner credential is shared; rotate before accepting leases"
  | .quarantined => some "runner is quarantined"

/-- Why the credential of a registered runner rules a lease out. -/
def credentialRejectionReason (simulator : RunnerLifecycleSimulator)
    (credentialRef : String) : Option String :=
  match simulator.credentials.get? credentialRef with
  | some credential =>
      if validateCredential credential simulator.nowTick = .ok () then none
      else if credential.expiresAtTick ≤ simulator.nowTick then
        some "runner credential expired; rotate before accepting leases"
      else some "runner credential unavailable"
  | none => some "runner credential unavailable"

def leaseRejectionReason (simulator : RunnerLifecycleSimulator) (runnerId : String) :
    Option String :=
  match simulator.runners.get? runnerId with
  | none => some "runner is not registered"
  | some runner =>
      match runner.state.rejectionReason with
      | some reason => some reason
      | none =>
          match runner.credentialRef with
          | none => some "runner credential unavailable"
          | some credentialRef => credentialRejectionReason simulator credentialRef

def evaluateLease (simulator : RunnerLifecycleSimulator)
    (attempt : LeaseAttemptFixture) : JobLeaseAcceptance where
  leaseId := attempt.leaseId
  jobId := attempt.jobId
  runnerId := attempt.runnerId
  accepted := (leaseRejectionReason simulator attempt.runnerId).isNone
  reason := leaseRejectionReason simulator attempt.runnerId

end RunnerLifecycle

end RemoteRunner
