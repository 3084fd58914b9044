/-
Isolation plans: the roots, the environment and the credential a job may use,
and the resources it owns.
-/
import RemoteRunner.DispatchAssumptions
import RemoteRunner.JoinedText

namespace RemoteRunner

namespace JobIsolation

open Protocol DispatchAuth

structure JobIsolationPlan where
  jobId : String
  runnerId : String
  workspaceRootLabel : String
  artifactRootLabel : String
  allowedEnv : OrderedMap String String
  scopedCredentialRef : Option String
deriving DecidableEq

inductive ScopedResourceKind where
  | workspace
  | artifact
  | credential
  | environmentVariable
deriving DecidableEq

structure ScopedResource where
  jobId : String
  kind : ScopedResourceKind
  name : String
deriving DecidableEq

inductive IsolationViolation where
  | crossJobResourceAccess
  | environmentVariableNotAllowlisted
  | credentialNotScoped
deriving DecidableEq

/-- The text every violation displays. -/
def IsolationViolation.message : IsolationViolation → String
  | .crossJobResourceAccess => "resource is owned by another job"
  | .environmentVariableNotAllowlisted => "environment variable is not allowlisted"
  | .credentialNotScoped => "credential reference is not scoped to this job"

def planJobIsolation (dispatch : JobDispatch) (ambientEnv : List (String × String)) :
    JobIsolationPlan where
  jobId := dispatch.jobId
  runnerId := dispatch.runnerId
  workspaceRootLabel := "jobs/" ++ dispatch.jobId ++ "/workspaces/" ++
    dispatch.policy.workspace.workspaceId
  artifactRootLabel := "jobs/" ++ dispatch.jobId ++ "/artifacts"
  allowedEnv := .ofEntries (ambientEnv.filter fun binding =>
    binding.1 ∈ dispatch.policy.workspace.allowedEnv)
  scopedCredentialRef := dispatch.policy.workspace.scopedCredentialRef

def JobIsolationPlan.owns (plan : JobIsolationPlan) (resource : ScopedResource) :
    Except IsolationViolation Unit :=
  if resource.jobId ≠ plan.jobId then .error .crossJobResourceAccess
  else
    match resource.kind with
    | .workspace | .artifact => .ok ()
    | .environmentVariable =>
        if (plan.allowedEnv.get? resource.name).isSome then .ok ()
        else .error .environmentVariableNotAllowlisted
    | .credential =>
        if plan.scopedCredentialRef = some resource.name then .ok ()
        else .error .credentialNotScoped

/-! ### Roots -/

/-- The root labels of a plan. -/
def JobIsolationPlan.rootLabels (plan : JobIsolationPlan) : List String :=
  [plan.workspaceRootLabel, plan.artifactRootLabel]

/-- A root of the first plan contains a root of the second. -/
def RootsOverlap (first second : JobIsolationPlan) : Prop :=
  ∃ outer ∈ first.rootLabels, ∃ inner ∈ second.rootLabels, Within '/' outer inner

/-- The workspace root below a job's own directory. -/
def workspacePath (dispatch : JobDispatch) : String :=
  joinText '/' "workspaces" dispatch.policy.workspace.workspaceId

/-- The root paths below a job's own directory. -/
def rootPaths (dispatch : JobDispatch) : List String :=
  [workspacePath dispatch, "artifacts"]

theorem rootLabels_planJobIsolation (dispatch : JobDispatch)
    (ambientEnv : List (String × String)) :
    (planJobIsolation dispatch ambientEnv).rootLabels =
      (rootPaths dispatch).map fun path =>
        joinText '/' "jobs" (joinText '/' dispatch.jobId path) := by
  simp only [JobIsolationPlan.rootLabels, planJobIsolation, rootPaths,
    List.map_cons, List.map_nil, List.cons.injEq, and_true]
  constructor
  · rw [← String.toList_inj]
    simp [joinText, workspacePath]
  · rw [← String.toList_inj]
    simp [joinText]

/-- Roots overlap when the paths below `jobs` do. -/
theorem rootsOverlap_iff {first second : JobDispatch}
    {ambientEnv ambientEnv' : List (String × String)} :
    RootsOverlap (planJobIsolation first ambientEnv)
        (planJobIsolation second ambientEnv') ↔
      ∃ outer ∈ rootPaths first, ∃ inner ∈ rootPaths second,
        Within '/' (joinText '/' first.jobId outer)
          (joinText '/' second.jobId inner) := by
  rw [RootsOverlap, rootLabels_planJobIsolation, rootLabels_planJobIsolation]
  simp only [List.mem_map, exists_exists_and_eq_and, within_joinText_left_iff]

/-- One job id continues the other as a path that meets the other job's
artifacts directory or its workspace. -/
def JobIdReaches (first second : JobDispatch) : Prop :=
  (∃ rest, second.jobId = joinText '/' first.jobId rest ∧
      (Within '/' "artifacts" rest ∨
        Within '/' (workspacePath first) (joinText '/' rest (workspacePath second)) ∨
        Within '/' (workspacePath first) (joinText '/' rest "artifacts"))) ∨
    ∃ rest, first.jobId = joinText '/' second.jobId rest ∧
      (Within '/' (joinText '/' rest (workspacePath first)) (workspacePath second) ∨
        Within '/' (joinText '/' rest "artifacts") (workspacePath second))

theorem JobIdReaches.jobId_ne {first second : JobDispatch}
    (h : JobIdReaches first second) : first.jobId ≠ second.jobId := by
  rcases h with ⟨rest, hjob, _⟩ | ⟨rest, hjob, _⟩
  · exact fun heq => ne_joinText_self (heq.trans hjob)
  · exact fun heq => ne_joinText_self (heq.symm.trans hjob)

theorem slash_not_mem_artifacts : '/' ∉ "artifacts".toList := by decide

/-- Roots of different jobs overlap exactly when a job id reaches the other
job's directories. -/
theorem rootsOverlap_iff_reaches {first second : JobDispatch}
    (hne : first.jobId ≠ second.jobId)
    {ambientEnv ambientEnv' : List (String × String)} :
    RootsOverlap (planJobIsolation first ambientEnv)
        (planJobIsolation second ambientEnv') ↔ JobIdReaches first second := by
  have hnever : ∀ front back, ¬Within '/' (joinText '/' front back) "artifacts" :=
    fun _ _ => not_within_segment slash_not_mem_artifacts
  have hbelow : ∀ front back, Within '/' "artifacts" (joinText '/' front back) ↔
      Within '/' "artifacts" front :=
    fun _ _ => segment_within_joinText_iff slash_not_mem_artifacts
  rw [rootsOverlap_iff]
  simp only [rootPaths, List.mem_cons, List.not_mem_nil, or_false, exists_eq_or_imp,
    exists_eq_left, within_joinText_iff, hne.symm, false_and, false_or, hnever,
    hbelow, and_false, exists_false, or_false, JobIdReaches]
  simp only [and_or_left, exists_or]
  constructor
  · intro hmeets
    rcases hmeets with ((h | h) | h) | (h | h) | h
    · exact Or.inl (Or.inr (Or.inl h))
    · exact Or.inr (Or.inl h)
    · exact Or.inl (Or.inr (Or.inr h))
    · exact Or.inl (Or.inl h)
    · exact Or.inr (Or.inr h)
    · exact Or.inl (Or.inl h)
  · intro hreaches
    rcases hreaches with (h | h | h) | h | h
    · exact Or.inr (Or.inr h)
    · exact Or.inl (Or.inl (Or.inl h))
    · exact Or.inl (Or.inr h)
    · exact Or.inl (Or.inl (Or.inr h))
    · exact Or.inr (Or.inl (Or.inr h))

/-- The two roots of one job lie side by side. -/
theorem own_roots_disjoint (dispatch : JobDispatch)
    (ambientEnv : List (String × String)) :
    ¬Within '/' (planJobIsolation dispatch ambientEnv).workspaceRootLabel
        (planJobIsolation dispatch ambientEnv).artifactRootLabel ∧
      ¬Within '/' (planJobIsolation dispatch ambientEnv).artifactRootLabel
        (planJobIsolation dispatch ambientEnv).workspaceRootLabel := by
  have hlabels := rootLabels_planJobIsolation dispatch ambientEnv
  simp only [JobIsolationPlan.rootLabels, rootPaths, List.map_cons, List.map_nil,
    List.cons.injEq, and_true] at hlabels
  rw [hlabels.1, hlabels.2]
  simp only [within_joinText_left_iff]
  refine ⟨not_within_segment slash_not_mem_artifacts, ?_⟩
  rw [workspacePath, segment_within_joinText_iff slash_not_mem_artifacts]
  intro hwithin
  rcases hwithin with heq | ⟨rest, heq⟩
  · exact absurd heq (by decide)
  · have hslash := separator_mem_joinText '/' "artifacts" rest
    rw [← heq] at hslash
    exact absurd hslash (by decide)

end JobIsolation

end RemoteRunner
