/-
What a job sees of the runner's environment, and the resources it owns.
-/
import RemoteRunner.JobIsolation

namespace RemoteRunner

namespace JobIsolation

open Protocol DispatchAuth OrderedEntries

/-- The ambient list binds this name to this value, the last binding of a name
counting. -/
def Binds (ambientEnv : List (String × String)) (name value : String) : Prop :=
  ∃ before after, ambientEnv = before ++ (name, value) :: after ∧
    name ∉ after.map Prod.fst

/-- Two ambient lists bind every allowlisted name alike, or both leave it
unbound. -/
def AgreeOn (allowedEnv : List String) (first second : List (String × String)) : Prop :=
  ∀ name ∈ allowedEnv, ∀ value, Binds first name value ↔ Binds second name value

theorem getLast?_eq_some_iff_binds {ambientEnv : List (String × String)}
    {name value : String} :
    (occurrences name ambientEnv).getLast? = some value ↔
      Binds ambientEnv name value :=
  getLast?_occurrences_eq_some_iff

/-- A plan passes on the allowlisted bindings and no others. -/
theorem get?_allowedEnv (dispatch : JobDispatch) (ambientEnv : List (String × String))
    (name : String) :
    (planJobIsolation dispatch ambientEnv).allowedEnv.get? name =
      if name ∈ dispatch.policy.workspace.allowedEnv
      then (occurrences name ambientEnv).getLast? else none := by
  rw [planJobIsolation, OrderedMap.get?_ofEntries,
    occurrences_filter (fun key => key ∈ dispatch.policy.workspace.allowedEnv)]
  by_cases hallowed : name ∈ dispatch.policy.workspace.allowedEnv <;> simp [hallowed]

/-- Plans of one dispatch are equal exactly when the ambient lists agree on the
allowlisted names. -/
theorem planJobIsolation_eq_iff {dispatch : JobDispatch}
    {first second : List (String × String)} :
    planJobIsolation dispatch first = planJobIsolation dispatch second ↔
      AgreeOn dispatch.policy.workspace.allowedEnv first second := by
  constructor
  · intro h name hallowed value
    have hget := congrArg (fun plan => plan.allowedEnv.get? name) h
    simp only [get?_allowedEnv, if_pos hallowed] at hget
    rw [← getLast?_eq_some_iff_binds, ← getLast?_eq_some_iff_binds, hget]
  · intro h
    have henv : (planJobIsolation dispatch first).allowedEnv =
        (planJobIsolation dispatch second).allowedEnv := by
      apply OrderedMap.ext_get?
      intro name
      rw [get?_allowedEnv, get?_allowedEnv]
      by_cases hallowed : name ∈ dispatch.policy.workspace.allowedEnv
      · rw [if_pos hallowed, if_pos hallowed]
        apply Option.ext
        intro value
        rw [getLast?_eq_some_iff_binds, getLast?_eq_some_iff_binds,
          h name hallowed value]
      · rw [if_neg hallowed, if_neg hallowed]
    simp only [planJobIsolation] at henv
    simp only [planJobIsolation, henv]

/-- What a plan grants to its own job. -/
def JobIsolationPlan.Grants (plan : JobIsolationPlan) (kind : ScopedResourceKind)
    (name : String) : Prop :=
  match kind with
  | .workspace | .artifact => True
  | .environmentVariable => ∃ value, plan.allowedEnv.get? name = some value
  | .credential => plan.scopedCredentialRef = some name

/-- A resource is owned by its own job, as far as the plan grants it. -/
theorem JobIsolationPlan.owns_eq_ok_iff {plan : JobIsolationPlan}
    {resource : ScopedResource} :
    plan.owns resource = .ok () ↔
      resource.jobId = plan.jobId ∧ plan.Grants resource.kind resource.name := by
  obtain ⟨jobId, kind, name⟩ := resource
  by_cases hjob : jobId = plan.jobId
  · subst hjob
    cases kind with
    | workspace | artifact => simp [owns, Grants]
    | environmentVariable => simp [owns, Grants, Option.isSome_iff_exists]
    | credential => simp [owns, Grants]
  · simp [owns, hjob]

theorem owns_environmentVariable_iff {dispatch : JobDispatch}
    {ambientEnv : List (String × String)} {name : String} :
    (planJobIsolation dispatch ambientEnv).owns
        ⟨dispatch.jobId, .environmentVariable, name⟩ = .ok () ↔
      name ∈ dispatch.policy.workspace.allowedEnv ∧
        ∃ value, Binds ambientEnv name value := by
  have hjob : dispatch.jobId = (planJobIsolation dispatch ambientEnv).jobId := rfl
  rw [JobIsolationPlan.owns_eq_ok_iff, and_iff_right hjob,
    JobIsolationPlan.Grants, get?_allowedEnv]
  by_cases hallowed : name ∈ dispatch.policy.workspace.allowedEnv
  · simp [hallowed, getLast?_eq_some_iff_binds]
  · simp [hallowed]

theorem owns_credential_iff {dispatch : JobDispatch}
    {ambientEnv : List (String × String)} {name : String} :
    (planJobIsolation dispatch ambientEnv).owns
        ⟨dispatch.jobId, .credential, name⟩ = .ok () ↔
      dispatch.policy.workspace.scopedCredentialRef = some name := by
  have hjob : dispatch.jobId = (planJobIsolation dispatch ambientEnv).jobId := rfl
  rw [JobIsolationPlan.owns_eq_ok_iff, and_iff_right hjob]
  exact Iff.rfl

/-- A plan depends on the ambient list through the allowlisted names only, a
job owns what its policy grants, and no resource is owned by two jobs. -/
theorem environment_and_resources_isolated (dispatch : JobDispatch)
    (ambientEnv : List (String × String)) :
    (∀ ambientEnv',
        AgreeOn dispatch.policy.workspace.allowedEnv ambientEnv ambientEnv' ↔
          planJobIsolation dispatch ambientEnv =
            planJobIsolation dispatch ambientEnv') ∧
      (∀ name,
        ((planJobIsolation dispatch ambientEnv).owns
            ⟨dispatch.jobId, .environmentVariable, name⟩ = .ok () ↔
          name ∈ dispatch.policy.workspace.allowedEnv ∧
            ∃ value, Binds ambientEnv name value) ∧
        ((planJobIsolation dispatch ambientEnv).owns
            ⟨dispatch.jobId, .credential, name⟩ = .ok () ↔
          dispatch.policy.workspace.scopedCredentialRef = some name)) ∧
      ∀ (other : JobDispatch) (ambientEnv' : List (String × String)),
        other.jobId ≠ dispatch.jobId → ∀ resource,
          ¬((planJobIsolation dispatch ambientEnv).owns resource = .ok () ∧
            (planJobIsolation other ambientEnv').owns resource = .ok ()) := by
  refine ⟨fun _ => planJobIsolation_eq_iff.symm,
    fun _ => ⟨owns_environmentVariable_iff, owns_credential_iff⟩, ?_⟩
  intro other ambientEnv' hne resource hboth
  have hdispatch := (JobIsolationPlan.owns_eq_ok_iff.mp hboth.1).1
  have hother := (JobIsolationPlan.owns_eq_ok_iff.mp hboth.2).1
  exact hne (hother.symm.trans hdispatch)

end JobIsolation

end RemoteRunner
