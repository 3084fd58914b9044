/-
Early returns in stateful code.  A fallible result is passed on or ends the
call, the state being left as it stands.
-/
import Mathlib.Logic.Unique

namespace RemoteRunner

universe u

variable {E S α β : Type u}

/-- The `?` operator: pass a value on or return the error. -/
def attempt (result : Except E α) : ExceptT E (StateM S) α :=
  ExceptT.mk (pure result)

/-- Return an error when a condition holds. -/
def rejectIf (condition : Prop) [Decidable condition] (error : E) :
    Except E Unit :=
  if condition then .error error else .ok ()

/-- `Option::ok_or`. -/
def okOr (value : Option α) (error : E) : Except E α :=
  value.elim (.error error) .ok

/-- Run a call from a state: its result and the state it leaves. -/
def runOn (action : ExceptT E (StateM S) α) (state : S) : Except E α × S :=
  action.run.run state

@[simp] theorem runOn_attempt_ok_bind (value : α)
    (next : α → ExceptT E (StateM S) β) (state : S) :
    runOn (attempt (.ok value) >>= next) state = runOn (next value) state := rfl

@[simp] theorem runOn_attempt_error_bind (error : E)
    (next : α → ExceptT E (StateM S) β) (state : S) :
    runOn (attempt (.error error) >>= next) state = (.error error, state) := rfl

@[simp] theorem runOn_get_bind (next : S → ExceptT E (StateM S) β) (state : S) :
    runOn (get >>= next) state = runOn (next state) state := rfl

@[simp] theorem runOn_modify_bind (update : S → S)
    (next : PUnit → ExceptT E (StateM S) β) (state : S) :
    runOn (modify update >>= next) state = runOn (next ⟨⟩) (update state) := rfl

@[simp] theorem runOn_set (state state' : S) :
    runOn (set state' : ExceptT E (StateM S) PUnit) state = (.ok ⟨⟩, state') := rfl

theorem attempt_bind (result : Except E α) (next : α → Except E β) :
    (attempt (result >>= next) : ExceptT E (StateM S) β) =
      attempt result >>= fun value => attempt (next value) := by
  rcases result with _ | _ <;> rfl

theorem bind_eq_ok_iff {result : Except E α} {next : α → Except E β} {value : β} :
    (result >>= next) = .ok value ↔
      ∃ middle, result = .ok middle ∧ next middle = .ok value := by
  rcases result with error | middle
  · constructor
    · intro h
      cases h
    · intro hpassed
      obtain ⟨_, h, _⟩ := hpassed
      cases h
  · constructor
    · intro h
      exact ⟨middle, rfl, h⟩
    · intro hpassed
      obtain ⟨_, h, hnext⟩ := hpassed
      obtain rfl := Except.ok.inj h
      exact hnext

theorem bind_eq_error_iff {result : Except E α} {next : α → Except E β}
    {error : E} :
    (result >>= next) = .error error ↔
      result = .error error ∨
        ∃ middle, result = .ok middle ∧ next middle = .error error := by
  rcases result with error' | middle
  · constructor
    · intro h
      exact Or.inl (congrArg Except.error (Except.error.inj h))
    · intro hstopped
      rcases hstopped with h | ⟨_, h, _⟩
      · exact congrArg Except.error (Except.error.inj h)
      · cases h
  · constructor
    · intro h
      exact Or.inr ⟨middle, rfl, h⟩
    · intro hstopped
      rcases hstopped with h | ⟨_, h, hnext⟩
      · cases h
      · obtain rfl := Except.ok.inj h
        exact hnext

theorem rejectIf_pos {condition : Prop} [Decidable condition] (h : condition)
    (error : E) : rejectIf condition error = .error error := if_pos h

theorem rejectIf_neg {condition : Prop} [Decidable condition] (h : ¬condition)
    (error : E) : rejectIf condition error = .ok () := if_neg h

@[simp] theorem okOr_some (value : α) (error : E) :
    okOr (some value) error = .ok value := rfl

@[simp] theorem okOr_none (error : E) :
    okOr (none : Option α) error = .error error := rfl

theorem rejectIf_eq_ok_iff {condition : Prop} [Decidable condition]
    {error : E} {value : Unit} :
    rejectIf condition error = .ok value ↔ ¬condition := by
  by_cases h : condition <;> simp [rejectIf, h]

theorem rejectIf_eq_error_iff {condition : Prop} [Decidable condition]
    {error error' : E} :
    rejectIf condition error = .error error' ↔ condition ∧ error = error' := by
  by_cases h : condition <;> simp [rejectIf, h]

theorem okOr_eq_ok_iff {value : Option α} {error : E} {inner : α} :
    okOr value error = .ok inner ↔ value = some inner := by
  rcases value with _ | _ <;> simp [okOr]

theorem okOr_eq_error_iff {value : Option α} {error error' : E} :
    okOr value error = .error error' ↔ value = none ∧ error = error' := by
  rcases value with _ | _ <;> simp [okOr]

/-- A loop of checks passes when every item does. -/
theorem forM_eq_ok_iff {items : List α} {check : α → Except E PUnit.{u + 1}} :
    items.forM check = .ok ⟨⟩ ↔ ∀ item ∈ items, check item = .ok ⟨⟩ := by
  induction items with
  | nil => exact iff_of_true rfl (by simp)
  | cons item items ih =>
      change (check item >>= fun _ => items.forM check) = .ok ⟨⟩ ↔ _
      rw [bind_eq_ok_iff, List.forall_mem_cons, ← ih, Unique.exists_iff]

/-- Converting every item passes when the conversion is defined on all. -/
theorem mapM_okOr_eq_ok_iff {items : List α} {convert : α → Option β} {error : E}
    {values : List β} :
    items.mapM (fun item => okOr (convert item) error) = .ok values ↔
      items.map convert = values.map some := by
  induction items generalizing values with
  | nil =>
      rw [List.mapM_nil, List.map_nil, eq_comm (a := []), List.map_eq_nil_iff]
      exact ⟨fun h => (Except.ok.inj h).symm, fun h => h ▸ rfl⟩
  | cons item items ih =>
      rw [List.mapM_cons, bind_eq_ok_iff, List.map_cons]
      constructor
      · intro hpassed
        obtain ⟨value, hitem, hrest⟩ := hpassed
        obtain ⟨rest, hitems, heq⟩ := bind_eq_ok_iff.mp hrest
        cases heq
        rw [okOr_eq_ok_iff.mp hitem, ih.mp hitems, List.map_cons]
      · intro hvalues
        obtain ⟨value, rest, rfl, hitem, hitems⟩ := List.map_eq_cons_iff.mp hvalues.symm
        exact ⟨value, okOr_eq_ok_iff.mpr hitem.symm,
          bind_eq_ok_iff.mpr ⟨rest, ih.mpr hitems.symm, rfl⟩⟩

/-- A loop of checks that all fail alike fails when one item does. -/
theorem forM_eq_error_iff {items : List α} {check : α → Except E PUnit.{u + 1}}
    {fails : α → Prop} {error error' : E}
    (h : ∀ item error', check item = .error error' ↔ fails item ∧ error = error') :
    items.forM check = .error error' ↔
      (∃ item ∈ items, fails item) ∧ error = error' := by
  induction items with
  | nil => exact iff_of_false (by rintro ⟨⟩) (by simp)
  | cons item items ih =>
      change (check item >>= fun _ => items.forM check) = .error error' ↔ _
      simp only [bind_eq_error_iff, h, ih, List.mem_cons, exists_eq_or_imp]
      constructor
      · rintro (⟨hfails, rfl⟩ | ⟨_, _, hrest, rfl⟩)
        · exact ⟨Or.inl hfails, rfl⟩
        · exact ⟨Or.inr hrest, rfl⟩
      · rintro ⟨hfails, rfl⟩
        by_cases hfirst : fails item
        · exact Or.inl ⟨hfirst, rfl⟩
        · rcases hcheck : check item with error' | value
          · exact absurd ((h item error').mp hcheck).1 hfirst
          · exact Or.inr ⟨value, rfl, hfails.resolve_left hfirst, rfl⟩

/-- Converting every item stops when the conversion is undefined on one. -/
theorem mapM_okOr_eq_error_iff {items : List α} {convert : α → Option β}
    {error error' : E} :
    items.mapM (fun item => okOr (convert item) error) = .error error' ↔
      (∃ item ∈ items, convert item = none) ∧ error = error' := by
  induction items with
  | nil => exact iff_of_false (by rintro ⟨⟩) (by simp)
  | cons item items ih =>
      simp only [List.mapM_cons, bind_eq_error_iff, okOr_eq_error_iff, ih, List.mem_cons,
        exists_eq_or_imp]
      constructor
      · rintro (⟨hnone, rfl⟩ | ⟨_, _, ⟨hrest, rfl⟩ | ⟨_, _, hpure⟩⟩)
        · exact ⟨Or.inl hnone, rfl⟩
        · exact ⟨Or.inr hrest, rfl⟩
        · cases hpure
      · rintro ⟨hnone, rfl⟩
        rcases hfirst : convert item with _ | value
        · exact Or.inl ⟨rfl, rfl⟩
        · have hrest := hnone.resolve_left (by rw [hfirst]; simp)
          exact Or.inr ⟨value, rfl, Or.inl ⟨hrest, rfl⟩⟩

theorem mapError_eq_ok_iff {E' : Type u} {result : Except E α} {f : E → E'}
    {value : α} : result.mapError f = .ok value ↔ result = .ok value := by
  rcases result with error | value'
  · change Except.error (f error) = .ok value ↔ _
    exact iff_of_false (by simp) (by simp)
  · change Except.ok value' = .ok value ↔ _
    rw [Except.ok.injEq, Except.ok.injEq]

theorem mapError_eq_error_iff {E' : Type u} {result : Except E α} {f : E → E'}
    {error : E'} :
    result.mapError f = .error error ↔
      ∃ error', result = .error error' ∧ f error' = error := by
  rcases result with error' | value
  · change Except.error (f error') = .error error ↔ _
    simp
  · change Except.ok value = .error error ↔ _
    simp

end RemoteRunner
