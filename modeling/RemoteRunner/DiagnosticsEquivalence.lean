/-
What the diagnostics show: documents are redacted alike exactly when they
differ below sensitive members only.
-/
import RemoteRunner.Diagnostics

namespace RemoteRunner

namespace Diagnostics

open Protocol Runner Daemon Json

mutual

/-- Two documents have the same shape and leaves, except below members with a
sensitive name, where anything may stand. -/
inductive Equivalent : Json → Json → Prop
  | null : Equivalent .null .null
  | bool (value : Bool) : Equivalent (.bool value) (.bool value)
  | number (value : Number) : Equivalent (.number value) (.number value)
  | string (text : String) : Equivalent (.string text) (.string text)
  | array {first second : List Json} (items : EquivalentItems first second) :
      Equivalent (.array first) (.array second)
  | object {first second : List (String × Json)}
      (members : EquivalentMembers first second) :
      Equivalent (.object first) (.object second)

inductive EquivalentItems : List Json → List Json → Prop
  | nil : EquivalentItems [] []
  | cons {item item' : Json} {items items' : List Json} :
      Equivalent item item' → EquivalentItems items items' →
        EquivalentItems (item :: items) (item' :: items')

inductive EquivalentMembers : List (String × Json) → List (String × Json) → Prop
  | nil : EquivalentMembers [] []
  | sensitive {key : String} (child child' : Json)
      {members members' : List (String × Json)} :
      isSensitiveKey key = true → EquivalentMembers members members' →
        EquivalentMembers ((key, child) :: members) ((key, child') :: members')
  | cons {key : String} {child child' : Json}
      {members members' : List (String × Json)} :
      Equivalent child child' → EquivalentMembers members members' →
        EquivalentMembers ((key, child) :: members) ((key, child') :: members')

end

/-- Members are redacted alike when the name is sensitive or the values are
redacted alike. -/
theorem redactedMember_eq_iff {key : String} {child child' : Json} :
    redactedMember key child = redactedMember key child' ↔
      isSensitiveKey key = true ∨
        redactSensitiveValues child = redactSensitiveValues child' := by
  by_cases hsensitive : isSensitiveKey key = true
  · simp [redactedMember, hsensitive]
  · simp [redactedMember, hsensitive]

theorem items_eq_iff {items items' : List Json}
    (h : ∀ item ∈ items, ∀ other,
      redactSensitiveValues item = redactSensitiveValues other ↔
        Equivalent item other) :
    items.map redactSensitiveValues = items'.map redactSensitiveValues ↔
      EquivalentItems items items' := by
  induction items generalizing items' with
  | nil =>
      rcases items' with _ | ⟨item', items'⟩
      · exact iff_of_true rfl .nil
      · exact iff_of_false (by simp) (by rintro ⟨⟩)
  | cons item items ih =>
      rcases items' with _ | ⟨item', items'⟩
      · exact iff_of_false (by simp) (by rintro ⟨⟩)
      · rw [List.map_cons, List.map_cons, List.cons.injEq,
          h item List.mem_cons_self item',
          ih fun other hother => h other (List.mem_cons_of_mem item hother)]
        constructor
        · intro hboth
          exact .cons hboth.1 hboth.2
        · rintro ⟨⟩
          rename_i hitem hitems
          exact ⟨hitem, hitems⟩

theorem members_eq_iff {members members' : List (String × Json)}
    (h : ∀ member ∈ members, ∀ other,
      redactSensitiveValues member.2 = redactSensitiveValues other ↔
        Equivalent member.2 other) :
    (members.map fun member => (member.1, redactedMember member.1 member.2)) =
        (members'.map fun member => (member.1, redactedMember member.1 member.2)) ↔
      EquivalentMembers members members' := by
  induction members generalizing members' with
  | nil =>
      rcases members' with _ | ⟨member', members'⟩
      · exact iff_of_true rfl .nil
      · exact iff_of_false (by simp) (by rintro ⟨⟩)
  | cons member members ih =>
      obtain ⟨key, child⟩ := member
      rcases members' with _ | ⟨⟨key', child'⟩, members'⟩
      · exact iff_of_false (by simp) (by rintro ⟨⟩)
      · rw [List.map_cons, List.map_cons, List.cons.injEq, Prod.mk.injEq,
          ih fun other hother => h other (List.mem_cons_of_mem _ hother)]
        have hchild := h (key, child) List.mem_cons_self child'
        constructor
        · intro hboth
          obtain ⟨⟨rfl, hmember⟩, hmembers⟩ := hboth
          rcases redactedMember_eq_iff.mp hmember with hsensitive | hsame
          · exact .sensitive child child' hsensitive hmembers
          · exact .cons (hchild.mp hsame) hmembers
        · rintro (_ | ⟨_, _, hsensitive, hmembers⟩ | ⟨hequivalent, hmembers⟩)
          · exact ⟨⟨rfl, redactedMember_eq_iff.mpr (Or.inl hsensitive)⟩, hmembers⟩
          · exact ⟨⟨rfl, redactedMember_eq_iff.mpr (Or.inr (hchild.mpr hequivalent))⟩,
              hmembers⟩

/-- Documents are redacted alike exactly when they are equivalent. -/
theorem redactSensitiveValues_eq_iff {first second : Json} :
    redactSensitiveValues first = redactSensitiveValues second ↔
      Equivalent first second := by
  induction first generalizing second with
  | null | bool _ | number _ | string _ =>
      constructor
      · intro h
        cases second <;> simp at h
        subst_vars
        constructor
      · rintro ⟨⟩
        rfl
  | array items ih =>
      cases second with
      | array items' =>
          rw [redactSensitiveValues_array, redactSensitiveValues_array,
            Json.array.injEq, items_eq_iff fun item hitem _ => ih item hitem]
          constructor
          · exact .array
          · rintro ⟨⟩
            assumption
      | _ => exact iff_of_false (by simp) (by rintro ⟨⟩)
  | object members ih =>
      cases second with
      | object members' =>
          rw [redactSensitiveValues_object, redactSensitiveValues_object,
            Json.object.injEq, members_eq_iff fun member hmember _ => ih member hmember]
          constructor
          · exact .object
          · rintro ⟨⟩
            assumption
      | _ => exact iff_of_false (by simp) (by rintro ⟨⟩)

/-- A redacted document is redacted already. -/
theorem redactSensitiveValues_again (document : Json) :
    redactSensitiveValues (redactSensitiveValues document) =
      redactSensitiveValues document := by
  induction document with
  | null | bool _ | number _ | string _ => simp
  | array items ih =>
      simp only [redactSensitiveValues_array, List.map_map, Json.array.injEq]
      exact List.map_congr_left ih
  | object members ih =>
      simp only [redactSensitiveValues_object, List.map_map, Json.object.injEq]
      apply List.map_congr_left
      intro member hmember
      by_cases hsensitive : isSensitiveKey member.1 = true
      · simp [redactedMember, hsensitive]
      · simp [redactedMember, hsensitive, ih member hmember]

/-- The diagnostics are a function of the snapshot. -/
theorem operatorDiagnostics_of_snapshot {host : Host} {config config' : RemoteConfig}
    {options : DiagnosticsOptions}
    (h : operatorSnapshot host config options = operatorSnapshot host config' options) :
    operatorDiagnostics host config options =
      operatorDiagnostics host config' options := by
  apply Subtype.ext
  exact congrArg (fun snapshot =>
    redactSensitiveValues (Value.ofJson snapshot.toJson).toJson) h

/-- The diagnostics show nothing of what stands below a sensitive member, nor of
the text of the credential placeholder, and everything else. -/
theorem diagnostics_noninterfering :
    (∀ first second : Json,
        redactSensitiveValues first = redactSensitiveValues second ↔
          Equivalent first second) ∧
      (∀ first second : Json,
        (redactSensitiveValues first).sorted = (redactSensitiveValues second).sorted ↔
          Equivalent first.sorted second.sorted) ∧
      (∀ document : Json, Equivalent (redactSensitiveValues document) document ∧
        redactSensitiveValues (redactSensitiveValues document) =
          redactSensitiveValues document) ∧
      ∀ (host : Host) (config : RemoteConfig) (options : DiagnosticsOptions)
        (text text' : String),
        operatorDiagnostics host { config with credentialPlaceholder := some text }
            options =
          operatorDiagnostics host { config with credentialPlaceholder := some text' }
            options := by
  refine ⟨fun _ _ => redactSensitiveValues_eq_iff, ?_, ?_, ?_⟩
  · intro first second
    rw [← redactSensitiveValues_sorted, ← redactSensitiveValues_sorted]
    exact redactSensitiveValues_eq_iff
  · intro document
    have hagain := redactSensitiveValues_again document
    exact ⟨redactSensitiveValues_eq_iff.mp hagain, hagain⟩
  · intro host config options text text'
    exact operatorDiagnostics_of_snapshot rfl

end Diagnostics

end RemoteRunner
