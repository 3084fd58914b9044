/-
Texts joined by a separator that the parts themselves may contain.  Two joined
texts agree only when their parts do or when one part reaches across the
separator of the other; the same analysis decides when one joined path lies
inside another.
-/
import Mathlib.Data.List.Infix
import Mathlib.Data.String.Basic

namespace RemoteRunner

universe u

section Lists

variable {α : Type u} {separator : α}

/-- Where two joined lists agree, the separators stand at one place or one
front part contains the separator of the other. -/
theorem joined_eq_joined_iff {front back front' back' : List α} :
    front ++ separator :: back = front' ++ separator :: back' ↔
      (front = front' ∧ back = back') ∨
        (∃ moved, front' = front ++ separator :: moved ∧
          back = moved ++ separator :: back') ∨
        ∃ moved, front = front' ++ separator :: moved ∧
          back' = moved ++ separator :: back := by
  rw [List.append_eq_append_iff]
  constructor
  · intro hmoves
    rcases hmoves with ⟨extra, rfl, hback⟩ | ⟨extra, rfl, hback⟩
    · rcases extra with _ | ⟨head, moved⟩
      · exact Or.inl ⟨by simp, by simpa using hback⟩
      · obtain ⟨rfl, rfl⟩ := List.cons.inj hback
        exact Or.inr (Or.inl ⟨moved, rfl, rfl⟩)
    · rcases extra with _ | ⟨head, moved⟩
      · exact Or.inl ⟨by simp, by simpa using hback.symm⟩
      · obtain ⟨rfl, rfl⟩ := List.cons.inj hback
        exact Or.inr (Or.inr ⟨moved, rfl, rfl⟩)
  · intro hmoves
    rcases hmoves with ⟨rfl, rfl⟩ | ⟨moved, rfl, rfl⟩ | ⟨moved, rfl, rfl⟩
    · exact Or.inl ⟨[], by simp⟩
    · exact Or.inl ⟨separator :: moved, rfl, rfl⟩
    · exact Or.inr ⟨separator :: moved, rfl, rfl⟩

end Lists

/-- Two texts with the separator between them. -/
def joinText (separator : Char) (front back : String) : String :=
  front ++ String.singleton separator ++ back

theorem toList_joinText (separator : Char) (front back : String) :
    (joinText separator front back).toList =
      front.toList ++ separator :: back.toList := by
  simp [joinText]

theorem toList_eq_joined_iff {separator : Char} {text front : String}
    {back : List Char} :
    text.toList = front.toList ++ separator :: back ↔
      text = joinText separator front (String.ofList back) := by
  rw [← String.toList_inj, toList_joinText, String.toList_ofList]

/-- Where two joined texts agree, their parts do, or one front part is the
other extended by the separator and text moved over from the back part. -/
theorem joinText_eq_joinText_iff {separator : Char}
    {front back front' back' : String} :
    joinText separator front back = joinText separator front' back' ↔
      (front = front' ∧ back = back') ∨
        (∃ moved, front' = joinText separator front moved ∧
          back = joinText separator moved back') ∨
        ∃ moved, front = joinText separator front' moved ∧
          back' = joinText separator moved back := by
  have hmoved : ∀ {text front back back' : String},
      (∃ moved, text.toList = front.toList ++ separator :: moved ∧
        back.toList = moved ++ separator :: back'.toList) ↔
      ∃ moved, text = joinText separator front moved ∧
        back = joinText separator moved back' := by
    intro text front back back'
    constructor
    · intro hmoves
      obtain ⟨moved, htext, hback⟩ := hmoves
      refine ⟨String.ofList moved, toList_eq_joined_iff.mp htext, ?_⟩
      rw [← String.toList_inj, toList_joinText, String.toList_ofList]
      exact hback
    · intro hmoves
      obtain ⟨moved, rfl, rfl⟩ := hmoves
      exact ⟨moved.toList, toList_joinText _ _ _, toList_joinText _ _ _⟩
  rw [← String.toList_inj, toList_joinText, toList_joinText, joined_eq_joined_iff,
    String.toList_inj, String.toList_inj, hmoved, hmoved]

theorem joinText_assoc (separator : Char) (front middle back : String) :
    joinText separator (joinText separator front middle) back =
      joinText separator front (joinText separator middle back) := by
  rw [← String.toList_inj]
  simp [toList_joinText]

theorem ne_joinText_self {separator : Char} {text moved : String} :
    text ≠ joinText separator text moved := by
  intro h
  have hlength := congrArg (fun text => text.toList.length) h
  simp only [toList_joinText, List.length_append, List.length_cons] at hlength
  omega

theorem separator_mem_joinText (separator : Char) (front back : String) :
    separator ∈ (joinText separator front back).toList := by
  simp [toList_joinText]

/-! ### Containment of paths -/

/-- The inner path is the outer one or lies below it. -/
def Within (separator : Char) (outer inner : String) : Prop :=
  inner = outer ∨ ∃ rest, inner = joinText separator outer rest

/-- One joined path lies inside another when the fronts agree and the backs do
so, or one front lies below the other and the rest of it leads there. -/
theorem within_joinText_iff {separator : Char} {front back front' back' : String} :
    Within separator (joinText separator front back)
        (joinText separator front' back') ↔
      (front' = front ∧ Within separator back back') ∨
        (∃ moved, front' = joinText separator front moved ∧
          Within separator back (joinText separator moved back')) ∨
        ∃ moved, front = joinText separator front' moved ∧
          Within separator (joinText separator moved back) back' := by
  constructor
  · intro hwithin
    rcases hwithin with h | ⟨rest, h⟩
    · rcases joinText_eq_joinText_iff.mp h with
        ⟨hfront, hback⟩ | ⟨moved, hfront, hback⟩ | ⟨moved, hfront, hback⟩
      · exact Or.inl ⟨hfront, Or.inl hback⟩
      · exact Or.inr (Or.inr ⟨moved, hfront, Or.inl hback⟩)
      · exact Or.inr (Or.inl ⟨moved, hfront, Or.inl hback.symm⟩)
    · rw [joinText_assoc] at h
      rcases joinText_eq_joinText_iff.mp h with
        ⟨hfront, hback⟩ | ⟨moved, hfront, hback⟩ | ⟨moved, hfront, hback⟩
      · exact Or.inl ⟨hfront, Or.inr ⟨rest, hback⟩⟩
      · rw [← joinText_assoc] at hback
        exact Or.inr (Or.inr ⟨moved, hfront, Or.inr ⟨rest, hback⟩⟩)
      · exact Or.inr (Or.inl ⟨moved, hfront, Or.inr ⟨rest, hback.symm⟩⟩)
  · intro hwithin
    rcases hwithin with ⟨rfl, rfl | ⟨rest, rfl⟩⟩ | ⟨moved, rfl, hback | ⟨rest, hback⟩⟩ |
      ⟨moved, rfl, rfl | ⟨rest, rfl⟩⟩
    · exact Or.inl rfl
    · exact Or.inr ⟨rest, by rw [joinText_assoc]⟩
    · exact Or.inl (by rw [joinText_assoc, hback])
    · exact Or.inr ⟨rest, by rw [joinText_assoc, joinText_assoc, hback]⟩
    · exact Or.inl (by rw [joinText_assoc])
    · exact Or.inr ⟨rest, by simp only [joinText_assoc]⟩

theorem within_joinText_left_iff {separator : Char} {front back back' : String} :
    Within separator (joinText separator front back) (joinText separator front back') ↔
      Within separator back back' := by
  rw [within_joinText_iff]
  constructor
  · intro hcases
    rcases hcases with ⟨_, hback⟩ | ⟨moved, hfront, _⟩ | ⟨moved, hfront, _⟩
    · exact hback
    · exact absurd hfront ne_joinText_self
    · exact absurd hfront ne_joinText_self
  · intro hback
    exact Or.inl ⟨rfl, hback⟩

/-- A text without the separator has nothing but itself in front of it. -/
theorem not_within_segment {separator : Char} {segment front back : String}
    (h : separator ∉ segment.toList) :
    ¬Within separator (joinText separator front back) segment := by
  intro hwithin
  rcases hwithin with heq | ⟨rest, heq⟩
  · exact h (heq ▸ separator_mem_joinText separator front back)
  · exact h (heq ▸ separator_mem_joinText separator _ rest)

/-- Below a text without the separator lies a joined path whose front does. -/
theorem segment_within_joinText_iff {separator : Char} {segment front back : String}
    (h : separator ∉ segment.toList) :
    Within separator segment (joinText separator front back) ↔
      Within separator segment front := by
  constructor
  · intro hwithin
    rcases hwithin with heq | ⟨rest, heq⟩
    · exact absurd (heq ▸ separator_mem_joinText separator front back) h
    · rcases joinText_eq_joinText_iff.mp heq with
        ⟨hfront, _⟩ | ⟨moved, hsegment, _⟩ | ⟨moved, hfront, _⟩
      · exact Or.inl hfront
      · exact absurd (hsegment ▸ separator_mem_joinText separator front moved) h
      · exact Or.inr ⟨moved, hfront⟩
  · intro hwithin
    rcases hwithin with rfl | ⟨rest, rfl⟩
    · exact Or.inr ⟨back, rfl⟩
    · exact Or.inr ⟨_, joinText_assoc separator segment rest back⟩

end RemoteRunner
