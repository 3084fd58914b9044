/-
Reordering object members.  `Reorder` is the least congruent preorder that
contains the permutations of an object's members; on documents that name no
member twice it keeps the sorted form.
-/
import RemoteRunner.JsonTree

namespace RemoteRunner

open OrderedEntries

namespace Json

/-- One document is another with object members reordered, at any depth. -/
inductive Reorder : Json → Json → Prop
  | refl (document : Json) : Reorder document document
  | trans {first second third : Json} :
      Reorder first second → Reorder second third → Reorder first third
  | members {first second : List (String × Json)} :
      first.Perm second → Reorder (.object first) (.object second)
  | item (before : List Json) {first second : Json} (after : List Json) :
      Reorder first second →
        Reorder (.array (before ++ first :: after))
          (.array (before ++ second :: after))
  | member (before : List (String × Json)) (name : String)
      {first second : Json} (after : List (String × Json)) :
      Reorder first second →
        Reorder (.object (before ++ (name, first) :: after))
          (.object (before ++ (name, second) :: after))

/-- Replacing the value of one member keeps the names and, for the others,
the values. -/
theorem Distinct.replace_member {before after : List (String × Json)}
    {name : String} {first second : Json}
    (hdistinct : Distinct (.object (before ++ (name, first) :: after)))
    (hsecond : second.Distinct) :
    Distinct (.object (before ++ (name, second) :: after)) := by
  apply Distinct.object
  · simpa using hdistinct.names
  · intro member hmember
    rcases List.mem_append.mp hmember with hbefore | hafter
    · exact hdistinct.values member (List.mem_append_left _ hbefore)
    · rcases List.mem_cons.mp hafter with rfl | hafter
      · exact hsecond
      · apply hdistinct.values member
        exact List.mem_append_right _ (List.mem_cons_of_mem _ hafter)

theorem Distinct.replace_item {before after : List Json} {first second : Json}
    (hdistinct : Distinct (.array (before ++ first :: after)))
    (hsecond : second.Distinct) :
    Distinct (.array (before ++ second :: after)) := by
  apply Distinct.array
  intro item hitem
  rcases List.mem_append.mp hitem with hbefore | hafter
  · exact hdistinct.items item (List.mem_append_left _ hbefore)
  · rcases List.mem_cons.mp hafter with rfl | hafter
    · exact hsecond
    · apply hdistinct.items item
      exact List.mem_append_right _ (List.mem_cons_of_mem _ hafter)

theorem Reorder.distinct {first second : Json} (h : Reorder first second)
    (hdistinct : first.Distinct) : second.Distinct := by
  induction h with
  | refl document => exact hdistinct
  | trans _ _ ihFirst ihSecond => exact ihSecond (ihFirst hdistinct)
  | members hperm =>
      apply Distinct.object
      · exact (hperm.map Prod.fst).nodup_iff.mp hdistinct.names
      · intro member hmember
        exact hdistinct.values member (hperm.mem_iff.mpr hmember)
  | item before after _ ih =>
      exact hdistinct.replace_item (ih (hdistinct.items _ (by simp)))
  | member before name after _ ih =>
      exact hdistinct.replace_member
        (ih (hdistinct.values (name, _) (by simp)))

/-- Reordering members does not change the sorted form. -/
theorem Reorder.sorted_eq {first second : Json} (h : Reorder first second)
    (hdistinct : first.Distinct) : first.sorted = second.sorted := by
  induction h with
  | refl document => rfl
  | trans hfirst _ ihFirst ihSecond =>
      exact (ihFirst hdistinct).trans (ihSecond (hfirst.distinct hdistinct))
  | members hperm =>
      rw [sorted_object_eq_iff]
      intro name
      rw [occurrences_eq_of_perm hdistinct.names hperm name]
  | item before after _ ih =>
      have hitem := ih (hdistinct.items _ (by simp))
      simp [hitem]
  | member before name after _ ih =>
      have hvalue := ih (hdistinct.values (name, _) (by simp))
      simp [hvalue]

theorem Reorder.symm {first second : Json} (h : Reorder first second) :
    Reorder second first := by
  induction h with
  | refl document => exact Reorder.refl document
  | trans _ _ ihFirst ihSecond => exact ihSecond.trans ihFirst
  | members hperm => exact Reorder.members hperm.symm
  | item before after _ ih => exact Reorder.item before after ih
  | member before name after _ ih => exact Reorder.member before name after ih

/-- Items may be reordered one after the other, behind those already done. -/
theorem Reorder.map_items (f : Json → Json) (before : List Json) {items : List Json}
    (h : ∀ item ∈ items, Reorder item (f item)) :
    Reorder (.array (before ++ items)) (.array (before ++ items.map f)) := by
  induction items generalizing before with
  | nil => exact Reorder.refl _
  | cons item items ih =>
      have hitem := Reorder.item before items (h item (by simp))
      have hrest := ih (before ++ [f item])
        (fun other hother => h other (List.mem_cons_of_mem _ hother))
      simp only [List.append_assoc, List.singleton_append] at hrest
      exact hitem.trans hrest

theorem Reorder.map_members (f : Json → Json) (before : List (String × Json))
    {members : List (String × Json)}
    (h : ∀ member ∈ members, Reorder member.2 (f member.2)) :
    Reorder (.object (before ++ members))
      (.object (before ++ members.map fun member => (member.1, f member.2))) := by
  induction members generalizing before with
  | nil => exact Reorder.refl _
  | cons member members ih =>
      have hmember := Reorder.member before member.1 members (h member (by simp))
      have hrest := ih (before ++ [(member.1, f member.2)])
        (fun other hother => h other (List.mem_cons_of_mem _ hother))
      simp only [List.append_assoc, List.singleton_append] at hrest
      exact hmember.trans hrest

/-- Sorting a document that names no member twice only reorders members. -/
theorem Distinct.reorder_sorted {document : Json} (h : document.Distinct) :
    Reorder document document.sorted := by
  induction h with
  | null | bool _ | number _ | string _ => exact Reorder.refl _
  | array _ ih =>
      rw [sorted_array]
      exact Reorder.map_items sorted [] ih
  | @object members names_nodup _ ih =>
      have hvalues := Reorder.map_members sorted [] ih
      have hnames : ((members.map fun member => (member.1, member.2.sorted)).map
          Prod.fst).Nodup := by
        simpa [Function.comp_def] using names_nodup
      rw [sorted_object]
      exact hvalues.trans (Reorder.members (collect_perm hnames).symm)

/-- The sorted form decides whether one document is the other reordered. -/
theorem sorted_eq_sorted_iff {first second : Json} (hfirst : first.Distinct)
    (hsecond : second.Distinct) :
    first.sorted = second.sorted ↔ Reorder first second := by
  constructor
  · intro h
    have hback := hsecond.reorder_sorted.symm
    rw [← h] at hback
    exact hfirst.reorder_sorted.trans hback
  · intro h
    exact h.sorted_eq hfirst

end Json

end RemoteRunner
