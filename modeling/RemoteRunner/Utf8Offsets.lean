/-
Byte offsets into a text.  A slice at an offset past the end or inside a
character does not exist.
-/
import Mathlib.Data.List.TakeWhile

namespace RemoteRunner

/-- The length of a text in UTF-8. -/
def byteLength : List Char → Nat
  | [] => 0
  | c :: text => c.utf8Size + byteLength text

def sliceFrom : List Char → Nat → Option (List Char)
  | text, 0 => some text
  | [], _ + 1 => none
  | c :: text, start + 1 =>
      if c.utf8Size ≤ start + 1 then sliceFrom text (start + 1 - c.utf8Size) else none

def sliceTo : List Char → Nat → Option (List Char)
  | _, 0 => some []
  | [], _ + 1 => none
  | c :: text, stop + 1 =>
      if c.utf8Size ≤ stop + 1 then (sliceTo text (stop + 1 - c.utf8Size)).map (c :: ·)
      else none

def slice (text : List Char) (start stop : Nat) : Option (List Char) :=
  if start ≤ stop then (sliceFrom text start).bind (sliceTo · (stop - start)) else none

/-- The characters of a text with their offsets, counted on from a first one. -/
def charIndices : Nat → List Char → List (Nat × Char)
  | _, [] => []
  | offset, c :: text => (offset, c) :: charIndices (offset + c.utf8Size) text

@[simp] theorem byteLength_nil : byteLength [] = 0 := rfl

@[simp] theorem byteLength_cons (c : Char) (text : List Char) :
    byteLength (c :: text) = c.utf8Size + byteLength text := rfl

@[simp] theorem byteLength_append (front rest : List Char) :
    byteLength (front ++ rest) = byteLength front + byteLength rest := by
  induction front with
  | nil => exact (Nat.zero_add _).symm
  | cons c front ih => rw [List.cons_append, byteLength_cons, byteLength_cons, ih, Nat.add_assoc]

theorem byteLength_pos {text : List Char} (h : text ≠ []) : 0 < byteLength text := by
  obtain ⟨c, rest, rfl⟩ := List.exists_cons_of_ne_nil h
  rw [byteLength_cons]
  exact Nat.add_pos_left c.utf8Size_pos _

theorem length_le_byteLength (text : List Char) : text.length ≤ byteLength text := by
  induction text with
  | nil => exact Nat.le_refl 0
  | cons c text ih =>
      rw [List.length_cons, byteLength_cons, Nat.add_comm]
      exact Nat.add_le_add c.utf8Size_pos ih

theorem utf8ByteSize_ofList (text : List Char) :
    (String.ofList text).utf8ByteSize = byteLength text := by
  induction text with
  | nil => rfl
  | cons c text ih =>
      rw [String.ofList_cons, String.utf8ByteSize_append, String.utf8ByteSize_singleton, ih,
        byteLength_cons]

theorem sliceFrom_cons (c : Char) (text : List Char) (offset : Nat) :
    sliceFrom (c :: text) (c.utf8Size + offset) = sliceFrom text offset := by
  obtain ⟨size, hsize⟩ := Nat.exists_eq_add_of_le' c.utf8Size_pos
  have hsum : c.utf8Size + offset = size + offset + 1 := by omega
  have hrest : size + offset + 1 - c.utf8Size = offset := by omega
  rw [hsum, sliceFrom, if_pos (by omega), hrest]

theorem sliceTo_cons (c : Char) (text : List Char) (offset : Nat) :
    sliceTo (c :: text) (c.utf8Size + offset) = (sliceTo text offset).map (c :: ·) := by
  obtain ⟨size, hsize⟩ := Nat.exists_eq_add_of_le' c.utf8Size_pos
  have hsum : c.utf8Size + offset = size + offset + 1 := by omega
  have hrest : size + offset + 1 - c.utf8Size = offset := by omega
  rw [hsum, sliceTo, if_pos (by omega), hrest]

/-- The slice behind a front part is the rest. -/
@[simp] theorem sliceFrom_append (front rest : List Char) :
    sliceFrom (front ++ rest) (byteLength front) = some rest := by
  induction front with
  | nil => cases rest <;> rfl
  | cons c front ih => rw [List.cons_append, byteLength_cons, sliceFrom_cons, ih]

@[simp] theorem sliceTo_append (front rest : List Char) :
    sliceTo (front ++ rest) (byteLength front) = some front := by
  induction front with
  | nil => cases rest <;> rfl
  | cons c front ih => rw [List.cons_append, byteLength_cons, sliceTo_cons, ih, Option.map_some]

/-- A middle part is the slice between its two offsets. -/
theorem slice_append (front middle rest : List Char) :
    slice (front ++ (middle ++ rest)) (byteLength front)
      (byteLength front + byteLength middle) = some middle := by
  rw [slice, if_pos (Nat.le_add_right _ _), sliceFrom_append, Option.bind_some,
    Nat.add_sub_cancel_left, sliceTo_append]

/-- A run is the slice from where it begins to where it ends. -/
theorem slice_run (p : Char → Bool) (front text : List Char) :
    slice (front ++ text) (byteLength front)
      (byteLength front + byteLength (text.takeWhile p)) = some (text.takeWhile p) := by
  have hslice := slice_append front (text.takeWhile p) (text.dropWhile p)
  rw [List.takeWhile_append_dropWhile] at hslice
  exact hslice

/-- The first character outside a class stands where the run of the class
ends. -/
theorem findSome?_charIndices (p : Char → Bool) (start offset : Nat)
    (text : List Char) :
    ((charIndices offset text).findSome? fun entry =>
        if p entry.2 then none else some (start + entry.1)).getD
          (start + (offset + byteLength text)) =
      start + (offset + byteLength (text.takeWhile p)) := by
  induction text generalizing offset with
  | nil => rfl
  | cons c text ih =>
      rw [charIndices, List.findSome?_cons]
      by_cases hclass : p c = true
      · simp only [hclass, if_true, List.takeWhile_cons_of_pos hclass, byteLength_cons,
          ← Nat.add_assoc offset]
        exact ih (offset + c.utf8Size)
      · simp [hclass]

end RemoteRunner
