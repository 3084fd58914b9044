/-
The texts of a JSON document: its strings and the names of its members, listed
and rewritten.
-/
import RemoteRunner.JsonTree

namespace RemoteRunner

open OrderedEntries

namespace Json

mutual

/-- Every string and member name of the document, at any depth. -/
def texts : Json → List String
  | .string text => [text]
  | .array items => textsOfItems items
  | .object members => textsOfMembers members
  | _ => []

def textsOfItems : List Json → List String
  | [] => []
  | item :: items => item.texts ++ textsOfItems items

def textsOfMembers : List (String × Json) → List String
  | [] => []
  | (name, value) :: members => name :: value.texts ++ textsOfMembers members

end

@[simp] theorem texts_null : texts .null = [] := by simp [texts]

@[simp] theorem texts_bool (value : Bool) : texts (.bool value) = [] := by simp [texts]

@[simp] theorem texts_number (value : Number) : texts (.number value) = [] := by
  simp [texts]

@[simp] theorem texts_string (text : String) : texts (.string text) = [text] := by
  simp [texts]

@[simp] theorem texts_array (items : List Json) :
    texts (.array items) = items.flatMap texts := by
  rw [texts]
  induction items with
  | nil => rfl
  | cons item items ih => rw [textsOfItems, ih, List.flatMap_cons]

@[simp] theorem texts_object (members : List (String × Json)) :
    texts (.object members) = members.flatMap fun member => member.1 :: member.2.texts := by
  rw [texts]
  induction members with
  | nil => rfl
  | cons member members ih => rw [textsOfMembers, ih, List.flatMap_cons]

theorem distinct_array_iff {items : List Json} :
    Distinct (.array items) ↔ ∀ item ∈ items, item.Distinct :=
  ⟨Distinct.items, Distinct.array⟩

theorem distinct_object_iff {members : List (String × Json)} :
    Distinct (.object members) ↔
      (members.map Prod.fst).Nodup ∧ ∀ member ∈ members, member.2.Distinct :=
  ⟨fun h => ⟨h.names, h.values⟩, fun h => .object h.1 h.2⟩

/-- Sorting a document that names no member twice keeps its texts. -/
theorem mem_texts_sorted {document : Json} (h : document.Distinct) {text : String} :
    text ∈ document.sorted.texts ↔ text ∈ document.texts := by
  induction document with
  | null | bool _ | number _ | string _ => simp
  | array items ih =>
      simp only [sorted_array, texts_array, List.mem_flatMap, List.mem_map,
        exists_exists_and_eq_and]
      exact exists_congr fun item => and_congr_right fun hitem =>
        ih item hitem (h.items item hitem)
  | object members ih =>
      have hnodup : ((members.map fun member => (member.1, member.2.sorted)).map
          Prod.fst).Nodup := by
        rw [List.map_map]
        exact h.names
      simp only [sorted_object, texts_object, List.mem_flatMap,
        (collect_perm hnodup).mem_iff, List.mem_map, exists_exists_and_eq_and]
      refine exists_congr fun member => and_congr_right fun hmember => ?_
      rw [List.mem_cons, List.mem_cons, ih member hmember (h.values member hmember)]

mutual

/-- Every member name of the document, at any depth. -/
def memberNames : Json → List String
  | .array items => memberNamesOfItems items
  | .object members => memberNamesOfMembers members
  | _ => []

def memberNamesOfItems : List Json → List String
  | [] => []
  | item :: items => item.memberNames ++ memberNamesOfItems items

def memberNamesOfMembers : List (String × Json) → List String
  | [] => []
  | (name, value) :: members =>
      name :: value.memberNames ++ memberNamesOfMembers members

end

@[simp] theorem memberNames_null : memberNames .null = [] := by simp [memberNames]

@[simp] theorem memberNames_bool (value : Bool) : memberNames (.bool value) = [] := by
  simp [memberNames]

@[simp] theorem memberNames_number (value : Number) :
    memberNames (.number value) = [] := by
  simp [memberNames]

@[simp] theorem memberNames_string (text : String) :
    memberNames (.string text) = [] := by
  simp [memberNames]

@[simp] theorem memberNames_array (items : List Json) :
    memberNames (.array items) = items.flatMap memberNames := by
  rw [memberNames]
  induction items with
  | nil => rfl
  | cons item items ih => rw [memberNamesOfItems, ih, List.flatMap_cons]

@[simp] theorem memberNames_object (members : List (String × Json)) :
    memberNames (.object members) =
      members.flatMap fun member => member.1 :: member.2.memberNames := by
  rw [memberNames]
  induction members with
  | nil => rfl
  | cons member members ih => rw [memberNamesOfMembers, ih, List.flatMap_cons]

mutual

/-- Rewrite every member name and every string and leave the rest as it is. -/
def mapTexts (onName onString : String → String) : Json → Json
  | .string text => .string (onString text)
  | .array items => .array (mapTextsOfItems onName onString items)
  | .object members => .object (mapTextsOfMembers onName onString members)
  | other => other

def mapTextsOfItems (onName onString : String → String) : List Json → List Json
  | [] => []
  | item :: items =>
      item.mapTexts onName onString :: mapTextsOfItems onName onString items

def mapTextsOfMembers (onName onString : String → String) :
    List (String × Json) → List (String × Json)
  | [] => []
  | (name, value) :: members =>
      (onName name, value.mapTexts onName onString) ::
        mapTextsOfMembers onName onString members

end

section MapTexts

variable (onName onString : String → String)

@[simp] theorem mapTexts_null : mapTexts onName onString .null = .null := by
  simp [mapTexts]

@[simp] theorem mapTexts_bool (value : Bool) :
    mapTexts onName onString (.bool value) = .bool value := by
  simp [mapTexts]

@[simp] theorem mapTexts_number (value : Number) :
    mapTexts onName onString (.number value) = .number value := by
  simp [mapTexts]

@[simp] theorem mapTexts_string (text : String) :
    mapTexts onName onString (.string text) = .string (onString text) := by
  simp [mapTexts]

@[simp] theorem mapTexts_array (items : List Json) :
    mapTexts onName onString (.array items) =
      .array (items.map (mapTexts onName onString)) := by
  rw [mapTexts]
  induction items with
  | nil => rfl
  | cons item items ih => rw [mapTextsOfItems, List.map_cons, Json.array.inj ih]

@[simp] theorem mapTexts_object (members : List (String × Json)) :
    mapTexts onName onString (.object members) =
      .object (members.map fun member =>
        (onName member.1, member.2.mapTexts onName onString)) := by
  rw [mapTexts]
  induction members with
  | nil => rfl
  | cons member members ih =>
      rw [mapTextsOfMembers, List.map_cons, Json.object.inj ih]

variable {onName onString}

/-- Rewriting that makes every string good leaves the member names to decide
whether all texts are. -/
theorem forall_mem_texts_mapTexts_iff {Good : String → Prop}
    (hstring : ∀ text, Good (onString text)) (document : Json) :
    (∀ text ∈ (document.mapTexts onName onString).texts, Good text) ↔
      ∀ name ∈ document.memberNames, Good (onName name) := by
  induction document with
  | null | bool _ | number _ => simp
  | string text => simp [hstring]
  | array items ih =>
      simp only [mapTexts_array, texts_array, memberNames_array, List.forall_mem_flatMap,
        List.forall_mem_map]
      exact forall₂_congr ih
  | object members ih =>
      simp only [mapTexts_object, texts_object, memberNames_object,
        List.forall_mem_flatMap, List.forall_mem_map, List.forall_mem_cons]
      exact forall₂_congr fun member hmember =>
        and_congr_right fun _ => ih member hmember

end MapTexts

end Json

end RemoteRunner
