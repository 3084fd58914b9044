/-
JSON documents as trees.  An object is the list of its members in document
order; two documents denote the same value when one is the other with object
members reordered at any depth.  `Json.sorted` collects every object into an
ordered map and is a canonical form for this relation.
-/
import Mathlib.Data.String.Basic
import RemoteRunner.OrderedEntries

namespace RemoteRunner

open OrderedEntries

/-- A JSON number: an unsigned or a negative 64-bit integer, or a finite
binary64 value given by its bit pattern. -/
inductive Number where
  | posInt (value : UInt64)
  | negInt (value : Int64) (negative : value < 0)
  | float (bits : UInt64) (finite : bits &&& 0x7ff0000000000000 ≠ 0x7ff0000000000000)
deriving DecidableEq

inductive Json where
  | null
  | bool (value : Bool)
  | number (value : Number)
  | string (value : String)
  | array (items : List Json)
  | object (members : List (String × Json))

namespace Json

/-- Structural induction with membership hypotheses for nested values. -/
@[elab_as_elim, induction_eliminator]
theorem induct {motive : Json → Prop} (null : motive .null)
    (bool : ∀ value, motive (.bool value))
    (number : ∀ value, motive (.number value))
    (string : ∀ value, motive (.string value))
    (array : ∀ items, (∀ item ∈ items, motive item) → motive (.array items))
    (object : ∀ members : List (String × Json),
      (∀ member ∈ members, motive member.2) → motive (.object members))
    (document : Json) : motive document := by
  apply Json.rec (motive_1 := motive)
    (motive_2 := fun items => ∀ item ∈ items, motive item)
    (motive_3 := fun members => ∀ member ∈ members, motive member.2)
    (motive_4 := fun member => motive member.2)
  · exact null
  · exact bool
  · exact number
  · exact string
  · exact array
  · exact object
  · simp
  · intro item items hitem hitems
    simpa [hitem] using hitems
  · simp
  · intro member members hmember hmembers
    simpa [hmember] using hmembers
  · intro name value hvalue
    exact hvalue

mutual

/-- Decidable equality of documents, by recursion on both trees. -/
def decEqTree : (left right : Json) → Decidable (left = right)
  | .null, .null => isTrue rfl
  | .bool x, .bool y =>
      if h : x = y then isTrue (h ▸ rfl) else isFalse fun heq => h (by injection heq)
  | .number x, .number y =>
      if h : x = y then isTrue (h ▸ rfl) else isFalse fun heq => h (by injection heq)
  | .string x, .string y =>
      if h : x = y then isTrue (h ▸ rfl) else isFalse fun heq => h (by injection heq)
  | .array xs, .array ys =>
      match decEqItems xs ys with
      | isTrue h => isTrue (h ▸ rfl)
      | isFalse h => isFalse fun heq => h (by injection heq)
  | .object xs, .object ys =>
      match decEqMembers xs ys with
      | isTrue h => isTrue (h ▸ rfl)
      | isFalse h => isFalse fun heq => h (by injection heq)
  | .null, .bool _ | .null, .number _ | .null, .string _ | .null, .array _
  | .null, .object _ | .bool _, .null | .bool _, .number _ | .bool _, .string _
  | .bool _, .array _ | .bool _, .object _ | .number _, .null
  | .number _, .bool _ | .number _, .string _ | .number _, .array _
  | .number _, .object _ | .string _, .null | .string _, .bool _
  | .string _, .number _ | .string _, .array _ | .string _, .object _
  | .array _, .null | .array _, .bool _ | .array _, .number _
  | .array _, .string _ | .array _, .object _ | .object _, .null
  | .object _, .bool _ | .object _, .number _ | .object _, .string _
  | .object _, .array _ => isFalse nofun

def decEqItems : (left right : List Json) → Decidable (left = right)
  | [], [] => isTrue rfl
  | [], _ :: _ | _ :: _, [] => isFalse nofun
  | x :: xs, y :: ys =>
      match decEqTree x y, decEqItems xs ys with
      | isTrue h, isTrue hs => isTrue (h ▸ hs ▸ rfl)
      | isFalse h, _ => isFalse fun heq => h (by injection heq)
      | _, isFalse h => isFalse fun heq => h (by injection heq)

def decEqMembers : (left right : List (String × Json)) → Decidable (left = right)
  | [], [] => isTrue rfl
  | [], _ :: _ | _ :: _, [] => isFalse nofun
  | (name, x) :: xs, (name', y) :: ys =>
      match decEq name name', decEqTree x y, decEqMembers xs ys with
      | isTrue hname, isTrue h, isTrue hs => isTrue (hname ▸ h ▸ hs ▸ rfl)
      | isFalse h, _, _ => isFalse fun heq => h (by injection heq with h'; injection h')
      | _, isFalse h, _ => isFalse fun heq => h (by injection heq with h'; injection h')
      | _, _, isFalse h => isFalse fun heq => h (by injection heq)

end

instance : DecidableEq Json := decEqTree

mutual

/-- Collect every object of the document into an ordered map. -/
def sorted : Json → Json
  | .array items => .array (sortedItems items)
  | .object members => .object (collect (sortedMembers members))
  | other => other

def sortedItems : List Json → List Json
  | [] => []
  | item :: items => item.sorted :: sortedItems items

def sortedMembers : List (String × Json) → List (String × Json)
  | [] => []
  | (name, value) :: members => (name, value.sorted) :: sortedMembers members

end

theorem sortedItems_eq_map (items : List Json) :
    sortedItems items = items.map sorted := by
  induction items with
  | nil => rfl
  | cons item items ih => simp [sortedItems, ih]

theorem sortedMembers_eq_map (members : List (String × Json)) :
    sortedMembers members =
      members.map fun member => (member.1, member.2.sorted) := by
  induction members with
  | nil => rfl
  | cons member members ih => simp [sortedMembers, ih]

@[simp] theorem sorted_null : sorted .null = .null := by simp [sorted]

@[simp] theorem sorted_bool (value : Bool) :
    sorted (.bool value) = .bool value := by simp [sorted]

@[simp] theorem sorted_number (value : Number) :
    sorted (.number value) = .number value := by simp [sorted]

@[simp] theorem sorted_string (value : String) :
    sorted (.string value) = .string value := by simp [sorted]

@[simp] theorem sorted_array (items : List Json) :
    sorted (.array items) = .array (items.map sorted) := by
  simp [sorted, sortedItems_eq_map]

@[simp] theorem sorted_object (members : List (String × Json)) :
    sorted (.object members) =
      .object (collect (members.map fun member =>
        (member.1, member.2.sorted))) := by
  simp [sorted, sortedMembers_eq_map]

/-- The member of this name, in an object that names no member twice. -/
def get (document : Json) (name : String) : Option Json :=
  match document with
  | .object members => members.lookup name
  | _ => none

def asStr : Json → Option String
  | .string text => some text
  | _ => none

def asArray : Json → Option (List Json)
  | .array items => some items
  | _ => none

theorem asStr_eq_some_iff {document : Json} {text : String} :
    document.asStr = some text ↔ document = .string text := by
  cases document <;> simp [asStr]

theorem asArray_eq_some_iff {document : Json} {items : List Json} :
    document.asArray = some items ↔ document = .array items := by
  cases document <;> simp [asArray]

/-- No object of the document names a member twice. -/
inductive Distinct : Json → Prop
  | null : Distinct .null
  | bool (value : Bool) : Distinct (.bool value)
  | number (value : Number) : Distinct (.number value)
  | string (value : String) : Distinct (.string value)
  | array {items : List Json} (items_distinct : ∀ item ∈ items, Distinct item) :
      Distinct (.array items)
  | object {members : List (String × Json)}
      (names_nodup : (members.map Prod.fst).Nodup)
      (values_distinct : ∀ member ∈ members, Distinct member.2) :
      Distinct (.object members)

theorem Distinct.items {items : List Json} (h : Distinct (.array items)) :
    ∀ item ∈ items, item.Distinct := by
  cases h with
  | array items_distinct => exact items_distinct

theorem Distinct.names {members : List (String × Json)}
    (h : Distinct (.object members)) : (members.map Prod.fst).Nodup := by
  cases h with
  | object names_nodup _ => exact names_nodup

theorem Distinct.values {members : List (String × Json)}
    (h : Distinct (.object members)) :
    ∀ member ∈ members, member.2.Distinct := by
  cases h with
  | object _ values_distinct => exact values_distinct

/-- Every object of the document, at any depth, lists its members in strictly
ascending order of their names. -/
inductive Ordered : Json → Prop
  | null : Ordered .null
  | bool (value : Bool) : Ordered (.bool value)
  | number (value : Number) : Ordered (.number value)
  | string (value : String) : Ordered (.string value)
  | array {items : List Json} (items_ordered : ∀ item ∈ items, Ordered item) :
      Ordered (.array items)
  | object {members : List (String × Json)}
      (names_ascending : Ascending members)
      (values_ordered : ∀ member ∈ members, Ordered member.2) :
      Ordered (.object members)

theorem Ordered.distinct {document : Json} (h : document.Ordered) :
    document.Distinct := by
  induction h with
  | null => exact Distinct.null
  | bool value => exact Distinct.bool value
  | number value => exact Distinct.number value
  | string value => exact Distinct.string value
  | array _ ih => exact Distinct.array ih
  | object names_ascending _ ih => exact Distinct.object names_ascending.nodup ih

theorem sorted_ordered (document : Json) : document.sorted.Ordered := by
  induction document with
  | null => exact Ordered.null
  | bool value => exact Ordered.bool value
  | number value => exact Ordered.number value
  | string value => exact Ordered.string value
  | array items ih =>
      rw [sorted_array]
      apply Ordered.array
      intro item hitem
      obtain ⟨source, hsource, rfl⟩ := List.mem_map.mp hitem
      exact ih source hsource
  | object members ih =>
      rw [sorted_object]
      apply Ordered.object (collect_ascending _)
      intro member hmember
      obtain ⟨source, hsource, rfl⟩ :=
        List.mem_map.mp (mem_of_mem_collect hmember)
      exact ih source hsource

theorem sorted_distinct (document : Json) : document.sorted.Distinct :=
  document.sorted_ordered.distinct

/-- Sorting leaves an ordered document as it is. -/
theorem Ordered.sorted_eq {document : Json} (h : document.Ordered) :
    document.sorted = document := by
  induction h with
  | null | bool _ | number _ | string _ => simp
  | @array items _ ih =>
      have hitems : items.map sorted = items := by
        rw [List.map_congr_left ih, List.map_id']
      rw [sorted_array, hitems]
  | @object members names_ascending _ ih =>
      have hmembers : (members.map fun member => (member.1, member.2.sorted)) =
          members := by
        rw [List.map_congr_left (g := id) fun member hmember => by
          rw [ih member hmember, id], List.map_id]
      rw [sorted_object, hmembers, collect_eq_self names_ascending]

@[simp] theorem sorted_sorted (document : Json) :
    document.sorted.sorted = document.sorted :=
  document.sorted_ordered.sorted_eq

/-- Two objects have one sorted form exactly when the last value of every
name has one sorted form. -/
theorem sorted_object_eq_iff {first second : List (String × Json)} :
    sorted (.object first) = sorted (.object second) ↔
      ∀ name, (occurrences name first).getLast?.map sorted =
        (occurrences name second).getLast?.map sorted := by
  simp only [sorted_object, Json.object.injEq, collect_eq_collect_iff,
    occurrences_map_value, List.getLast?_map]

theorem occurrences_sorted {members : List (String × Json)} (name : String) :
    occurrences name (collect (members.map fun member =>
        (member.1, member.2.sorted))) =
      ((occurrences name members).getLast?.map sorted).toList := by
  rw [occurrences_collect, occurrences_map_value, List.getLast?_map]

end Json

end RemoteRunner
