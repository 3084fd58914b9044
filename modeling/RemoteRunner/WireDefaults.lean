/-
Members with defaults, and the documents of a configuration format: a format
without null, whose enumerations may also be written as a one-member table.
Where a record is read from an object or an array, one entry of it is a member
by name or an item by position.
-/
import RemoteRunner.WireScalars
import RemoteRunner.WireRecord

namespace RemoteRunner

open OrderedEntries

variable {α β : Type}

namespace WireField

/-- A member with a default; `omits` says whether a member of this name is left
out when it has its default. -/
def withDefault [DecidableEq α] (omits : String → Bool) (name : String)
    (codec : Codec α) (default : α) : WireField α where
  name := name
  codec := codec
  absent := some default
  defaulted := some default
  skip value := omits name && decide (value = default)
  absent_of_skip value h := by
    rw [Bool.and_eq_true, decide_eq_true_iff] at h
    rw [h.2]

/-- An option member in a format without null. -/
def omittedIfNone (name : String) (codec : Codec α)
    (decode_null : codec.decode .null = none) : WireField (Option α) where
  name := name
  codec := codec.option decode_null
  absent := some none
  defaulted := none
  skip := Option.isNone
  absent_of_skip := (skippedIfNone name codec decode_null).absent_of_skip

end WireField

theorem OrderedEntries.collect_eq_nil_iff {entries : List (String × β)} :
    collect entries = [] ↔ entries = [] := by
  constructor
  · intro h
    apply List.eq_nil_iff_forall_not_mem.mpr
    intro entry hmem
    have hlast := congrArg (occurrences entry.1) h
    rw [occurrences_collect] at hlast
    have hne : occurrences entry.1 entries ≠ [] := by
      intro hnil
      exact occurrences_eq_nil_iff.mp hnil (List.mem_map_of_mem (f := Prod.fst) hmem)
    rw [List.getLast?_eq_some_getLast hne] at hlast
    cases hlast
  · rintro rfl
    rfl

namespace Json

/-- An object without members or an array without items. -/
def isEmpty : Json → Bool
  | .object [] => true
  | .array [] => true
  | _ => false

theorem isEmpty_sorted (document : Json) : document.sorted.isEmpty = document.isEmpty := by
  cases document with
  | object members =>
      have hmembers : (collect (members.map fun member =>
          (member.1, member.2.sorted))) = [] ↔ members = [] := by
        rw [collect_eq_nil_iff, List.map_eq_nil_iff]
      rw [sorted_object]
      by_cases hnil : members = []
      · rw [hmembers.mpr hnil, hnil]
      · have hcollected := mt hmembers.mp hnil
        simp [isEmpty, hnil, hcollected]
  | array items => cases items <;> simp [isEmpty]
  | _ => simp

/-- The member of an object with this name, or the item of an array at this
position. -/
def entry (document : Json) (name : String) (position : Nat) : Option Json :=
  match document with
  | .object members => (occurrences name members).head?
  | .array items => items[position]?
  | _ => none

/-- An array without its first items; an object keeps its members. -/
def behind (document : Json) (count : Nat) : Json :=
  match document with
  | .array items => .array (items.drop count)
  | document => document

theorem behind_zero (document : Json) : document.behind 0 = document := by
  cases document <;> rfl

theorem behind_behind (document : Json) (first second : Nat) :
    (document.behind first).behind second = document.behind (first + second) := by
  cases document <;> simp [behind]

theorem entry_behind (document : Json) (name : String) (count : Nat) :
    (document.behind count).entry name 0 = document.entry name count := by
  cases document <;> simp [behind, entry]

end Json

namespace WireField

/-- Read the field from the front of an array or by its name. -/
def take (field : WireField α) : Json → Option α
  | .object members => field.decode members
  | .array items => (field.decodeItem items).map Prod.fst
  | _ => none

theorem left_eq_drop {field : WireField α} {items left : List Json} {value : α}
    (h : field.decodeItem items = some (value, left)) : left = items.drop 1 := by
  cases items with
  | nil =>
      obtain ⟨_, _, heq⟩ := Option.map_eq_some_iff.mp h
      exact (Prod.mk.inj heq).2.symm
  | cons item items =>
      obtain ⟨_, _, heq⟩ := Option.map_eq_some_iff.mp h
      exact (Prod.mk.inj heq).2.symm

/-- A field that is read has an entry to read, or it has its default. -/
theorem take_behind {field : WireField α} {document : Json} {position : Nat} {value : α}
    (h : field.take (document.behind position) = some value) :
    (field.absent = some value ∨ field.defaulted = some value) ∨
      ∃ source, document.entry field.name position = some source ∧
        field.codec.decode source = some value := by
  cases document with
  | object members =>
      change field.decode members = some value at h
      rw [decode] at h
      rcases hocc : occurrences field.name members with _ | ⟨source, _ | ⟨_, _⟩⟩ <;>
        rw [hocc] at h
      · exact Or.inl (Or.inl h)
      · have hentry : (Json.object members).entry field.name position = some source := by
          rw [Json.entry, hocc]
          rfl
        exact Or.inr ⟨source, hentry, h⟩
      · cases h
  | array items =>
      obtain ⟨⟨_, left⟩, hitem, rfl⟩ := Option.map_eq_some_iff.mp h
      rcases hleft : items.drop position with _ | ⟨source, others⟩ <;>
        rw [hleft] at hitem
      · obtain ⟨_, hdefault, heq⟩ := Option.map_eq_some_iff.mp hitem
        obtain ⟨rfl, _⟩ := Prod.mk.inj heq
        exact Or.inl (Or.inr hdefault)
      · obtain ⟨_, hsource, heq⟩ := Option.map_eq_some_iff.mp hitem
        obtain ⟨rfl, _⟩ := Prod.mk.inj heq
        have hentry : items[position]? = some source := by
          rw [← List.head?_drop, hleft]
          rfl
        exact Or.inr ⟨source, hentry, hsource⟩
  | _ => cases h

end WireField

namespace WireField

theorem required_entry {name : String} {codec : Codec α} {document : Json}
    {position : Nat} {value : α}
    (h : (required name codec).take (document.behind position) = some value) :
    ∃ source, document.entry name position = some source ∧
      codec.decode source = some value := by
  rcases take_behind h with (habsent | hdefault) | hentry
  · cases habsent
  · cases hdefault
  · exact hentry

/-- What differs from its default is in the document. -/
theorem withDefault_entry [DecidableEq α] {omits : String → Bool} {name : String}
    {codec : Codec α} {default : α} {document : Json} {position : Nat} {value : α}
    (h : (withDefault omits name codec default).take (document.behind position) =
      some value) (hne : value ≠ default) :
    ∃ source, document.entry name position = some source ∧
      codec.decode source = some value := by
  rcases take_behind h with (habsent | hdefault) | hentry
  · exact absurd (Option.some.inj habsent).symm hne
  · exact absurd (Option.some.inj hdefault).symm hne
  · exact hentry

end WireField

namespace Codec

/-- Every value of a list is read from an item. -/
theorem vec_item {codec : Codec α} {document : Json} {values : List α} {value : α}
    (h : codec.vec.decode document = some values) (hmem : value ∈ values) :
    ∃ items item, document = .array items ∧ item ∈ items ∧
      codec.decode item = some value := by
  cases document with
  | array items =>
      change items.mapM codec.decode = some values at h
      suffices hitem : ∃ item ∈ items, codec.decode item = some value by
        obtain ⟨item, hitem, hvalue⟩ := hitem
        exact ⟨items, item, rfl, hitem, hvalue⟩
      induction items generalizing values with
      | nil =>
          obtain rfl := Option.some.inj h
          cases hmem
      | cons item items ih =>
          simp only [List.mapM_cons, Option.bind_eq_bind, Option.bind_eq_some_iff,
            Option.pure_def, Option.some.injEq] at h
          obtain ⟨first, hfirst, rest, hrest, rfl⟩ := h
          rcases List.mem_cons.mp hmem with rfl | htail
          · exact ⟨item, List.mem_cons_self, hfirst⟩
          · obtain ⟨other, hother, hvalue⟩ := ih htail hrest
            exact ⟨other, List.mem_cons_of_mem item hother, hvalue⟩
  | _ => cases h

theorem string_decode_eq_some_iff {document : Json} {text : String} :
    string.decode document = some text ↔ document = .string text := by
  cases document <;> simp [string, scalar]

theorem bool_decode_eq_some_iff {document : Json} {value : Bool} :
    bool.decode document = some value ↔ document = .bool value := by
  cases document <;> simp [bool, scalar]

end Codec

namespace WireRecord

/-- A record is read field by field. -/
theorem toCodec_cons_eq_some_iff {field : WireField α} {rest : WireRecord β}
    {fresh : field.name ∉ rest.names} {document : Json} {value : α} {values : β} :
    (cons field rest fresh).toCodec.decode document = some (value, values) ↔
      field.take document = some value ∧
        rest.toCodec.decode (document.behind 1) = some values := by
  cases document with
  | object members =>
      simp only [toCodec, cons, WireField.take, Json.behind, Option.bind_eq_bind,
        Option.bind_eq_some_iff, Option.pure_def, Option.some.injEq, Prod.mk.injEq]
      constructor
      · rintro ⟨_, hvalue, _, hvalues, rfl, rfl⟩
        exact ⟨hvalue, hvalues⟩
      · rintro ⟨hvalue, hvalues⟩
        exact ⟨value, hvalue, values, hvalues, rfl, rfl⟩
  | array items =>
      simp only [toCodec, cons, WireField.take, Json.behind, Option.bind_eq_bind,
        Option.bind_eq_some_iff, Option.pure_def, Option.some.injEq, Prod.mk.injEq,
        Option.map_eq_some_iff, Prod.exists]
      constructor
      · rintro ⟨_, left, hitem, _, hvalues, rfl, rfl⟩
        rw [WireField.left_eq_drop hitem] at hvalues
        exact ⟨⟨_, left, hitem, rfl⟩, hvalues⟩
      · rintro ⟨⟨_, left, hitem, rfl⟩, hvalues⟩
        rw [← WireField.left_eq_drop hitem] at hvalues
        exact ⟨_, left, hitem, values, hvalues, rfl, rfl⟩
  | _ => simp [toCodec, WireField.take]

end WireRecord

namespace Codec

/-- The variant a document names: a string, or the one member of a table, whose
own value is empty. -/
def tableVariant : Json → Option String
  | .string text => some text
  | .object [(text, value)] => if value.isEmpty then some text else none
  | _ => none

theorem tableVariant_sorted {document : Json} (h : document.Distinct) :
    tableVariant document.sorted = tableVariant document := by
  cases document with
  | object members =>
      have hnodup : ((members.map fun member =>
          (member.1, member.2.sorted)).map Prod.fst).Nodup := by
        simpa [Function.comp_def] using h.names
      have hperm := collect_perm hnodup
      rw [Json.sorted_object]
      rcases members with _ | ⟨⟨text, value⟩, _ | ⟨second, rest⟩⟩
      · rfl
      · rw [List.perm_singleton.mp hperm]
        simp only [tableVariant, value.isEmpty_sorted]
      · have hlength := hperm.length_eq
        generalize (collect (((text, value) :: second :: rest).map fun member =>
          (member.1, member.2.sorted)) : List (String × Json)) = collected at hlength ⊢
        rcases collected with _ | ⟨first, _ | ⟨other, left⟩⟩
        · cases hlength
        · cases hlength
        · rfl
  | array items => simp [tableVariant]
  | _ => simp

/-- An enumeration whose variants may also be written as tables. -/
def tableEnumeration [DecidableEq α] (variants : List α) (name : α → String)
    (complete : ∀ variant, variant ∈ variants)
    (name_injective : ∀ first second, name first = name second → first = second) :
    Codec α where
  encode variant := .string (name variant)
  decode document := (tableVariant document).bind fun text =>
    variants.find? fun variant => name variant = text
  prune document := document
  Written document := ∃ text, document = .string text
  decode_encode :=
    (enumeration variants name complete name_injective).decode_encode
  encode_distinct :=
    (enumeration variants name complete name_injective).encode_distinct
  decode_sorted document h := by rw [tableVariant_sorted h]
  decode_prune _ := rfl
  prune_eq_null_iff :=
    (enumeration variants name complete name_injective).prune_eq_null_iff
  written_iff document variant h := by
    constructor
    · rintro ⟨text, rfl⟩
      have hname : name variant = text := by simpa using List.find?_some h
      rw [hname]
    · intro hsorted
      rw [Json.sorted_string] at hsorted
      have hscalar : document.sorted = document := by
        apply Json.eq_of_sorted_isScalar
        rw [hsorted]
        trivial
      exact ⟨name variant, hscalar.symm.trans hsorted⟩

end Codec

end RemoteRunner
