/-
Codecs between typed values and JSON documents, composed the way derived
serialisation composes them: records field by field in declaration order,
unit enumerations by name, options as a value or null.  A codec carries the
laws its combinators preserve, so every record built here round trips, ignores
unknown members and reads objects independently of their member order.
-/
import RemoteRunner.JsonReorder

namespace RemoteRunner

open OrderedEntries

/-- A reader and writer of one type.  `prune` drops the members nobody reads;
`Written` holds of a document that is laid out as `encode` lays it out, up to
the order of object members. -/
structure Codec (α : Type) where
  encode : α → Json
  decode : Json → Option α
  prune : Json → Json
  Written : Json → Prop
  decode_encode : ∀ value, decode (encode value) = some value
  encode_distinct : ∀ value, (encode value).Distinct
  decode_sorted : ∀ document, document.Distinct →
    decode document.sorted = decode document
  decode_prune : ∀ document, decode (prune document) = decode document
  prune_eq_null_iff : ∀ document, prune document = .null ↔ document = .null
  written_iff : ∀ document value, decode document = some value →
    (Written document ↔ document.sorted = (encode value).sorted)

/-- Neither an array nor an object. -/
def Json.IsScalar : Json → Prop
  | .array _ | .object _ => False
  | _ => True

theorem Json.IsScalar.sorted_eq {document : Json} (h : document.IsScalar) :
    document.sorted = document := by
  cases document <;> simp_all [Json.IsScalar]

theorem Json.eq_of_sorted_isScalar {document : Json}
    (h : document.sorted.IsScalar) : document.sorted = document := by
  apply Json.IsScalar.sorted_eq
  cases document <;> simp_all [Json.IsScalar]

theorem Json.sorted_eq_null_iff {document : Json} :
    document.sorted = .null ↔ document = .null := by
  cases document <;> simp

theorem Json.IsScalar.distinct {document : Json} (h : document.IsScalar) :
    document.Distinct := by
  rw [← h.sorted_eq]
  exact Json.sorted_distinct document

namespace Codec

variable {α β : Type}

/-- Documents with one sorted form encode one value. -/
theorem encode_sorted_injective (codec : Codec α) {first second : α}
    (h : (codec.encode first).sorted = (codec.encode second).sorted) :
    first = second := by
  have hdecode := congrArg codec.decode h
  rw [codec.decode_sorted _ (codec.encode_distinct first),
    codec.decode_sorted _ (codec.encode_distinct second),
    codec.decode_encode, codec.decode_encode] at hdecode
  exact Option.some.inj hdecode

/-- A reordered encoding reads back as the encoded value. -/
theorem decode_reorder (codec : Codec α) {value : α} {document : Json}
    (h : Json.Reorder (codec.encode value) document) :
    codec.decode document = some value := by
  have hdistinct := codec.encode_distinct value
  rw [← codec.decode_sorted document (h.distinct hdistinct),
    ← h.sorted_eq hdistinct, codec.decode_sorted _ hdistinct,
    codec.decode_encode]

/-- A codec whose documents are scalars that determine the value. -/
def scalar (encode : α → Json) (decode : Json → Option α)
    (encode_isScalar : ∀ value, (encode value).IsScalar)
    (decode_iff : ∀ document value,
      decode document = some value ↔ document = encode value) : Codec α where
  encode := encode
  decode := decode
  prune := id
  Written _ := True
  decode_encode value := (decode_iff _ _).mpr rfl
  encode_distinct value := (encode_isScalar value).distinct
  decode_sorted document _ := by
    apply Option.ext
    intro value
    rw [decode_iff, decode_iff]
    constructor
    · intro h
      rw [← h, Json.eq_of_sorted_isScalar (h ▸ encode_isScalar value)]
    · rintro rfl
      exact (encode_isScalar value).sorted_eq
  decode_prune _ := rfl
  prune_eq_null_iff _ := Iff.rfl
  written_iff document value h := by
    rw [(decode_iff _ _).mp h]
    simp

def string : Codec String :=
  scalar .string
    (fun | .string value => some value | _ => none)
    (fun _ => trivial)
    (by intro document value; cases document <;> simp)

/-- Unsigned 64-bit integers; negative and floating numbers are refused. -/
def u64 : Codec UInt64 :=
  scalar (fun value => .number (.posInt value))
    (fun | .number (.posInt value) => some value | _ => none)
    (fun _ => trivial)
    (by
      intro document value
      cases document with
      | number number => cases number <;> simp
      | _ => simp)

/-- Unsigned 16-bit integers, refused when out of range. -/
def u16 : Codec UInt16 :=
  scalar (fun value => .number (.posInt value.toUInt64))
    (fun
      | .number (.posInt value) =>
          if value.toUInt16.toUInt64 = value then some value.toUInt16 else none
      | _ => none)
    (fun _ => trivial)
    (by
      intro document value
      cases document with
      | number number =>
          cases number with
          | posInt wide =>
              by_cases hfits : wide.toUInt16.toUInt64 = wide
              · simp only [hfits, ↓reduceIte, Option.some.injEq,
                  Json.number.injEq, Number.posInt.injEq]
                constructor
                · rintro rfl
                  exact hfits.symm
                · rintro rfl
                  simp
              · simp only [hfits, ↓reduceIte, reduceCtorEq, Json.number.injEq,
                  Number.posInt.injEq, false_iff]
                rintro rfl
                simp at hfits
          | _ => simp
      | _ => simp)

end Codec

/-- An in-memory JSON value: every object is an ordered map, so the document
is its own sorted form. -/
def Value : Type := { document : Json // document.sorted = document }

namespace Value

instance : DecidableEq Value := inferInstanceAs (DecidableEq { _document : Json // _ })

/-- Read a document into memory, a repeated member name keeping its last
value. -/
def ofJson (document : Json) : Value := ⟨document.sorted, document.sorted_sorted⟩

def toJson (value : Value) : Json := value.1

theorem toJson_sorted (value : Value) : value.toJson.sorted = value.toJson :=
  value.2

theorem ofJson_toJson (value : Value) : ofJson value.toJson = value :=
  Subtype.ext value.2

end Value

namespace Codec

variable {α β : Type}

def value : Codec Value where
  encode := Value.toJson
  decode document := some (Value.ofJson document)
  prune := id
  Written _ := True
  decode_encode value := congrArg some value.ofJson_toJson
  encode_distinct value := by
    rw [← value.toJson_sorted]
    exact Json.sorted_distinct _
  decode_sorted document _ := by
    simp only [Option.some.injEq]
    exact Subtype.ext document.sorted_sorted
  decode_prune _ := rfl
  prune_eq_null_iff _ := Iff.rfl
  written_iff document value h := by
    obtain rfl := Option.some.inj h
    simp [Value.toJson, Value.ofJson]

/-- The variant a document names: a string, or the one-member object form of
an externally tagged unit variant. -/
def variantName : Json → Option String
  | .string text => some text
  | .object [(text, .null)] => some text
  | _ => none

theorem variantName_eq_none_of_two_le {members : List (String × Json)}
    (h : 2 ≤ members.length) : variantName (.object members) = none := by
  match members, h with
  | _ :: _ :: _, _ => simp [variantName]

theorem variantName_sorted {document : Json} (h : document.Distinct) :
    variantName document.sorted = variantName document := by
  cases document with
  | object members =>
      by_cases htwo : 2 ≤ members.length
      · have hnodup : ((members.map fun member =>
            (member.1, member.2.sorted)).map Prod.fst).Nodup := by
          simpa [Function.comp_def] using h.names
        have hlength := (collect_perm hnodup).length_eq
        rw [List.length_map] at hlength
        rw [Json.sorted_object, variantName_eq_none_of_two_le htwo,
          variantName_eq_none_of_two_le (hlength ▸ htwo)]
      · match members with
        | [] => simp [collect]
        | [(text, value)] =>
            cases value <;> simp [collect, insertEntry, variantName]
        | _ :: _ :: _ => simp at htwo
  | array items => simp [variantName]
  | _ => simp

/-- A unit enumeration, written as the name of its variant. -/
def enumeration [DecidableEq α] (variants : List α) (name : α → String)
    (complete : ∀ variant, variant ∈ variants)
    (name_injective : ∀ first second, name first = name second → first = second) :
    Codec α where
  encode variant := .string (name variant)
  decode document := (variantName document).bind fun text =>
    variants.find? fun variant => name variant = text
  prune := id
  Written document := ∃ text, document = .string text
  decode_encode variant := by
    have hfound : (variants.find? fun other => name other = name variant).isSome := by
      rw [List.find?_isSome]
      exact ⟨variant, complete variant, by simp⟩
    obtain ⟨other, hother⟩ := Option.isSome_iff_exists.mp hfound
    have hname : name other = name variant := by
      simpa using List.find?_some hother
    simp only [variantName, Option.bind_some, hother]
    rw [name_injective other variant hname]
  encode_distinct variant := Json.Distinct.string _
  decode_sorted document h := by rw [variantName_sorted h]
  decode_prune _ := rfl
  prune_eq_null_iff _ := Iff.rfl
  written_iff document variant h := by
    rw [Json.sorted_string]
    constructor
    · intro htext
      obtain ⟨text, rfl⟩ := htext
      have hname : name variant = text := by
        simpa using List.find?_some h
      rw [Json.sorted_string, hname]
    · intro hsorted
      have hscalar : document.sorted = document := by
        apply Json.eq_of_sorted_isScalar
        rw [hsorted]
        trivial
      exact ⟨name variant, hscalar.symm.trans hsorted⟩

/-- A value or null. -/
def option (codec : Codec α) (decode_null : codec.decode .null = none) :
    Codec (Option α) where
  encode value := value.elim .null codec.encode
  decode document :=
    if document = .null then some none else (codec.decode document).map some
  prune := codec.prune
  Written document := document ≠ .null → codec.Written document
  decode_encode value := by
    cases value with
    | none => rfl
    | some value =>
        have hne : codec.encode value ≠ .null := by
          intro hnull
          have hvalue := codec.decode_encode value
          rw [hnull, decode_null] at hvalue
          cases hvalue
        simp [hne, codec.decode_encode]
  encode_distinct value := by
    cases value with
    | none => exact Json.Distinct.null
    | some value => exact codec.encode_distinct value
  decode_sorted document h := by
    simp only [Json.sorted_eq_null_iff, codec.decode_sorted document h]
  decode_prune document := by
    simp only [codec.prune_eq_null_iff, codec.decode_prune]
  prune_eq_null_iff := codec.prune_eq_null_iff
  written_iff document value h := by
    by_cases hnull : document = .null
    · subst hnull
      obtain rfl : none = value := by simpa using h
      simp
    · simp only [hnull, ↓reduceIte, Option.map_eq_some_iff] at h
      obtain ⟨inner, hinner, rfl⟩ := h
      simpa [hnull] using codec.written_iff document inner hinner

theorem mapM_map_sorted (codec : Codec α) {items : List Json}
    (h : ∀ item ∈ items, item.Distinct) :
    (items.map Json.sorted).mapM codec.decode = items.mapM codec.decode := by
  induction items with
  | nil => rfl
  | cons item items ih =>
      simp only [List.mem_cons, forall_eq_or_imp] at h
      simp [codec.decode_sorted item h.1, ih h.2]

theorem mapM_map_prune (codec : Codec α) (items : List Json) :
    (items.map codec.prune).mapM codec.decode = items.mapM codec.decode := by
  induction items with
  | nil => rfl
  | cons item items ih => simp [codec.decode_prune, ih]

theorem mapM_map_encode (codec : Codec α) (values : List α) :
    (values.map codec.encode).mapM codec.decode = some values := by
  induction values with
  | nil => rfl
  | cons value values ih => simp [codec.decode_encode, ih]

theorem forall_written_iff (codec : Codec α) {items : List Json}
    {values : List α} (h : items.mapM codec.decode = some values) :
    (∀ item ∈ items, codec.Written item) ↔
      items.map Json.sorted = (values.map codec.encode).map Json.sorted := by
  induction items generalizing values with
  | nil =>
      obtain rfl : values = [] := by simpa using h.symm
      simp
  | cons item items ih =>
      simp only [List.mapM_cons, Option.bind_eq_bind, Option.pure_def,
        Option.bind_eq_some_iff, Option.some.injEq] at h
      obtain ⟨value, hvalue, rest, hrest, rfl⟩ := h
      simp only [List.mem_cons, forall_eq_or_imp, List.map_cons,
        List.cons.injEq, codec.written_iff item value hvalue, ih hrest]

/-- A list of values as an array. -/
def vec (codec : Codec α) : Codec (List α) where
  encode values := .array (values.map codec.encode)
  decode
    | .array items => items.mapM codec.decode
    | _ => none
  prune
    | .array items => .array (items.map codec.prune)
    | document => document
  Written
    | .array items => ∀ item ∈ items, codec.Written item
    | _ => False
  decode_encode values := codec.mapM_map_encode values
  encode_distinct values := by
    apply Json.Distinct.array
    intro item hitem
    obtain ⟨value, _, rfl⟩ := List.mem_map.mp hitem
    exact codec.encode_distinct value
  decode_sorted document h := by
    cases document with
    | array items =>
        rw [Json.sorted_array]
        exact codec.mapM_map_sorted h.items
    | _ => simp
  decode_prune document := by
    cases document with
    | array items => exact codec.mapM_map_prune items
    | _ => rfl
  prune_eq_null_iff document := by cases document <;> simp
  written_iff document values h := by
    cases document with
    | array items =>
        rw [Json.sorted_array, Json.sorted_array, Json.array.injEq]
        exact codec.forall_written_iff h
    | _ => cases h

/-- Change the value type through mutually inverse maps. -/
def iso (codec : Codec α) (pack : α → β) (unpack : β → α)
    (pack_unpack : ∀ value, pack (unpack value) = value)
    (unpack_pack : ∀ value, unpack (pack value) = value) : Codec β where
  encode value := codec.encode (unpack value)
  decode document := (codec.decode document).map pack
  prune := codec.prune
  Written := codec.Written
  decode_encode value := by simp [codec.decode_encode, pack_unpack]
  encode_distinct value := codec.encode_distinct (unpack value)
  decode_sorted document h := by rw [codec.decode_sorted document h]
  decode_prune document := by rw [codec.decode_prune]
  prune_eq_null_iff := codec.prune_eq_null_iff
  written_iff document value h := by
    obtain ⟨inner, hinner, rfl⟩ := Option.map_eq_some_iff.mp h
    rw [unpack_pack]
    exact codec.written_iff document inner hinner

end Codec

end RemoteRunner
