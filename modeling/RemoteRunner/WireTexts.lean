/-
Documents with rewritten strings.  Rewriting the strings of a document and
leaving the rest alone keeps it readable, and acts on what it reads as; the codec
of a record does this when those of its fields do, and the names of the fields are
all the member names it writes.
-/
import RemoteRunner.JsonTexts
import RemoteRunner.WireRecord
import RemoteRunner.WireScalars

namespace RemoteRunner

open OrderedEntries

variable {α β : Type}

namespace Json

/-- Rewrite the strings of a document; its member names stay. -/
def mapStrings (onString : String → String) (document : Json) : Json :=
  document.mapTexts id onString

variable (onString : String → String)

@[simp] theorem mapStrings_string (text : String) :
    mapStrings onString (.string text) = .string (onString text) :=
  mapTexts_string id onString text

@[simp] theorem mapStrings_array (items : List Json) :
    mapStrings onString (.array items) = .array (items.map (mapStrings onString)) :=
  mapTexts_array id onString items

@[simp] theorem mapStrings_object (members : List (String × Json)) :
    mapStrings onString (.object members) =
      .object (members.map fun member => (member.1, member.2.mapStrings onString)) :=
  mapTexts_object id onString members

theorem mapStrings_eq_null_iff {document : Json} :
    mapStrings onString document = .null ↔ document = .null := by
  cases document <;> simp [mapStrings]

theorem mapStrings_sorted (document : Json) :
    (document.mapStrings onString).sorted = document.sorted.mapStrings onString := by
  induction document with
  | null | bool _ | number _ | string _ => simp [mapStrings]
  | array items ih =>
      simp only [mapStrings_array, sorted_array, List.map_map, array.injEq]
      exact List.map_congr_left ih
  | object members ih =>
      rw [mapStrings_object, sorted_object, sorted_object, mapStrings_object,
        map_collect (fun _ value => mapStrings onString value), List.map_map, List.map_map]
      have hmembers := List.map_congr_left
        (f := fun member : String × Json =>
          (member.1, (member.2.mapStrings onString).sorted))
        (g := fun member => (member.1, member.2.sorted.mapStrings onString))
        fun member hmember => congrArg (Prod.mk member.1) (ih member hmember)
      exact congrArg (fun entries => object (collect entries)) hmembers

/-- Rewriting once is enough when rewriting a string is. -/
theorem mapStrings_again (h : ∀ text, onString (onString text) = onString text)
    (document : Json) :
    (document.mapStrings onString).mapStrings onString = document.mapStrings onString := by
  induction document with
  | null | bool _ | number _ => simp [mapStrings]
  | string text => simp [h]
  | array items ih =>
      simp only [mapStrings_array, List.map_map, array.injEq]
      exact List.map_congr_left ih
  | object members ih =>
      simp only [mapStrings_object, List.map_map, object.injEq]
      apply List.map_congr_left
      intro member hmember
      exact congrArg (Prod.mk member.1) (ih member hmember)

end Json

/-- A map of values does what rewriting the strings does to the documents they are
written as and read from. -/
structure Codec.MapsStringsBy (codec : Codec α) (onString : String → String)
    (map : α → α) : Prop where
  encode_map : ∀ value, codec.encode (map value) = (codec.encode value).mapStrings onString
  decode_map : ∀ document value, codec.decode document = some value →
    codec.decode (document.mapStrings onString) = some (map value)

/-- What reads still does with its strings rewritten, as something that depends
only on what it read as. -/
class Codec.MapsStrings (codec : Codec α) (onString : String → String) : Prop where
  exists_map : ∃ map : α → α, codec.MapsStringsBy onString map

namespace Codec

theorem exists_mapStrings (codec : Codec α) (onString : String → String)
    [codec.MapsStrings onString] : ∃ map : α → α, codec.MapsStringsBy onString map :=
  MapsStrings.exists_map

variable {onString : String → String}

theorem scalar_mapsStrings {encode : α → Json} {decode : Json → Option α}
    {encode_isScalar : ∀ value, (encode value).IsScalar}
    {decode_iff : ∀ document value,
      decode document = some value ↔ document = encode value}
    {map : α → α}
    (hmap : ∀ value, (encode value).mapStrings onString = encode (map value)) :
    (scalar encode decode encode_isScalar decode_iff).MapsStrings onString where
  exists_map := by
    refine ⟨map, fun value => (hmap value).symm, fun document value h => ?_⟩
    obtain rfl := (decode_iff document value).mp h
    exact (decode_iff _ _).mpr (hmap value)

instance : string.MapsStrings onString :=
  scalar_mapsStrings (Json.mapStrings_string onString)

instance : bool.MapsStrings onString := scalar_mapsStrings fun _ => Json.mapTexts_bool ..

instance : u8.MapsStrings onString := scalar_mapsStrings fun _ => Json.mapTexts_number ..

instance : u16.MapsStrings onString := scalar_mapsStrings fun _ => Json.mapTexts_number ..

instance : u64.MapsStrings onString := scalar_mapsStrings fun _ => Json.mapTexts_number ..

instance : i32.MapsStrings onString := scalar_mapsStrings fun _ => Json.mapTexts_number ..

instance : i64.MapsStrings onString := scalar_mapsStrings fun _ => Json.mapTexts_number ..

/-- Values in memory are rewritten as documents are. -/
instance : value.MapsStrings onString where
  exists_map := by
    refine ⟨fun value => .ofJson (value.toJson.mapStrings onString), ?_, ?_⟩
    · intro value
      change (value.toJson.mapStrings onString).sorted = value.toJson.mapStrings onString
      rw [Json.mapStrings_sorted, Value.toJson_sorted]
    · intro document value h
      obtain rfl := Option.some.inj h
      apply congrArg some
      apply Subtype.ext
      change (document.mapStrings onString).sorted =
        (document.sorted.mapStrings onString).sorted
      rw [Json.mapStrings_sorted, Json.mapStrings_sorted, Json.sorted_sorted]

/-- The names of the variants have to stay. -/
theorem enumeration_mapsStrings [DecidableEq α] {variants : List α} {name : α → String}
    {complete : ∀ variant, variant ∈ variants}
    {name_injective : ∀ first second, name first = name second → first = second}
    (hname : ∀ variant, onString (name variant) = name variant) :
    (enumeration variants name complete name_injective).MapsStrings onString where
  exists_map := by
    have hwritten : ∀ variant, .string (name variant) =
        (Json.string (name variant)).mapStrings onString := by
      intro variant
      rw [Json.mapStrings_string, hname]
    refine ⟨id, hwritten, fun document variant h => ?_⟩
    obtain ⟨text, htext, hfound⟩ := Option.bind_eq_some_iff.mp h
    have hvariant : name variant = text := by simpa using List.find?_some hfound
    have hsame : variantName (document.mapStrings onString) = some text := by
      unfold variantName at htext
      split at htext
      · obtain rfl := Option.some.inj htext
        rw [Json.mapStrings_string, variantName, ← hvariant, hname]
      · obtain rfl := Option.some.inj htext
        simp [variantName, Json.mapStrings]
      · cases htext
    change (variantName (document.mapStrings onString)).bind _ = some (id variant)
    rw [hsame]
    exact hfound

/-- So do the texts that are read through a normaliser. -/
theorem normalised_mapsStrings {normalise : String → Option String}
    {idempotent : ∀ text normal, normalise text = some normal →
      normalise normal = some normal}
    (htext : ∀ text normal, normalise text = some normal → onString text = text) :
    (normalised normalise idempotent).MapsStrings onString where
  exists_map := by
    have hwritten : ∀ value : { text // normalise text = some text },
        .string value.1 = (Json.string value.1).mapStrings onString := by
      intro value
      rw [Json.mapStrings_string, htext value.1 value.1 value.2]
    refine ⟨id, hwritten, fun document value h => ?_⟩
    cases document with
    | string text =>
        obtain ⟨⟨normal, hnormal⟩, _, _⟩ := Option.map_eq_some_iff.mp h
        rw [Json.mapStrings_string, htext text normal hnormal]
        exact h
    | _ => cases h

theorem MapsStringsBy.option {codec : Codec α} {map : α → α}
    (h : codec.MapsStringsBy onString map) (decode_null : codec.decode .null = none) :
    (codec.option decode_null).MapsStringsBy onString (Option.map map) where
  encode_map value := by
    rcases value with _ | inner
    · exact (Json.mapTexts_null ..).symm
    · exact h.encode_map inner
  decode_map document value hvalue := by
    change (if document = .null then some none
      else (codec.decode document).map some) = some value at hvalue
    change (if document.mapStrings onString = .null then some none
      else (codec.decode (document.mapStrings onString)).map some) = some (value.map map)
    have hsame : document.mapStrings onString = .null ↔ document = .null :=
      Json.mapStrings_eq_null_iff onString
    by_cases hnull : document = .null
    · rw [if_pos hnull] at hvalue
      rw [if_pos (hsame.mpr hnull)]
      obtain rfl := Option.some.inj hvalue
      rfl
    · rw [if_neg hnull] at hvalue
      rw [if_neg (mt hsame.mp hnull)]
      obtain ⟨inner, hinner, rfl⟩ := Option.map_eq_some_iff.mp hvalue
      rw [h.decode_map document inner hinner]
      rfl

theorem mapM_decode_mapStrings {codec : Codec α} {map : α → α}
    (hmap : ∀ document value, codec.decode document = some value →
      codec.decode (document.mapStrings onString) = some (map value))
    {items : List Json} {values : List α} (h : items.mapM codec.decode = some values) :
    (items.map (Json.mapStrings onString)).mapM codec.decode = some (values.map map) := by
  induction items generalizing values with
  | nil =>
      obtain rfl := Option.some.inj h
      rfl
  | cons item items ih =>
      simp only [List.mapM_cons, Option.bind_eq_bind, Option.bind_eq_some_iff] at h
      obtain ⟨value, hvalue, rest, hrest, hvalues⟩ := h
      obtain rfl := Option.some.inj hvalues
      simp only [List.map_cons, List.mapM_cons, hmap item value hvalue, ih hrest]
      rfl

instance {codec : Codec α} [codec.MapsStrings onString] :
    codec.vec.MapsStrings onString where
  exists_map := by
    obtain ⟨map, hmap⟩ := codec.exists_mapStrings onString
    refine ⟨List.map map, fun values => ?_, fun document values h => ?_⟩
    · change Json.array ((values.map map).map codec.encode) =
        (Json.array (values.map codec.encode)).mapStrings onString
      rw [Json.mapStrings_array, List.map_map, List.map_map]
      exact congrArg Json.array (List.map_congr_left fun value _ => hmap.encode_map value)
    · cases document with
      | array items =>
          rw [Json.mapStrings_array]
          exact mapM_decode_mapStrings hmap.decode_map h
      | _ => cases h

instance {codec : Codec α} {pack : α → β} {unpack : β → α}
    {pack_unpack : ∀ value, pack (unpack value) = value}
    {unpack_pack : ∀ value, unpack (pack value) = value} [codec.MapsStrings onString] :
    (codec.iso pack unpack pack_unpack unpack_pack).MapsStrings onString where
  exists_map := by
    obtain ⟨map, hmap⟩ := codec.exists_mapStrings onString
    refine ⟨fun value => pack (map (unpack value)), fun value => ?_,
      fun document value h => ?_⟩
    · change codec.encode (unpack (pack (map (unpack value)))) = _
      rw [unpack_pack]
      exact hmap.encode_map (unpack value)
    · obtain ⟨inner, hinner, rfl⟩ := Option.map_eq_some_iff.mp h
      rw [unpack_pack]
      exact congrArg (Option.map pack) (hmap.decode_map document inner hinner)

end Codec

/-! ### Records -/

/-- The members with their strings rewritten. -/
def mapMembers (onString : String → String) (members : List (String × Json)) :
    List (String × Json) :=
  members.map fun member => (member.1, member.2.mapStrings onString)

theorem occurrences_mapMembers (onString : String → String) (name : String)
    (members : List (String × Json)) :
    occurrences name (mapMembers onString members) =
      (occurrences name members).map (Json.mapStrings onString) :=
  occurrences_map_value (Json.mapStrings onString) name members

/-- As for codecs, with the field read by name or by position. -/
structure WireField.MapsStringsBy (field : WireField α) (onString : String → String)
    (map : α → α) : Prop where
  encode_map : ∀ value, field.encode (map value) = mapMembers onString (field.encode value)
  decode_map : ∀ members value, field.decode members = some value →
    field.decode (mapMembers onString members) = some (map value)
  decodeItem_map : ∀ items value rest, field.decodeItem items = some (value, rest) →
    field.decodeItem (items.map (Json.mapStrings onString)) =
      some (map value, rest.map (Json.mapStrings onString))

class WireField.MapsStrings (field : WireField α) (onString : String → String) : Prop where
  exists_map : ∃ map : α → α, field.MapsStringsBy onString map

namespace WireField

variable {onString : String → String}

/-- The values a field has when its member is missing have to stay, and the values
that are not written have to be kept apart. -/
theorem mapsStringsBy {field : WireField α} {map : α → α}
    (hmap : field.codec.MapsStringsBy onString map)
    (hskip : ∀ value, field.skip (map value) = field.skip value)
    (habsent : ∀ value, field.absent = some value → map value = value)
    (hdefaulted : ∀ value, field.defaulted = some value → map value = value) :
    field.MapsStringsBy onString map where
  encode_map value := by
    rw [encode, encode, hskip]
    split
    · rfl
    · rw [hmap.encode_map]
      rfl
  decode_map members value h := by
    rw [decode] at h ⊢
    rw [occurrences_mapMembers]
    rcases hfound : occurrences field.name members with _ | ⟨document, _ | ⟨_, _⟩⟩
    · rw [hfound] at h
      exact h.trans (congrArg some (habsent value h).symm)
    · rw [hfound] at h
      exact hmap.decode_map document value h
    · rw [hfound] at h
      cases h
  decodeItem_map items value rest h := by
    rcases items with _ | ⟨item, items⟩
    · obtain ⟨_, hdefault, heq⟩ := Option.map_eq_some_iff.mp h
      obtain ⟨rfl, rfl⟩ := Prod.mk.inj heq
      rw [hdefaulted _ hdefault]
      exact h
    · obtain ⟨_, hvalue, heq⟩ := Option.map_eq_some_iff.mp h
      obtain ⟨rfl, rfl⟩ := Prod.mk.inj heq
      exact Option.map_eq_some_iff.mpr ⟨_, hmap.decode_map item _ hvalue, rfl⟩

instance {name : String} {codec : Codec α} [codec.MapsStrings onString] :
    (required name codec).MapsStrings onString where
  exists_map := by
    obtain ⟨map, hmap⟩ := codec.exists_mapStrings onString
    exact ⟨map, mapsStringsBy hmap (fun _ => rfl) (fun _ h => by cases h)
      (fun _ h => by cases h)⟩

theorem map_eq_of_none {map : α → α} (value : Option α) (h : some none = some value) :
    value.map map = value := by
  obtain rfl := Option.some.inj h
  rfl

theorem optional_mapsStrings (name : String) (codec : Codec α)
    (decode_null : codec.decode .null = none) [codec.MapsStrings onString] :
    (optional name codec decode_null).MapsStrings onString where
  exists_map := by
    obtain ⟨map, hmap⟩ := codec.exists_mapStrings onString
    exact ⟨_, mapsStringsBy (hmap.option decode_null) (fun _ => rfl) map_eq_of_none
      (fun _ h => by cases h)⟩

theorem skippedIfNone_mapsStrings (name : String) (codec : Codec α)
    (decode_null : codec.decode .null = none) [codec.MapsStrings onString] :
    (skippedIfNone name codec decode_null).MapsStrings onString where
  exists_map := by
    obtain ⟨map, hmap⟩ := codec.exists_mapStrings onString
    have hskip : ∀ value : Option α, (value.map map).isNone = value.isNone := by simp
    exact ⟨_, mapsStringsBy (hmap.option decode_null) hskip map_eq_of_none map_eq_of_none⟩

end WireField

structure WireRecord.MapsStringsBy (record : WireRecord α) (onString : String → String)
    (map : α → α) : Prop where
  encode_map : ∀ value,
    record.encode (map value) = mapMembers onString (record.encode value)
  decode_map : ∀ members value, record.decode members = some value →
    record.decode (mapMembers onString members) = some (map value)
  decodeItems_map : ∀ items value, record.decodeItems items = some value →
    record.decodeItems (items.map (Json.mapStrings onString)) = some (map value)

class WireRecord.MapsStrings (record : WireRecord α) (onString : String → String) :
    Prop where
  exists_map : ∃ map : α → α, record.MapsStringsBy onString map

namespace WireRecord

variable {onString : String → String}

instance : nil.MapsStrings onString where
  exists_map := by
    refine ⟨id, fun _ => rfl, fun _ _ h => h, fun items value h => ?_⟩
    rcases items with _ | ⟨item, items⟩
    · exact h
    · cases h

instance {field : WireField α} {rest : WireRecord β} {fresh : field.name ∉ rest.names}
    [hfield : field.MapsStrings onString] [hrest : rest.MapsStrings onString] :
    (cons field rest fresh).MapsStrings onString where
  exists_map := by
    obtain ⟨first, hfirst⟩ := hfield.exists_map
    obtain ⟨others, hothers⟩ := hrest.exists_map
    refine ⟨Prod.map first others, ?_, ?_, ?_⟩
    · intro values
      change field.encode (first values.1) ++ rest.encode (others values.2) =
        mapMembers onString (field.encode values.1 ++ rest.encode values.2)
      rw [hfirst.encode_map, hothers.encode_map]
      exact List.map_append.symm
    · intro members values h
      obtain ⟨value, hvalue, hrest⟩ := Option.bind_eq_some_iff.mp h
      obtain ⟨remaining, hremaining, heq⟩ := Option.bind_eq_some_iff.mp hrest
      obtain rfl := Option.some.inj heq
      change (field.decode _).bind _ = _
      rw [hfirst.decode_map members value hvalue]
      change (rest.decode _).bind _ = _
      rw [hothers.decode_map members remaining hremaining]
      rfl
    · intro items values h
      obtain ⟨⟨value, left⟩, hvalue, hrest⟩ := Option.bind_eq_some_iff.mp h
      obtain ⟨remaining, hremaining, heq⟩ := Option.bind_eq_some_iff.mp hrest
      obtain rfl := Option.some.inj heq
      change (field.decodeItem _).bind _ = _
      rw [hfirst.decodeItem_map items value left hvalue]
      change (rest.decodeItems _).bind _ = _
      rw [hothers.decodeItems_map left remaining hremaining]
      rfl

instance {record : WireRecord α} [hrecord : record.MapsStrings onString] :
    record.toCodec.MapsStrings onString where
  exists_map := by
    obtain ⟨map, hmap⟩ := hrecord.exists_map
    refine ⟨map, ?_, fun document value h => ?_⟩
    · intro value
      change Json.object (record.encode (map value)) =
        (Json.object (record.encode value)).mapStrings onString
      rw [Json.mapStrings_object, hmap.encode_map]
      rfl
    · cases document with
      | object members =>
          rw [Json.mapStrings_object]
          exact hmap.decode_map members value h
      | array items =>
          rw [Json.mapStrings_array]
          exact hmap.decodeItems_map items value h
      | _ => cases h

end WireRecord

/-! ### Member names -/

/-- All member names a codec writes, at any depth. -/
class Codec.HasMemberNames (codec : Codec α) where
  memberNames : List String
  mem_memberNames : ∀ value, ∀ name ∈ (codec.encode value).memberNames,
    name ∈ memberNames

namespace Codec

def memberNames (codec : Codec α) [h : codec.HasMemberNames] : List String := h.memberNames

theorem mem_memberNames (codec : Codec α) [h : codec.HasMemberNames] (value : α) :
    ∀ name ∈ (codec.encode value).memberNames, name ∈ codec.memberNames :=
  h.mem_memberNames value

theorem not_mem_memberNames {document : Json} (h : document.IsScalar) (name : String) :
    name ∉ document.memberNames := by
  cases document with
  | array _ | object _ => cases h
  | _ => simp

/-- A scalar has no members. -/
@[reducible]
def scalarMemberNames {encode : α → Json} {decode : Json → Option α}
    {encode_isScalar : ∀ value, (encode value).IsScalar}
    {decode_iff : ∀ document value,
      decode document = some value ↔ document = encode value} :
    (scalar encode decode encode_isScalar decode_iff).HasMemberNames where
  memberNames := []
  mem_memberNames value name h := absurd h (not_mem_memberNames (encode_isScalar value) name)

instance : string.HasMemberNames := scalarMemberNames

instance : bool.HasMemberNames := scalarMemberNames

instance : u8.HasMemberNames := scalarMemberNames

instance : u16.HasMemberNames := scalarMemberNames

instance : u64.HasMemberNames := scalarMemberNames

instance : i32.HasMemberNames := scalarMemberNames

instance : i64.HasMemberNames := scalarMemberNames

instance [DecidableEq α] {variants : List α} {name : α → String}
    {complete : ∀ variant, variant ∈ variants}
    {name_injective : ∀ first second, name first = name second → first = second} :
    (enumeration variants name complete name_injective).HasMemberNames where
  memberNames := []
  mem_memberNames variant text h := by
    change text ∈ (Json.string (name variant)).memberNames at h
    rwa [Json.memberNames_string] at h

instance {normalise : String → Option String}
    {idempotent : ∀ text normal, normalise text = some normal →
      normalise normal = some normal} :
    (normalised normalise idempotent).HasMemberNames where
  memberNames := []
  mem_memberNames value name h := by
    change name ∈ (Json.string value.1).memberNames at h
    rwa [Json.memberNames_string] at h

instance {codec : Codec α} {decode_null : codec.decode .null = none}
    [codec.HasMemberNames] : (codec.option decode_null).HasMemberNames where
  memberNames := codec.memberNames
  mem_memberNames value name h := by
    rcases value with _ | inner
    · change name ∈ Json.null.memberNames at h
      rw [Json.memberNames_null] at h
      cases h
    · exact codec.mem_memberNames inner name h

instance {codec : Codec α} [codec.HasMemberNames] : codec.vec.HasMemberNames where
  memberNames := codec.memberNames
  mem_memberNames values name h := by
    change name ∈ (Json.array (values.map codec.encode)).memberNames at h
    rw [Json.memberNames_array, List.mem_flatMap] at h
    obtain ⟨item, hitem, hname⟩ := h
    obtain ⟨value, _, rfl⟩ := List.mem_map.mp hitem
    exact codec.mem_memberNames value name hname

instance {codec : Codec α} {pack : α → β} {unpack : β → α}
    {pack_unpack : ∀ value, pack (unpack value) = value}
    {unpack_pack : ∀ value, unpack (pack value) = value} [codec.HasMemberNames] :
    (codec.iso pack unpack pack_unpack unpack_pack).HasMemberNames where
  memberNames := codec.memberNames
  mem_memberNames value := codec.mem_memberNames (unpack value)

end Codec

/-- The member names of a field's document. -/
class WireField.HasMemberNames (field : WireField α) where
  memberNames : List String
  mem_memberNames : ∀ value, ∀ name ∈ (field.codec.encode value).memberNames,
    name ∈ memberNames

namespace WireField

instance {name : String} {codec : Codec α} [codec.HasMemberNames] :
    (required name codec).HasMemberNames where
  memberNames := codec.memberNames
  mem_memberNames := codec.mem_memberNames

@[reducible]
def optionalMemberNames (name : String) (codec : Codec α)
    (decode_null : codec.decode .null = none) [codec.HasMemberNames] :
    (optional name codec decode_null).HasMemberNames where
  memberNames := codec.memberNames
  mem_memberNames := (codec.option decode_null).mem_memberNames

end WireField

class WireRecord.HasMemberNames (record : WireRecord α) where
  memberNames : List String
  mem_memberNames : ∀ value, ∀ member ∈ record.encode value,
    ∀ name ∈ member.1 :: member.2.memberNames, name ∈ memberNames

namespace WireRecord

instance : nil.HasMemberNames where
  memberNames := []
  mem_memberNames _ member h := by cases h

instance {field : WireField α} {rest : WireRecord β} {fresh : field.name ∉ rest.names}
    [hfield : field.HasMemberNames] [hrest : rest.HasMemberNames] :
    (cons field rest fresh).HasMemberNames where
  memberNames := field.name :: hfield.memberNames ++ hrest.memberNames
  mem_memberNames values member hmember name hname := by
    rcases List.mem_append.mp hmember with hhere | hlater
    · apply List.mem_append_left
      rw [field.mem_encode hhere] at hname
      rcases List.mem_cons.mp hname with rfl | hinner
      · exact List.mem_cons_self
      · exact List.mem_cons_of_mem _ (hfield.mem_memberNames values.1 name hinner)
    · exact List.mem_append_right _
        (hrest.mem_memberNames values.2 member hlater name hname)

instance {record : WireRecord α} [hrecord : record.HasMemberNames] :
    record.toCodec.HasMemberNames where
  memberNames := hrecord.memberNames
  mem_memberNames value name h := by
    change name ∈ (Json.object (record.encode value)).memberNames at h
    rw [Json.memberNames_object, List.mem_flatMap] at h
    obtain ⟨member, hmember, hname⟩ := h
    exact hrecord.mem_memberNames value member hmember name hname

end WireRecord

end RemoteRunner
