/-
Record codecs.  A record is a list of fields in declaration order; reading an
object looks every field up by name and ignores the other members, reading an
array takes the fields by position.
-/
import RemoteRunner.WireCodec

namespace RemoteRunner

open OrderedEntries

/-- One field of a record: `absent` is what a missing member reads as,
`defaulted` what an array that ends too early reads as, and `skip` selects the
values that are not written at all. -/
structure WireField (α : Type) where
  name : String
  codec : Codec α
  absent : Option α
  defaulted : Option α
  skip : α → Bool
  absent_of_skip : ∀ value, skip value = true → absent = some value

namespace WireField

variable {α : Type}

/-- A member that must be present. -/
def required (name : String) (codec : Codec α) : WireField α where
  name := name
  codec := codec
  absent := none
  defaulted := none
  skip _ := false
  absent_of_skip _ h := by cases h

/-- An option member: absent reads as none, none is written as null. -/
def optional (name : String) (codec : Codec α)
    (decode_null : codec.decode .null = none) : WireField (Option α) where
  name := name
  codec := codec.option decode_null
  absent := some none
  defaulted := none
  skip _ := false
  absent_of_skip _ h := by cases h

/-- An option member with `default` and `skip_serializing_if = "Option::is_none"`. -/
def skippedIfNone (name : String) (codec : Codec α)
    (decode_null : codec.decode .null = none) : WireField (Option α) where
  name := name
  codec := codec.option decode_null
  absent := some none
  defaulted := some none
  skip := Option.isNone
  absent_of_skip value h := by rw [Option.isNone_iff_eq_none.mp h]

def encode (field : WireField α) (value : α) : List (String × Json) :=
  if field.skip value then [] else [(field.name, field.codec.encode value)]

/-- Read the field from an object's members; a repeated member is refused. -/
def decode (field : WireField α) (members : List (String × Json)) : Option α :=
  match occurrences field.name members with
  | [] => field.absent
  | [document] => field.codec.decode document
  | _ => none

/-- Take the field from the front of an array. -/
def decodeItem (field : WireField α) : List Json → Option (α × List Json)
  | [] => field.defaulted.map fun value => (value, [])
  | item :: items => (field.codec.decode item).map fun value => (value, items)

/-- The member is present exactly when the field's value is written. -/
def Written (field : WireField α) (members : List (String × Json)) : Prop :=
  match occurrences field.name members with
  | [] => ∃ value, field.absent = some value ∧ field.skip value = true
  | [document] => field.codec.Written document ∧
      ∀ value, field.codec.decode document = some value →
        field.skip value = false
  | _ => False

variable (field : WireField α)

theorem mem_encode {value : α} {member : String × Json}
    (h : member ∈ field.encode value) :
    member = (field.name, field.codec.encode value) := by
  by_cases hskip : field.skip value = true <;> simp_all [encode]

theorem occurrences_encode (value : α) :
    occurrences field.name (field.encode value) =
      if field.skip value then [] else [field.codec.encode value] := by
  by_cases hskip : field.skip value = true <;> simp [encode, hskip, occurrences]

theorem occurrences_encode_of_ne {name : String} (hne : name ≠ field.name)
    (value : α) : occurrences name (field.encode value) = [] := by
  by_cases hskip : field.skip value = true <;>
    simp [encode, hskip, occurrences, hne.symm]

theorem decode_congr {first second : List (String × Json)}
    (h : occurrences field.name first = occurrences field.name second) :
    field.decode first = field.decode second := by
  rw [decode, decode, h]

theorem decode_of_occurrences_encode {members : List (String × Json)}
    {value : α} (h : occurrences field.name members =
      occurrences field.name (field.encode value)) :
    field.decode members = some value := by
  rw [occurrences_encode] at h
  by_cases hskip : field.skip value = true
  · simp only [hskip, ↓reduceIte] at h
    rw [decode, h]
    exact field.absent_of_skip value hskip
  · simp only [hskip, Bool.false_eq_true, ↓reduceIte] at h
    rw [decode, h]
    exact field.codec.decode_encode value

theorem decode_sorted {members : List (String × Json)}
    (h : Json.Distinct (.object members)) :
    field.decode (collect (members.map fun member =>
      (member.1, member.2.sorted))) = field.decode members := by
  have hlength := occurrences_length_le_one h.names field.name
  rw [decode, decode, Json.occurrences_sorted]
  match hocc : occurrences field.name members with
  | [] => rfl
  | [document] =>
      have hmem : (field.name, document) ∈ members := by
        apply mem_occurrences_iff.mp
        rw [hocc]
        exact List.mem_singleton_self document
      exact field.codec.decode_sorted document (h.values _ hmem)
  | _ :: _ :: _ => simp [hocc] at hlength

theorem decodeItem_sorted {items : List Json}
    (h : ∀ item ∈ items, item.Distinct) :
    field.decodeItem (items.map Json.sorted) =
      (field.decodeItem items).map fun result =>
        (result.1, result.2.map Json.sorted) := by
  cases items with
  | nil => simp [decodeItem, Function.comp_def]
  | cons item items =>
      simp only [List.mem_cons, forall_eq_or_imp] at h
      simp [decodeItem, field.codec.decode_sorted item h.1, Function.comp_def]

theorem decode_prune {members pruned : List (String × Json)}
    (h : occurrences field.name pruned =
      (occurrences field.name members).map field.codec.prune) :
    field.decode pruned = field.decode members := by
  rw [decode, decode, h]
  match occurrences field.name members with
  | [] => rfl
  | [document] => exact field.codec.decode_prune document
  | _ :: _ :: _ => rfl

theorem written_iff {members : List (String × Json)} {value : α}
    (h : field.decode members = some value) :
    field.Written members ↔
      (occurrences field.name members).getLast?.map Json.sorted =
        (occurrences field.name (field.encode value)).getLast?.map
          Json.sorted := by
  rw [occurrences_encode]
  rw [decode] at h
  rw [Written]
  match hocc : occurrences field.name members with
  | [] =>
      simp only [hocc] at h
      by_cases hskip : field.skip value = true <;> simp [h, hskip]
  | [document] =>
      simp only [hocc] at h
      by_cases hskip : field.skip value = true
      · simp [h, hskip]
      · simp [h, hskip, field.codec.written_iff document value h]
  | _ :: _ :: _ => simp [hocc] at h

end WireField

theorem occurrences_filterMap {prune : String × Json → Option (String × Json)}
    (keeps_name : ∀ member kept, prune member = some kept →
      kept.1 = member.1) (name : String) (members : List (String × Json)) :
    occurrences name (members.filterMap prune) =
      (occurrences name members).filterMap fun document =>
        (prune (name, document)).map Prod.snd := by
  induction members with
  | nil => rfl
  | cons member members ih =>
      obtain ⟨memberName, document⟩ := member
      cases hprune : prune (memberName, document) with
      | none =>
          rw [List.filterMap_cons_none hprune, ih]
          by_cases hname : memberName = name
          · subst hname
            simp [occurrences, hprune]
          · simp [occurrences, hname]
      | some kept =>
          have hkept : kept.1 = memberName := keeps_name _ _ hprune
          rw [List.filterMap_cons_some hprune]
          by_cases hname : memberName = name
          · subst hname
            simp [occurrences, hkept, hprune, ih]
          · simp [occurrences, hkept, hname, ih]

/-- A reader and writer of an object's members. -/
structure WireRecord (α : Type) where
  names : List String
  encode : α → List (String × Json)
  decode : List (String × Json) → Option α
  decodeItems : List Json → Option α
  prune : String × Json → Option (String × Json)
  Written : List (String × Json) → Prop
  encode_names : ∀ value, ∀ member ∈ encode value, member.1 ∈ names
  encode_nodup : ∀ value, ((encode value).map Prod.fst).Nodup
  encode_distinct : ∀ value, ∀ member ∈ encode value, member.2.Distinct
  prune_name : ∀ member kept, prune member = some kept → kept.1 = member.1
  decode_congr : ∀ first second,
    (∀ name ∈ names, occurrences name first = occurrences name second) →
      decode first = decode second
  decode_encode : ∀ value, decode (encode value) = some value
  decode_sorted : ∀ members, Json.Distinct (.object members) →
    decode (collect (members.map fun member =>
      (member.1, member.2.sorted))) = decode members
  decodeItems_sorted : ∀ items, (∀ item ∈ items, item.Distinct) →
    decodeItems (items.map Json.sorted) = decodeItems items
  decode_prune : ∀ members, decode (members.filterMap prune) = decode members
  written_iff : ∀ members value, decode members = some value →
    (Written members ↔ ∀ name ∈ names,
      (occurrences name members).getLast?.map Json.sorted =
        (occurrences name (encode value)).getLast?.map Json.sorted)

namespace WireRecord

variable {α β : Type}

/-- The record without fields. -/
def nil : WireRecord Unit where
  names := []
  encode _ := []
  decode _ := some ()
  decodeItems items := if items = [] then some () else none
  prune _ := none
  Written _ := True
  encode_names _ _ h := by cases h
  encode_nodup _ := List.nodup_nil
  encode_distinct _ _ h := by cases h
  prune_name _ _ h := by cases h
  decode_congr _ _ _ := rfl
  decode_encode _ := rfl
  decode_sorted _ _ := rfl
  decodeItems_sorted items _ := by cases items <;> simp
  decode_prune _ := rfl
  written_iff _ _ _ := by simp

/-- The occurrences a field and the fields after it leave in their joint
encoding. -/
theorem occurrences_encode_cons (field : WireField α) (rest : WireRecord β)
    (fresh : field.name ∉ rest.names) (value : α) (values : β) :
    occurrences field.name (field.encode value ++ rest.encode values) =
        occurrences field.name (field.encode value) ∧
      ∀ name ∈ rest.names,
        occurrences name (field.encode value ++ rest.encode values) =
          occurrences name (rest.encode values) := by
  constructor
  · have hnil : occurrences field.name (rest.encode values) = [] := by
      apply occurrences_eq_nil_iff.mpr
      intro hmem
      obtain ⟨member, hmember, hname⟩ := List.mem_map.mp hmem
      exact fresh (hname ▸ rest.encode_names values member hmember)
    rw [occurrences_append, hnil, List.append_nil]
  · intro name hname
    have hne : name ≠ field.name := fun heq => fresh (heq ▸ hname)
    rw [occurrences_append, field.occurrences_encode_of_ne hne,
      List.nil_append]

/-- Keep the members named by a field or by the fields after it. -/
def pruneCons (field : WireField α) (rest : WireRecord β)
    (member : String × Json) : Option (String × Json) :=
  if member.1 = field.name then some (member.1, field.codec.prune member.2)
  else rest.prune member

theorem pruneCons_name (field : WireField α) (rest : WireRecord β)
    (member kept : String × Json) (h : pruneCons field rest member = some kept) :
    kept.1 = member.1 := by
  by_cases hname : member.1 = field.name
  · simp only [pruneCons, hname, ↓reduceIte, Option.some.injEq] at h
    rw [← h, hname]
  · simp only [pruneCons, hname, ↓reduceIte] at h
    exact rest.prune_name member kept h

/-- Prepend one field. -/
def cons (field : WireField α) (rest : WireRecord β)
    (fresh : field.name ∉ rest.names := by exact of_decide_eq_true rfl) :
    WireRecord (α × β) where
  names := field.name :: rest.names
  encode values := field.encode values.1 ++ rest.encode values.2
  decode members := do
    let value ← field.decode members
    let values ← rest.decode members
    return (value, values)
  decodeItems items := do
    let (value, items) ← field.decodeItem items
    let values ← rest.decodeItems items
    return (value, values)
  prune := pruneCons field rest
  Written members := field.Written members ∧ rest.Written members
  encode_names values member h := by
    rcases List.mem_append.mp h with hfield | hrest
    · rw [field.mem_encode hfield]
      exact List.mem_cons_self
    · exact List.mem_cons_of_mem _ (rest.encode_names values.2 member hrest)
  encode_nodup values := by
    rw [List.map_append, List.nodup_append]
    refine ⟨?_, rest.encode_nodup values.2, ?_⟩
    · by_cases hskip : field.skip values.1 = true <;>
        simp [WireField.encode, hskip]
    · intro name hfield name' hrest heq
      obtain ⟨member, hmember, rfl⟩ := List.mem_map.mp hfield
      obtain ⟨member', hmember', rfl⟩ := List.mem_map.mp hrest
      rw [field.mem_encode hmember] at heq
      have hname : field.name = member'.1 := heq
      exact fresh (hname ▸ rest.encode_names values.2 member' hmember')
  encode_distinct values member h := by
    rcases List.mem_append.mp h with hfield | hrest
    · rw [field.mem_encode hfield]
      exact field.codec.encode_distinct values.1
    · exact rest.encode_distinct values.2 member hrest
  prune_name := pruneCons_name field rest
  decode_congr first second h := by
    rw [field.decode_congr (h field.name List.mem_cons_self),
      rest.decode_congr first second fun name hname =>
        h name (List.mem_cons_of_mem _ hname)]
  decode_encode values := by
    obtain ⟨hfield, hrest⟩ :=
      occurrences_encode_cons field rest fresh values.1 values.2
    rw [field.decode_of_occurrences_encode hfield,
      rest.decode_congr _ _ hrest, rest.decode_encode]
    rfl
  decode_sorted members h := by
    rw [field.decode_sorted h, rest.decode_sorted members h]
  decodeItems_sorted items h := by
    rw [field.decodeItem_sorted h]
    cases hitem : field.decodeItem items with
    | none => rfl
    | some result =>
        have hdistinct : ∀ item ∈ result.2, item.Distinct := by
          intro item hmem
          cases items with
          | nil =>
              obtain ⟨_, _, rfl⟩ := Option.map_eq_some_iff.mp hitem
              simp at hmem
          | cons head tail =>
              obtain ⟨_, _, rfl⟩ := Option.map_eq_some_iff.mp hitem
              exact h item (List.mem_cons_of_mem _ hmem)
        simp [rest.decodeItems_sorted result.2 hdistinct]
  decode_prune members := by
    have hkeeps := pruneCons_name field rest
    have hfield : field.decode (members.filterMap (pruneCons field rest)) =
        field.decode members := by
      apply field.decode_prune
      rw [occurrences_filterMap hkeeps]
      simp [pruneCons]
    have hrest : rest.decode (members.filterMap (pruneCons field rest)) =
        rest.decode (members.filterMap rest.prune) := by
      apply rest.decode_congr
      intro name hname
      have hne : name ≠ field.name := fun heq => fresh (heq ▸ hname)
      rw [occurrences_filterMap hkeeps, occurrences_filterMap rest.prune_name]
      simp [pruneCons, hne]
    rw [hfield, hrest, rest.decode_prune]
  written_iff members values h := by
    simp only [Option.bind_eq_bind, Option.pure_def, Option.bind_eq_some_iff,
      Option.some.injEq] at h
    obtain ⟨value, hvalue, rest', hrest', rfl⟩ := h
    obtain ⟨hfield, hrest⟩ :=
      occurrences_encode_cons field rest fresh value rest'
    rw [List.forall_mem_cons, hfield, field.written_iff hvalue,
      rest.written_iff members rest' hrest']
    apply and_congr Iff.rfl
    apply forall₂_congr
    intro name hname
    rw [hrest name hname]

theorem occurrences_encode_of_not_mem (record : WireRecord α) {name : String}
    (hname : name ∉ record.names) (value : α) :
    occurrences name (record.encode value) = [] := by
  apply occurrences_eq_nil_iff.mpr
  intro hmem
  obtain ⟨member, hmember, rfl⟩ := List.mem_map.mp hmem
  exact hname (record.encode_names value member hmember)

/-- Members sort to the encoded ones exactly when all of them are known and
every field is laid out as written. -/
theorem sorted_eq_encode_iff (record : WireRecord α)
    {members : List (String × Json)} {value : α}
    (h : record.decode members = some value) :
    ((∀ member ∈ members, member.1 ∈ record.names) ∧ record.Written members) ↔
      Json.sorted (.object members) =
        Json.sorted (.object (record.encode value)) := by
  rw [Json.sorted_object_eq_iff, record.written_iff members value h]
  constructor
  · rintro ⟨hknown, hvalues⟩ name
    by_cases hname : name ∈ record.names
    · exact hvalues name hname
    · have hmembers : occurrences name members = [] := by
        apply occurrences_eq_nil_iff.mpr
        intro hmem
        obtain ⟨member, hmember, rfl⟩ := List.mem_map.mp hmem
        exact hname (hknown member hmember)
      rw [hmembers, record.occurrences_encode_of_not_mem hname]
  · intro hall
    refine ⟨?_, fun name _ => hall name⟩
    intro member hmember
    by_contra hname
    have hlast := hall member.1
    rw [record.occurrences_encode_of_not_mem hname] at hlast
    have hnil : occurrences member.1 members = [] := by simpa using hlast
    exact occurrences_eq_nil_iff.mp hnil
      (List.mem_map_of_mem (f := Prod.fst) hmember)

/-- The codec of a record: an object of its fields, also read from an array
that lists them in order. -/
def toCodec (record : WireRecord α) : Codec α where
  encode value := .object (record.encode value)
  decode
    | .object members => record.decode members
    | .array items => record.decodeItems items
    | _ => none
  prune
    | .object members => .object (members.filterMap record.prune)
    | document => document
  Written
    | .object members =>
        (∀ member ∈ members, member.1 ∈ record.names) ∧ record.Written members
    | _ => False
  decode_encode value := record.decode_encode value
  encode_distinct value :=
    .object (record.encode_nodup value) (record.encode_distinct value)
  decode_sorted document h := by
    cases document with
    | object members =>
        rw [Json.sorted_object]
        exact record.decode_sorted members h
    | array items =>
        rw [Json.sorted_array]
        exact record.decodeItems_sorted items h.items
    | _ => simp
  decode_prune document := by
    cases document with
    | object members => exact record.decode_prune members
    | _ => rfl
  prune_eq_null_iff document := by cases document <;> simp
  written_iff document value h := by
    cases document with
    | object members => exact record.sorted_eq_encode_iff h
    | array items => simp
    | _ => cases h

end WireRecord

end RemoteRunner
