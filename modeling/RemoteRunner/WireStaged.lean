/-
Reading in two stages: a document is taken into memory as a value, and the
value is read as a record later.  Taking a document into memory sorts its
members and keeps the last of several with one name, so the stages accept
whatever a direct reading accepts, with the same result.
-/
import RemoteRunner.WireRecord
import RemoteRunner.WireScalars

namespace RemoteRunner

open OrderedEntries

variable {α β : Type}

/-- What a document reads as, it still reads as after a stop in memory. -/
class Codec.Stable (codec : Codec α) : Prop where
  decode_memory : ∀ document value, codec.decode document = some value →
    codec.decode document.sorted = some value

/-- Read a value that was taken into memory before. -/
def Codec.decodeStaged (codec : Codec α) (document : Json) : Option α :=
  (Codec.value.decode document).bind fun value => codec.decode value.toJson

theorem Codec.decodeStaged_eq (codec : Codec α) (document : Json) :
    codec.decodeStaged document = codec.decode document.sorted := rfl

/-- On documents without repeated members the stages change nothing. -/
theorem Codec.decodeStaged_of_distinct (codec : Codec α) {document : Json}
    (h : document.Distinct) : codec.decodeStaged document = codec.decode document :=
  codec.decode_sorted document h

namespace Codec

/-- A codec that reads distinct documents only is stable. -/
theorem Stable.of_distinct {codec : Codec α}
    (h : ∀ document value, codec.decode document = some value → document.Distinct) :
    codec.Stable where
  decode_memory document value hdecode := by
    rw [codec.decode_sorted document (h document value hdecode)]
    exact hdecode

theorem scalar_stable {encode : α → Json} {decode : Json → Option α}
    {encode_isScalar : ∀ value, (encode value).IsScalar}
    {decode_iff : ∀ document value,
      decode document = some value ↔ document = encode value} :
    (scalar encode decode encode_isScalar decode_iff).Stable := by
  apply Stable.of_distinct
  intro document value h
  obtain rfl := (decode_iff document value).mp h
  exact (encode_isScalar value).distinct

instance : Codec.string.Stable := scalar_stable

instance : Codec.bool.Stable := scalar_stable

instance : Codec.u8.Stable := scalar_stable

instance : Codec.u16.Stable := scalar_stable

instance : Codec.u64.Stable := scalar_stable

instance : Codec.i32.Stable := scalar_stable

instance : Codec.i64.Stable := scalar_stable

instance : Codec.value.Stable where
  decode_memory document value h := by
    obtain rfl := Option.some.inj h
    exact congrArg some (Subtype.ext document.sorted_sorted)

instance [DecidableEq α] {variants : List α} {name : α → String}
    {complete : ∀ variant, variant ∈ variants}
    {name_injective : ∀ first second, name first = name second → first = second} :
    (enumeration variants name complete name_injective).Stable := by
  apply Stable.of_distinct
  intro document value h
  obtain ⟨text, hname, _⟩ := Option.bind_eq_some_iff.mp h
  unfold variantName at hname
  split at hname
  · exact Json.Distinct.string _
  · apply Json.Distinct.object (by simp)
    simp only [List.mem_singleton, forall_eq]
    exact Json.Distinct.null
  · cases hname

instance {codec : Codec α} {decode_null : codec.decode .null = none} [codec.Stable] :
    (codec.option decode_null).Stable where
  decode_memory document value h := by
    change (if document.sorted = .null then some none
      else (codec.decode document.sorted).map some) = some value
    change (if document = .null then some none
      else (codec.decode document).map some) = some value at h
    split at h
    · rename_i hnull
      rw [if_pos (Json.sorted_eq_null_iff.mpr hnull)]
      exact h
    · rename_i hnull
      rw [if_neg (Json.sorted_eq_null_iff.not.mpr hnull)]
      obtain ⟨inner, hinner, rfl⟩ := Option.map_eq_some_iff.mp h
      rw [Stable.decode_memory document inner hinner]
      rfl

/-- A list of documents that read still does after a stop in memory. -/
theorem mapM_decode_sorted {codec : Codec α} [codec.Stable] {items : List Json}
    {values : List α} (h : items.mapM codec.decode = some values) :
    (items.map Json.sorted).mapM codec.decode = some values := by
  induction items generalizing values with
  | nil => exact h
  | cons item items ih =>
      simp only [List.mapM_cons, Option.bind_eq_bind, Option.bind_eq_some_iff] at h
      obtain ⟨value, hvalue, rest, hrest, hvalues⟩ := h
      simp only [List.map_cons, List.mapM_cons, Option.bind_eq_bind,
        Stable.decode_memory item value hvalue, Option.bind_some, ih hrest]
      exact hvalues

instance {codec : Codec α} [codec.Stable] : (codec.vec).Stable where
  decode_memory document values h := by
    cases document with
    | array items =>
        rw [Json.sorted_array]
        exact mapM_decode_sorted h
    | _ => cases h

instance {codec : Codec α} {pack : α → β} {unpack : β → α}
    {pack_unpack : ∀ value, pack (unpack value) = value}
    {unpack_pack : ∀ value, unpack (pack value) = value} [codec.Stable] :
    (codec.iso pack unpack pack_unpack unpack_pack).Stable where
  decode_memory document value h := by
    obtain ⟨inner, hinner, rfl⟩ := Option.map_eq_some_iff.mp h
    exact congrArg (Option.map pack) (Stable.decode_memory document inner hinner)

end Codec

/-- The codec of a field is stable. -/
class WireField.Stable (field : WireField α) : Prop where
  codec : field.codec.Stable

namespace WireField

instance {name : String} {codec : Codec α} [h : codec.Stable] :
    (required name codec).Stable := ⟨h⟩

theorem optional_stable (name : String) (codec : Codec α)
    (decode_null : codec.decode .null = none) [codec.Stable] :
    (optional name codec decode_null).Stable :=
  ⟨inferInstanceAs (codec.option decode_null).Stable⟩

theorem skippedIfNone_stable (name : String) (codec : Codec α)
    (decode_null : codec.decode .null = none) [codec.Stable] :
    (skippedIfNone name codec decode_null).Stable :=
  ⟨inferInstanceAs (codec.option decode_null).Stable⟩

theorem decode_memory {field : WireField α} [hfield : field.Stable]
    {members : List (String × Json)} {value : α} (h : field.decode members = some value) :
    field.decode (collect (members.map fun member =>
      (member.1, member.2.sorted))) = some value := by
  have hstable := hfield.codec
  rw [decode] at h
  rw [decode, Json.occurrences_sorted]
  rcases hocc : occurrences field.name members with _ | ⟨document, _ | ⟨_, _⟩⟩ <;>
    rw [hocc] at h
  · exact h
  · exact hstable.decode_memory document value h
  · cases h

theorem decodeItem_memory {field : WireField α} [hfield : field.Stable]
    {items rest : List Json} {value : α}
    (h : field.decodeItem items = some (value, rest)) :
    field.decodeItem (items.map Json.sorted) = some (value, rest.map Json.sorted) := by
  have hstable := hfield.codec
  cases items with
  | nil =>
      obtain ⟨_, hvalue, heq⟩ := Option.map_eq_some_iff.mp h
      obtain ⟨rfl, rfl⟩ := Prod.mk.inj heq
      exact Option.map_eq_some_iff.mpr ⟨_, hvalue, rfl⟩
  | cons item items =>
      obtain ⟨_, hvalue, heq⟩ := Option.map_eq_some_iff.mp h
      obtain ⟨rfl, rfl⟩ := Prod.mk.inj heq
      exact Option.map_eq_some_iff.mpr
        ⟨_, hstable.decode_memory item _ hvalue, rfl⟩

end WireField

namespace WireField

/-- On distinct documents a required field reads at once as it reads in stages. -/
theorem decode_staged (name : String) (codec : Codec α) {members : List (String × Json)}
    (h : Json.Distinct (.object members)) :
    ((required name Codec.value).decode members).bind
        (fun memory => codec.decode memory.toJson) =
      (required name codec).decode members := by
  simp only [decode, required]
  rcases hocc : occurrences name members with _ | ⟨document, _ | ⟨_, _⟩⟩
  · rfl
  · have hmem : (name, document) ∈ members := by
      apply mem_occurrences_iff.mp
      rw [hocc]
      exact List.mem_singleton_self document
    exact codec.decode_sorted document (h.values _ hmem)
  · rfl

theorem decodeItem_distinct {field : WireField α} {items rest : List Json} {value : α}
    (h : field.decodeItem items = some (value, rest))
    (hitems : ∀ item ∈ items, item.Distinct) : ∀ item ∈ rest, item.Distinct := by
  cases items with
  | nil =>
      obtain ⟨_, _, heq⟩ := Option.map_eq_some_iff.mp h
      obtain ⟨_, rfl⟩ := Prod.mk.inj heq
      simp
  | cons item items =>
      obtain ⟨_, _, heq⟩ := Option.map_eq_some_iff.mp h
      obtain ⟨_, rfl⟩ := Prod.mk.inj heq
      exact fun other hother => hitems other (List.mem_cons_of_mem _ hother)

theorem decodeItem_staged (name : String) (codec : Codec α) {items : List Json}
    (h : ∀ item ∈ items, item.Distinct) :
    ((required name Codec.value).decodeItem items).bind
        (fun (memory, rest) => (codec.decode memory.toJson).map fun value => (value, rest)) =
      (required name codec).decodeItem items := by
  cases items with
  | nil => rfl
  | cons item items =>
      have hitem := codec.decode_sorted item (h item List.mem_cons_self)
      change (codec.decode item.sorted).map (fun value => (value, items)) = _
      rw [hitem]
      rfl

end WireField

/-- Every field of a record is stable. -/
class WireRecord.Stable (record : WireRecord α) : Prop where
  decode_memory : ∀ members value, record.decode members = some value →
    record.decode (collect (members.map fun member =>
      (member.1, member.2.sorted))) = some value
  decodeItems_memory : ∀ items value, record.decodeItems items = some value →
    record.decodeItems (items.map Json.sorted) = some value

namespace WireRecord

instance : nil.Stable where
  decode_memory _ _ h := h
  decodeItems_memory items value h := by
    cases items with
    | nil => exact h
    | cons item items => cases h

instance {field : WireField α} {rest : WireRecord β} {fresh : field.name ∉ rest.names}
    [field.Stable] [hrest : rest.Stable] : (cons field rest fresh).Stable where
  decode_memory members value h := by
    simp only [cons, Option.bind_eq_bind, Option.bind_eq_some_iff] at h ⊢
    obtain ⟨first, hfirst, others, hothers, hvalue⟩ := h
    exact ⟨first, WireField.decode_memory hfirst, others,
      hrest.decode_memory members others hothers, hvalue⟩
  decodeItems_memory items value h := by
    simp only [cons, Option.bind_eq_bind, Option.bind_eq_some_iff] at h ⊢
    obtain ⟨⟨first, left⟩, hfirst, others, hothers, hvalue⟩ := h
    exact ⟨(first, left.map Json.sorted), WireField.decodeItem_memory hfirst, others,
      hrest.decodeItems_memory left others hothers, hvalue⟩

instance {record : WireRecord α} [hrecord : record.Stable] : record.toCodec.Stable where
  decode_memory document value h := by
    cases document with
    | object members =>
        rw [Json.sorted_object]
        exact hrecord.decode_memory members value h
    | array items =>
        rw [Json.sorted_array]
        exact hrecord.decodeItems_memory items value h
    | _ => cases h

end WireRecord

/-! ### Reading more coarsely -/

/-- Whatever the fine codec reads, the coarse one reads too, as a related value. -/
def Codec.Refines (fine : Codec α) (coarse : Codec β) (related : α → β → Prop) : Prop :=
  ∀ document value, fine.decode document = some value →
    ∃ coarser, coarse.decode document = some coarser ∧ related value coarser

namespace Codec.Refines

theorem refl (codec : Codec α) : codec.Refines codec Eq :=
  fun _ value h => ⟨value, h, rfl⟩

/-- A record is read from the value its document is taken into memory as. -/
theorem value (codec : Codec α) [codec.Stable] :
    codec.Refines Codec.value fun inner memory =>
      codec.decode memory.toJson = some inner :=
  fun document inner h =>
    ⟨Value.ofJson document, rfl, Stable.decode_memory document inner h⟩

theorem vec {fine : Codec α} {coarse : Codec β} {related : α → β → Prop}
    (h : fine.Refines coarse related) :
    fine.vec.Refines coarse.vec (List.Forall₂ related) := by
  intro document values hvalues
  cases document with
  | array items =>
      change items.mapM fine.decode = some values at hvalues
      change ∃ coarser, items.mapM coarse.decode = some coarser ∧ _
      induction items generalizing values with
      | nil =>
          obtain rfl := Option.some.inj hvalues
          exact ⟨[], rfl, List.Forall₂.nil⟩
      | cons item items ih =>
          simp only [List.mapM_cons, Option.bind_eq_bind, Option.bind_eq_some_iff]
            at hvalues
          obtain ⟨value, hvalue, rest, hrest, hcons⟩ := hvalues
          obtain rfl := Option.some.inj hcons
          obtain ⟨first, hfirst, hrelated⟩ := h item value hvalue
          obtain ⟨others, hothers, hall⟩ := ih rest hrest
          refine ⟨first :: others, ?_, List.Forall₂.cons hrelated hall⟩
          rw [List.mapM_cons, hfirst, hothers]
          rfl
  | _ => cases hvalues

theorem iso {γ δ : Type} {fine : Codec α} {coarse : Codec β} {related : α → β → Prop}
    {related' : γ → δ → Prop} (h : fine.Refines coarse related)
    {pack : α → γ} {unpack : γ → α} {pack_unpack unpack_pack}
    {pack' : β → δ} {unpack' : δ → β} {pack_unpack' unpack_pack'}
    (hrelated : ∀ value coarser, related value coarser →
      related' (pack value) (pack' coarser)) :
    (fine.iso pack unpack pack_unpack unpack_pack).Refines
      (coarse.iso pack' unpack' pack_unpack' unpack_pack') related' := by
  intro document value hvalue
  obtain ⟨inner, hinner, rfl⟩ := Option.map_eq_some_iff.mp hvalue
  obtain ⟨coarser, hcoarser, hpair⟩ := h document inner hinner
  exact ⟨pack' coarser, Option.map_eq_some_iff.mpr ⟨coarser, hcoarser, rfl⟩,
    hrelated inner coarser hpair⟩

end Codec.Refines

/-- Whatever one record reads, the other reads too, as a related value. -/
structure WireRecord.Refines (fine : WireRecord α) (coarse : WireRecord β)
    (related : α → β → Prop) : Prop where
  decode : ∀ members value, fine.decode members = some value →
    ∃ coarser, coarse.decode members = some coarser ∧ related value coarser
  decodeItems : ∀ items value, fine.decodeItems items = some value →
    ∃ coarser, coarse.decodeItems items = some coarser ∧ related value coarser

namespace WireRecord.Refines

theorem refl (record : WireRecord α) : record.Refines record Eq where
  decode _ value h := ⟨value, h, rfl⟩
  decodeItems _ value h := ⟨value, h, rfl⟩

theorem cons {γ δ : Type} {name : String} {fine : Codec α} {coarse : Codec β}
    {related : α → β → Prop} {rest : WireRecord γ} {rest' : WireRecord δ}
    {relatedRest : γ → δ → Prop} {fresh : name ∉ rest.names} {fresh' : name ∉ rest'.names}
    (hfield : fine.Refines coarse related) (hrest : rest.Refines rest' relatedRest) :
    (WireRecord.cons (WireField.required name fine) rest fresh).Refines
      (WireRecord.cons (WireField.required name coarse) rest' fresh')
      fun values coarser => related values.1 coarser.1 ∧ relatedRest values.2 coarser.2 where
  decode members value h := by
    simp only [WireRecord.cons, Option.bind_eq_bind, Option.bind_eq_some_iff] at h ⊢
    obtain ⟨first, hfirst, others, hothers, hvalue⟩ := h
    obtain rfl := Option.some.inj hvalue
    obtain ⟨coarser, hcoarser, hrelated⟩ := hrest.decode members others hothers
    have hfound : ∃ first', (WireField.required name coarse).decode members = some first' ∧
        related first first' := by
      simp only [WireField.decode, WireField.required] at hfirst ⊢
      split at hfirst
      · cases hfirst
      · exact hfield _ first hfirst
      · cases hfirst
    obtain ⟨first', hfirst', hpair⟩ := hfound
    exact ⟨(first', coarser), ⟨first', hfirst', coarser, hcoarser, rfl⟩, hpair, hrelated⟩
  decodeItems items value h := by
    simp only [WireRecord.cons, Option.bind_eq_bind, Option.bind_eq_some_iff] at h ⊢
    obtain ⟨⟨first, left⟩, hfirst, others, hothers, hvalue⟩ := h
    obtain rfl := Option.some.inj hvalue
    obtain ⟨coarser, hcoarser, hrelated⟩ := hrest.decodeItems left others hothers
    cases items with
    | nil => cases hfirst
    | cons item items =>
        obtain ⟨_, hitem, heq⟩ := Option.map_eq_some_iff.mp hfirst
        obtain ⟨rfl, rfl⟩ := Prod.mk.inj heq
        obtain ⟨first', hfirst', hpair⟩ := hfield item _ hitem
        exact ⟨(first', coarser), ⟨(first', items),
          Option.map_eq_some_iff.mpr ⟨first', hfirst', rfl⟩, coarser, hcoarser, rfl⟩,
          hpair, hrelated⟩

theorem toCodec {fine : WireRecord α} {coarse : WireRecord β} {related : α → β → Prop}
    (h : fine.Refines coarse related) : fine.toCodec.Refines coarse.toCodec related := by
  intro document value hvalue
  cases document with
  | object members => exact h.decode members value hvalue
  | array items => exact h.decodeItems items value hvalue
  | _ => cases hvalue

end WireRecord.Refines

end RemoteRunner
