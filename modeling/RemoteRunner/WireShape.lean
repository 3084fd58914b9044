/-
The record objects of a document.  A shape names the members a record knows and
the members that are records again; a document extends another when members the
shape does not know are inserted into its record objects and object members are
reordered.
-/
import RemoteRunner.WireRecord

namespace RemoteRunner

open OrderedEntries

inductive WireShape where
  | leaf
  | record (fields : List (String × WireShape))

namespace WireShape

mutual

/-- Drop the members of record objects the shape does not know. -/
def prune : WireShape → Json → Json
  | .record fields, .object members => .object (members.filterMap (pruneMember fields))
  | .record _, document => document
  | .leaf, document => document

def pruneMember : List (String × WireShape) → String × Json → Option (String × Json)
  | [], _ => none
  | (name, shape) :: fields, member =>
      if member.1 = name then some (member.1, shape.prune member.2)
      else pruneMember fields member

end

/-- One document is another with unknown members inserted into record objects,
at any level, and object members reordered. -/
inductive Extends : WireShape → Json → Json → Prop
  | refl (shape : WireShape) (document : Json) : Extends shape document document
  | trans {shape : WireShape} {first second third : Json} :
      Extends shape first second → Extends shape second third →
        Extends shape first third
  | insert {fields : List (String × WireShape)} (before : List (String × Json))
      (name : String) (value : Json) (after : List (String × Json)) :
      name ∉ fields.map Prod.fst →
        Extends (.record fields) (.object (before ++ after))
          (.object (before ++ (name, value) :: after))
  | member {fields : List (String × WireShape)} {shape : WireShape}
      (before : List (String × Json)) (name : String) {first second : Json}
      (after : List (String × Json)) :
      fields.lookup name = some shape → Extends shape first second →
        Extends (.record fields) (.object (before ++ (name, first) :: after))
          (.object (before ++ (name, second) :: after))
  | members {fields : List (String × WireShape)} {first second : List (String × Json)} :
      first.Perm second → Extends (.record fields) (.object first) (.object second)
  | reorder {first second : Json} :
      Json.Reorder first second → Extends .leaf first second

@[simp] theorem prune_leaf (document : Json) : prune .leaf document = document := by
  rw [prune]

@[simp] theorem prune_object (fields : List (String × WireShape))
    (members : List (String × Json)) :
    prune (.record fields) (.object members) =
      .object (members.filterMap (pruneMember fields)) := by
  rw [prune]

theorem pruneMember_of_unknown {fields : List (String × WireShape)}
    {member : String × Json} (h : member.1 ∉ fields.map Prod.fst) :
    pruneMember fields member = none := by
  induction fields with
  | nil => rw [pruneMember]
  | cons field fields ih =>
      rw [List.map_cons, List.mem_cons, not_or] at h
      rw [pruneMember, if_neg h.1, ih h.2]

theorem pruneMember_of_lookup {fields : List (String × WireShape)} {name : String}
    {shape : WireShape} (h : fields.lookup name = some shape) (document : Json) :
    pruneMember fields (name, document) = some (name, shape.prune document) := by
  induction fields with
  | nil => cases h
  | cons field fields ih =>
      rw [List.lookup_cons] at h
      rw [pruneMember]
      by_cases hname : name = field.1
      · subst hname
        rw [beq_self_eq_true] at h
        rw [if_pos rfl, Option.some.inj h]
      · rw [beq_eq_false_iff_ne.mpr hname] at h
        rw [if_neg hname, ih h]

/-- A member that stays keeps its name, and its value is pruned. -/
theorem pruneMember_kept {fields : List (String × WireShape)}
    {member kept : String × Json} (h : pruneMember fields member = some kept) :
    kept.1 = member.1 ∧ ∃ shape : WireShape, kept.2 = shape.prune member.2 := by
  induction fields with
  | nil =>
      rw [pruneMember] at h
      cases h
  | cons field fields ih =>
      rw [pruneMember] at h
      by_cases hname : member.1 = field.1
      · rw [if_pos hname] at h
        cases h
        exact ⟨rfl, field.2, rfl⟩
      · rw [if_neg hname] at h
        exact ih h

/-- Pruned names are a sublist of the names. -/
theorem names_prune_sublist (fields : List (String × WireShape))
    (members : List (String × Json)) :
    ((members.filterMap (pruneMember fields)).map Prod.fst).Sublist
      (members.map Prod.fst) := by
  induction members with
  | nil => exact List.Sublist.refl _
  | cons member members ih =>
      rw [List.map_cons]
      rcases hkept : pruneMember fields member with _ | kept
      · rw [List.filterMap_cons_none hkept]
        exact ih.cons member.1
      · rw [List.filterMap_cons_some hkept, List.map_cons, (pruneMember_kept hkept).1]
        exact ih.cons_cons member.1

/-- Pruning repeats no member name. -/
theorem prune_distinct {document : Json} (shape : WireShape) (h : document.Distinct) :
    (shape.prune document).Distinct := by
  induction document generalizing shape with
  | null | bool _ | number _ | string _ | array _ _ =>
      cases shape <;> simpa [prune] using h
  | object members ih =>
      rcases shape with _ | fields
      · rw [prune_leaf]
        exact h
      · rw [prune_object]
        apply Json.Distinct.object ((names_prune_sublist fields members).nodup h.names)
        intro kept hkept
        obtain ⟨member, hmember, hprune⟩ := List.mem_filterMap.mp hkept
        obtain ⟨_, shape, hvalue⟩ := pruneMember_kept hprune
        rw [hvalue]
        exact ih member hmember shape (h.values member hmember)

/-- Without the inserted members an extension only reorders. -/
theorem Extends.prune_reorder {shape : WireShape} {first second : Json}
    (h : Extends shape first second) :
    Json.Reorder (shape.prune first) (shape.prune second) := by
  induction h with
  | refl shape document => exact .refl _
  | trans _ _ ihFirst ihSecond => exact .trans ihFirst ihSecond
  | insert before name value after hunknown =>
      rw [prune_object, prune_object, List.filterMap_append, List.filterMap_append,
        List.filterMap_cons_none (pruneMember_of_unknown hunknown)]
      exact .refl _
  | member before name after hlookup _ ih =>
      rw [prune_object, prune_object, List.filterMap_append, List.filterMap_append,
        List.filterMap_cons_some (pruneMember_of_lookup hlookup _),
        List.filterMap_cons_some (pruneMember_of_lookup hlookup _)]
      exact .member _ name _ ih
  | members hperm =>
      rw [prune_object, prune_object]
      exact .members (hperm.filterMap _)
  | reorder hreorder =>
      rw [prune_leaf, prune_leaf]
      exact hreorder

/-! ### Codecs of a shape -/

/-- A codec reads the records of a shape. -/
def Reads {α : Type} (shape : WireShape) (codec : Codec α) : Prop :=
  ∀ document, codec.prune document = shape.prune document

/-- A record reads its fields at their shapes. -/
def ReadsFields {α : Type} (fields : List (String × WireShape)) (record : WireRecord α) :
    Prop :=
  ∀ member, record.prune member = pruneMember fields member

variable {α β : Type}

theorem reads_leaf {codec : Codec α} (h : codec.prune = id) : Reads .leaf codec := by
  intro document
  rw [h, prune_leaf]
  rfl

theorem reads_vec {codec : Codec α} (h : codec.prune = id) : Reads .leaf codec.vec := by
  intro document
  rw [prune_leaf]
  cases document with
  | array items => exact congrArg Json.array (by rw [h, List.map_id])
  | _ => rfl

theorem Reads.option {shape : WireShape} {codec : Codec α} (h : Reads shape codec)
    (decode_null : codec.decode .null = none) : Reads shape (codec.option decode_null) :=
  h

theorem readsFields_nil : ReadsFields [] WireRecord.nil := by
  intro member
  rw [pruneMember]
  rfl

theorem ReadsFields.cons {field : WireField α} {rest : WireRecord β}
    {shape : WireShape} {fields : List (String × WireShape)}
    {fresh : field.name ∉ rest.names} (hfield : Reads shape field.codec)
    (hrest : ReadsFields fields rest) :
    ReadsFields ((field.name, shape) :: fields) (.cons field rest fresh) := by
  intro member
  rw [pruneMember, ← hfield member.2, ← hrest member]
  rfl

theorem ReadsFields.reads {fields : List (String × WireShape)} {record : WireRecord α}
    (h : ReadsFields fields record) (pack : α → β) (unpack : β → α)
    (pack_unpack : ∀ value, pack (unpack value) = value)
    (unpack_pack : ∀ value, unpack (pack value) = value) :
    Reads (.record fields)
      (record.toCodec.iso pack unpack pack_unpack unpack_pack) := by
  intro document
  cases document with
  | object members =>
      rw [prune_object, ← funext h]
      rfl
  | _ => simp [Codec.iso, WireRecord.toCodec, prune]

/-- An extended encoding reads back as the encoded value. -/
theorem Reads.decode_extends {shape : WireShape} {codec : Codec α}
    (h : Reads shape codec) {value : α} {document : Json}
    (hextends : Extends shape (codec.encode value) document) :
    codec.decode document = some value := by
  have hdistinct := prune_distinct shape (codec.encode_distinct value)
  have hreorder := hextends.prune_reorder
  calc
    codec.decode document = codec.decode (shape.prune document) := by
      rw [← codec.decode_prune document, h document]
    _ = codec.decode (shape.prune document).sorted :=
      (codec.decode_sorted _ (hreorder.distinct hdistinct)).symm
    _ = codec.decode (shape.prune (codec.encode value)).sorted := by
      rw [hreorder.sorted_eq hdistinct]
    _ = codec.decode (shape.prune (codec.encode value)) :=
      codec.decode_sorted _ hdistinct
    _ = some value := by
      rw [← h, codec.decode_prune, codec.decode_encode]

end WireShape

end RemoteRunner
