/-
More scalar codecs: booleans, small and signed integers, and texts that are
normalised when they are read.
-/
import RemoteRunner.WireCodec

namespace RemoteRunner

namespace Codec

theorem string_decode_null : string.decode .null = none := rfl

theorem u64_decode_null : u64.decode .null = none := rfl

def bool : Codec Bool :=
  scalar .bool
    (fun | .bool value => some value | _ => none)
    (fun _ => trivial)
    (by intro document value; cases document <;> simp)

/-- Unsigned 8-bit integers, refused when out of range. -/
def u8 : Codec UInt8 :=
  scalar (fun value => .number (.posInt value.toUInt64))
    (fun
      | .number (.posInt value) =>
          if value.toUInt8.toUInt64 = value then some value.toUInt8 else none
      | _ => none)
    (fun _ => trivial)
    (by
      intro document value
      cases document with
      | number number =>
          cases number with
          | posInt wide =>
              by_cases hfits : wide.toUInt8.toUInt64 = wide
              · simp only [hfits, ↓reduceIte, Option.some.injEq, Json.number.injEq,
                  Number.posInt.injEq]
                constructor
                · rintro rfl
                  exact hfits.symm
                · rintro rfl
                  simp
              · simp only [hfits, ↓reduceIte, reduceCtorEq, Json.number.injEq,
                  Number.posInt.injEq, false_iff]
                rintro rfl
                simp at hfits
          | _ => simp
      | _ => simp)

/-- A signed number as it is written: with a sign only when it is negative. -/
def signedNumber (value : Int64) : Number :=
  if h : value < 0 then .negInt value h else .posInt value.toUInt64

/-- The signed number a number is, when it is in range. -/
def toInt64? : Number → Option Int64
  | .posInt value => if value.toNat < 2 ^ 63 then some value.toInt64 else none
  | .negInt value _ => some value
  | .float _ _ => none

theorem toInt64_nonneg_iff (value : UInt64) :
    ¬value.toInt64 < 0 ↔ value.toNat < 2 ^ 63 := by
  have hbound := value.toNat_lt
  have htoInt : value.toInt64.toInt =
      if 2 * value.toNat < 2 ^ 64 then (value.toNat : Int)
      else value.toNat - (2 ^ 64 : Nat) :=
    BitVec.toInt_eq_toNat_cond value.toBitVec
  rw [Int64.lt_iff_toInt_lt, htoInt]
  change ¬_ < (0 : Int) ↔ _
  split <;> omega

/-- A number reads as a signed one exactly when it is how that one is written. -/
theorem toInt64?_eq_some_iff {number : Number} {value : Int64} :
    toInt64? number = some value ↔ number = signedNumber value := by
  rw [signedNumber]
  cases number with
  | posInt wide =>
      rw [toInt64?]
      constructor
      · intro h
        split at h
        · rename_i hfits
          obtain rfl := Option.some.inj h
          rw [dif_neg ((toInt64_nonneg_iff wide).mpr hfits), UInt64.toUInt64_toInt64]
        · cases h
      · intro h
        split at h
        · cases h
        · rename_i hsign
          obtain rfl := Number.posInt.inj h
          have hfits := (toInt64_nonneg_iff value.toUInt64).mp (by simpa using hsign)
          rw [if_pos hfits, Int64.toInt64_toUInt64]
  | negInt other hnegative =>
      rw [toInt64?, Option.some.injEq]
      constructor
      · rintro rfl
        rw [dif_pos hnegative]
      · intro h
        split at h
        · exact Number.negInt.inj h
        · cases h
  | float _ _ =>
      rw [toInt64?]
      split <;> simp

def i64 : Codec Int64 :=
  scalar (fun value => .number (signedNumber value))
    (fun | .number number => toInt64? number | _ => none)
    (fun _ => trivial)
    (by
      intro document value
      cases document with
      | number number => simp [toInt64?_eq_some_iff]
      | _ => simp)

/-- Signed 32-bit integers, refused when out of range. -/
def i32 : Codec Int32 :=
  scalar (fun value => .number (signedNumber value.toInt64))
    (fun
      | .number number =>
          (toInt64? number).bind fun wide =>
            if wide.toInt32.toInt64 = wide then some wide.toInt32 else none
      | _ => none)
    (fun _ => trivial)
    (by
      intro document value
      cases document with
      | number number =>
          simp only [Option.bind_eq_some_iff, toInt64?_eq_some_iff, Json.number.injEq]
          constructor
          · rintro ⟨wide, rfl, hnarrow⟩
            split at hnarrow
            · rename_i hfits
              obtain rfl := Option.some.inj hnarrow
              rw [hfits]
            · cases hnarrow
          · rintro rfl
            exact ⟨value.toInt64, rfl, by simp⟩
      | _ => simp)

/-- Texts that are read through a normaliser and held in its normal form. -/
def normalised (normalise : String → Option String)
    (idempotent : ∀ text normal, normalise text = some normal →
      normalise normal = some normal) :
    Codec { text : String // normalise text = some text } where
  encode value := .string value.1
  decode
    | .string text =>
        (normalise text).attach.map fun normal =>
          ⟨normal.1, idempotent text normal.1 normal.2⟩
    | _ => none
  prune document := document
  Written document := ∃ text, document = .string text ∧ normalise text = some text
  decode_encode value := by
    obtain ⟨text, htext⟩ := value
    exact Option.map_eq_some_iff.mpr
      ⟨⟨text, htext⟩, Option.attach_eq_some _ _, rfl⟩
  encode_distinct value := Json.Distinct.string _
  decode_sorted document h := by cases document <;> simp
  decode_prune _ := rfl
  prune_eq_null_iff _ := Iff.rfl
  written_iff document value h := by
    cases document with
    | string text =>
        obtain ⟨⟨normal, hnormal⟩, _, rfl⟩ := Option.map_eq_some_iff.mp h
        simp only [Json.string.injEq, exists_eq_left', Json.sorted_string, hnormal,
          Option.some.injEq]
        exact eq_comm
    | _ => cases h

end Codec

end RemoteRunner
