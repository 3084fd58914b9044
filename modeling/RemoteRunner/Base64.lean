/-
Standard base64 with padding: three bytes are four characters of six bits.
-/
import Mathlib.Data.List.Basic

namespace RemoteRunner

namespace Base64

/-- The character of a six-bit value. -/
def symbol (value : Nat) : Char :=
  if value < 26 then Char.ofNat ('A'.toNat + value)
  else if value < 52 then Char.ofNat ('a'.toNat + (value - 26))
  else if value < 62 then Char.ofNat ('0'.toNat + (value - 52))
  else if value = 62 then '+'
  else '/'

def symbolValue (c : Char) : Option Nat :=
  if 'A' ≤ c ∧ c ≤ 'Z' then some (c.toNat - 'A'.toNat)
  else if 'a' ≤ c ∧ c ≤ 'z' then some (c.toNat - 'a'.toNat + 26)
  else if '0' ≤ c ∧ c ≤ '9' then some (c.toNat - '0'.toNat + 52)
  else if c = '+' then some 62
  else if c = '/' then some 63
  else none

theorem symbolValue_symbol (value : Nat) (h : value < 64) :
    symbolValue (symbol value) = some value := by
  have hall : ∀ value < 64, symbolValue (symbol value) = some value := by decide
  exact hall value h

theorem symbol_ne_pad (value : Nat) (h : value < 64) : symbol value ≠ '=' := by
  have hall : ∀ value < 64, symbol value ≠ '=' := by decide
  exact hall value h

def encodeBytes : List UInt8 → List Char
  | [] => []
  | [x] =>
      [symbol (x.toNat / 4), symbol (x.toNat % 4 * 16), '=', '=']
  | [x, y] =>
      [symbol (x.toNat / 4), symbol (x.toNat % 4 * 16 + y.toNat / 16),
        symbol (y.toNat % 16 * 4), '=']
  | x :: y :: z :: rest =>
      symbol (x.toNat / 4) :: symbol (x.toNat % 4 * 16 + y.toNat / 16) ::
        symbol (y.toNat % 16 * 4 + z.toNat / 64) :: symbol (z.toNat % 64) ::
          encodeBytes rest

/-- The last group, with its padding; the bits that are cut off are zero. -/
def decodePadded (first second third : Char) : Option (List UInt8) := do
  let first ← symbolValue first
  let second ← symbolValue second
  let x := UInt8.ofNat (first * 4 + second / 16)
  if third = '=' then
    if second % 16 = 0 then some [x] else none
  else do
    let third ← symbolValue third
    if third % 4 = 0 then
      some [x, UInt8.ofNat (second % 16 * 16 + third / 4)]
    else none

def decodeChars : List Char → Option (List UInt8)
  | [] => some []
  | first :: second :: third :: fourth :: rest =>
      if fourth = '=' then
        if rest = [] then decodePadded first second third else none
      else do
        let first ← symbolValue first
        let second ← symbolValue second
        let third ← symbolValue third
        let fourth ← symbolValue fourth
        let bytes ← decodeChars rest
        return UInt8.ofNat (first * 4 + second / 16) ::
          UInt8.ofNat (second % 16 * 16 + third / 4) ::
          UInt8.ofNat (third % 4 * 64 + fourth) :: bytes
  | _ => none

theorem ofNat_eq {value : Nat} {byte : UInt8} (h : value = byte.toNat) :
    UInt8.ofNat value = byte := by
  rw [h, UInt8.ofNat_toNat]

theorem decodeChars_encodeBytes (bytes : List UInt8) :
    decodeChars (encodeBytes bytes) = some bytes := by
  induction bytes using encodeBytes.induct with
  | case1 => rfl
  | case2 x =>
      have hx := x.toNat_lt
      have hfirst := symbolValue_symbol (x.toNat / 4) (by omega)
      have hsecond := symbolValue_symbol (x.toNat % 4 * 16) (by omega)
      have hbyte : UInt8.ofNat (x.toNat / 4 * 4 + x.toNat % 4 * 16 / 16) = x :=
        ofNat_eq (by omega)
      simp only [encodeBytes, decodeChars, decodePadded, ↓reduceIte, hfirst,
        hsecond, Option.bind_eq_bind, Option.bind_some, Nat.mul_mod_left, hbyte]
  | case3 x y =>
      have hx := x.toNat_lt
      have hy := y.toNat_lt
      have hfirst := symbolValue_symbol (x.toNat / 4) (by omega)
      have hsecond := symbolValue_symbol
        (x.toNat % 4 * 16 + y.toNat / 16) (by omega)
      have hthird := symbolValue_symbol (y.toNat % 16 * 4) (by omega)
      have hpad := symbol_ne_pad (y.toNat % 16 * 4) (by omega)
      have hbyte : UInt8.ofNat (x.toNat / 4 * 4 +
          (x.toNat % 4 * 16 + y.toNat / 16) / 16) = x := ofNat_eq (by omega)
      have hbyte' : UInt8.ofNat ((x.toNat % 4 * 16 + y.toNat / 16) % 16 * 16 +
          y.toNat % 16 * 4 / 4) = y := ofNat_eq (by omega)
      have hzero : y.toNat % 16 * 4 % 4 = 0 := by omega
      simp only [encodeBytes, decodeChars, decodePadded, ↓reduceIte, hfirst,
        hsecond, hthird, hpad, hzero, Option.bind_eq_bind, Option.bind_some,
        hbyte, hbyte']
  | case4 x y z rest ih =>
      have hx := x.toNat_lt
      have hy := y.toNat_lt
      have hz := z.toNat_lt
      have hfirst := symbolValue_symbol (x.toNat / 4) (by omega)
      have hsecond := symbolValue_symbol
        (x.toNat % 4 * 16 + y.toNat / 16) (by omega)
      have hthird := symbolValue_symbol
        (y.toNat % 16 * 4 + z.toNat / 64) (by omega)
      have hfourth := symbolValue_symbol (z.toNat % 64) (by omega)
      have hpad := symbol_ne_pad (z.toNat % 64) (by omega)
      have hbyte : UInt8.ofNat (x.toNat / 4 * 4 +
          (x.toNat % 4 * 16 + y.toNat / 16) / 16) = x := ofNat_eq (by omega)
      have hbyte' : UInt8.ofNat ((x.toNat % 4 * 16 + y.toNat / 16) % 16 * 16 +
          (y.toNat % 16 * 4 + z.toNat / 64) / 4) = y := ofNat_eq (by omega)
      have hbyte'' : UInt8.ofNat ((y.toNat % 16 * 4 + z.toNat / 64) % 4 * 64 +
          z.toNat % 64) = z := ofNat_eq (by omega)
      simp only [encodeBytes, decodeChars, hpad, ↓reduceIte, hfirst, hsecond,
        hthird, hfourth, ih, Option.bind_eq_bind, Option.bind_some,
        Option.pure_def, hbyte, hbyte', hbyte'']

def encode (bytes : List UInt8) : String := String.ofList (encodeBytes bytes)

def decode (text : String) : Option (List UInt8) := decodeChars text.toList

theorem decode_encode (bytes : List UInt8) : decode (encode bytes) = some bytes := by
  rw [decode, encode, String.toList_ofList, decodeChars_encodeBytes]

end Base64

end RemoteRunner
