/-
Trimming of Unicode white space at both ends of a text.
-/
import Mathlib.Data.List.DropRight
import Mathlib.Data.String.Basic

namespace RemoteRunner

/-- The Unicode `White_Space` property. -/
def isWhitespace (c : Char) : Bool :=
  let code := c.toNat
  (0x9 ≤ code && code ≤ 0xd) || code == 0x20 || code == 0x85 ||
    code == 0xa0 || code == 0x1680 || (0x2000 ≤ code && code ≤ 0x200a) ||
    code == 0x2028 || code == 0x2029 || code == 0x202f || code == 0x205f ||
    code == 0x3000

def trim (text : String) : String :=
  String.ofList ((text.toList.dropWhile isWhitespace).rdropWhile isWhitespace)

/-- Trimming leaves nothing exactly of the texts made of white space. -/
theorem trim_eq_empty_iff (text : String) :
    trim text = "" ↔ ∀ c ∈ text.toList, isWhitespace c = true := by
  rw [trim, String.ofList_eq_empty_iff, List.rdropWhile_eq_nil_iff]
  constructor
  · intro h
    have hnil : text.toList.dropWhile isWhitespace = [] := by
      by_contra hne
      have hhead := List.head_dropWhile_not isWhitespace hne
      rw [h _ (List.head_mem hne)] at hhead
      cases hhead
    exact List.dropWhile_eq_nil_iff.mp hnil
  · intro h c hc
    rw [List.dropWhile_eq_nil_iff.mpr h] at hc
    cases hc

theorem trim_ne_empty_iff (text : String) :
    trim text ≠ "" ↔ ∃ c ∈ text.toList, isWhitespace c = false := by
  rw [ne_eq, trim_eq_empty_iff]
  simp

end RemoteRunner
